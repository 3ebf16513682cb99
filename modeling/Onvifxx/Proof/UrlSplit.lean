/-
This file proves which addresses the splitter takes apart as they were composed.
-/

import Onvifxx.Construction.Endpoint

namespace Onvifxx.Sock

open Endpoint

/-- An address has a scheme and a host, and it may have a decimal port and a path. -/
structure Url where
  scheme : Scheme
  host : List Char
  port : Option (List Char)
  path : Option (List Char)
  named : host ≠ []
  plain : ':' ∉ host ∧ '/' ∉ host
  digits : ∀ number ∈ port, number ≠ [] ∧ ∀ digit ∈ number, digit.isDigit = true
  rooted : ∀ route ∈ path, route.head? = some '/'

namespace Url

def text (url : Url) : List Char :=
  url.scheme.text ++ (url.host ++ (url.port.map (':' :: ·)).getD [] ++ url.path.getD [])

/-- These are the parts that the splitter has to find. -/
def endpoint (url : Url) : Endpoint :=
  ⟨url.scheme.text, url.host, url.port.getD url.scheme.service, url.scheme.isUdp⟩

theorem pathText_eq_nil (url : Url) : url.path.getD [] = [] ↔ url.path = none := by
  cases present : url.path with
  | none => simp
  | some route =>
      have start := url.rooted route present
      cases route with
      | nil => simp at start
      | cons first rest => simp

theorem service_ne_nil (scheme : Scheme) : scheme.service ≠ [] := by
  cases scheme <;> decide

end Url

/-- An address has a known scheme, a host and, after a colon, a service. -/
def Accepted (url : List Char) : Prop :=
  ∃ (scheme : Scheme) (host : List Char), host ≠ [] ∧ ':' ∉ host ∧
    (url = scheme.text ++ host ∨
      ∃ service, service ≠ [] ∧ url = scheme.text ++ (host ++ ':' :: service))

/-- The splitter passes its assertions exactly for the accepted addresses. -/
theorem fromUrl_isOk_iff (url : List Char) :
    (∃ endpoint, fromUrl url = .ok endpoint) ↔ Accepted url := by
  constructor
  · rintro ⟨endpoint, accepted⟩
    obtain ⟨scheme, rest, shape, _⟩ := fromUrl_ok accepted
    rw [shape, fromUrl_scheme, asserted_eq_ok] at accepted
    obtain ⟨proper, _, hosted, served, _⟩ := accepted
    by_cases colon : ':' ∈ rest
    · obtain ⟨host, service, split, plain⟩ := List.eq_append_cons_of_mem colon
      rw [split, splitService_colon plain] at hosted served
      exact ⟨scheme, host, hosted, plain, Or.inr ⟨service, served, by rw [shape, split]⟩⟩
    · exact ⟨scheme, rest, proper, colon, Or.inl shape⟩
  · rintro ⟨scheme, host, named, plain, shape | ⟨service, proper, shape⟩⟩
    · refine ⟨⟨scheme.text, host, scheme.service, scheme.isUdp⟩, ?_⟩
      rw [shape, fromUrl_scheme, splitService_host plain, asserted_eq_ok]
      exact ⟨named, text_ne_nil scheme, named, Url.service_ne_nil scheme, rfl⟩
    · refine ⟨⟨scheme.text, host, service, scheme.isUdp⟩, ?_⟩
      rw [shape, fromUrl_scheme, splitService_colon plain, asserted_eq_ok]
      exact ⟨by simp, text_ne_nil scheme, named, proper, rfl⟩

instance (url : List Char) : Decidable (Accepted url) :=
  decidable_of_iff ((fromUrl url).isOk = true) <| by
    rw [← fromUrl_isOk_iff]
    cases fromUrl url <;> simp [Except.isOk, Except.toBool]

/-- What the splitter misses in an address that it does not accept. -/
inductive Refused : List Char → Stop → Prop where
  | empty : Refused [] (.assertion "!url.empty()")
  | host {url : List Char} (proper : url ≠ [])
      (unnamed : ∀ (scheme : Scheme) (rest : List Char), url = scheme.text ++ rest →
        rest = [] ∨ rest.head? = some ':') : Refused url (.assertion "!rv.host.empty()")
  | service {scheme : Scheme} {host : List Char} (named : host ≠ []) (plain : ':' ∉ host) :
      Refused (scheme.text ++ (host ++ [':'])) (.assertion "!rv.service.empty()")

/-- An address without a host after its scheme fails an assertion. -/
theorem fromUrl_unnamed {scheme : Scheme} {rest : List Char}
    (unnamed : rest = [] ∨ rest.head? = some ':') :
    fromUrl (scheme.text ++ rest) = .error (.assertion "!rv.host.empty()") := by
  cases rest with
  | nil => cases scheme <;> rfl
  | cons first rest =>
      obtain rfl : first = ':' := by simpa using unnamed
      cases scheme <;> rfl

/-- An address with a colon and no service after it fails the last assertion. -/
theorem fromUrl_unserved {scheme : Scheme} {host : List Char} (named : host ≠ [])
    (plain : ':' ∉ host) :
    fromUrl (scheme.text ++ (host ++ [':'])) = .error (.assertion "!rv.service.empty()") := by
  have whole : (scheme.text ++ (host ++ [':'])).isEmpty = false := by simp
  have rest : (host ++ [':']).isEmpty = false := by simp
  have before : scheme.text.isEmpty = false := List.isEmpty_eq_false_iff.mpr (text_ne_nil scheme)
  have hosted : host.isEmpty = false := List.isEmpty_eq_false_iff.mpr named
  simp only [fromUrl, whole, findScheema_scheme, rest, splitService_colon plain, asserted, before,
    hosted]
  rfl

theorem Refused.stops {url : List Char} {stop : Stop} (refused : Refused url stop) :
    fromUrl url = .error stop := by
  cases refused with
  | empty => rfl
  | host proper unnamed =>
      rcases findScheema_host url with ⟨scheme, rest, shape⟩ | empty
      · rw [shape, fromUrl_unnamed (unnamed scheme rest shape)]
      · simp only [fromUrl, List.isEmpty_eq_false_iff.mpr proper, empty]
        rfl
  | service named plain => exact fromUrl_unserved named plain

/-- An address is accepted or refused. -/
theorem accepted_or_refused (url : List Char) : Accepted url ∨ ∃ stop, Refused url stop := by
  by_cases proper : url = []
  · exact Or.inr ⟨_, proper ▸ Refused.empty⟩
  by_cases unnamed : ∀ (scheme : Scheme) (rest : List Char), url = scheme.text ++ rest →
      rest = [] ∨ rest.head? = some ':'
  · exact Or.inr ⟨_, .host proper unnamed⟩
  · push Not at unnamed
    obtain ⟨scheme, rest, shape, present, first⟩ := unnamed
    by_cases colon : ':' ∈ rest
    · obtain ⟨host, service, rfl, plain⟩ := List.eq_append_cons_of_mem colon
      have named : host ≠ [] := by
        rintro rfl
        exact first rfl
      by_cases served : service = []
      · exact Or.inr ⟨_, by rw [shape, served]; exact .service named plain⟩
      · exact Or.inl ⟨scheme, host, named, plain, Or.inr ⟨service, served, shape⟩⟩
    · exact Or.inl ⟨scheme, rest, present, colon, Or.inl shape⟩

/-- The splitter stops at an address exactly for what it misses there. -/
theorem fromUrl_error_iff (url : List Char) (stop : Stop) :
    fromUrl url = .error stop ↔ Refused url stop := by
  constructor
  · intro stopped
    rcases accepted_or_refused url with accepted | ⟨other, refused⟩
    · obtain ⟨endpoint, split⟩ := (fromUrl_isOk_iff url).mpr accepted
      rw [split] at stopped
      cases stopped
    · rw [refused.stops, Except.error.injEq] at stopped
      exact stopped ▸ refused
  · exact Refused.stops

/-- A path after a port becomes a part of the service. -/
theorem fromUrl_port {scheme : Scheme} {host number path : List Char} (named : host ≠ [])
    (plain : ':' ∉ host) (proper : number ≠ []) :
    fromUrl (scheme.text ++ (host ++ ':' :: number ++ path)) =
        .ok ⟨scheme.text, host, number, scheme.isUdp⟩ ↔ path = [] := by
  rw [fromUrl_scheme, List.append_assoc, List.cons_append, splitService_colon plain, asserted_eq_ok]
  simp [named, proper, text_ne_nil]

/-- A path after a host becomes a part of the host, up to its first colon. -/
theorem fromUrl_host {scheme : Scheme} {host path : List Char} (named : host ≠ [])
    (plain : ':' ∉ host) (rooted : path = [] ∨ path.head? = some '/') :
    fromUrl (scheme.text ++ (host ++ path)) =
        .ok ⟨scheme.text, host, scheme.service, scheme.isUdp⟩ ↔ path = [] := by
  rw [fromUrl_scheme, asserted_eq_ok]
  constructor
  · rintro ⟨_, _, _, _, same⟩
    by_cases colon : ':' ∈ path
    · obtain ⟨before, after, shape, absent⟩ := List.eq_append_cons_of_mem colon
      have joined : ':' ∉ host ++ before := by simp [plain, absent]
      rw [shape, ← List.append_assoc, splitService_colon joined, Endpoint.mk.injEq] at same
      have empty : before = [] := by simpa using same.2.1
      rw [shape, empty] at rooted
      simp at rooted
    · have joined : ':' ∉ host ++ path := by simp [plain, colon]
      rw [splitService_host joined, Endpoint.mk.injEq] at same
      simpa using same.2.1
  · rintro rfl
    rw [List.append_nil, splitService_host plain]
    exact ⟨named, text_ne_nil scheme, named, Url.service_ne_nil scheme, rfl⟩

/-- The splitter inverts the composition exactly when there is no path. -/
theorem fromUrl_text_iff (url : Url) :
    fromUrl url.text = .ok url.endpoint ↔ url.path = none := by
  rw [← url.pathText_eq_nil, Url.text, Url.endpoint]
  cases present : url.port with
  | some number => exact fromUrl_port url.named url.plain.1 (url.digits number present).1
  | none =>
      have rooted : url.path.getD [] = [] ∨ (url.path.getD []).head? = some '/' := by
        cases route : url.path with
        | none => exact Or.inl rfl
        | some path => exact Or.inr (url.rooted path route)
      rw [Option.map_none, Option.getD_none, Option.getD_none, List.append_nil]
      exact fromUrl_host url.named url.plain.1 rooted

/-- The path of a device service stays in the host. -/
theorem fromUrl_keepsPath :
    ¬ ∀ url : Url, fromUrl url.text = .ok url.endpoint := by
  intro inverts
  have kept := inverts
    { scheme := .http, host := "127.0.0.1".toList, port := none, path := some "/onvif".toList
      named := by decide, plain := by decide
      digits := by simp, rooted := by simp }
  revert kept
  decide

end Onvifxx.Sock
