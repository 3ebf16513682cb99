/-
This file translates the splitting and the resolution of an endpoint address.
-/

import Onvifxx.Library.ByteOrder
import Onvifxx.Library.CppString

namespace Onvifxx.Sock

open ByteOrder CppString

/-- An execution stops at a failed assertion, at a null pointer or at an exception of the resolver. -/
inductive Stop where
  | assertion (condition : String)
  | null
  | resolver
  deriving DecidableEq, Repr

structure Endpoint where
  scheema : List Char
  host : List Char
  service : List Char
  isUdp : Bool
  deriving DecidableEq, Repr

namespace Endpoint

def httpScheema : List Char := "http://".toList

def httpsScheema : List Char := "https://".toList

def udpScheema : List Char := "soap.udp://".toList

def scheemaOf : Nat → List Char
  | 0 => httpScheema
  | 1 => httpsScheema
  | _ => udpScheema

/-- The loop leaves at the first scheme that starts the address. -/
def findScheema (url : List Char) : List Nat → Endpoint → Endpoint
  | [], rv => rv
  | i :: rest, rv =>
      let rv := { rv with scheema := scheemaOf i }
      if substr url 0 (some rv.scheema.length) = rv.scheema then
        { rv with host := substr url rv.scheema.length none, isUdp := i == 2 }
      else
        findScheema url rest rv

def assert (condition : Bool) (text : String) : Except Stop Unit :=
  if condition then .ok () else .error (.assertion text)

/-- A colon cuts the service off the host, and the path stays where it is. -/
def splitService (rv : Endpoint) : Endpoint :=
  match find ':' rv.host with
  | none => rv
  | some portPos =>
      { rv with
        service := substr rv.host (portPos + 1) none
        host := substr rv.host 0 (some portPos) }

def defaultService (scheema : List Char) : List Char :=
  if scheema = httpsScheema then "443".toList else "80".toList

/-- The last assertions see the parts of the result. -/
def asserted (rv : Endpoint) : Except Stop Endpoint := do
  assert (!rv.scheema.isEmpty) "!rv.scheema.empty()"
  assert (!rv.host.isEmpty) "!rv.host.empty()"
  assert (!rv.service.isEmpty) "!rv.service.empty()"
  return rv

def fromUrl (url : List Char) : Except Stop Endpoint := do
  assert (!url.isEmpty) "!url.empty()"
  let rv := findScheema url [0, 1, 2] ⟨[], [], [], false⟩
  assert (!rv.host.isEmpty) "!rv.host.empty()"
  asserted (splitService { rv with service := defaultService rv.scheema })

/-- The resolver yields the first address of a host and its service, or it throws. -/
def inAddr (resolver : List Char → List Char → Option AddressV4) (endpoint : Endpoint) :
    Except Stop UInt64 :=
  match resolver endpoint.host endpoint.service with
  | some address => .ok address.toUlong
  | none => .error .resolver

end Endpoint

/-- A number names one of the three schemes. -/
inductive Scheme where
  | http
  | https
  | udp
  deriving DecidableEq, Repr

namespace Scheme

def text : Scheme → List Char
  | http => Endpoint.httpScheema
  | https => Endpoint.httpsScheema
  | udp => Endpoint.udpScheema

def service : Scheme → List Char
  | https => "443".toList
  | _ => "80".toList

def isUdp : Scheme → Bool
  | udp => true
  | _ => false

end Scheme

namespace Endpoint

/-- No scheme starts another scheme. -/
theorem findScheema_scheme (scheme : Scheme) (rest : List Char) :
    findScheema (scheme.text ++ rest) [0, 1, 2] ⟨[], [], [], false⟩ =
      ⟨scheme.text, rest, [], scheme.isUdp⟩ := by
  cases scheme <;> rfl

/-- An address with an equal start has the scheme. -/
theorem scheme_of_substr {url : List Char} (scheme : Scheme)
    (same : substr url 0 (some scheme.text.length) = scheme.text) :
    ∃ rest, url = scheme.text ++ rest := by
  have parts := List.take_append_drop scheme.text.length url
  have start : url.take scheme.text.length = scheme.text := same
  rw [start] at parts
  exact ⟨_, parts.symm⟩

/-- An address without a known scheme leaves the host empty. -/
theorem findScheema_host (url : List Char) :
    (∃ (scheme : Scheme) (rest : List Char), url = scheme.text ++ rest) ∨
      (findScheema url [0, 1, 2] ⟨[], [], [], false⟩).host = [] := by
  by_cases http : substr url 0 (some Scheme.http.text.length) = Scheme.http.text
  · exact Or.inl ⟨.http, scheme_of_substr .http http⟩
  · by_cases https : substr url 0 (some Scheme.https.text.length) = Scheme.https.text
    · exact Or.inl ⟨.https, scheme_of_substr .https https⟩
    · by_cases udp : substr url 0 (some Scheme.udp.text.length) = Scheme.udp.text
      · exact Or.inl ⟨.udp, scheme_of_substr .udp udp⟩
      · right
        simp only [Scheme.text] at http https udp
        simp [findScheema, scheemaOf, http, https, udp]

theorem defaultService_scheme (scheme : Scheme) :
    defaultService scheme.text = scheme.service := by
  cases scheme <;> decide

theorem text_ne_nil (scheme : Scheme) : scheme.text ≠ [] := by
  cases scheme <;> decide

theorem assert_bind {A : Type} {condition : Bool} {text : String} {next : Unit → Except Stop A}
    {result : A} :
    (assert condition text >>= next) = .ok result ↔ condition = true ∧ next () = .ok result := by
  cases condition
  · simp [assert, bind, Except.bind]
  · simp [assert, bind, Except.bind]

/-- The result passes the last assertions exactly when none of its parts is empty. -/
theorem asserted_eq_ok {rv result : Endpoint} :
    asserted rv = .ok result ↔
      rv.scheema ≠ [] ∧ rv.host ≠ [] ∧ rv.service ≠ [] ∧ rv = result := by
  simp only [asserted, assert_bind, Bool.not_eq_true', List.isEmpty_eq_false_iff, pure, Except.pure,
    Except.ok.injEq]

/-- An address with a known scheme is split after the scheme. -/
theorem fromUrl_scheme {scheme : Scheme} {rest : List Char} {result : Endpoint} :
    fromUrl (scheme.text ++ rest) = .ok result ↔ rest ≠ [] ∧
      asserted (splitService ⟨scheme.text, rest, scheme.service, scheme.isUdp⟩) = .ok result := by
  simp only [fromUrl, assert_bind, findScheema_scheme, defaultService_scheme, Bool.not_eq_true',
    List.isEmpty_eq_false_iff]
  simp [text_ne_nil]

/-- An accepted address has a known scheme, and its parts are those behind the scheme. -/
theorem fromUrl_ok {url : List Char} {endpoint : Endpoint} (accepted : fromUrl url = .ok endpoint) :
    ∃ (scheme : Scheme) (rest : List Char), url = scheme.text ++ rest ∧
      endpoint = splitService ⟨scheme.text, rest, scheme.service, scheme.isUdp⟩ := by
  rcases findScheema_host url with ⟨scheme, rest, shape⟩ | empty
  · rw [shape, fromUrl_scheme, asserted_eq_ok] at accepted
    exact ⟨scheme, rest, shape, accepted.2.2.2.2.symm⟩
  · simp [fromUrl, assert_bind, empty] at accepted

theorem splitService_isUdp (rv : Endpoint) : (splitService rv).isUdp = rv.isUdp := by
  unfold splitService
  split <;> rfl

theorem splitService_host {scheema host service : List Char} {isUdp : Bool} (plain : ':' ∉ host) :
    splitService ⟨scheema, host, service, isUdp⟩ = ⟨scheema, host, service, isUdp⟩ := by
  simp [splitService, find_eq_none.mpr plain]

/-- A colon ends the host, and all that follows it is the service. -/
theorem splitService_colon {scheema host service named : List Char} {isUdp : Bool}
    (plain : ':' ∉ host) :
    splitService ⟨scheema, host ++ ':' :: named, service, isUdp⟩ =
      ⟨scheema, host, named, isUdp⟩ := by
  simp [splitService, find_append plain, substr]

end Endpoint
end Onvifxx.Sock
