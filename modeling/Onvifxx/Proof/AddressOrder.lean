/-
This file proves which resolved addresses lie in memory in the order of the network.
-/

import Onvifxx.Construction.Hooks

namespace Onvifxx.Sock

open ByteOrder Wsdd

variable {resolver : List Char → List Char → Option AddressV4}

/-- A resolved address is stored as an integer of the host. -/
theorem resolve_eq {url : List Char} {endpoint : Endpoint} {address : AddressV4}
    (accepted : Endpoint.fromUrl url = .ok endpoint)
    (resolved : resolver endpoint.host endpoint.service = some address) :
    resolve resolver url = .ok (soapOk, address.toUlong.toUInt32) := by
  simp only [resolve, accepted, Endpoint.inAddr, resolved, bind, Except.bind, pure, Except.pure]

/-- A resolved address keeps its order exactly when it reads the same from both ends. -/
theorem resolve_network_iff (resolver : List Char → List Char → Option AddressV4)
    (url : List Char) (endpoint : Endpoint) (address : AddressV4)
    (accepted : Endpoint.fromUrl url = .ok endpoint)
    (resolved : resolver endpoint.host endpoint.service = some address) :
    (∃ sAddr, resolve resolver url = .ok (soapOk, sAddr) ∧ memory sAddr = address.network) ↔
      address.a = address.d ∧ address.b = address.c := by
  rw [resolve_eq accepted resolved, ← reverse_network_iff, ← memory_toUlong]
  constructor
  · rintro ⟨sAddr, same, ordered⟩
    rw [Except.ok.injEq, Prod.mk.injEq] at same
    exact same.2 ▸ ordered
  · intro ordered
    exact ⟨_, rfl, ordered⟩

/-- This resolver knows one address of the host itself and one of the local network. -/
def sampleResolver (host _service : List Char) : Option AddressV4 :=
  if host = "127.0.0.127".toList then some ⟨127, 0, 0, 127⟩
  else if host = "192.168.0.1".toList then some ⟨192, 168, 0, 1⟩
  else none

theorem resolve_network_loopback :
    ∃ sAddr, resolve sampleResolver "soap.udp://127.0.0.127:3702".toList = .ok (soapOk, sAddr) ∧
      memory sAddr = [127, 0, 0, 127] :=
  (resolve_network_iff sampleResolver "soap.udp://127.0.0.127:3702".toList
    ⟨Scheme.udp.text, "127.0.0.127".toList, "3702".toList, true⟩ ⟨127, 0, 0, 127⟩ (by decide)
    (by decide)).mpr ⟨rfl, rfl⟩

/-- An address of a local network lies in memory with its last byte first. -/
theorem resolve_swaps :
    ¬ ∀ (resolver : List Char → List Char → Option AddressV4) (url : List Char)
      (endpoint : Endpoint) (address : AddressV4), Endpoint.fromUrl url = .ok endpoint →
      resolver endpoint.host endpoint.service = some address →
      ∃ sAddr, resolve resolver url = .ok (soapOk, sAddr) ∧ memory sAddr = address.network := by
  intro ordered
  have accepted : Endpoint.fromUrl "http://192.168.0.1".toList =
      .ok ⟨Scheme.http.text, "192.168.0.1".toList, "80".toList, false⟩ := by decide
  have resolved : sampleResolver "192.168.0.1".toList "80".toList = some ⟨192, 168, 0, 1⟩ := by
    decide
  obtain ⟨sAddr, same, kept⟩ := ordered sampleResolver _ _ _ accepted resolved
  rw [resolve_eq accepted resolved, Except.ok.injEq, Prod.mk.injEq] at same
  rw [← same.2, memory_toUlong] at kept
  revert kept
  decide

end Onvifxx.Sock
