/-
This file proves what a reply header takes from the header that it answers.
-/

import Onvifxx.Construction.Service

namespace Onvifxx.Service

open Execution Wsdd

/-- The header that leaves with a reply. -/
def sentReply (surroundings : Wsa.Surroundings) (state : Wsa.State) : Option SoapEnvHeader :=
  match probeHeader surroundings state with
  | .ok next => Wsa.sentHeader next
  | .error _ => none

/-- The header without its fresh identifier. -/
def withoutMessageID (header : SoapEnvHeader) : SoapEnvHeader := { header with wsaMessageID := "" }

/-- The fields of a reply to the given identifier, except its own identifier. -/
def expectedReply (statics : Wsa.Statics) (messageID : String) : SoapEnvHeader where
  wsaMessageID := ""
  wsaRelatesTo := if messageID.isEmpty then none else some ⟨messageID, none⟩
  wsaFrom := none
  wsaReplyTo := none
  wsaFaultTo := none
  wsaTo := Wsa.anonymousUri
  wsaAction := probeMatchesAction
  wsdAppSequence := some (.received ⟨statics.instanceId, none, statics.messageNumber + 1⟩)

/-- A reply overwrites every field, and it keeps only the identifier that it relates to. -/
theorem sentReply_eq (surroundings : Wsa.Surroundings) {state : Wsa.State} {header : SoapEnvHeader}
    (present : state.soap.header = some header) :
    ∃ sent, sentReply surroundings state = some sent ∧
      sent.wsaMessageID = Wsa.randUuid surroundings.randoms ∧
      withoutMessageID sent = expectedReply state.statics header.wsaMessageID := by
  have reply : sentReply surroundings state =
      Wsa.sentHeader ((state.numbered none).withHeader (replyHeader surroundings header)) := by
    rw [sentReply, probeHeader_present surroundings present]
  exact ⟨_, reply, rfl, rfl⟩

/-- Two headers with one identifier get replies that agree outside their own fresh identifiers. -/
theorem sentReply_depends_on_messageID (firstSurroundings secondSurroundings : Wsa.Surroundings)
    (first second : Wsa.State) (firstHeader secondHeader : SoapEnvHeader)
    (firstPresent : first.soap.header = some firstHeader)
    (secondPresent : second.soap.header = some secondHeader)
    (sameID : firstHeader.wsaMessageID = secondHeader.wsaMessageID)
    (sameStatics : first.statics = second.statics) :
    ∃ firstSent secondSent, sentReply firstSurroundings first = some firstSent ∧
      sentReply secondSurroundings second = some secondSent ∧
      firstSent.wsaMessageID = Wsa.randUuid firstSurroundings.randoms ∧
      secondSent.wsaMessageID = Wsa.randUuid secondSurroundings.randoms ∧
      withoutMessageID firstSent = withoutMessageID secondSent ∧
      withoutMessageID firstSent = expectedReply first.statics firstHeader.wsaMessageID := by
  obtain ⟨firstSent, firstReply, firstFresh, firstFields⟩ :=
    sentReply_eq firstSurroundings firstPresent
  obtain ⟨secondSent, secondReply, secondFresh, secondFields⟩ :=
    sentReply_eq secondSurroundings secondPresent
  refine ⟨firstSent, secondSent, firstReply, secondReply, firstFresh, secondFresh, ?_, firstFields⟩
  rw [firstFields, secondFields, sameID, sameStatics]

/-- A header whose identifier comes with fields of the sender's choice. -/
def craftedHeader : SoapEnvHeader :=
  { SoapEnvHeader.soapDefault with
    wsaMessageID := "urn:uuid:1"
    wsaReplyTo := some ⟨some ⟨"http://192.0.2.1/"⟩, none, none⟩
    wsaTo := "urn:elsewhere"
    wsaAction := "urn:other"
    wsdAppSequence := some (.received ⟨1, none, 99⟩) }

/-- A header that holds its identifier only. -/
def bareHeader : SoapEnvHeader := { SoapEnvHeader.soapDefault with wsaMessageID := "urn:uuid:1" }

/-- A service that received the given header before any reply. -/
def firstReceived (header : SoapEnvHeader) : Wsa.State :=
  Wsa.State.withHeader ⟨Wsa.Object.initial, ⟨7, 0⟩⟩ header

/-- The crafted header gets the reply of the bare one. -/
theorem sentReply_crafted_header :
    ∃ crafted bare,
      sentReply ⟨true, ⟨1, 2, 3, 4⟩⟩ (firstReceived craftedHeader) = some crafted ∧
      sentReply ⟨false, ⟨5, 6, 7, 8⟩⟩ (firstReceived bareHeader) = some bare ∧
      crafted.wsaMessageID = Wsa.randUuid ⟨1, 2, 3, 4⟩ ∧
      bare.wsaMessageID = Wsa.randUuid ⟨5, 6, 7, 8⟩ ∧
      withoutMessageID crafted = withoutMessageID bare ∧
      withoutMessageID crafted = expectedReply ⟨7, 0⟩ "urn:uuid:1" :=
  sentReply_depends_on_messageID ⟨true, ⟨1, 2, 3, 4⟩⟩ ⟨false, ⟨5, 6, 7, 8⟩⟩
    (firstReceived craftedHeader) (firstReceived bareHeader) craftedHeader bareHeader rfl rfl rfl rfl

end Onvifxx.Service
