/-
This file gives the generated message types and the header that the build adds to them.
-/

import Onvifxx.Library.Execution

namespace Onvifxx.Wsdd

structure WsdScopesType where
  item : String
  matchBy : Option String
  deriving DecidableEq, Repr

structure WsaAttributedURI where
  item : String
  deriving DecidableEq, Repr

structure WsaAttributedQName where
  item : String
  deriving DecidableEq, Repr

structure WsaServiceNameType where
  item : String
  portName : Option String
  deriving DecidableEq, Repr

structure WsaRelationship where
  item : String
  relationshipType : Option String
  deriving DecidableEq, Repr

structure WsaEndpointReferenceType where
  address : Option WsaAttributedURI
  portType : Option WsaAttributedQName
  serviceName : Option WsaServiceNameType
  deriving DecidableEq, Repr

structure WsdAppSequenceType where
  instanceId : UInt32
  sequenceId : Option String
  messageNumber : UInt32
  deriving DecidableEq, Repr

/-- `Hello`, `Bye` and `ProbeMatch` differ only in the type of their version. -/
structure WsdAnnouncementType (Version : Type) where
  endpointReference : Option WsaEndpointReferenceType
  types : Option String
  scopes : Option WsdScopesType
  xaddrs : Option String
  metadataVersion : Version
  deriving DecidableEq, Repr

abbrev WsdHelloType := WsdAnnouncementType UInt32
abbrev WsdProbeMatchType := WsdAnnouncementType UInt32
/-- The version of a `Bye` is an optional element. -/
abbrev WsdByeType := WsdAnnouncementType (Option UInt32)

structure WsdProbeType where
  types : Option String
  scopes : Option WsdScopesType
  deriving DecidableEq, Repr

/-- Each default sets the pointers to null and the strings to empty. -/
def WsdScopesType.soapDefault : WsdScopesType := ⟨"", none⟩
def WsaAttributedURI.soapDefault : WsaAttributedURI := ⟨""⟩
def WsaAttributedQName.soapDefault : WsaAttributedQName := ⟨""⟩
def WsaServiceNameType.soapDefault : WsaServiceNameType := ⟨"", none⟩
def WsaRelationship.soapDefault : WsaRelationship := ⟨"", none⟩
def WsaEndpointReferenceType.soapDefault : WsaEndpointReferenceType := ⟨none, none, none⟩
def WsdAppSequenceType.soapDefault : WsdAppSequenceType := ⟨0, none, 0⟩
def WsdProbeType.soapDefault : WsdProbeType := ⟨none, none⟩
def WsdAnnouncementType.soapDefault {Version : Type} [Inhabited Version] : WsdAnnouncementType Version :=
  ⟨none, none, none, none, default⟩

/-- The header's sequence pointer designates the sender's own record or a received one. -/
inductive AppSequencePointer where
  | own
  | received (sequence : WsdAppSequenceType)
  deriving DecidableEq, Repr

structure SoapEnvHeader where
  wsaMessageID : String
  wsaRelatesTo : Option WsaRelationship
  wsaFrom : Option WsaEndpointReferenceType
  wsaReplyTo : Option WsaEndpointReferenceType
  wsaFaultTo : Option WsaEndpointReferenceType
  wsaTo : String
  wsaAction : String
  wsdAppSequence : Option AppSequencePointer
  deriving DecidableEq, Repr

def SoapEnvHeader.soapDefault : SoapEnvHeader := ⟨"", none, none, none, none, "", "", none⟩

/-- The subcodes name the addressing faults. -/
inductive WsaFaultSubcodeValues where
  | invalidMessageInformationHeader
  | messageInformationHeaderRequired
  | destinationUnreachable
  | actionNotSupported
  | endpointUnavailable
  deriving DecidableEq, Repr

structure SoapFault where
  subcode : Option String
  faultstring : String
  detail : Option String
  deriving DecidableEq, Repr

/-- These fields of the library context are the ones that the discovery code reads or sets. -/
structure Soap where
  header : Option SoapEnvHeader
  error : Int
  action : Option String
  fault : Option SoapFault
  deriving DecidableEq, Repr

def Soap.initial : Soap := ⟨none, 0, none, none⟩

def soapOk : Int := 0
def soapErr : Int := -1
def soapFault : Int := 12
def soapUserError : Int := 10
def soapEom : Int := 20

/-- The generated prefix of the discovery namespace. -/
def soapNamespaceOfWsd : String := "http://schemas.xmlsoap.org/ws/2005/04/discovery"

end Onvifxx.Wsdd
