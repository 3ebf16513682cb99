/-
This file gives the records that a caller exchanges with the discovery interface.
-/

import Mathlib.Tactic

namespace Onvifxx.RemoteDiscovery

structure ScopesT where
  item : String
  matchBy : Option String
  deriving DecidableEq, Repr

structure ServiceName where
  item : String
  portName : Option String
  deriving DecidableEq, Repr

structure EndpointReferenceT where
  address : Option String
  portType : Option String
  serviceName : Option ServiceName
  deriving DecidableEq, Repr

structure ProbeT where
  types : Option String
  scopes : Option ScopesT
  deriving DecidableEq, Repr

structure ProbeMatchT where
  endpoint : Option EndpointReferenceT
  types : Option String
  scopes : Option ScopesT
  xaddrs : Option String
  version : UInt32
  deriving DecidableEq, Repr

abbrev HelloT := ProbeMatchT
abbrev ByeT := ProbeMatchT
abbrev ProbeMatchesT := List ProbeMatchT

/-- Only the answer to a probe comes back from a handler. -/
structure Handler where
  probe : ProbeT → ProbeMatchesT

/-- The service makes one of these calls on its handler. -/
inductive HandlerCall where
  | hello (arg : HelloT)
  | bye (arg : ByeT)
  | probe (arg : ProbeT)
  deriving DecidableEq, Repr

end Onvifxx.RemoteDiscovery
