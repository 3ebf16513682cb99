/-
This file translates what the handlers of the example daemon write to their log.
-/

import Onvifxx.Construction.Log
import Onvifxx.Construction.RemoteDiscovery

namespace Onvifxx.Syslog

open RemoteDiscovery

/-- The name of the program follows the last slash of its path. -/
def baseName (path : List Char) : List Char :=
  (FormatText.cString path).foldl (fun rv character => if character ≠ '/' then rv ++ [character] else [])
    []

/-- The name of the log has this size together with its terminator. -/
def identSize : Nat := 50

def ident (name : List Char) : List Char := (FormatText.cString name).take (identSize - 1)

/-- A null pointer prints nothing. -/
def printed (text : Option String) : List Char := (text.getD "").toList

/-- An entry gives the file, the line and the name of its handler and the texts of the call. -/
def entry (file : List Char) (line name : String) (texts : List (List Char)) : List Char :=
  file ++ ":".toList ++ line.toList ++ " ".toList ++ name.toList ++ "(".toList ++
    ", ".toList.intercalate texts ++ ")".toList

def hello (file : List Char) (arg : HelloT) : List Char :=
  entry file "62" "hello"
    [printed arg.xaddrs, printed arg.types, printed (arg.scopes.map ScopesT.item)]

def bye (file : List Char) (arg : ByeT) : List Char :=
  entry file "71" "bye"
    [printed arg.xaddrs, printed arg.types, printed (arg.scopes.map ScopesT.item)]

def probe (file : List Char) (arg : ProbeT) : List Char :=
  entry file "80" "probe" [printed arg.types, printed (arg.scopes.map ScopesT.item)]

def callText (file : List Char) : HandlerCall → List Char
  | .hello arg => hello file arg
  | .bye arg => bye file arg
  | .probe arg => probe file arg

/-- The stream writes one character after the other. -/
def insert (text : List Char) : List Event := text.map .put

/-- The end of a line is written, and then the stream is flushed. -/
def logCall (file : List Char) (call : HandlerCall) : List Event :=
  insert (callText file call ++ ['\n']) ++ [.flush]

end Onvifxx.Syslog
