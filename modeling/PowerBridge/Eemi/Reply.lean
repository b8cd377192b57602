import PowerBridge.Eemi.Api
import PowerBridge.Eemi.Codes

/-!
# Replies of the controller

The controller answers every request with a status word: zero for success, else the code of a
failure. Failures found by the service itself have codes of the same kind. A code without a name is
kept as it is.

What follows the status depends on the versions of both sides, where data are queried.
-/

namespace PowerBridge.Eemi

/-! ## Status words -/

/-- Why a request failed. -/
inductive Failure where
  | args
  | notSupported
  /-- The request failed its integrity check. -/
  | invalidCrc
  /-- Something that should not happen, such as a calling core without a processor. -/
  | internal
  | conflict
  | access
  | invalidNode
  | doubleRequest
  | abortSuspend
  /-- The controller did not acknowledge in time. -/
  | timeout
  | nodeUsed
  | noFeature
  | other (status : UInt32)
  deriving DecidableEq, Repr

namespace Failure

/-- The failures that have a name. -/
def named : List Failure :=
  [args, notSupported, invalidCrc, internal, conflict, access, invalidNode, doubleRequest,
    abortSuspend, timeout, nodeUsed, noFeature]

def code : Failure → UInt32
  | args => 1
  | notSupported => 4
  | invalidCrc => 301
  | internal => 2000
  | conflict => 2001
  | access => 2002
  | invalidNode => 2003
  | doubleRequest => 2004
  | abortSuspend => 2005
  | timeout => 2006
  | nodeUsed => 2007
  | noFeature => 2008
  | other status => status

def message : Failure → String
  | args => "invalid arguments"
  | notSupported => "not supported"
  | invalidCrc => "invalid CRC"
  | internal => "internal error"
  | conflict => "conflict"
  | access => "access denied"
  | invalidNode => "invalid node"
  | doubleRequest => "double request"
  | abortSuspend => "suspend aborted"
  | timeout => "timeout"
  | nodeUsed => "node in use"
  | noFeature => "no feature"
  | other status => s!"error status {status}"

/-- The failure with the given code. -/
def ofCode (status : UInt32) : Failure :=
  (named.find? fun f => f.code == status).getD (other status)

/-- Reads a status word. -/
def check (status : UInt32) : Except Failure Unit :=
  if status = 0 then .ok () else .error (ofCode status)

/-- The status word of a result. -/
def status : Except Failure Unit → UInt32
  | .ok () => 0
  | .error f => f.code

end Failure

/-- The answer to a request for `n` words. -/
abbrev Reply (n : Nat) := Except Failure (Vector UInt32 n)

/-- The words of an answer that has none. -/
def noWords : Vector UInt32 0 := #v[]

/-- The word of an answer that tells nothing but success. -/
def zeroWord : Vector UInt32 1 := #v[0]

/-! ## Versions

A version word has the version of this service in its upper half and that of the controller in its
lower one. Data queries changed with the controller's version: since version 2 a query for a name
puts a status word of its own in front of the data, and version 3 has retired the call. -/

/-- The version of this service's side of an API, in the upper half of the word. -/
def localVersion (api : UInt32) : UInt32 :=
  match (Coded.ofCode? api : Option Api) with
  | some .getCallbackData | some .getTrustzoneVersion | some .queryData => 0x00020000
  | _ => 0x00010000

/-- How the controller answers a data query. -/
inductive QueryFormat where
  /-- The call is not answered any more. -/
  | retired
  /-- A status word comes before the data. -/
  | statusFirst
  /-- The reply is the data. -/
  | plain
  deriving DecidableEq, Repr

namespace QueryFormat

/-- How a controller of the given version answers a query. -/
def classify (version query : UInt32) : QueryFormat :=
  let controller := version &&& 0xffff
  if controller = 3 then retired
  else if controller = 2 ∧ (Coded.ofCode? query : Option NameQuery).isSome then statusFirst
  else plain

/-- How many reply words to ask for. -/
def replyWords : QueryFormat → Nat
  | retired => 0
  | statusFirst => 8
  | plain => 4

def name : QueryFormat → String
  | retired => "Retired"
  | statusFirst => "StatusPrefixed"
  | plain => "Plain"

end QueryFormat

/-- Takes the first word off as a status and moves the others down by one place. The last place
keeps its word, so that there are as many words as before. -/
def stripStatus : List UInt32 → Except Fault (UInt32 × List UInt32)
  | [] => .error .emptyReply
  | status :: rest => .ok (status, rest ++ [rest.getLastD status])

end PowerBridge.Eemi
