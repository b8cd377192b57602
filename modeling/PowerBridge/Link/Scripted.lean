import PowerBridge.Link.Transport

/-!
# A scripted transport

A transport that follows a script: it hands out responses from a queue, answers a given number of
polls as busy, and may hold a callback. It has one script for all channels.
-/

namespace PowerBridge.Link

open Eemi (Callback)

/-- A response to a request. -/
structure Response where
  status : UInt32
  words : List UInt32
  deriving DecidableEq, Repr

namespace Response

/-- The response that is given when none is left. -/
def zero : Response := ⟨0, []⟩

/-- The first `n` words of a response, zeros taking the place of missing ones. -/
def fill (r : Response) (n : Nat) : Vector UInt32 n :=
  Vector.ofFn fun i => r.words.getD i.val 0

end Response

/-- The state of the script. -/
structure Scripted where
  /-- The responses that are left, next one first. -/
  responses : List Response := []
  /-- How many polls are still answered as busy. -/
  busyPolls : Nat := 0
  callback : Option Callback := none
  /-- The error of the next attempt to open a channel. -/
  openError : Option OpenError := none
  deriving DecidableEq, Repr

namespace Scripted

/-! ## Writing the script -/

/-- Adds a response at the end of the queue. -/
def respond (response : Response) (s : Scripted) : Scripted :=
  { s with responses := s.responses ++ [response] }

/-- Sets how many polls are answered as busy. -/
def stayBusy (polls : Nat) (s : Scripted) : Scripted :=
  { s with busyPolls := polls }

/-- Leaves a callback, in place of one that waits. -/
def post (callback : Callback) (s : Scripted) : Scripted :=
  { s with callback := some callback }

/-- Makes the next attempt to open a channel fail. -/
def failOpen (error : OpenError) (s : Scripted) : Scripted :=
  { s with openError := some error }

/-! ## Following the script -/

/-- The next response, and the script without it. -/
def takeResponse (s : Scripted) : Response × Scripted :=
  match s.responses with
  | [] => (.zero, s)
  | response :: rest => (response, { s with responses := rest })

/-- The answer to a poll, which takes one off the number of busy ones. -/
def poll (s : Scripted) : Bool × Scripted :=
  if s.busyPolls = 0 then (false, s)
  else (true, { s with busyPolls := s.busyPolls - 1 })

instance : Transport Scripted where
  openChannel _ s :=
    match s.openError with
    | some error => .ok (.error error, { s with openError := none })
    | none => .ok (.ok (), s)
  writeRequest _ _ s := .ok s
  trigger _ s := .ok s
  isBusy _ s := .ok s.poll
  readResponse {n} _ _ s :=
    let (response, rest) := s.takeResponse
    .ok ((response.status, response.fill n), rest)
  readCallback _ _ s := .ok (s.callback.getD .zero)
  isPending _ s := .ok s.callback.isSome
  clearPending _ s := .ok { s with callback := none }
  enableInterrupt _ s := .ok s
  settled s := s.busyPolls

end Scripted

end PowerBridge.Link
