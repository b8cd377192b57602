import PowerBridge.Eemi.Reply
import PowerBridge.Machine.Act

/-!
# Exchanges with the controller

A request is written and the controller is triggered. Then the caller goes on at once, or waits
until the controller has taken the request, or also reads the answer. How long it waits is the
platform's policy; a wait that ends too soon is a failure of its own, and no answer is read.
-/

namespace PowerBridge.Exchange

open Eemi (Failure Frame)
open Link (Channel Transport)

variable {T : Type} [Transport T]

/-- Writes a request and triggers the controller. -/
def post (channel : Channel) (frame : Frame) : Act T Unit := do
  Act.log .trace s!"IPI request {frame.header.describe}"
  Act.writeRequest channel frame.words
  Act.trigger channel

/-- Polls until the controller is idle, at most the given number of times, and answers whether it
was found idle. -/
def pollUntilIdle (channel : Channel) : Nat → Act T Bool
  | 0 => return false
  | polls + 1 => do
    if ← Act.isBusy channel then pollUntilIdle channel polls
    else return true

/-- Waits for the acknowledgement of a request.

Without a bound it is enough to poll until the answers of the transport do not change any more: a
controller that is busy even then will be so for ever. -/
def awaitAck (channel : Channel) : Act T (Except Failure Unit) := do
  match (← Act.env).platform.wait with
  | .bounded polls =>
    if ← pollUntilIdle channel polls.toNat then return .ok ()
    else return .error .timeout
  | .forever =>
    if ← pollUntilIdle channel (Transport.settled (← Act.machine).transport + 1) then return .ok ()
    else Act.halt .stalled

/-- Sends a request and does not wait. -/
def sendNonBlocking (channel : Channel) (frame : Frame) : Act T (Except Failure Unit) := do
  post channel frame
  return .ok ()

/-- Sends a request and waits until it is acknowledged. -/
def send (channel : Channel) (frame : Frame) : Act T (Except Failure Unit) := do
  post channel frame
  awaitAck channel

/-- Sends a request, waits, and reads the status word and the words after it. The words are read
over the given ones, which stand if the wait ends too soon. -/
def sendForStatus {n : Nat} (channel : Channel) (frame : Frame) (values : Vector UInt32 n) :
    Act T (Except Failure UInt32 × Vector UInt32 n) := do
  post channel frame
  match ← awaitAck channel with
  | .error failure => return (.error failure, values)
  | .ok () =>
    let (status, read) ← Act.readResponse channel values
    return (.ok status, read)

/-- Sends a request, waits, and reads the answer. The words are read whatever the status is. -/
def sendForAnswer {n : Nat} (channel : Channel) (frame : Frame) (values : Vector UInt32 n) :
    Act T (Except Failure Unit × Vector UInt32 n) := do
  let (status, read) ← sendForStatus channel frame values
  return (status.bind Failure.check, read)

/-- Sends a request, waits, and gives the `n` words of the answer if its status is success. -/
def request (n : Nat) (channel : Channel) (frame : Frame) : Act T (Eemi.Reply n) := do
  let (result, read) ← sendForAnswer channel frame (Vector.replicate n 0)
  -- along with a failure the words are dropped
  return result.map fun () => read

end PowerBridge.Exchange
