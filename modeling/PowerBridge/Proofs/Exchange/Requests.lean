import PowerBridge.Proofs.Eemi.Frames
import PowerBridge.Proofs.Exchange.Scripted

/-!
# Requests as they are seen

What the controller is asked is seen from the frames that are written, each on its channel. Whatever
becomes of an exchange, one frame is written in it: the header, the arguments, and zeros.

Main statements: `Request.of_words`, and one equation for each way of sending, of which
`requestsOf_request` is the one for requests that are answered.
-/

namespace PowerBridge

open Eemi (Api Frame Header frameArguments)
open Link (Channel Scripted)

/-- A frame that is written on a channel, by its words. -/
structure Request where
  channel : Channel
  words : List UInt32
  deriving DecidableEq

/-- The request for the API with a given number, with arguments, for a world. -/
def Request.of (channel : Channel) (number : UInt32) (world : World) (args : List UInt32) :
    Request :=
  { channel
    words := Header.wordOf number world :: args ++ List.replicate (frameArguments - args.length) 0 }

/-- The request that is seen by an event. -/
def Event.request? : Event → Option Request
  | .link channel (.requestWritten words) => some ⟨channel, words.toList⟩
  | _ => none

/-- The requests that are seen. -/
def requestsOf (events : List Event) : List Request :=
  events.filterMap Event.request?

theorem requestsOf_append (earlier later : List Event) :
    requestsOf (earlier ++ later) = requestsOf earlier ++ requestsOf later := by
  rw [requestsOf, List.filterMap_append]
  rfl

theorem requestsOf_chip_append (before : List ChipEvent) (events : List Event) :
    requestsOf (before.map .chip ++ events) = requestsOf events := by
  induction before with
  | nil => rfl
  | cons event rest ih => exact ih

/-- Only the first action of a sequence makes requests if the rest makes none. -/
theorem requestsOf_bind {T α β : Type} {x : Act T α} {f : α → Act T β} {env : Env}
    (quiet : ∀ a m, requestsOf (f a env m).events = []) (m : Machine T) :
    requestsOf ((x >>= f) env m).events = requestsOf (x env m).events := by
  rw [Act.bind_apply]
  rcases x env m with ⟨ending, m', events, logs⟩
  -- if the first action halts, the rest is not performed
  cases ending with
  | error why => rfl
  | ok a => rw [Outcome.andThen_ok, requestsOf_append, quiet, List.append_nil]

theorem requestsOf_bind_pure {T α β : Type} (x : Act T α) (g : α → β) {env : Env}
    (m : Machine T) :
    requestsOf ((x >>= fun a => pure (g a)) env m).events = requestsOf (x env m).events :=
  requestsOf_bind (fun _ _ => rfl) m

/-- What is written for a call of an API is its request. -/
theorem Request.of_words (channel : Channel) (api : Api) (world : World) {args : List UInt32}
    (fits : args.length ≤ frameArguments) :
    (⟨channel, (⟨Header.ofApi api world, args, fits⟩ : Frame).words.toList⟩ : Request) =
      Request.of channel api.code world args := by
  rw [Frame.toList_words, Header.encode_ofApi]
  rfl

namespace Exchange

theorem requestsOf_pollEvents (channel : Channel) (answers : List Bool) :
    requestsOf (pollEvents channel answers) = [] := by
  induction answers with
  | nil => rfl
  | cons busy rest ih => exact ih

theorem requestsOf_postEvents (channel : Channel) (frame : Frame) :
    requestsOf (postEvents channel frame) = [⟨channel, frame.words.toList⟩] := rfl

/-- What is seen of an exchange up to the end of its wait is one request. -/
theorem requestsOf_waited (channel : Channel) (frame : Frame) (env : Env) (m : Machine Scripted) :
    requestsOf (postEvents channel frame ++ waitEvents channel env m) =
      [⟨channel, frame.words.toList⟩] := by
  rw [requestsOf_append, requestsOf_postEvents, waitEvents, requestsOf_pollEvents, List.append_nil]

variable (channel : Channel) (frame : Frame) (env : Env) (m : Machine Scripted)

theorem requestsOf_sendNonBlocking :
    requestsOf (sendNonBlocking channel frame env m).events = [⟨channel, frame.words.toList⟩] := by
  rw [sendNonBlocking_apply]
  exact requestsOf_postEvents channel frame

theorem requestsOf_send :
    requestsOf (send channel frame env m).events = [⟨channel, frame.words.toList⟩] := by
  rw [send_apply]
  exact requestsOf_waited channel frame env m

theorem requestsOf_sendForStatus {n : Nat} (values : Vector UInt32 n) :
    requestsOf (sendForStatus channel frame values env m).events =
      [⟨channel, frame.words.toList⟩] := by
  have waited := requestsOf_waited channel frame env m
  rw [sendForStatus_apply]
  by_cases inTime : InTime env m
  · -- reading the response adds no request
    rw [if_pos inTime, requestsOf_append, waited]
    rfl
  · rw [if_neg inTime]
    exact waited

theorem requestsOf_sendForAnswer {n : Nat} (values : Vector UInt32 n) :
    requestsOf (sendForAnswer channel frame values env m).events =
      [⟨channel, frame.words.toList⟩] := by
  rw [sendForAnswer]
  exact (requestsOf_bind_pure _ _ m).trans
    (requestsOf_sendForStatus channel frame env m values)

theorem requestsOf_request (n : Nat) :
    requestsOf (request n channel frame env m).events = [⟨channel, frame.words.toList⟩] := by
  rw [request]
  exact (requestsOf_bind_pure _ _ m).trans
    (requestsOf_sendForAnswer channel frame env m _)

end Exchange

end PowerBridge
