import PowerBridge.Eemi.Frame

/-!
# Channels and transports

A channel connects an agent on the side of the cores with an agent of the controller. A transport
carries frames over channels to the controller and brings its answers and callbacks back. An
operation works on the state of the transport; it may fault, and then nothing is left to say about
the state.

Polling may change the state. After `settled` polls it does not change any more: a channel that is
busy then stays busy for ever.
-/

namespace PowerBridge.Link

open Eemi (Callback frameWords)

/-! ## Channels -/

/-- The pair of agents that a channel connects. -/
structure Channel where
  /-- The agent used by the core. -/
  localId : Nat
  /-- The agent of the controller. -/
  remoteId : Nat
  deriving DecidableEq, Repr

/-- Why a channel could not be opened. -/
inductive OpenError where
  | invalidAgent (agent : Nat)
  /-- The messages of the channel lie outside the buffer memory. -/
  | bufferOutOfRange (agent : Nat)
  deriving DecidableEq, Repr

def OpenError.message : OpenError → String
  | invalidAgent agent => s!"no IPI agent {agent}"
  | bufferOutOfRange agent => s!"IPI buffers for agent {agent} out of range"

/-! ## Transports -/

/-- The operations of a transport with states of type `T`. -/
class Transport (T : Type) where
  /-- Prepares a channel for use: interrupts from the remote agent are masked and cleared. -/
  openChannel : Channel → T → Except Fault (Except OpenError Unit × T)
  writeRequest : Channel → Vector UInt32 frameWords → T → Except Fault T
  trigger : Channel → T → Except Fault T
  /-- Whether the remote agent has yet to acknowledge the last trigger. -/
  isBusy : Channel → T → Except Fault (Bool × T)
  /-- The status word of the response, and the words after it, written over the given ones. -/
  readResponse : {n : Nat} → Channel → Vector UInt32 n → T →
    Except Fault ((UInt32 × Vector UInt32 n) × T)
  /-- The callback that the remote agent has sent, written over the given one. -/
  readCallback : Channel → Callback → T → Except Fault Callback
  isPending : Channel → T → Except Fault Bool
  clearPending : Channel → T → Except Fault T
  enableInterrupt : Channel → T → Except Fault T
  /-- After how many polls the answers to polls do not change any more. -/
  settled : T → Nat

/-! ## Operations as data -/

/-- An operation of a transport on some channel. -/
inductive Operation where
  | openChannel
  | writeRequest (words : Vector UInt32 frameWords)
  | trigger
  | isBusy
  | readResponse (values : List UInt32)
  | readCallback (values : Callback)
  | isPending
  | clearPending
  | enableInterrupt
  deriving DecidableEq, Repr

/-- What an operation answers. -/
inductive Answer where
  | done
  | opened (result : Except OpenError Unit)
  | flag (value : Bool)
  | response (status : UInt32) (values : List UInt32)
  | callback (values : Callback)

def Operation.perform {T : Type} [Transport T] (op : Operation) (channel : Channel) (t : T) :
    Except Fault (Answer × T) :=
  match op with
  | openChannel => do
    let (result, t) ← Transport.openChannel channel t
    return (.opened result, t)
  | writeRequest words => return (.done, ← Transport.writeRequest channel words t)
  | trigger => return (.done, ← Transport.trigger channel t)
  | isBusy => do
    let (busy, t) ← Transport.isBusy channel t
    return (.flag busy, t)
  | readResponse values => do
    let ((status, read), t) ← Transport.readResponse channel values.toArray.toVector t
    return (.response status read.toList, t)
  | readCallback values => return (.callback (← Transport.readCallback channel values t), t)
  | isPending => return (.flag (← Transport.isPending channel t), t)
  | clearPending => return (.done, ← Transport.clearPending channel t)
  | enableInterrupt => return (.done, ← Transport.enableInterrupt channel t)

/-! ## Histories -/

/-- What happens to a transport. -/
inductive Step (T : Type) where
  | outside (change : T → T)
  | operate (operation : Operation) (channel : Channel)

def Step.take {T : Type} [Transport T] (step : Step T) (t : T) : Except Fault (Answer × T) :=
  match step with
  | outside change => .ok (.done, change t)
  | operate operation channel => operation.perform channel t

/-- The answers to a history of steps, each with the transport after it. A fault ends it. -/
def answers {T : Type} [Transport T] (t : T) : List (Step T) → List (Except Fault (Answer × T))
  | [] => []
  | step :: rest =>
    match step.take t with
    | .error why => [.error why]
    | .ok (answer, next) => .ok (answer, next) :: answers next rest

end PowerBridge.Link
