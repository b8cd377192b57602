import PowerBridge.Eemi.Codes
import PowerBridge.Log.Logger
import PowerBridge.Machine.Platform

/-!
# Actions

An action runs on a machine in some environment. It may change the machine, is seen by its events
and log records, and either ends with a value or halts. What happened before it halted stands.

Actions are put in sequence by adding up what is seen of them. Log records above the level of the
environment are not written. Every operation of the transport is seen by one event on its channel,
a poll with its answer.

Main statements: `pure_apply` and `bind_apply` (what sequences of actions come to), and
`Outcome.andThen_assoc`, from which the laws of a monad follow.
-/

namespace PowerBridge

open Eemi (Callback frameWords)
open Link (Channel OpenError Transport)

/-- Why an action halts. -/
inductive Halt where
  /-- An assumption of the monitor was broken. -/
  | fault (why : Fault)
  /-- The controller will never acknowledge the request that is waited for. -/
  | stalled
  | poweredDown
  deriving DecidableEq, Repr

/-- The state of the service, over a transport with states of type `T`. -/
structure Machine (T : Type) where
  transport : T
  /-- Whether the channel to the controller has been opened. -/
  up : Bool := false
  /-- The scope of the next shutdown or reset: at first the whole system. -/
  scope : UInt32 := Eemi.ShutdownScope.system.code
  /-- The interrupt through which callbacks are announced. -/
  sgi : SgiRegistration := .unregistered
  deriving DecidableEq, Repr

/-- What an action finds and does not change. -/
structure Env where
  platform : Platform
  core : UInt64
  filter : Log.Filter

/-- How an action went. -/
structure Outcome (T α : Type) where
  ending : Except Halt α
  machine : Machine T
  events : List Event
  logs : List Log.Record

namespace Outcome

variable {T α β γ : Type}

/-- What comes of going on after an outcome. One that halts is not gone on after. -/
def andThen (o : Outcome T α) (next : α → Machine T → Outcome T β) : Outcome T β :=
  match o.ending with
  | .error why => { o with ending := .error why }
  | .ok a =>
    let later := next a o.machine
    { later with
      events := o.events ++ later.events
      logs := o.logs ++ later.logs }

@[simp] theorem andThen_error (why : Halt) (m : Machine T) (events : List Event)
    (logs : List Log.Record) (next : α → Machine T → Outcome T β) :
    andThen ⟨.error why, m, events, logs⟩ next = ⟨.error why, m, events, logs⟩ := rfl

@[simp] theorem andThen_ok (a : α) (m : Machine T) (events : List Event)
    (logs : List Log.Record) (next : α → Machine T → Outcome T β) :
    andThen ⟨.ok a, m, events, logs⟩ next =
      ⟨(next a m).ending, (next a m).machine, events ++ (next a m).events,
        logs ++ (next a m).logs⟩ := rfl

theorem andThen_assoc (o : Outcome T α) (f : α → Machine T → Outcome T β)
    (g : β → Machine T → Outcome T γ) :
    (o.andThen f).andThen g = o.andThen fun a m => (f a m).andThen g := by
  rcases o with ⟨ending, m, events, logs⟩
  cases ending with
  | error why => rfl
  | ok a =>
    simp only [andThen_ok]
    rcases f a m with ⟨ending', m', events', logs'⟩
    cases ending' with
    | error why => rfl
    | ok b => simp only [andThen_ok, List.append_assoc]

end Outcome

/-- An action with values of type `α`. -/
def Act (T α : Type) := Env → Machine T → Outcome T α

namespace Act

variable {T α β : Type}

instance : Monad (Act T) where
  pure a := fun _ m => ⟨.ok a, m, [], []⟩
  bind x f := fun env m => (x env m).andThen fun a m' => f a env m'

theorem pure_apply (a : α) (env : Env) (m : Machine T) :
    (pure a : Act T α) env m = ⟨.ok a, m, [], []⟩ := rfl

theorem bind_apply (x : Act T α) (f : α → Act T β) (env : Env) (m : Machine T) :
    (x >>= f) env m = (x env m).andThen fun a m' => f a env m' := rfl

instance : LawfulMonad (Act T) := LawfulMonad.mk' (Act T)
  (by
    intro α x
    funext env m
    change (x env m).andThen _ = x env m
    -- an outcome that halts is not gone on after, so that the ending decides
    rcases x env m with ⟨ending, m', events, logs⟩
    cases ending <;> simp [Function.comp])
  (by intros; rfl)
  (by intros; funext env m; exact Outcome.andThen_assoc ..)

/-! ## Primitive actions -/

def env : Act T Env := fun env m => ⟨.ok env, m, [], []⟩

def machine : Act T (Machine T) := fun _ m => ⟨.ok m, m, [], []⟩

def modify (change : Machine T → Machine T) : Act T Unit := fun _ m => ⟨.ok (), change m, [], []⟩

def emit (event : Event) : Act T Unit := fun _ m => ⟨.ok (), m, [event], []⟩

/-- Logs a message, if messages of this level are written. -/
def log (level : Log.Level) (message : String) : Act T Unit := fun env m =>
  ⟨.ok (), m, [], env.filter.keep [{ level, message }]⟩

def halt (why : Halt) : Act T α := fun _ m => ⟨.error why, m, [], []⟩

/-- A value, or the fault that arises in its place. -/
def orFault : Except Fault α → Act T α
  | .ok a => pure a
  | .error why => halt (.fault why)

/-- An operation of the transport. -/
def transport (operation : T → Except Fault (α × T)) : Act T α := fun _ m =>
  match operation m.transport with
  | .error why => ⟨.error (.fault why), m, [], []⟩
  | .ok (a, t) => ⟨.ok a, { m with transport := t }, [], []⟩

/-! ## Operations of the transport -/

variable [Transport T]

/-- Opens a channel. -/
def openChannel (channel : Channel) : Act T (Except OpenError Unit) := do
  emit (.link channel .opened)
  transport (Transport.openChannel channel)

/-- Writes a frame to the request buffer of a channel. -/
def writeRequest (channel : Channel) (words : Vector UInt32 frameWords) : Act T Unit := do
  emit (.link channel (.requestWritten words))
  transport fun t => return ((), ← Transport.writeRequest channel words t)

/-- Raises the interrupt on the remote agent. -/
def trigger (channel : Channel) : Act T Unit := do
  emit (.link channel .triggered)
  transport fun t => return ((), ← Transport.trigger channel t)

/-- Asks whether the remote agent is busy. -/
def isBusy (channel : Channel) : Act T Bool := do
  -- the event carries the answer, so that the poll comes first
  let busy ← transport (Transport.isBusy channel)
  emit (.link channel (.polled busy))
  return busy

/-- Reads a response over the given values. -/
def readResponse {n : Nat} (channel : Channel) (values : Vector UInt32 n) :
    Act T (UInt32 × Vector UInt32 n) := do
  emit (.link channel (.responseRead n))
  transport (Transport.readResponse channel values)

def readCallback (channel : Channel) : Act T Callback := do
  emit (.link channel .callbackRead)
  -- a callback is read over zeros
  transport fun t => return (← Transport.readCallback channel .zero t, t)

def isPending (channel : Channel) : Act T Bool := do
  emit (.link channel .pendingRead)
  transport fun t => return (← Transport.isPending channel t, t)

def clearPending (channel : Channel) : Act T Unit := do
  emit (.link channel .pendingCleared)
  transport fun t => return ((), ← Transport.clearPending channel t)

def enableInterrupt (channel : Channel) : Act T Unit := do
  emit (.link channel .interruptEnabled)
  transport fun t => return ((), ← Transport.enableInterrupt channel t)

end Act

end PowerBridge
