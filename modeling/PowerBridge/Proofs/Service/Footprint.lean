import PowerBridge.Proofs.Machine.Sequences
import PowerBridge.Service.Interrupt
import PowerBridge.Service.Request

/-!
# Footprints of actions

An action is built from a few operations, each of which has one effect on the machine or on its
transport, or none at all. `Performs may n x` says that `x` is built from operations whose effects
`may` happen, with at most `n` exchanges among them.

What holds of every operation with such an effect, and passes from one action to a sequence, then
holds of `x`, by induction on how it is built. So each operation of the service is followed along
its text once, and not once for each property.
-/

namespace PowerBridge

open Eemi (Frame)
open Link (Channel Transport)

/-! ## Effects -/

/-- What is waited for after a request has been posted. -/
inductive Awaited where
  | nothing
  | acknowledgement
  | response (words : Nat)
  deriving DecidableEq

/-- How many words of a response are read. -/
def Awaited.words : Awaited → Nat
  | nothing | acknowledgement => 0
  | response words => words

/-- What an operation does to the machine or its transport, as one whole. -/
inductive Effect where
  | exchanged (awaited : Awaited) (channel : Channel) (frame : Frame)
  | channelOpened (channel : Channel)
  | interruptEnabled (channel : Channel)
  | callbackCleared (channel : Channel)
  | cameUp
  | scopeSet (scope : UInt32)
  | sgiRegistered (sgi : UInt32) (reset : Bool)

/-- The environment with another policy of waiting, and another filter of the log. -/
def Env.tuned (env : Env) (wait : WaitPolicy) (filter : Log.Filter) : Env :=
  { env with
    platform := { env.platform with wait }
    filter }

/-- An action that is built from operations with effects that may happen, at most `n` exchanges
among them. Looking at the machine, reading from the transport, and what only concerns the log, the
interrupt controller or the chip, has no effect in this sense. What an action does may depend on its
environment, but not on how long is waited, nor on what is logged: this is left to its operations.
-/
inductive Performs {T : Type} [Transport T] (may : Effect → Prop) :
    Nat → {α : Type} → Act T α → Prop where
  | pure {α : Type} (a : α) : Performs may 0 (Pure.pure a : Act T α)
  | bind {α β : Type} {n k : Nat} {x : Act T α} {f : α → Act T β} (first : Performs may n x)
      (rest : ∀ a, Performs may k (f a)) : Performs may (n + k) (x >>= f)
  | weaken {α : Type} {n k : Nat} {x : Act T α} (h : Performs may n x) (le : n ≤ k) :
      Performs may k x
  | env {α : Type} {n : Nat} {f : Env → Act T α} (rest : ∀ env, Performs may n (f env))
      (same : ∀ (env : Env) wait filter, f (env.tuned wait filter) = f env) :
      Performs may n (Act.env >>= f)
  | machine : Performs may 0 Act.machine
  | halt {α : Type} (why : Halt) : Performs may 0 (Act.halt why : Act T α)
  | log (level : Log.Level) (message : String) : Performs may 0 (Act.log level message)
  | gic (event : GicEvent) : Performs may 0 (Act.emit (.gic event))
  | chip (event : ChipEvent) : Performs may 0 (Act.emit (.chip event))
  | isPending (channel : Channel) : Performs may 0 (Act.isPending channel)
  | readCallback (channel : Channel) : Performs may 0 (Act.readCallback channel)
  | sendNonBlocking {channel : Channel} {frame : Frame}
      (h : may (.exchanged .nothing channel frame)) :
      Performs may 1 (Exchange.sendNonBlocking channel frame)
  | send {channel : Channel} {frame : Frame}
      (h : may (.exchanged .acknowledgement channel frame)) :
      Performs may 1 (Exchange.send channel frame)
  | sendForStatus {words : Nat} {channel : Channel} {frame : Frame}
      (values : Vector UInt32 words) (h : may (.exchanged (.response words) channel frame)) :
      Performs may 1 (Exchange.sendForStatus channel frame values)
  | openChannel {channel : Channel} (h : may (.channelOpened channel)) :
      Performs may 0 (Act.openChannel channel)
  | enableInterrupt {channel : Channel} (h : may (.interruptEnabled channel)) :
      Performs may 0 (Act.enableInterrupt channel)
  | clearPending {channel : Channel} (h : may (.callbackCleared channel)) :
      Performs may 0 (Act.clearPending channel)
  | comeUp (h : may .cameUp) : Performs may 0 (Act.modify fun m => { m with up := true })
  | setScope {scope : UInt32} (h : may (.scopeSet scope)) :
      Performs may 0 (Service.setScope scope)
  | registerSgi {sgi : UInt32} {reset : Bool} (h : may (.sgiRegistered sgi reset)) :
      Performs may 0 (Service.registerSgi sgi reset)

namespace Performs

variable {T : Type} [Transport T] {may : Effect → Prop} {α β : Type} {n : Nat}

/-- More may happen. -/
theorem mono {may' : Effect → Prop} {x : Act T α} (h : Performs may n x)
    (more : ∀ effect, may effect → may' effect) : Performs may' n x := by
  induction h with
  | pure a => exact .pure a
  | bind _ _ first rest => exact .bind first rest
  | weaken _ le ih => exact .weaken ih le
  | env _ same ih => exact .env ih same
  | machine => exact .machine
  | halt why => exact .halt why
  | log level message => exact .log level message
  | gic event => exact .gic event
  | chip event => exact .chip event
  | isPending channel => exact .isPending channel
  | readCallback channel => exact .readCallback channel
  | sendNonBlocking h => exact .sendNonBlocking (more _ h)
  | send h => exact .send (more _ h)
  | sendForStatus values h => exact .sendForStatus values (more _ h)
  | openChannel h => exact .openChannel (more _ h)
  | enableInterrupt h => exact .enableInterrupt (more _ h)
  | clearPending h => exact .clearPending (more _ h)
  | comeUp h => exact .comeUp (more _ h)
  | setScope h => exact .setScope (more _ h)
  | registerSgi h => exact .registerSgi (more _ h)

/-! ## Sequences -/

theorem after {x : Act T α} {f : α → Act T β} (first : Performs may 0 x)
    (rest : ∀ a, Performs may n (f a)) : Performs may n (x >>= f) := by
  have both := first.bind rest
  rwa [Nat.zero_add] at both

theorem before {x : Act T α} {f : α → Act T β} (first : Performs may n x)
    (rest : ∀ a, Performs may 0 (f a)) : Performs may n (x >>= f) :=
  first.bind rest

theorem idle {x : Act T α} (h : Performs may 0 x) : Performs may n x :=
  h.weaken (Nat.zero_le n)

/-- A value or a fault: the rest is only performed with the value. -/
theorem orFault {value : Except Fault α} {f : α → Act T β}
    (rest : ∀ a, value = .ok a → Performs may n (f a)) :
    Performs may n (Act.orFault value >>= f) := by
  cases value with
  | error why =>
    rw [Act.orFault_error, Act.halt_bind]
    exact (halt _).idle
  | ok a =>
    rw [Act.orFault_ok, pure_bind]
    exact rest a rfl

theorem orFault_last {value : Except Fault α} : Performs may n (Act.orFault value : Act T α) := by
  cases value with
  | error why => exact (halt _).idle
  | ok a => exact (pure a).idle

/-! ## Requests -/

theorem sendForAnswer {words : Nat} {channel : Channel} {frame : Frame}
    (values : Vector UInt32 words) (h : may (.exchanged (.response words) channel frame)) :
    Performs may 1 (Exchange.sendForAnswer (T := T) channel frame values) :=
  (sendForStatus values h).before fun ⟨_, _⟩ => pure _

theorem request {words : Nat} {channel : Channel} {frame : Frame}
    (h : may (.exchanged (.response words) channel frame)) :
    Performs may 1 (Exchange.request (T := T) words channel frame) :=
  (sendForAnswer _ h).before fun ⟨_, _⟩ => pure _

end Performs

end PowerBridge
