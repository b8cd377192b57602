import PowerBridge.Proofs.Service.Primary
import PowerBridge.Link.Scripted
import PowerBridge.Service.Interrupt

/-!
# The interrupt of the controller

Over a scripted transport a callback waits until it is cleared. Reading it tells its words, or zeros
if none waits, and clears it only if that is asked for. A callback either asks cores to power down,
or is meant for the operating system, or is none that the service knows.

The handler acknowledges the interrupt, looks at the callback, does what it asks for, and ends the
interrupt. A callback for the operating system is announced by the registered interrupt and goes on
waiting; every other one is cleared, after the idle interrupt has been raised on the cores that it
names.

Nothing of this faults, as long as every core has a bit in a core mask, the registered interrupt is
a software generated one, and the index of the calling core has a successor.

Main statements: `readCallback_apply`, and `handleControllerIrq_apply`, which is put together from
the three kinds of callbacks (`handleCallback_of_forcesIdle`, `handleCallback_of_forSystem`,
`handleCallback_of_unknown`).
-/

namespace PowerBridge

open Eemi (Callback CallbackKind)
open Link (Channel Scripted Transport)

/-! ## Kinds of callbacks -/

namespace Eemi.Callback

/-- The controller asks cores to power down. -/
def ForcesIdle (c : Callback) : Prop :=
  c.kind = 32 ∧ c.event = 4

/-- The callback is meant for the operating system: it is asked to suspend, or told of an event. -/
def ForSystem (c : Callback) : Prop :=
  c.kind = 30 ∨ c.kind = 32 ∧ c.event ≠ 4

instance (c : Callback) : Decidable c.ForcesIdle :=
  inferInstanceAs (Decidable (_ ∧ _))

instance (c : Callback) : Decidable c.ForSystem :=
  inferInstanceAs (Decidable (_ ∨ _))

theorem not_forcesIdle_of_forSystem {c : Callback} (h : c.ForSystem) : ¬ c.ForcesIdle := by
  rintro ⟨notify, idle⟩
  rcases h with suspend | ⟨-, other⟩
  · rw [suspend] at notify
    exact absurd notify (by decide)
  · exact other idle

end Eemi.Callback

namespace Service

/-! ## Reading -/

/-- The callback that waits, zeros standing for none. -/
def waiting (m : Machine Scripted) : Callback :=
  m.transport.callback.getD .zero

/-- The machine once its callback has been cleared. -/
def cleared (m : Machine Scripted) : Machine Scripted :=
  { m with transport := { m.transport with callback := none } }

/-- What is seen of reading the callback. -/
def readEvents (channel : Channel) (acknowledge : Bool) (m : Machine Scripted) : List Event :=
  match m.transport.callback with
  | none => [.link channel .pendingRead]
  | some _ =>
    .link channel .pendingRead :: .link channel .callbackRead ::
      if acknowledge then [.link channel .pendingCleared] else []

theorem clearPending_apply (channel : Channel) (env : Env) (m : Machine Scripted) :
    Act.clearPending channel env m =
      ⟨.ok (), cleared m, [.link channel .pendingCleared], []⟩ := rfl

theorem isPending_apply (channel : Channel) (env : Env) (m : Machine Scripted) :
    Act.isPending channel env m =
      ⟨.ok m.transport.callback.isSome, m, [.link channel .pendingRead], []⟩ := rfl

theorem readCallback_apply {env : Env} {first : Processor}
    (listed : env.platform.processors.head? = some first) (acknowledge : Bool)
    (m : Machine Scripted) :
    readCallback acknowledge env m =
      ⟨.ok (waiting m), if acknowledge then cleared m else m,
        readEvents first.channel acknowledge m, []⟩ := by
  rw [readCallback, primary_bind listed, Act.bind_of_ok (isPending_apply first.channel env m)]
  rcases m with ⟨⟨responses, busyPolls, callback, openError⟩, up, scope, sgi⟩
  -- a callback is read if it waits, and cleared if that is asked for
  cases callback with
  | none => cases acknowledge <;> rfl
  | some c => cases acknowledge <;> rfl

/-! ## What a callback asks for -/

section Reactions

variable {T : Type} [Transport T]

theorem handleCallback_of_forcesIdle {c : Callback} (h : c.ForcesIdle) :
    (handleCallback c : Act T Unit) =
      requestIdle c.target >>= fun _ => primary >>= fun first =>
        Act.clearPending first.channel := by
  have notify : Coded.ofCode? c.kind = some CallbackKind.notify :=
    Coded.ofCode?_eq_some_iff.2 h.1.symm
  have idle : c.event = Eemi.forcedIdleEvent := h.2
  simp only [handleCallback, notify, if_pos idle]

theorem handleCallback_of_forSystem {c : Callback} (h : c.ForSystem) :
    (handleCallback c : Act T Unit) = notifySystem := by
  rcases h with suspend | ⟨notify, other⟩
  · have known : Coded.ofCode? c.kind = some CallbackKind.initSuspend :=
      Coded.ofCode?_eq_some_iff.2 suspend.symm
    simp only [handleCallback, known]
  · have known : Coded.ofCode? c.kind = some CallbackKind.notify :=
      Coded.ofCode?_eq_some_iff.2 notify.symm
    have other : ¬ c.event = Eemi.forcedIdleEvent := other
    simp only [handleCallback, known, if_neg other]

theorem handleCallback_of_unknown {c : Callback} (busy : ¬ c.ForcesIdle) (system : ¬ c.ForSystem) :
    (handleCallback c : Act T Unit) =
      primary >>= fun first => Act.clearPending first.channel >>= fun _ =>
        Act.log .warn s!"Invalid IPI payload {c.describe}" := by
  have unknown : (Coded.ofCode? c.kind : Option CallbackKind) = none := by
    refine Coded.ofCode?_eq_none_iff.2 fun kind same => ?_
    -- either of the known kinds is for the operating system, unless it forces cores to idle
    cases kind with
    | initSuspend => exact system (.inl same.symm)
    | notify =>
      by_cases idle : c.event = 4
      · exact busy ⟨same.symm, idle⟩
      · exact system (.inr ⟨same.symm, idle⟩)
  simp only [handleCallback, unknown]

end Reactions

/-! ## Raising interrupts -/

/-- The idle interrupt is raised on those of some cores that are in a mask. -/
def idleEvents (platform : Platform) (mask : UInt32) (cores : List Nat) : List Event :=
  (cores.filter fun core => mask.toNat.testBit core).map fun core =>
    .gic (.monitorSgiRaised platform.idleSgi core)

/-- The registered interrupt is raised on a core, if there is one. -/
def systemEvents (core : UInt64) : SgiRegistration → List Event
  | .unregistered => []
  | .registered sgi => [.gic (.systemSgiRaised ⟨sgi⟩ (core + 1).toUInt16)]

section Raising

variable {T : Type} (env : Env) (m : Machine T)

theorem raiseIdle_apply (mask : UInt32) {cores : List Nat} (few : ∀ core ∈ cores, core < 32) :
    ∃ logs, raiseIdle mask cores env m =
      ⟨.ok (), m, idleEvents env.platform mask cores, logs⟩ := by
  induction cores with
  | nil => exact ⟨[], rfl⟩
  | cons core rest ih =>
    obtain ⟨logs, later⟩ := ih fun core mem => few core (List.mem_cons_of_mem _ mem)
    have inMask : coreInMask mask core = .ok (mask.toNat.testBit core) :=
      if_pos (few core List.mem_cons_self)
    rw [raiseIdle, inMask, Act.orFault_ok, pure_bind]
    -- a core that is in the mask is put in front of the rest
    cases raised : mask.toNat.testBit core with
    | false =>
      have passed : idleEvents env.platform mask (core :: rest) =
          idleEvents env.platform mask rest := by
        simp only [idleEvents, List.filter_cons, raised, Bool.false_eq_true, if_false]
      rw [passed]
      exact ⟨logs, later⟩
    | true =>
      have counted : idleEvents env.platform mask (core :: rest) =
          .gic (.monitorSgiRaised env.platform.idleSgi core) ::
            idleEvents env.platform mask rest := by
        simp only [idleEvents, List.filter_cons, raised, if_true, List.map_cons]
      rw [counted]
      simp only [if_true, Act.log_bind, Act.env_bind]
      rw [Act.emit_bind, later]
      exact ⟨_, rfl⟩

theorem requestIdle_apply (mask : UInt32) (cores : env.platform.coreCount ≤ 32) :
    ∃ logs, requestIdle mask env m =
      ⟨.ok (), m, idleEvents env.platform mask (List.range env.platform.coreCount), logs⟩ := by
  have few : ∀ core ∈ List.range env.platform.coreCount, core < 32 := by
    intro core mem
    exact Nat.lt_of_lt_of_le (List.mem_range.1 mem) cores
  obtain ⟨logs, raised⟩ := raiseIdle_apply env m mask few
  rw [requestIdle, Act.log_bind, Act.env_bind, raised]
  exact ⟨_, rfl⟩

theorem notifySystem_apply (registered : ∀ sgi, m.sgi = .registered sgi → sgi < 16)
    (core : env.core.toNat < 2 ^ 64 - 1) :
    ∃ logs, notifySystem env m = ⟨.ok (), m, systemEvents env.core m.sgi, logs⟩ := by
  rw [notifySystem, Act.machine_bind]
  cases held : m.sgi with
  | unregistered => exact ⟨_, rfl⟩
  | registered sgi =>
    have room : env.core.toNat + 1 < UInt64.size := by
      change _ < 2 ^ 64
      omega
    have targets : targetList env.core = .ok (env.core + 1).toUInt16 := if_pos room
    have interrupt : InterruptId.sgi sgi = .ok ⟨sgi⟩ := if_pos (registered sgi held)
    simp only [Act.env_bind, targets, interrupt, Act.orFault_ok, pure_bind, Act.log_bind]
    exact ⟨_, rfl⟩

end Raising

/-! ## Handling a callback -/

/-- What is seen of handling a callback. -/
def reactionEvents (env : Env) (channel : Channel) (registration : SgiRegistration)
    (c : Callback) : List Event :=
  if c.ForcesIdle then
    idleEvents env.platform c.target (List.range env.platform.coreCount) ++
      [.link channel .pendingCleared]
  else if c.ForSystem then systemEvents env.core registration
  else [.link channel .pendingCleared]

/-- The machine after a callback has been handled: only one for the operating system goes on
waiting. -/
def afterReaction (c : Callback) (m : Machine Scripted) : Machine Scripted :=
  if c.ForSystem then m else cleared m

variable {env : Env} {first : Processor}
  (listed : env.platform.processors.head? = some first) (m : Machine Scripted)
  (cores : env.platform.coreCount ≤ 32)
  (registered : ∀ sgi, m.sgi = .registered sgi → sgi < 16)
  (core : env.core.toNat < 2 ^ 64 - 1)

include listed cores registered core

theorem handleCallback_apply (c : Callback) :
    ∃ logs, handleCallback c env m =
      ⟨.ok (), afterReaction c m, reactionEvents env first.channel m.sgi c, logs⟩ := by
  by_cases idle : c.ForcesIdle
  · have other : ¬ c.ForSystem := fun system => Callback.not_forcesIdle_of_forSystem system idle
    obtain ⟨logs, raised⟩ := requestIdle_apply env m c.target cores
    rw [handleCallback_of_forcesIdle idle, reactionEvents, if_pos idle, afterReaction,
      if_neg other, Act.bind_of_ok raised, primary_bind listed, clearPending_apply]
    exact ⟨_, rfl⟩
  · by_cases system : c.ForSystem
    · rw [handleCallback_of_forSystem system, reactionEvents, if_neg idle, if_pos system,
        afterReaction, if_pos system]
      exact notifySystem_apply env m registered core
    · -- a callback that is not known is cleared, and logged after that
      rw [handleCallback_of_unknown idle system, reactionEvents, if_neg idle, if_neg system,
        afterReaction, if_neg system, primary_bind listed,
        Act.bind_of_ok (clearPending_apply first.channel env m)]
      exact ⟨_, rfl⟩

/-! ## The handler -/

omit listed cores registered core in
/-- What is seen of the handler, on a platform with a primary processor. -/
def interruptEvents (interrupt : InterruptId) (env : Env) (channel : Channel)
    (m : Machine Scripted) : List Event :=
  .gic .acknowledged :: readEvents channel false m ++
    reactionEvents env channel m.sgi (waiting m) ++ [.gic (.ended interrupt)]

/-- The handler ends with a value, whatever waits, and is seen as it should be. -/
theorem handleControllerIrq_apply (interrupt : InterruptId) :
    ∃ logs, handleControllerIrq interrupt env m =
      ⟨.ok (), afterReaction (waiting m) m, interruptEvents interrupt env first.channel m,
        logs⟩ := by
  have read := readCallback_apply listed false m
  obtain ⟨logs, handled⟩ := handleCallback_apply listed m cores registered core (waiting m)
  rw [handleControllerIrq, Act.log_bind, Act.emit_bind, Act.bind_of_ok read]
  simp only [Bool.false_eq_true, if_false]
  rw [Act.bind_of_ok handled, interruptEvents]
  simp only [List.cons_append, List.append_assoc]
  exact ⟨_, rfl⟩

end Service

end PowerBridge
