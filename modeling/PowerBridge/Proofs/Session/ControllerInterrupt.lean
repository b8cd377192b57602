import PowerBridge.Proofs.Interrupt.Registrations
import PowerBridge.Proofs.Service.Interrupt
import PowerBridge.Proofs.Session.Reachable

/-!
# The interrupt of the controller in a session

Whatever has been registered in a session, by the service's own operation or by a caller's control
of a device, an interrupt that is held has a number below the platform's limit. So if the limit is
that of software generated interrupts, the handler of the controller's interrupt never faults for
want of a proper number, and is seen as it should be in every session that can be reached.

A callback for the operating system is announced by an interrupt, raised on a list of targets in
which every core has a bit. The list that is given is the number after the index of the calling
core. On cores 0 and 1 that number has the bit of the core and no other. On every later core it has
the bits of other cores, and never that of the calling one.

Main statements: `Session.Reachable.controllerIrq_handled`, and `notified_exactly_iff`, over every
transport.
-/

namespace PowerBridge

open Eemi (Callback)
open Link (Channel Scripted Transport)
open Service (afterReaction handleControllerIrq interruptEvents waiting)

/-! ## The registered interrupt -/

namespace Session.Reachable

variable {T : Type} [Transport T] {config : Config} {s : Session T}

/-- What holds of a machine at the start, and is kept by every elementary action, holds in every
session that can be reached. -/
theorem invariant (h : Reachable config s) {I : Machine T → Prop}
    (start : ∀ transport, I { transport })
    (kept : ∀ {m m' : Machine T},
      Changes (fun _ => True) config.platform.sgiLimit m m' → I m → I m') :
    I s.machine := by
  induction h with
  | start transport => exact start transport
  | step before input _ ih =>
    cases input with
    | outside change => exact kept (.transport _) ih
    | core index => exact ih
    | command command =>
      exact (command.performs_perform.mono fun _ _ => trivial).invariant kept ih

/-- **An interrupt that is registered is below the limit**, in every session that can be reached. -/
theorem sgi_lt (h : Reachable config s) :
    ∀ n, s.machine.sgi = .registered n → n < config.platform.sgiLimit := by
  refine h.invariant (I := fun m => ∀ n, m.sgi = .registered n → n < config.platform.sgiLimit)
    (fun _ n held => by cases held) fun change below => ?_
  cases change with
  | sgiRegistered _ => exact SgiRegistration.lt_of_register below _ _
  | transport | cameUp | scopeSet => exact below

end Session.Reachable

/-! ## The handler -/

/-- **The handler never faults, and is seen as it should be**: it acknowledges the interrupt, looks
at the callback, raises the interrupts that the callback asks for, clears every callback but those
for the operating system, and ends the interrupt. It changes nothing else. -/
theorem Session.Reachable.controllerIrq_handled {config : Config} {s : Session Scripted}
    (reachable : s.Reachable config) {first : Processor}
    (listed : config.platform.processors.head? = some first)
    (cores : config.platform.coreCount ≤ 32) (limit : config.platform.sgiLimit ≤ 16)
    (core : s.core.toNat < 2 ^ 64 - 1) (interrupt : InterruptId) :
    ∃ logs, handleControllerIrq interrupt (s.env config) s.machine =
      ⟨.ok (), afterReaction (waiting s.machine) s.machine,
        interruptEvents interrupt (s.env config) first.channel s.machine, logs⟩ := by
  have registered : ∀ sgi, s.machine.sgi = .registered sgi → sgi < 16 := by
    intro sgi held
    have below := reachable.sgi_lt sgi held
    exact UInt32.lt_of_lt_of_le below limit
  have primary : (s.env config).platform.processors.head? = some first := listed
  exact Service.handleControllerIrq_apply primary s.machine cores registered core interrupt

/-- A session in which interrupt 7 has been registered, and a callback waits. -/
def Session.notified (callback : Eemi.Callback) : Session Scripted :=
  let registered := (setUp []).step Config.oneCore (.command (.registerSgi 7 false))
  (registered.2.step Config.oneCore (.outside (Link.Scripted.post callback))).2

theorem Session.reachable_notified (callback : Eemi.Callback) :
    (Session.notified callback).Reachable Config.oneCore :=
  ((reachable_setUp []).step (.command (.registerSgi 7 false)) rfl).step (.outside _) rfl

/-- The operating system is asked to suspend: it is told so by interrupt 7, and the callback goes on
waiting. -/
theorem controllerIrq_handled_suspend :
    ∃ logs, handleControllerIrq ⟨62⟩ ((Session.notified ⟨30, 1, 2, 3⟩).env Config.oneCore)
        (Session.notified ⟨30, 1, 2, 3⟩).machine =
      ⟨.ok (), (Session.notified ⟨30, 1, 2, 3⟩).machine,
        [.gic .acknowledged, .link ⟨0, 1⟩ .pendingRead, .link ⟨0, 1⟩ .callbackRead,
          .gic (.systemSgiRaised ⟨7⟩ 1), .gic (.ended ⟨62⟩)], logs⟩ :=
  (Session.reachable_notified ⟨30, 1, 2, 3⟩).controllerIrq_handled rfl (by decide) (by decide)
    (by decide) ⟨62⟩

namespace Service

/-! ## Target lists -/

/-- A target list names a core by its bit. -/
def Names (targets : UInt16) (core : Nat) : Prop :=
  targets.toNat.testBit core = true

instance (targets : UInt16) : DecidablePred (Names targets) :=
  fun _ => inferInstanceAs (Decidable (_ = true))

/-- The bits of a target list are those of the number after the index of a core, as far as there
are any. -/
theorem names_succ_iff {core : UInt64} (room : core.toNat < 2 ^ 64 - 1) (other : Nat) :
    Names (core + 1).toUInt16 other ↔ other < 16 ∧ (core.toNat + 1).testBit other = true := by
  have succ : (core + 1).toNat = core.toNat + 1 := by
    rw [UInt64.toNat_add]
    exact Nat.mod_eq_of_lt (by simp; omega)
  rw [Names, UInt64.toNat_toUInt16, succ, Nat.testBit_mod_two_pow]
  simp

/-- The number after one of the first two indices is the power of two with that index. -/
theorem succ_eq_two_pow {n : Nat} (early : n < 2) : n + 1 = 2 ^ n := by
  match n, early with
  | 0, _ | 1, _ => rfl

/-- After every later index it is less. -/
theorem succ_lt_two_pow {n : Nat} (late : 2 ≤ n) : n + 1 < 2 ^ n := by
  obtain ⟨k, rfl⟩ := Nat.exists_eq_add_of_le late
  have small : k < 2 ^ k := Nat.lt_two_pow_self
  rw [Nat.pow_add]
  omega

section

variable {core : UInt64} (room : core.toNat < 2 ^ 64 - 1)
include room

/-- The list that one of the first two cores is given names this core and no other. -/
theorem names_iff_of_early (early : core.toNat < 2) (other : Nat) :
    Names (core + 1).toUInt16 other ↔ other = core.toNat := by
  rw [names_succ_iff room, succ_eq_two_pow early, Nat.testBit_two_pow]
  simp only [decide_eq_true_eq]
  omega

/-- The list that a later core is given does not name this core. -/
theorem not_names_of_late (late : 2 ≤ core.toNat) : ¬ Names (core + 1).toUInt16 core.toNat := by
  intro named
  have inList := ((names_succ_iff room _).1 named).2
  rw [Nat.testBit_lt_two_pow (succ_lt_two_pow late)] at inList
  cases inList

end

/-! ## Reading a callback that waits -/

variable {T : Type} [Transport T]

/-- A callback waits on the channel of the primary processor. -/
structure Waits (env : Env) (m : Machine T) (first : Processor) (c : Callback) : Prop where
  listed : env.platform.processors.head? = some first
  pending : Transport.isPending first.channel m.transport = .ok true
  words : Transport.readCallback first.channel .zero m.transport = .ok c

theorem waits_scripted {env : Env} {m : Machine Scripted} {first : Processor} {c : Callback}
    (listed : env.platform.processors.head? = some first)
    (waiting : m.transport.callback = some c) : Waits env m first c where
  listed := listed
  pending := by
    change Except.ok m.transport.callback.isSome = _
    rw [waiting]
    rfl
  words := by
    change Except.ok (m.transport.callback.getD .zero) = _
    rw [waiting]
    rfl

variable {env : Env} {m : Machine T} {first : Processor} {c : Callback}

theorem readCallback_of_waits (waits : Waits env m first c) :
    readCallback false env m =
      ⟨.ok c, m, [.link first.channel .pendingRead, .link first.channel .callbackRead], []⟩ := by
  have pending : Act.isPending first.channel env m = _ :=
    Act.looking_of_ok (.link first.channel .pendingRead) env waits.pending
  have words : Act.readCallback first.channel env m = _ :=
    Act.looking_of_ok (.link first.channel .callbackRead) env waits.words
  rw [readCallback, primary_bind waits.listed, Act.bind_of_ok pending]
  simp only [if_true]
  rw [Act.bind_of_ok words]
  rfl

/-- A callback for the operating system is announced by the registered interrupt, and left. -/
theorem handleControllerIrq_of_forSystem (waits : Waits env m first c) (system : c.ForSystem)
    {sgi : UInt32} (held : m.sgi = .registered sgi) (proper : sgi < 16)
    (room : env.core.toNat < 2 ^ 64 - 1) (interrupt : InterruptId) :
    ∃ logs, handleControllerIrq interrupt env m =
      ⟨.ok (), m,
        [.gic .acknowledged, .link first.channel .pendingRead, .link first.channel .callbackRead,
          .gic (.systemSgiRaised ⟨sgi⟩ (env.core + 1).toUInt16), .gic (.ended interrupt)],
        logs⟩ := by
  have registered : ∀ n, m.sgi = .registered n → n < 16 := by
    intro n same
    rw [held] at same
    cases same
    exact proper
  obtain ⟨logs, notified⟩ := notifySystem_apply env m registered room
  rw [held] at notified
  rw [handleControllerIrq, Act.log_bind, Act.emit_bind,
    Act.bind_of_ok (readCallback_of_waits waits), handleCallback_of_forSystem system,
    Act.bind_of_ok notified]
  exact ⟨_, rfl⟩

/-! ## The cores that are named -/

/-- **On the first two cores the calling core is notified, and it only. On every later core it is
not notified at all**: an interrupt is raised on the cores whose bits are set in the number after
its index, and the bit of the calling core is none of them. -/
theorem notified_exactly_iff (waits : Waits env m first c) (system : c.ForSystem)
    {sgi : UInt32} (held : m.sgi = .registered sgi) (proper : sgi < 16)
    (room : env.core.toNat < 2 ^ 64 - 1) (interrupt : InterruptId) :
    ∃ targets logs, handleControllerIrq interrupt env m =
        ⟨.ok (), m,
          [.gic .acknowledged, .link first.channel .pendingRead, .link first.channel .callbackRead,
            .gic (.systemSgiRaised ⟨sgi⟩ targets), .gic (.ended interrupt)], logs⟩ ∧
      (∀ core, Names targets core ↔ core < 16 ∧ (env.core.toNat + 1).testBit core = true) ∧
      ((∀ core, Names targets core ↔ core = env.core.toNat) ↔ env.core.toNat < 2) ∧
      (Names targets env.core.toNat ↔ env.core.toNat < 2) := by
  obtain ⟨logs, handled⟩ := handleControllerIrq_of_forSystem waits system held proper room interrupt
  refine ⟨_, logs, handled, names_succ_iff room, ?exactly, ?atAll⟩
  case exactly =>
    refine ⟨fun only => ?_, names_iff_of_early room⟩
    exact Nat.lt_of_not_le fun late => not_names_of_late room late ((only _).2 rfl)
  case atAll =>
    refine ⟨fun named => ?_, fun early => (names_iff_of_early room early _).2 rfl⟩
    exact Nat.lt_of_not_le fun late => not_names_of_late room late named

end Service

/-! ## A platform with four cores -/

open Service (Names)

/-- The platform of one processor, with four cores. -/
def Config.fourCores : Config :=
  { Config.oneCore with platform := { Config.oneCore.platform with coreCount := 4 } }

/-- The session after setup, in which interrupt 7 has been registered, the operating system is asked
to suspend, and the given core runs. -/
def Session.notifiedOn (core : UInt64) : Session Scripted :=
  let up := (Session.start {}).step Config.fourCores (.command .setup)
  let registered := up.2.step Config.fourCores (.command (.registerSgi 7 false))
  let waiting := registered.2.step Config.fourCores (.outside (Scripted.post ⟨30, 1, 2, 3⟩))
  (waiting.2.step Config.fourCores (.core core)).2

theorem Session.reachable_notifiedOn (core : UInt64) :
    (Session.notifiedOn core).Reachable Config.fourCores :=
  have up := (Reachable.start _).step (.command .setup) rfl
  have registered := up.step (.command (.registerSgi 7 false)) rfl
  (registered.step (.outside _) rfl).step (.core core) rfl

/-- On core 1 the target list is 2, the bit of core 1. -/
theorem notified_exactly_second_core :
    (Session.notifiedOn 1).Reachable Config.fourCores ∧
      ∃ targets logs, handleControllerIrq ⟨62⟩ ((Session.notifiedOn 1).env Config.fourCores)
          (Session.notifiedOn 1).machine =
        ⟨.ok (), (Session.notifiedOn 1).machine,
          [.gic .acknowledged, .link ⟨0, 1⟩ .pendingRead, .link ⟨0, 1⟩ .callbackRead,
            .gic (.systemSgiRaised ⟨7⟩ targets), .gic (.ended ⟨62⟩)], logs⟩ ∧
        ∀ core, Names targets core ↔ core = 1 := by
  have waits : Service.Waits ((Session.notifiedOn 1).env Config.fourCores)
      (Session.notifiedOn 1).machine ⟨Eemi.firstCoreNode, 0, 1, ⟨0, 1⟩⟩ ⟨30, 1, 2, 3⟩ :=
    Service.waits_scripted rfl rfl
  obtain ⟨targets, logs, handled, -, exactly, -⟩ :=
    Service.notified_exactly_iff waits (by decide) rfl (by decide) (by decide) ⟨62⟩
  exact ⟨Session.reachable_notifiedOn 1, targets, logs, handled, exactly.2 (by decide)⟩

/-- On core 2 the target list is 3: cores 0 and 1 are notified, and core 2 is not. -/
theorem third_core_not_notified :
    (Session.notifiedOn 2).Reachable Config.fourCores ∧
      (∃ logs, handleControllerIrq ⟨62⟩ ((Session.notifiedOn 2).env Config.fourCores)
          (Session.notifiedOn 2).machine =
        ⟨.ok (), (Session.notifiedOn 2).machine,
          [.gic .acknowledged, .link ⟨0, 1⟩ .pendingRead, .link ⟨0, 1⟩ .callbackRead,
            .gic (.systemSgiRaised ⟨7⟩ 3), .gic (.ended ⟨62⟩)], logs⟩) ∧
      Names 3 0 ∧ Names 3 1 ∧ ¬ Names 3 2 :=
  ⟨Session.reachable_notifiedOn 2, ⟨_, rfl⟩, by decide, by decide, by decide⟩

end PowerBridge
