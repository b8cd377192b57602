import PowerBridge.Proofs.Exchange.Polls
import PowerBridge.Proofs.Service.OwnState

/-!
# The processor of the calling core

A core suspends, and is powered down, as the first processor that is listed for it. Processors may
be listed in any order, several for a core or none; what comes first decides, for a suspend and for
a power down alike, and whether or not that is the primary processor.

A power down does not come back, so that its order matters: the interrupt is cleared and the
interface is disabled first, then the core's own bits are set, and last the core waits. A core
without a processor waits all the same, but cannot be suspended.

Main statements: `firstFor_iff`, `handleIdleSgi_apply`, `selfSuspend_own`, and
`acts_for_own_processor`.
-/

namespace PowerBridge

open Eemi (Frame Header)
open Link (Scripted Transport)

/-! ## The first processor for a core -/

/-- What is listed first for a core: a processor behind others of other cores, or none at all. -/
def FirstFor (core : UInt64) (processors : List Processor) : Option Processor → Prop
  | some p => p.core = core ∧
      ∃ before after, processors = before ++ p :: after ∧ ∀ q ∈ before, q.core ≠ core
  | none => ∀ q ∈ processors, q.core ≠ core

theorem firstFor_iff {platform : Platform} {core : UInt64} {own : Option Processor} :
    FirstFor core platform.processors own ↔ platform.processorOf? core = own := by
  cases own with
  | none => simp [FirstFor, Platform.processorOf?]
  | some p =>
    simp [FirstFor, Platform.processorOf?, List.find?_eq_some_iff_append]

namespace Service

variable {T : Type} [Transport T]

/-! ## Powering down -/

/-- What is seen of a core that powers down as the given processor, or as none. -/
def powerDownEvents (interrupt : InterruptId) (own : Option Processor) : List Event :=
  [.gic (.pendingCleared interrupt), .gic .interfaceDisabled] ++
    own.toList.map (fun p => .chip (.powerDownRequested p.powerDownMask)) ++
      [.chip .powerDownAwaited]

omit [Transport T] in
theorem handleIdleSgi_apply (interrupt : InterruptId) (env : Env) (m : Machine T) :
    ∃ logs, handleIdleSgi interrupt env m =
      ⟨.error .poweredDown, m, powerDownEvents interrupt (env.platform.processorOf? env.core),
        logs⟩ := by
  simp only [handleIdleSgi, Act.env_bind, Act.log_bind, Act.emit_bind]
  cases env.platform.processorOf? env.core with
  | none =>
    simp only [Act.log_bind, Act.emit_bind]
    exact ⟨_, rfl⟩
  | some p =>
    simp only [Act.emit_bind]
    exact ⟨_, rfl⟩

/-! ## Suspending -/

/-- The request to suspend a processor, to resume at an address. -/
def suspendFrame (p : Processor) (latency state : UInt32) (address : UInt64) (world : World) :
    Frame :=
  { header := Header.ofApi .selfSuspend world
    args := [p.node, latency, state, Word.low address, Word.high address]
    args_le := by simp [Eemi.frameArguments] }

theorem words_suspendFrame (p : Processor) (latency state : UInt32) (address : UInt64)
    (world : World) :
    (suspendFrame p latency state address world).words =
      #v[Header.wordOf 7 world, p.node, latency, state, Word.low address, Word.high address] := by
  apply Vector.toList_inj.1
  rw [Frame.toList_words, suspendFrame, Header.encode_ofApi]
  rfl

section

variable {env : Env} {p : Processor} (found : env.platform.processorOf? env.core = some p)
  (latency state : UInt32) (address : UInt64) (world : World)

include found

/-- A core suspends as its own processor: the chip is told of it, and the request names its node and
goes over its channel. -/
theorem selfSuspend_own (m : Machine T) :
    selfSuspend latency state address world env m =
      { Exchange.request 0 p.channel (suspendFrame p latency state address world) env m with
        events := (hooked env (.suspendPrepared p.node p.core state)).map .chip ++
          (Exchange.request 0 p.channel (suspendFrame p latency state address world) env
            m).events } :=
  selfSuspend_apply m found latency state address world _

theorem events_selfSuspend (m : Machine Scripted) :
    (selfSuspend latency state address world env m).events =
      (hooked env (.suspendPrepared p.node p.core state)).map .chip ++
        Exchange.transcript p.channel
          #v[Header.wordOf 7 world, p.node, latency, state, Word.low address, Word.high address]
          (env.platform.wait.answers m.transport.busyPolls)
          (if env.platform.wait.Allows m.transport.busyPolls then some 0 else none) := by
  rw [selfSuspend_own found, Exchange.request_exact, words_suspendFrame]
  split <;> rfl

end

theorem ownState_selfSuspend (latency state : UInt32) (address : UInt64) (world : World) (env : Env)
    (m : Machine T) :
    (selfSuspend latency state address world env m).machine.ownState = m.ownState := by
  have requests : Performs (fun effect => effect.change? = none) 1
      (selfSuspend latency state address world : Act T (Eemi.Reply 0)) :=
    performs_selfSuspend fun _ _ _ => rfl
  exact requests.ownState_eq (fun _ unchanged => unchanged) env m

/-! ## Interrupts -/

/-- The interrupt of the controller comes first, whatever number the idle interrupt has. -/
theorem routeInterrupt_controllerIrq (env : Env) (m : Machine T) :
    routeInterrupt env.platform.controllerIrq env m =
      handleControllerIrq env.platform.controllerIrq env m := by
  rw [routeInterrupt, Act.env_bind, if_pos rfl]

theorem routeInterrupt_idleSgi {env : Env}
    (differ : env.platform.idleSgi ≠ env.platform.controllerIrq) (m : Machine T) :
    routeInterrupt env.platform.idleSgi env m = handleIdleSgi env.platform.idleSgi env m := by
  rw [routeInterrupt, Act.env_bind, if_neg differ, if_pos rfl]

theorem routeInterrupt_other {env : Env} {interrupt : InterruptId}
    (notController : interrupt ≠ env.platform.controllerIrq)
    (notIdle : interrupt ≠ env.platform.idleSgi) (m : Machine T) :
    ∃ logs, routeInterrupt interrupt env m = ⟨.ok (), m, [], logs⟩ := by
  rw [routeInterrupt, Act.env_bind, if_neg notController, if_neg notIdle]
  exact ⟨_, rfl⟩

/-! ## Both as the same processor -/

/-- **Suspend and forced idle act for the calling core's own processor**, which is the first one
listed for the core. A core that idles clears the interrupt, disables its interface, sets the bits
of that processor, and powers down. A core that suspends makes one request, which names the node of
that processor and goes over its channel; over a script it is seen word by word. Without a processor
a core powers down all the same, and a suspend fails with nothing seen of it. Neither touches what
the service keeps. An interrupt is that of the controller first, then the one that idles, and every
other one is not seen. -/
theorem acts_for_own_processor (env : Env) :
    ∃ own, FirstFor env.core env.platform.processors own ∧
      (∀ {T : Type} [Transport T] (m : Machine T),
        (∀ interrupt, ∃ logs, handleIdleSgi interrupt env m =
          ⟨.error .poweredDown, m, powerDownEvents interrupt own, logs⟩) ∧
        (∀ latency state address world,
          (selfSuspend latency state address world env m).machine.ownState = m.ownState ∧
          match own with
          | none => ∃ logs, selfSuspend latency state address world env m =
              ⟨.ok (.error .internal), m, [], logs⟩
          | some p =>
            let asked :=
              Exchange.request 0 p.channel (suspendFrame p latency state address world) env m
            selfSuspend latency state address world env m =
              { asked with
                events := (hooked env (.suspendPrepared p.node p.core state)).map .chip ++
                  asked.events }) ∧
        routeInterrupt env.platform.controllerIrq env m =
          handleControllerIrq env.platform.controllerIrq env m ∧
        (env.platform.idleSgi ≠ env.platform.controllerIrq →
          ∃ logs, routeInterrupt env.platform.idleSgi env m =
            ⟨.error .poweredDown, m, powerDownEvents env.platform.idleSgi own, logs⟩) ∧
        ∀ interrupt, interrupt ≠ env.platform.controllerIrq → interrupt ≠ env.platform.idleSgi →
          ∃ logs, routeInterrupt interrupt env m = ⟨.ok (), m, [], logs⟩) ∧
      ∀ (m : Machine Scripted) p, own = some p → ∀ latency state address world,
        (selfSuspend latency state address world env m).events =
          (hooked env (.suspendPrepared p.node p.core state)).map .chip ++
            Exchange.transcript p.channel
              #v[Header.wordOf 7 world, p.node, latency, state, Word.low address,
                Word.high address]
              (env.platform.wait.answers m.transport.busyPolls)
              (if env.platform.wait.Allows m.transport.busyPolls then some 0 else none) := by
  refine ⟨env.platform.processorOf? env.core, firstFor_iff.2 rfl, fun m => ?_, ?seen⟩
  case seen => exact fun m p found latency state address world =>
    events_selfSuspend found latency state address world m
  refine ⟨fun interrupt => handleIdleSgi_apply interrupt env m, ?suspended,
    routeInterrupt_controllerIrq env m, ?idled, ?dropped⟩
  case suspended =>
    intro latency state address world
    refine ⟨ownState_selfSuspend latency state address world env m, ?_⟩
    cases found : env.platform.processorOf? env.core with
    | none => exact selfSuspend_of_missing m found latency state address world
    | some p => exact selfSuspend_own found latency state address world m
  case idled =>
    intro differ
    rw [routeInterrupt_idleSgi differ]
    exact handleIdleSgi_apply env.platform.idleSgi env m
  case dropped => exact fun interrupt notController notIdle =>
    routeInterrupt_other notController notIdle m

/-- The third core is listed twice, behind the primary processor: it idles and suspends as the first
of both. The second core is not listed. -/
theorem acts_for_own_processor_thirdCore :
    let env (core : UInt64) : Env :=
      { platform :=
          { coreCount := 3
            idleSgi := ⟨15⟩
            controllerIrq := ⟨62⟩
            processors :=
              [⟨Eemi.firstCoreNode, 0, 1, ⟨0, 1⟩⟩, ⟨0x1810c005, 2, 4, ⟨2, 1⟩⟩,
                ⟨0x1810c006, 2, 8, ⟨3, 1⟩⟩]
            suspendHooks := true }
        core
        filter := .off }
    let m : Machine Scripted := { transport := {}, up := true, scope := 1, sgi := .registered 7 }
    (∃ logs, routeInterrupt ⟨15⟩ (env 2) m =
      ⟨.error .poweredDown, m,
        [.gic (.pendingCleared ⟨15⟩), .gic .interfaceDisabled, .chip (.powerDownRequested 4),
          .chip .powerDownAwaited], logs⟩) ∧
    (selfSuspend 9 1 0x200000003 .nonSecure (env 2) m).events =
      [.chip (.suspendPrepared 0x1810c005 2 1),
        .link ⟨2, 1⟩ (.requestWritten #v[0x1000207, 0x1810c005, 9, 1, 3, 2]),
        .link ⟨2, 1⟩ .triggered, .link ⟨2, 1⟩ (.polled false), .link ⟨2, 1⟩ (.responseRead 0)] ∧
    (∃ logs, routeInterrupt ⟨15⟩ (env 1) m =
      ⟨.error .poweredDown, m,
        [.gic (.pendingCleared ⟨15⟩), .gic .interfaceDisabled, .chip .powerDownAwaited], logs⟩) ∧
    (∃ logs, selfSuspend 9 1 0x200000003 .nonSecure (env 1) m =
      ⟨.ok (.error .internal), m, [], logs⟩) ∧
    ∃ logs, routeInterrupt ⟨14⟩ (env 1) m = ⟨.ok (), m, [], logs⟩ := by
  intro env m
  obtain ⟨own, first, acts, seen⟩ := acts_for_own_processor (env 2)
  cases firstFor_iff.1 first
  obtain ⟨missing, absent, alone, -⟩ := acts_for_own_processor (env 1)
  cases firstFor_iff.1 absent
  refine ⟨?idles, ?suspends, ?waits, ?fails, ?drops⟩
  case idles => exact (acts m).2.2.2.1 (by decide)
  case suspends => exact seen m _ rfl 9 1 0x200000003 .nonSecure
  case waits => exact (alone m).2.2.2.1 (by decide)
  case fails => exact ((alone m).2.1 9 1 0x200000003 .nonSecure).2
  case drops => exact (alone m).2.2.2.2 ⟨14⟩ (by decide) (by decide)

end Service

end PowerBridge
