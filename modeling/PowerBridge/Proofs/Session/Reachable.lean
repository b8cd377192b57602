import Mathlib.Data.List.Forall2
import PowerBridge.Link.Scripted
import PowerBridge.Proofs.Service.Commands
import PowerBridge.Proofs.Service.Elementary
import PowerBridge.Proofs.Service.OwnState

/-!
# Reachable sessions

A session is reachable if some inputs lead to it from the start, and none of them ended it. The
transport may be any at the start, and may change from outside in any way.

Only setup brings the service up, and setup needs a primary processor. So a service that is up has
one, and none of its requests can fail for want of it.

Main statements: `Session.Reachable.exists_primary`, and `Session.forall₂_run` (two runs that go the
same way step by step).
-/

namespace PowerBridge

open Link (Channel Transport)

variable {T : Type} [Transport T]

/-! ## Coming up -/

theorem Command.up_of_perform {command : Command} {env : Env} {m : Machine T}
    (up : (command.perform env m).machine.up = true) :
    m.up = true ∨ env.platform.processors ≠ [] := by
  rcases Command.up_perform_iff.1 up with already | ⟨-, opened⟩
  · exact .inl already
  · -- the channel that was opened is that of a processor
    refine .inr fun none => ?_
    rw [Service.opens, none] at opened
    cases opened

/-! ## Reachable sessions -/

namespace Session

/-- The environment in which the commands of a session are performed. -/
def env (config : Config) (s : Session T) : Env :=
  ⟨config.platform, s.core, config.filter⟩

/-- The sessions that inputs lead to. -/
inductive Reachable (config : Config) : Session T → Prop where
  | start (transport : T) : Reachable config (start transport)
  | step {s : Session T} (before : Reachable config s) (input : Input T)
      (continues : (s.step config input).1.continues = true) :
      Reachable config (s.step config input).2

namespace Reachable

variable {config : Config} {s : Session T}

theorem processors_ne_nil (h : Reachable config s) (up : s.machine.up = true) :
    config.platform.processors ≠ [] := by
  -- on the inputs that lead to the session: being up is an invariant from setup on
  induction h with
  | start transport => cases up
  | step before input continues ih =>
    rename_i s
    cases input with
    | outside change => exact ih up
    | core index => exact ih up
    | command command =>
      rcases Command.up_of_perform up with already | some
      · exact ih already
      · exact some

/-- **A service that is up has a primary processor.** -/
theorem exists_primary (h : Reachable config s) (up : s.machine.up = true) :
    ∃ first, config.platform.processors.head? = some first := by
  cases listed : config.platform.processors with
  | nil => exact absurd listed (h.processors_ne_nil up)
  | cons first rest => exact ⟨first, rfl⟩

end Reachable

/-- A run from a reachable session passes through reachable sessions, as long as it goes on. -/
theorem reachable_of_mem_run {config : Config} {s : Session T} {inputs : List (Input T)}
    {next : Report × Session T} (h : Reachable config s) (passed : next ∈ s.run config inputs)
    (continues : next.1.continues = true) : Reachable config next.2 := by
  induction inputs generalizing s with
  | nil => cases passed
  | cons input rest ih =>
    rw [run, List.mem_cons] at passed
    rcases passed with rfl | later
    · exact h.step input continues
    · by_cases goesOn : (s.step config input).1.continues = true
      · rw [if_pos goesOn] at later
        exact ih (h.step input goesOn) later
      · rw [if_neg goesOn] at later
        cases later

/-- The session that some inputs lead to, none of which ends it. -/
inductive Leads (config : Config) : Session T → List (Input T) → Session T → Prop where
  | nil (s : Session T) : Leads config s [] s
  | cons {s s' : Session T} {input : Input T} {rest : List (Input T)}
      (continues : (s.step config input).1.continues = true)
      (later : Leads config (s.step config input).2 rest s') : Leads config s (input :: rest) s'

/-- What every input keeps holds in the session that the inputs lead to. -/
theorem Leads.invariant {config : Config} {s s' : Session T} {inputs : List (Input T)}
    (led : Leads config s inputs s') {I : Session T → Prop}
    (kept : ∀ input ∈ inputs, ∀ s, I s → I (s.step config input).2) (before : I s) : I s' := by
  induction led with
  | nil s => exact before
  | cons _ _ ih =>
    exact ih (fun input mem => kept input (List.mem_cons_of_mem _ mem))
      (kept _ List.mem_cons_self _ before)

/-! ## Runs that go the same way -/

/-- **Two runs go the same way if their steps do**: the steps for two inputs are related whatever
session they start from, and related steps end in the same way and leave the same session. -/
theorem forall₂_run {config config' : Config}
    {R : Report × Session T → Report × Session T → Prop}
    (together : ∀ next next', R next next' → next.1.ending = next'.1.ending ∧ next.2 = next'.2)
    {inputs inputs' : List (Input T)}
    (related : List.Forall₂ (fun input input' =>
      ∀ s : Session T, R (s.step config input) (s.step config' input')) inputs inputs')
    (s : Session T) : List.Forall₂ R (s.run config inputs) (s.run config' inputs') := by
  -- on the inputs: the first step leaves the same session, from which the rest goes on
  induction related generalizing s with
  | nil => exact .nil
  | @cons input input' rest rest' first _ ih =>
    obtain ⟨ended, left⟩ := together _ _ (first s)
    have goesOn : (s.step config input).1.continues = (s.step config' input').1.continues := by
      rw [Report.continues, Report.continues, ended]
    rw [run, run, ← goesOn, ← left]
    refine .cons (first s) ?_
    split
    · exact ih _
    · exact .nil

end Session

/-! ## A platform with one processor -/

/-- One core, the first application core of the controller, which is waited for without a bound. -/
def Config.oneCore : Config :=
  { platform :=
      { coreCount := 1
        idleSgi := ⟨15⟩
        controllerIrq := ⟨62⟩
        processors := [⟨Eemi.firstCoreNode, 0, 1, ⟨0, 1⟩⟩] }
    filter := .off }

/-- The session after setup, which has been answered, with some responses left. -/
def Session.setUp (responses : List Link.Response) : Session Link.Scripted :=
  ((Session.start { responses := .zero :: responses }).step Config.oneCore (.command .setup)).2

theorem Session.reachable_setUp (responses : List Link.Response) :
    (Session.setUp responses).Reachable Config.oneCore :=
  (Session.Reachable.start _).step (.command .setup) rfl

theorem Session.up_setUp (responses : List Link.Response) :
    (Session.setUp responses).machine.up = true := rfl

end PowerBridge
