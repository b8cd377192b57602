import PowerBridge.Proofs.Service.Transactions
import PowerBridge.Proofs.Session.Reachable

/-!
# Transactions of runs

The commands of the service are taken one after the other, and what is seen of each is whole
transactions. So the exchanges of a run, of whatever length, are transactions in a row: none begins
before the last one has ended, and a response that is read belongs to the request before it.

This is about commands that follow each other, on one core or on several. Where cores are in the
service at the same time, a lock is held around every exchange. Sessions have no such cores and no
such lock, so that nothing is said of them here.

Main statement: `Session.transactions_of_run`.
-/

namespace PowerBridge

open Link (Response Scripted)

variable {T : Type}

/-! ## Histories -/

/-- An input that is taken by a session, with the session before it and after it. -/
structure Transition (T : Type) where
  before : Session T
  input : Input T
  report : Report
  after : Session T

/-- How many exchanges may be made for an input. -/
def Input.exchanges : Input T → Nat
  | .command c => c.exchanges
  | .outside _ | .core _ => 0

namespace Session

variable [Link.Transport T]

/-- The transitions of a run. -/
def history (config : Config) (s : Session T) : List (Input T) → List (Transition T)
  | [] => []
  | input :: rest =>
    let next := s.step config input
    { before := s, input, report := next.1, after := next.2 } ::
      if next.1.continues then history config next.2 rest else []

theorem run_eq_map_history (config : Config) (s : Session T) (inputs : List (Input T)) :
    s.run config inputs = (s.history config inputs).map fun t => (t.report, t.after) := by
  induction inputs generalizing s with
  | nil => rfl
  | cons input rest ih =>
    rw [run, history, List.map_cons]
    refine congrArg _ ?_
    by_cases goesOn : (s.step config input).1.continues = true
    · rw [if_pos goesOn, if_pos goesOn, ih]
    · rw [if_neg goesOn, if_neg goesOn, List.map_nil]

/-- Every transition of a run is a step, from a session in which what all the inputs keep holds. -/
theorem of_mem_history {config : Config} {s : Session T} {inputs : List (Input T)}
    {I : Session T → Prop} (kept : ∀ input ∈ inputs, ∀ s, I s → I (s.step config input).2)
    (start : I s) {t : Transition T} (taken : t ∈ s.history config inputs) :
    I t.before ∧ t.report = (t.before.step config t.input).1 ∧
      t.after = (t.before.step config t.input).2 := by
  induction inputs generalizing s with
  | nil => cases taken
  | cons input rest ih =>
    rw [history, List.mem_cons] at taken
    rcases taken with rfl | later
    · exact ⟨start, rfl, rfl⟩
    · by_cases goesOn : (s.step config input).1.continues = true
      · rw [if_pos goesOn] at later
        exact ih (fun input mem => kept input (List.mem_cons_of_mem _ mem))
          (kept input List.mem_cons_self s start) later
      · -- a run that has ended has no more transitions
        rw [if_neg goesOn] at later
        cases later

/-- A run takes its own inputs. -/
theorem input_mem_of_mem_history {config : Config} {s : Session T} {inputs : List (Input T)}
    {t : Transition T} (taken : t ∈ s.history config inputs) : t.input ∈ inputs := by
  induction inputs generalizing s with
  | nil => cases taken
  | cons input rest ih =>
    rw [history, List.mem_cons] at taken
    rcases taken with rfl | later
    · exact List.mem_cons_self
    · by_cases goesOn : (s.step config input).1.continues = true
      · rw [if_pos goesOn] at later
        exact List.mem_cons_of_mem _ (ih later)
      · rw [if_neg goesOn] at later
        cases later

end Session

/-! ## What a transition contributes -/

namespace Transition

/-- The responses that the script has for a transition. -/
def offered (t : Transition Scripted) : List Response :=
  match t.input with
  | .outside change => (change t.before.machine.transport).responses
  | .core _ | .command _ => t.before.machine.transport.responses

/-- Some transactions are what a transition contributes to the exchanges of a run. -/
structure Contributes (config : Config) (t : Transition Scripted) (ts : List Transaction) :
    Prop where
  few : ts.length ≤ t.input.exchanges
  made : ∀ transaction ∈ ts, ∃ command, t.input = .command command ∧
    command.Makes config.platform.wait transaction
  seen : exchanged t.report.events = ts.flatMap Transaction.events
  taken : t.after.machine.transport.responses = t.offered.drop (Transaction.reads ts)

end Transition

namespace Session

/-- One step contributes transactions: those of its command, if it is a command. -/
theorem contributes_step (config : Config) (s : Session Scripted) (input : Input Scripted)
    (ofService : ∀ command, input = .command command → command.OfService) :
    ∃ ts, Transition.Contributes config
      { before := s, input, report := (s.step config input).1, after := (s.step config input).2 }
      ts := by
  cases input with
  | outside change | core index =>
    exact ⟨[], Nat.le_refl 0, fun _ h => absurd h List.not_mem_nil, rfl, rfl⟩
  | command command =>
    obtain ⟨ts, length, made, seen, taken⟩ :=
      Command.transactions (ofService command rfl) (s.env config) s.machine
    exact ⟨ts, length, fun t mem => ⟨command, rfl, made t mem⟩, seen, taken⟩

/-- **Transactions never interleave**: what is seen of the exchanges of a run is a row of whole
transactions. Each transition contributes some of them, as many as its command may make. The
commands of a run are taken one at a time; cores that are in the service at the same time, and the
lock that keeps their exchanges apart, are not modelled. -/
theorem transactions_of_run (config : Config) (s : Session Scripted)
    (inputs : List (Input Scripted))
    (ofService : ∀ command, Input.command command ∈ inputs → command.OfService) :
    ∃ contributions : List (Transition Scripted × List Transaction),
      contributions.map Prod.fst = s.history config inputs ∧
        (∀ c ∈ contributions, c.1.Contributes config c.2) ∧
        exchanged ((s.run config inputs).flatMap fun next => next.1.events) =
          (contributions.flatMap Prod.snd).flatMap Transaction.events := by
  -- on the inputs: the first one contributes its transactions, and the rest goes on from there
  induction inputs generalizing s with
  | nil => exact ⟨[], rfl, fun _ h => absurd h List.not_mem_nil, rfl⟩
  | cons input rest ih =>
    obtain ⟨ts, contributed⟩ := contributes_step config s input fun command same =>
      ofService command (same ▸ List.mem_cons_self)
    rw [history, run]
    by_cases goesOn : (s.step config input).1.continues = true
    · obtain ⟨contributions, transitions, contribute, seen⟩ :=
        ih (s.step config input).2 fun command mem =>
          ofService command (List.mem_cons_of_mem _ mem)
      rw [if_pos goesOn, if_pos goesOn]
      refine ⟨(_, ts) :: contributions, ?_, List.forall_mem_cons.2 ⟨contributed, contribute⟩, ?_⟩
      · rw [List.map_cons, transitions]
      · rw [List.flatMap_cons, exchanged_append, seen, contributed.seen, List.flatMap_cons,
          List.flatMap_append]
    · -- a run that has ended contributes no more
      rw [if_neg goesOn, if_neg goesOn]
      refine ⟨[(_, ts)], rfl, ?_, ?_⟩
      · intro c mem
        cases List.mem_singleton.1 mem
        exact contributed
      · rw [List.flatMap_singleton, List.flatMap_singleton, contributed.seen]

/-- Setup and a data query, whose version is asked for first. -/
theorem transactions_of_setup_and_query :
    ∃ contributions : List (Transition Scripted × List Transaction),
      contributions.map Prod.fst = (start ({} : Scripted)).history Config.oneCore
          [.command .setup, .command (.call .nonSecure (.queryData 1 2 3 4))] ∧
        (∀ c ∈ contributions, c.1.Contributes Config.oneCore c.2) ∧
        exchanged (((start ({} : Scripted)).run Config.oneCore
            [.command .setup, .command (.call .nonSecure (.queryData 1 2 3 4))]).flatMap
              fun next => next.1.events) =
          (contributions.flatMap Prod.snd).flatMap Transaction.events := by
  refine transactions_of_run Config.oneCore (start ({} : Scripted)) _ ?_
  intro command mem
  rcases List.mem_cons.1 mem with setup | query
  · cases setup
    trivial
  · cases List.mem_singleton.1 query
    trivial

end Session

end PowerBridge
