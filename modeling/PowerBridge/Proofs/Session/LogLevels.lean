import PowerBridge.Proofs.Session.Reachable

/-!
# The log only observes

A filter lets records through up to some level. So a lower filter lets the same through of what a
higher one has let through as of all records; and a logger with this filter writes their text.

The filter of the log is part of the environment, at which an action may look. But no action of the
service looks at the filter, except to decide whether a record is written. So under a lower filter
an action ends in the same way, leaves the same machine and is seen by the same events, and of its
records those are left that the lower filter lets through. That actions ignore the filter passes
from the parts of a sequence to the whole, since no record ever comes back into what follows it.

A run with a lower filter passes through the same sessions as one with a higher filter. Every input
ends in the same way and is seen by the same events, and of its records those are left that the
lower filter lets through.

Main statements: `Log.Filter.keep_keep`, `Act.IgnoresFilter.bind`, `Performs.ignoresFilter`,
`Session.log_observes`.
-/

namespace PowerBridge

open Eemi (Failure Frame)
open Link (Channel Scripted Transport)

/-! ## Filters one after the other -/

namespace Log

namespace Filter

variable {f g : Filter}

theorem keep_cons (f : Filter) (r : Record) (rest : List Record) :
    f.keep (r :: rest) = if f.admits r.level then r :: f.keep rest else f.keep rest :=
  List.filter_cons

theorem keep_append (f : Filter) (earlier later : List Record) :
    f.keep (earlier ++ later) = f.keep earlier ++ f.keep later :=
  List.filter_append ..

/-- A higher filter admits what a lower one does. -/
theorem admits_of_rank_le (le : f.rank ≤ g.rank) {level : Level}
    (admitted : f.admits level = true) : g.admits level = true :=
  decide_eq_true (Nat.le_trans (of_decide_eq_true admitted) le)

/-- **Behind a lower filter a higher one makes no difference.** -/
theorem keep_keep (le : f.rank ≤ g.rank) (records : List Record) :
    f.keep (g.keep records) = f.keep records := by
  rw [keep, keep, List.filter_filter]
  apply List.filter_congr
  intro r _
  cases admitted : f.admits r.level with
  | false => rfl
  | true => rw [admits_of_rank_le le admitted, Bool.true_and]

end Filter

/-- What a logger writes for records is the text of those that its filter lets through. -/
theorem text_keep (l : Logger) (records : List Record) :
    text (l.filter.keep records) = String.join (records.map l.write) := by
  induction records with
  | nil => rfl
  | cons r rest ih =>
    rw [List.map_cons, String.join_cons, ← ih, Logger.write, Filter.keep_cons]
    by_cases admitted : l.filter.admits r.level = true
    · rw [if_pos admitted, if_pos admitted]
      exact String.join_cons
    · rw [if_neg admitted, if_neg admitted, String.empty_append]

end Log

variable {T α β : Type}

/-! ## Outcomes with fewer records -/

/-- An outcome with the records that a filter lets through. -/
def Outcome.filtered (f : Log.Filter) (o : Outcome T α) : Outcome T α :=
  { o with logs := f.keep o.logs }

/-- Whether records are left out at once or in the end makes no difference to a sequence. -/
theorem Outcome.filtered_andThen {f : Log.Filter} (o : Outcome T α)
    {next quiet : α → Machine T → Outcome T β}
    (same : ∀ a m, quiet a m = (next a m).filtered f) :
    (o.filtered f).andThen quiet = (o.andThen next).filtered f := by
  rcases o with ⟨ending, m, events, logs⟩
  cases ending with
  | error why => rfl
  | ok a =>
    simp only [filtered, andThen_ok, same, Log.Filter.keep_append]

/-! ## Actions that ignore the filter -/

/-- Under a lower filter an action does the same as under a higher one, but for the records that the
lower one does not let through. -/
def Act.IgnoresFilter (x : Act T α) : Prop :=
  ∀ (platform : Platform) (core : UInt64) {f g : Log.Filter}, f.rank ≤ g.rank → ∀ m : Machine T,
    x ⟨platform, core, f⟩ m = (x ⟨platform, core, g⟩ m).filtered f

namespace Act.IgnoresFilter

/-- An action that neither depends on its environment nor logs anything. -/
theorem of_silent {x : Act T α} (same : ∀ env env' m, x env m = x env' m)
    (silent : ∀ env m, (x env m).logs = []) : IgnoresFilter x := by
  intro platform core f g _ m
  have quiet := silent ⟨platform, core, g⟩ m
  rw [same ⟨platform, core, f⟩ ⟨platform, core, g⟩ m]
  rcases h : x ⟨platform, core, g⟩ m with ⟨ending, m', events, logs⟩
  rw [h] at quiet
  cases quiet
  rfl

theorem pure (a : α) : IgnoresFilter (Pure.pure a : Act T α) :=
  of_silent (fun _ _ _ => rfl) fun _ _ => rfl

/-- **A sequence ignores the filter if its parts do.** -/
theorem bind {x : Act T α} {next : α → Act T β} (first : IgnoresFilter x)
    (rest : ∀ a, IgnoresFilter (next a)) : IgnoresFilter (x >>= next) := by
  intro platform core f g le m
  rw [bind_apply, bind_apply, first platform core le m]
  exact Outcome.filtered_andThen _ fun a m' => rest a platform core le m'

/-- What is made of the environment must not depend on the filter. -/
theorem env_bind {next : Env → Act T α} (rest : ∀ env, IgnoresFilter (next env))
    (same : ∀ platform core f g, next ⟨platform, core, f⟩ = next ⟨platform, core, g⟩) :
    IgnoresFilter (Act.env >>= next) := by
  intro platform core f g le m
  rw [Act.env_bind, Act.env_bind, same platform core f g]
  exact rest _ platform core le m

/-- A record that the lower filter lets through has been let through by the higher one. -/
theorem log (level : Log.Level) (message : String) :
    IgnoresFilter (Act.log level message : Act T Unit) := by
  intro platform core f g le m
  have kept := Log.Filter.keep_keep le [{ level, message }]
  exact congrArg (Outcome.mk (.ok ()) m []) kept.symm

/-! ## Operations of the transport -/

theorem emit (event : Event) : IgnoresFilter (Act.emit event : Act T Unit) :=
  of_silent (fun _ _ _ => rfl) fun _ _ => rfl

theorem transport (operation : T → Except Fault (α × T)) :
    IgnoresFilter (Act.transport operation) := by
  refine of_silent (fun _ _ _ => rfl) fun env m => ?_
  rw [Act.transport]
  split <;> rfl

/-- An operation of the transport that is seen by an event. -/
theorem seen (event : Event) (operation : T → Except Fault (α × T)) :
    IgnoresFilter (Act.emit event >>= fun _ => Act.transport operation) :=
  (emit event).bind fun _ => transport operation

variable [Transport T]

theorem isBusy (channel : Channel) : IgnoresFilter (Act.isBusy channel : Act T Bool) :=
  (transport _).bind fun _ => (emit _).bind fun _ => pure _

end Act.IgnoresFilter

open Act (IgnoresFilter)

/-! ## Exchanges -/

namespace Exchange

variable [Transport T]

/-- A request is logged before it is written. -/
theorem ignoresFilter_post (channel : Channel) (frame : Frame) :
    IgnoresFilter (post channel frame : Act T Unit) :=
  (IgnoresFilter.log _ _).bind fun _ => (IgnoresFilter.seen _ _).bind fun _ => .seen _ _

theorem ignoresFilter_pollUntilIdle (channel : Channel) (polls : Nat) :
    IgnoresFilter (pollUntilIdle channel polls : Act T Bool) := by
  induction polls with
  | zero => exact .pure false
  | succ polls ih =>
    refine (IgnoresFilter.isBusy channel).bind fun busy => ?_
    cases busy with
    | false => exact .pure true
    | true => exact ih

theorem ignoresFilter_awaitAck (channel : Channel) :
    IgnoresFilter (awaitAck channel : Act T (Except Failure Unit)) := by
  -- of its environment a wait looks at the policy only
  refine .env_bind (fun env => ?_) fun _ _ _ _ => rfl
  have polls (n : Nat) := ignoresFilter_pollUntilIdle (T := T) channel n
  split
  · refine (polls _).bind fun idle => ?_
    cases idle <;> exact .pure _
  · refine IgnoresFilter.bind (.of_silent (fun _ _ _ => rfl) fun _ _ => rfl) fun m => ?_
    refine (polls _).bind fun idle => ?_
    cases idle with
    | false => exact .of_silent (fun _ _ _ => rfl) fun _ _ => rfl
    | true => exact .pure _

theorem ignoresFilter_send (channel : Channel) (frame : Frame) :
    IgnoresFilter (send channel frame : Act T (Except Failure Unit)) :=
  (ignoresFilter_post channel frame).bind fun _ => ignoresFilter_awaitAck channel

theorem ignoresFilter_sendForStatus {n : Nat} (channel : Channel) (frame : Frame)
    (values : Vector UInt32 n) :
    IgnoresFilter (sendForStatus channel frame values : Act T _) := by
  refine (ignoresFilter_post channel frame).bind fun _ => ?_
  refine (ignoresFilter_awaitAck channel).bind fun acknowledged => ?_
  cases acknowledged with
  | error failure => exact .pure _
  | ok _ => exact (IgnoresFilter.seen _ _).bind fun _ => .pure _

end Exchange

/-! ## Operations of the service -/

variable [Transport T]

/-- **No action of the service looks at the filter**: each does the same under a lower one, but for
the records above it. -/
theorem Performs.ignoresFilter {may : Effect → Prop} {n : Nat} {x : Act T α}
    (h : Performs may n x) : IgnoresFilter x := by
  -- on how the action is built
  induction h with
  | pure a => exact .pure a
  | bind _ _ first rest => exact first.bind rest
  | weaken _ _ ih => exact ih
  | @env _ _ next _ same ih =>
    refine .env_bind ih fun platform core f g => ?_
    exact same ⟨platform, core, g⟩ platform.wait f
  | log level message => exact .log level message
  | isPending channel => exact .seen _ _
  | readCallback channel => exact .seen _ _
  | sendNonBlocking _ => exact (Exchange.ignoresFilter_post _ _).bind fun _ => .pure _
  | send _ => exact Exchange.ignoresFilter_send _ _
  | sendForStatus values _ => exact Exchange.ignoresFilter_sendForStatus _ _ values
  | openChannel _ => exact .seen _ _
  | enableInterrupt _ => exact .seen _ _
  | clearPending _ => exact .seen _ _
  -- the limit for the number comes from the platform
  | registerSgi _ => exact fun _ _ _ _ _ _ => rfl
  | _ => exact .of_silent (fun _ _ _ => rfl) fun _ _ => rfl

/-! ## Runs -/

/-- A report with the records that a filter lets through. -/
def Report.filtered (f : Log.Filter) (r : Report) : Report :=
  { r with logs := f.keep r.logs }

/-- A step with a lower filter `f`, beside the same step with a higher one. The session after it
holds all that the service keeps, and the transport with its memory. -/
structure QuieterStep (f : Log.Filter) (quiet full : Report × Session T) : Prop where
  ending : quiet.1.ending = full.1.ending
  events : quiet.1.events = full.1.events
  session : quiet.2 = full.2
  logs : quiet.1.logs = full.1.logs.filter fun r => r.level.rank ≤ f.rank
  /-- A line is written for each record. -/
  lines : Log.text quiet.1.logs =
    String.join (quiet.1.logs.map fun r => r.level.name ++ ": " ++ r.message ++ "\n")
  /-- These are the lines that a logger writes for all records that is installed with the filter. -/
  written : Log.text quiet.1.logs =
    String.join (full.1.logs.map (Log.Logger.install f .initial).2.write)

omit [Transport T] in
theorem QuieterStep.of_filtered (f : Log.Filter) (next : Report × Session T) :
    QuieterStep f (next.1.filtered f, next.2) next where
  ending := rfl
  events := rfl
  session := rfl
  logs := rfl
  lines := rfl
  written := Log.text_keep (Log.Logger.install f .initial).2 next.1.logs

namespace Session

variable {f g : Log.Filter} (le : f.rank ≤ g.rank) (platform : Platform) (s : Session T)

include le

theorem step_filtered (input : Input T) :
    s.step ⟨platform, f⟩ input =
      ((s.step ⟨platform, g⟩ input).1.filtered f, (s.step ⟨platform, g⟩ input).2) := by
  cases input with
  | outside change | core index => rfl
  | command command =>
    have performed := command.performs_perform.ignoresFilter platform s.core le s.machine
    exact congrArg (fun o => (Report.mk o.ending o.events o.logs, { s with machine := o.machine }))
      performed

/-- **The log only observes.** A run of any inputs is the same for two filters of the log: each
input ends in the same way, with the same answer or the same halt, is seen by the same events, and
leaves the same session. Of the records of each input those are left that are not above the lower
filter, in the same order, and each of them is written to a line of its own, behind its level. -/
theorem log_observes (inputs : List (Input T)) :
    List.Forall₂ (QuieterStep f) (s.run ⟨platform, f⟩ inputs) (s.run ⟨platform, g⟩ inputs) := by
  refine forall₂_run (fun _ _ next => ⟨next.ending, next.session⟩) ?_ s
  rw [List.forall₂_same]
  intro input _ s
  rw [step_filtered le platform s input]
  exact .of_filtered f _

omit le

/-- A setup whose notifier the controller refuses, a call that nobody owns, and a request. -/
def loggedInputs : List (Input Scripted) :=
  [.command .setup, .command (.smc .nonSecure (Service.callerRegisters 0x84000000 0 0)),
    .command .systemOff]

/-- Up to warnings, and with all records: of the setup and of the call one line each is left, of the
request none. -/
theorem log_observes_warnings :
    let platform := Config.oneCore.platform
    let s := Session.start ({ responses := [⟨2001, []⟩] } : Scripted)
    (Log.Filter.upTo .warn).rank ≤ (Log.Filter.upTo .trace).rank ∧
      List.Forall₂ (QuieterStep (.upTo .warn)) (s.run ⟨platform, .upTo .warn⟩ loggedInputs)
        (s.run ⟨platform, .upTo .trace⟩ loggedInputs) ∧
      (s.run ⟨platform, .upTo .warn⟩ loggedInputs).map (fun next => Log.text next.1.logs) =
        ["WARN: Registering CPU idle notifier failed: conflict\n",
          "WARN: Unowned SMC call: 0x84000000 (Fast32 OEN 4)\n", ""] ∧
      (s.run ⟨platform, .upTo .trace⟩ loggedInputs).map (fun next => next.1.logs.length) =
        [3, 1, 1] := by
  intro platform s
  have le : (Log.Filter.upTo .warn).rank ≤ (Log.Filter.upTo .trace).rank := by decide
  exact ⟨le, log_observes le platform s loggedInputs, by decide +kernel, by decide +kernel⟩

end Session

end PowerBridge
