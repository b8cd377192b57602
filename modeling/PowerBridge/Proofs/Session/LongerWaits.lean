import PowerBridge.Proofs.Session.Transactions

/-!
# Waiting longer

A wait ends with the first poll that finds the controller idle. So a policy that allows more polls
than another one makes no difference to a wait that is in time under the other one: there are the
same polls, and nothing is left of them. Whether all waits were in time is seen from outside: each
request that is waited for has triggered the controller once, and a wait in time ends with an idle
poll, one that is not has none.

How long is waited matters to the exchanges of an action alone. If none of its waits expires, an
action does the same under every policy that allows more polls; and an action that does not wait at
all does the same under every policy.

So a bound on waits makes a difference only to runs in which a wait expires. A run in which none
does is the same without a bound, and under every larger one: every command ends in the same way,
with the same answer, the same is seen of it, with as many polls, and the same session is left. The
number of busy polls that is left over from one request to the next is the same, too.

Main statements: `Exchange.sendForStatus_tuned`, `Performs.apply_tuned`, `Command.perform_tuned`,
`Session.run_withWait`.
-/

namespace PowerBridge

open Eemi (Api Frame)
open Link (Channel Scripted)

/-! ## Acknowledgements that are seen -/

/-- Whether the controller is triggered. -/
def Event.isTrigger : Event → Bool
  | .link _ .triggered => true
  | _ => false

/-- Whether a poll finds the controller idle. -/
def Event.isIdlePoll : Event → Bool
  | .link _ (.polled busy) => !busy
  | _ => false

/-- As often as the controller was triggered, a poll has found it idle: no wait has expired. -/
def Acknowledged (events : List Event) : Prop :=
  events.countP Event.isIdlePoll = events.countP Event.isTrigger

instance (events : List Event) : Decidable (Acknowledged events) :=
  inferInstanceAs (Decidable (_ = _))

/-- Where there are never more idle polls than triggers, no wait of a part has expired if none of
the whole has. -/
theorem Acknowledged.of_append {earlier later : List Event}
    (fewer : earlier.countP Event.isIdlePoll ≤ earlier.countP Event.isTrigger)
    (fewer' : later.countP Event.isIdlePoll ≤ later.countP Event.isTrigger)
    (all : Acknowledged (earlier ++ later)) : Acknowledged earlier ∧ Acknowledged later := by
  unfold Acknowledged at all ⊢
  rw [List.countP_append, List.countP_append] at all
  omega

/-! ## Policies -/

/-- A policy that allows at least a number of polls. -/
def WaitPolicy.AtLeast (polls : UInt32) : WaitPolicy → Prop
  | .forever => True
  | .bounded more => polls ≤ more

namespace Exchange

theorem countP_isTrigger_pollEvents (channel : Channel) (answers : List Bool) :
    (pollEvents channel answers).countP Event.isTrigger = 0 := by
  simp [pollEvents, Event.isTrigger]

theorem countP_isIdlePoll_pollEvents (channel : Channel) (answers : List Bool) :
    (pollEvents channel answers).countP Event.isIdlePoll = answers.count false := by
  induction answers with
  | nil => rfl
  | cons busy rest ih =>
    rw [pollEvents, List.map_cons, List.countP_cons, List.count_cons]
    cases busy <;> exact congrArg (· + _) ih

variable (channel : Channel) (frame : Frame) (env : Env) (m : Machine Scripted)

/-- A wait ends with an idle poll if it is in time, and has none otherwise. -/
theorem countP_isIdlePoll_waitEvents :
    (waitEvents channel env m).countP Event.isIdlePoll = if InTime env m then 1 else 0 := by
  rw [waitEvents, countP_isIdlePoll_pollEvents]
  by_cases inTime : InTime env m
  · rw [if_pos inTime, pollAnswers_of_lt inTime]
    simp [List.count_replicate]
  · rw [if_neg inTime, pollAnswers_of_le (Nat.not_lt.1 inTime)]
    simp [List.count_replicate]

/-- What is seen of a request that is waited for. -/
def waited : List Event :=
  postEvents channel frame ++ waitEvents channel env m

theorem countP_isTrigger_waited :
    (waited channel frame env m).countP Event.isTrigger = 1 := by
  rw [waited, List.countP_append, waitEvents, countP_isTrigger_pollEvents]
  rfl

theorem countP_isIdlePoll_waited :
    (waited channel frame env m).countP Event.isIdlePoll = if InTime env m then 1 else 0 := by
  rw [waited, List.countP_append, countP_isIdlePoll_waitEvents]
  exact Nat.zero_add _

/-- The idle poll tells whether a wait was in time. -/
theorem acknowledged_waited_iff :
    Acknowledged (waited channel frame env m) ↔ InTime env m := by
  rw [Acknowledged, countP_isIdlePoll_waited, countP_isTrigger_waited]
  by_cases inTime : InTime env m
  · simp [inTime]
  · simp [inTime]

/-! ## Waits under another policy -/

variable {env m} {polls : UInt32} {wait : WaitPolicy}
  (bound : env.platform.wait = .bounded polls) (longer : wait.AtLeast polls)
  (inTime : InTime env m)

include bound longer inTime

theorem inTime_tuned : InTime (env.tuned wait env.filter) m := by
  rw [InTime, bound] at inTime
  cases wait with
  | forever => exact Nat.lt_add_one _
  | bounded more => exact Nat.lt_of_lt_of_le inTime longer

theorem afterWait_tuned : afterWait (env.tuned wait env.filter) m = afterWait env m := by
  have used := Nat.sub_eq_zero_of_le (Nat.le_of_lt inTime)
  have used' := Nat.sub_eq_zero_of_le (Nat.le_of_lt (inTime_tuned bound longer inTime))
  -- under either policy no busy poll is left
  rw [afterWait, afterWait, afterPolls, afterPolls, used, used']

theorem waitEvents_tuned :
    waitEvents channel (env.tuned wait env.filter) m = waitEvents channel env m := by
  rw [waitEvents, waitEvents, pollAnswers_of_lt inTime,
    pollAnswers_of_lt (inTime_tuned bound longer inTime)]

/-- **A request that is acknowledged in time is sent in the same way under a longer policy.** -/
theorem send_tuned :
    send channel frame (env.tuned wait env.filter) m = send channel frame env m := by
  rw [send_apply, send_apply, if_pos inTime, if_pos (inTime_tuned bound longer inTime),
    afterWait_tuned bound longer inTime, waitEvents_tuned channel bound longer inTime]
  rfl

theorem sendForStatus_tuned {n : Nat} (values : Vector UInt32 n) :
    sendForStatus channel frame values (env.tuned wait env.filter) m =
      sendForStatus channel frame values env m := by
  rw [sendForStatus_apply, sendForStatus_apply, if_pos inTime,
    if_pos (inTime_tuned bound longer inTime), afterWait_tuned bound longer inTime,
    waitEvents_tuned channel bound longer inTime]
  rfl

end Exchange

/-! ## Acknowledgements of a footprint -/

section Footprints

variable {α : Type} {may : Effect → Prop} {n : Nat} {x : Act Scripted α}

/-- There are never more idle polls than triggers, since an idle poll ends a wait. -/
theorem Performs.countP_isIdlePoll_le (h : Performs may n x) (env : Env) (m : Machine Scripted) :
    (x env m).events.countP Event.isIdlePoll ≤ (x env m).events.countP Event.isTrigger := by
  have waited (channel : Channel) (frame : Frame) (env : Env) (m : Machine Scripted) :
      (Exchange.waited channel frame env m).countP Event.isIdlePoll ≤
        (Exchange.waited channel frame env m).countP Event.isTrigger := by
    rw [Exchange.countP_isIdlePoll_waited, Exchange.countP_isTrigger_waited]
    split <;> decide
  induction h generalizing m with
  | bind _ _ first rest =>
    rename_i x f _ _
    have earlier := first m
    rw [Act.bind_apply]
    rcases h : x env m with ⟨ending, m', events, logs⟩
    rw [h] at earlier
    cases ending with
    | error why => exact earlier
    | ok a =>
      rw [Outcome.andThen_ok, List.countP_append, List.countP_append]
      exact Nat.add_le_add earlier (rest a m')
  | weaken _ _ ih => exact ih m
  | env _ _ ih => exact ih env m
  | sendNonBlocking _ =>
    rw [Exchange.sendNonBlocking_apply]
    exact Nat.zero_le 1
  | send _ =>
    rw [Exchange.send_apply]
    exact waited _ _ env m
  | @sendForStatus words channel frame values _ =>
    rw [Exchange.sendForStatus_apply]
    split
    · -- reading the response adds neither
      change (Exchange.waited channel frame env m ++ [_]).countP _ ≤
        (Exchange.waited channel frame env m ++ [_]).countP _
      rw [List.countP_append, List.countP_append]
      exact Nat.add_le_add (waited channel frame env m) (Nat.le_refl 0)
    · exact waited channel frame env m
  | openChannel _ =>
    rw [Act.openChannel, Act.emit_bind, Act.events_transport]
    exact Nat.le_refl 0
  | _ => exact Nat.le_refl 0

/-! ## Actions under another policy -/

/-- **An action whose waits are all in time does the same under a longer policy**: the same is seen
of it, with as many polls, and it ends in the same way and leaves the same machine. -/
theorem Performs.apply_tuned (h : Performs may n x) {env : Env} {polls : UInt32}
    (bound : env.platform.wait = .bounded polls) {wait : WaitPolicy} (longer : wait.AtLeast polls)
    {m : Machine Scripted}
    (settled : (∀ awaited channel frame, may (.exchanged awaited channel frame) →
        awaited = .nothing) ∨ Acknowledged (x env m).events) :
    x (env.tuned wait env.filter) m = x env m := by
  -- on how the action is built: both parts of a sequence are acknowledged, since neither has more
  -- idle polls than triggers
  induction h generalizing m with
  | @bind _ _ _ _ x f firstPart laterPart first rest =>
    have fewer := firstPart.countP_isIdlePoll_le env m
    rw [Act.bind_apply] at settled ⊢
    rw [Act.bind_apply]
    rcases h : x env m with ⟨ending, m', events, logs⟩
    rw [h] at settled fewer
    cases ending with
    | error why =>
      rw [first (settled.imp_right fun all => by rwa [h]), h]
      rfl
    | ok a =>
      have fewer' := (laterPart a).countP_isIdlePoll_le env m'
      rw [Outcome.andThen_ok] at settled
      have parts (all : Acknowledged (events ++ (f a env m').events)) :=
        all.of_append fewer fewer'
      rw [first (settled.imp_right fun all => by rw [h]; exact (parts all).1), h,
        Outcome.andThen_ok, Outcome.andThen_ok, rest a (settled.imp_right fun all => (parts all).2)]
  | weaken _ _ ih => exact ih settled
  | @env _ _ f _ same ih =>
    -- what the action makes of its environment does not depend on the policy
    have looked : f (env.tuned wait env.filter) = f env := same env wait env.filter
    rw [Act.env_bind, looked]
    exact ih env settled
  | @send channel frame allowed =>
    rcases settled with nothing | all
    · cases nothing _ _ _ allowed
    · rw [Exchange.send_apply] at all
      have inTime := (Exchange.acknowledged_waited_iff channel frame env m).1 all
      exact Exchange.send_tuned channel frame bound longer inTime
  | @sendForStatus words channel frame values allowed =>
    rcases settled with nothing | all
    · cases nothing _ _ _ allowed
    · by_cases inTime : Exchange.InTime env m
      · exact Exchange.sendForStatus_tuned channel frame bound longer inTime values
      · rw [Exchange.sendForStatus_apply, if_neg inTime] at all
        exact absurd ((Exchange.acknowledged_waited_iff channel frame env m).1 all) inTime
  | _ => rfl

end Footprints

/-! ## Commands -/

/-- The commands that do not wait for the controller. -/
def Command.NeverWaits : Command → Prop
  | .send mode .. => mode = .nonBlocking
  | command => command.ShutsDown

theorem Service.Call.shutsDown_ofRegisters {api : Api} {x : Smc.CallerRegisters}
    (shutdown : api = .systemShutdown) : (Call.ofRegisters api x).ShutsDown := by
  cases shutdown
  exact ⟨_, _, rfl⟩

/-- The exchanges of such a command are not waited for. -/
theorem Command.nothing_of_neverWaits {command : Command} (never : command.NeverWaits)
    {awaited : Awaited} {channel : Channel} {frame : Frame}
    (allowed : command.Allows (.exchanged awaited channel frame)) : awaited = .nothing := by
  cases command with
  | smc world x | serviceSmc world x =>
    obtain ⟨api, number, exchanges⟩ := allowed
    have shutdown : api.code = Api.systemShutdown.code := number.symm.trans never
    exact exchanges.nothingElse
      (Service.Call.shutsDown_ofRegisters (Api.code_injective api .systemShutdown shutdown))
  | call world c => exact (show c.Exchanges world awaited frame from allowed).nothingElse never
  | systemOff | systemReset => exact allowed.1
  | send mode channel header args values => exact allowed.2.2 never
  | _ => exact never.elim

/-- **A command does the same under a longer policy**, if it does not wait or no wait of it
expires. -/
theorem Command.perform_tuned (command : Command) {env : Env} {polls : UInt32}
    (bound : env.platform.wait = .bounded polls) {wait : WaitPolicy} (longer : wait.AtLeast polls)
    {m : Machine Scripted}
    (inTime : ¬ command.NeverWaits → Acknowledged (command.perform env m).events) :
    command.perform (env.tuned wait env.filter) m = command.perform env m := by
  refine command.performs_perform.apply_tuned bound longer ?_
  by_cases never : command.NeverWaits
  · exact .inl fun _ _ _ allowed => Command.nothing_of_neverWaits never allowed
  · exact .inr (inTime never)

/-! ## Runs -/

/-- A configuration with another policy of waiting. -/
def Config.withWait (config : Config) (wait : WaitPolicy) : Config :=
  { config with platform := { config.platform with wait } }

/-- No wait of a transition expires: its command does not wait, or every trigger is acknowledged. -/
def Transition.WaitsInTime (t : Transition Scripted) : Prop :=
  match t.input with
  | .outside _ | .core _ => True
  | .command command => command.NeverWaits ∨ Acknowledged t.report.events

namespace Session

variable {config : Config} {s : Session Scripted} {polls : UInt32} {wait : WaitPolicy}
  (bound : config.platform.wait = .bounded polls) (longer : wait.AtLeast polls)

include bound longer

/-- One step is the same under a longer policy. -/
theorem step_withWait {input : Input Scripted}
    (inTime : Transition.WaitsInTime
      { before := s, input, report := (s.step config input).1, after := (s.step config input).2 }) :
    s.step (config.withWait wait) input = s.step config input := by
  cases input with
  | outside change | core index => rfl
  | command command =>
    have performed : command.perform ((s.env config).tuned wait config.filter) s.machine =
        command.perform (s.env config) s.machine := by
      refine command.perform_tuned bound longer fun waits => ?_
      exact inTime.resolve_left waits
    exact congrArg (fun o => (Report.mk o.ending o.events o.logs, { s with machine := o.machine }))
      performed

/-- **Bounding the wait only adds timeouts**: a run in which no wait expires is the same under every
policy that allows at least as many polls. -/
theorem run_withWait {inputs : List (Input Scripted)}
    (inTime : ∀ t ∈ s.history config inputs, t.WaitsInTime) :
    s.run (config.withWait wait) inputs = s.run config inputs := by
  -- on the inputs: the first step leaves the same session, from which the rest goes on
  induction inputs generalizing s with
  | nil => rfl
  | cons input rest ih =>
    rw [history, List.forall_mem_cons] at inTime
    rw [run, run, step_withWait bound longer inTime.1]
    by_cases goesOn : (s.step config input).1.continues = true
    · rw [if_pos goesOn] at inTime
      rw [if_pos goesOn, if_pos goesOn, ih inTime.2]
    · rw [if_neg goesOn, if_neg goesOn]

omit bound longer

/-- A platform that allows three polls. -/
def threePolls : Config := Config.oneCore.withWait (.bounded 3)

/-- A setup and a request, each acknowledged by the third poll, and a reset in between, which is not
waited for. -/
def lastPollInputs : List (Input Scripted) :=
  [.command .setup, .outside (Scripted.stayBusy 2), .command .systemReset,
    .command (.call .nonSecure .getApiVersion)]

theorem waitsInTime_lastPollInputs :
    ∀ t ∈ (start { busyPolls := 2 }).history threePolls lastPollInputs, t.WaitsInTime := by
  intro t taken
  rcases List.mem_cons.1 taken with rfl | taken
  · exact .inr (by decide +kernel)
  rcases List.mem_cons.1 taken with rfl | taken
  · trivial
  rcases List.mem_cons.1 taken with rfl | taken
  · exact .inl trivial
  rcases List.mem_cons.1 taken with rfl | taken
  · exact .inr (by decide +kernel)
  · cases taken

/-- Without a bound the run is the same, and with a bound of seven. -/
theorem run_withWait_of_lastPoll :
    (start { busyPolls := 2 }).run (threePolls.withWait .forever) lastPollInputs =
        (start { busyPolls := 2 }).run threePolls lastPollInputs ∧
      (start { busyPolls := 2 }).run (threePolls.withWait (.bounded 7)) lastPollInputs =
        (start { busyPolls := 2 }).run threePolls lastPollInputs := by
  have forever : WaitPolicy.AtLeast 3 .forever := trivial
  have seven : WaitPolicy.AtLeast 3 (.bounded 7) := show (3 : UInt32) ≤ 7 by decide
  exact ⟨run_withWait rfl forever waitsInTime_lastPollInputs,
    run_withWait rfl seven waitsInTime_lastPollInputs⟩

end Session

end PowerBridge
