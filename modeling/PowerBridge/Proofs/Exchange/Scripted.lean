import PowerBridge.Exchange
import PowerBridge.Link.Scripted
import PowerBridge.Proofs.Machine.Sequences

/-!
# Exchanges over a scripted transport

A script says beforehand for how many polls the controller is busy and what it responds. So it can
be said what an exchange comes to: what is seen of it, how it ends, and what is left of the script.

A wait is a run of busy polls, which an idle one ends unless the policy has run out of polls before.
If the wait is in time the next response is taken; otherwise the script keeps its responses.

Main statements: `awaitAck_apply`, `sendForStatus_apply`, `request_apply`, one equation for each way
of sending.
-/

namespace PowerBridge

open Eemi (Failure Frame)
open Link (Channel Response Scripted Transport)

/-! ## Waiting -/

/-- How many polls a policy allows in a wait that begins with this many busy ones. A wait without a
bound needs one poll more than there are busy ones. -/
def WaitPolicy.allowedPolls (busy : Nat) : WaitPolicy → Nat
  | .forever => busy + 1
  | .bounded polls => polls.toNat

namespace Exchange

/-- The answers to polls of a controller that is busy for some time: as many as are allowed. -/
def pollAnswers (busy allowed : Nat) : List Bool :=
  (List.replicate busy true ++ [false]).take allowed

theorem pollAnswers_zero (busy : Nat) : pollAnswers busy 0 = [] := by
  rw [pollAnswers, List.take_zero]

theorem pollAnswers_idle (allowed : Nat) : pollAnswers 0 (allowed + 1) = [false] := by
  simp [pollAnswers]

theorem pollAnswers_busy (busy allowed : Nat) :
    pollAnswers (busy + 1) (allowed + 1) = true :: pollAnswers busy allowed := by
  simp [pollAnswers, List.replicate_succ]

/-- In time, the polls are all the busy ones and an idle one. -/
theorem pollAnswers_of_lt {busy allowed : Nat} (inTime : busy < allowed) :
    pollAnswers busy allowed = List.replicate busy true ++ [false] := by
  apply List.take_of_length_le
  rw [List.length_append, List.length_replicate, List.length_singleton]
  omega

/-- Out of time, the polls are busy ones only. -/
theorem pollAnswers_of_le {busy allowed : Nat} (late : allowed ≤ busy) :
    pollAnswers busy allowed = List.replicate allowed true := by
  rw [pollAnswers, List.take_append_of_le_length (by rwa [List.length_replicate]),
    List.take_replicate, Nat.min_eq_left late]

/-- The script after some polls. -/
def afterPolls (polls : Nat) (m : Machine Scripted) : Machine Scripted :=
  { m with transport := { m.transport with busyPolls := m.transport.busyPolls - polls } }

/-- The polls of a wait as they are seen. -/
def pollEvents (channel : Channel) (answers : List Bool) : List Event :=
  answers.map fun busy => .link channel (.polled busy)

theorem isBusy_apply (channel : Channel) (env : Env) (m : Machine Scripted) :
    Act.isBusy channel env m =
      ⟨.ok m.transport.poll.1, { m with transport := m.transport.poll.2 },
        [.link channel (.polled m.transport.poll.1)], []⟩ :=
  Act.isBusy_of_ok env rfl

theorem pollUntilIdle_apply (channel : Channel) (allowed : Nat) (env : Env)
    (m : Machine Scripted) :
    pollUntilIdle channel allowed env m =
      ⟨.ok (decide (m.transport.busyPolls < allowed)), afterPolls allowed m,
        pollEvents channel (pollAnswers m.transport.busyPolls allowed), []⟩ := by
  -- on the polls that are allowed; every poll changes the script, so for all machines at once
  induction allowed generalizing m with
  | zero =>
    rw [pollAnswers_zero]
    simp only [pollUntilIdle, afterPolls, Nat.not_lt_zero, decide_false]
    rfl
  | succ allowed ih =>
    rw [pollUntilIdle, Act.bind_of_ok (isBusy_apply channel env m)]
    rcases m with ⟨⟨responses, busyPolls, callback, openError⟩, up, scope, sgi⟩
    cases busyPolls with
    | zero =>
      -- the first poll finds the controller idle
      simp only [pollAnswers_idle, afterPolls, Nat.zero_sub]
      rfl
    | succ busy =>
      -- a busy poll takes one off the script, and one of those that are allowed
      simp only [Scripted.poll, Nat.add_one_ne_zero, if_false, if_true, Nat.add_sub_cancel, ih,
        pollAnswers_busy, afterPolls, Nat.add_sub_add_right, Nat.add_lt_add_iff_right]
      rfl

/-- Whether the controller acknowledges within the time that the platform allows. -/
def InTime (env : Env) (m : Machine Scripted) : Prop :=
  m.transport.busyPolls < env.platform.wait.allowedPolls m.transport.busyPolls

instance (env : Env) (m : Machine Scripted) : Decidable (InTime env m) :=
  inferInstanceAs (Decidable (_ < _))

/-- The machine after a wait. -/
def afterWait (env : Env) (m : Machine Scripted) : Machine Scripted :=
  afterPolls (env.platform.wait.allowedPolls m.transport.busyPolls) m

/-- What is seen of a wait. -/
def waitEvents (channel : Channel) (env : Env) (m : Machine Scripted) : List Event :=
  pollEvents channel
    (pollAnswers m.transport.busyPolls (env.platform.wait.allowedPolls m.transport.busyPolls))

theorem awaitAck_of_forever (channel : Channel) {env : Env} (m : Machine Scripted)
    (policy : env.platform.wait = .forever) :
    awaitAck channel env m = ⟨.ok (.ok ()), afterWait env m, waitEvents channel env m, []⟩ := by
  have settled : Link.Transport.settled m.transport = m.transport.busyPolls := rfl
  have polled := pollUntilIdle_apply channel (m.transport.busyPolls + 1) env m
  rw [awaitAck, Act.env_bind]
  simp only [policy, afterWait, waitEvents, WaitPolicy.allowedPolls, Act.machine_bind, settled]
  -- one poll more than there are busy ones is enough, so that the wait does not stall
  rw [Act.bind_of_ok polled, decide_eq_true (Nat.lt_add_one _)]
  simp only [if_true, Act.pure_apply, List.append_nil]

theorem awaitAck_of_bounded (channel : Channel) {env : Env} (m : Machine Scripted)
    {polls : UInt32} (policy : env.platform.wait = .bounded polls) :
    awaitAck channel env m =
      ⟨.ok (if m.transport.busyPolls < polls.toNat then .ok () else .error .timeout),
        afterWait env m, waitEvents channel env m, []⟩ := by
  have polled := pollUntilIdle_apply channel polls.toNat env m
  rw [awaitAck, Act.env_bind]
  simp only [policy, afterWait, waitEvents, WaitPolicy.allowedPolls]
  rw [Act.bind_of_ok polled]
  by_cases inTime : m.transport.busyPolls < polls.toNat
  · simp only [inTime, decide_true, if_true, Act.pure_apply, List.append_nil]
  · simp only [inTime, decide_false, Bool.false_eq_true, if_false, Act.pure_apply,
      List.append_nil]

/-- A wait without a bound is always in time: a script is busy for finitely many polls. -/
theorem awaitAck_apply (channel : Channel) (env : Env) (m : Machine Scripted) :
    awaitAck channel env m =
      ⟨.ok (if InTime env m then .ok () else .error .timeout), afterWait env m,
        waitEvents channel env m, []⟩ := by
  match policy : env.platform.wait with
  | .forever =>
    have inTime : InTime env m := by
      rw [InTime, policy]
      exact Nat.lt_add_one _
    rw [awaitAck_of_forever channel m policy, if_pos inTime]
  | .bounded polls =>
    have inTime : InTime env m ↔ m.transport.busyPolls < polls.toNat := by
      rw [InTime, policy]
      rfl
    simp only [awaitAck_of_bounded channel m policy, inTime]

/-! ## Posting -/

/-- The record of a request in the log. -/
def requestRecord (frame : Frame) : Log.Record :=
  { level := .trace
    message := s!"IPI request {frame.header.describe}" }

/-- What is seen of a request that is posted. -/
def postEvents (channel : Channel) (frame : Frame) : List Event :=
  [.link channel (.requestWritten frame.words), .link channel .triggered]

/-- What comes of posting a request over a transport that takes the frame, and then the trigger. -/
theorem post_of_ok {T : Type} [Transport T] {channel : Channel} {frame : Frame} {m : Machine T}
    {written triggered : T}
    (wrote : Transport.writeRequest channel frame.words m.transport = .ok written)
    (trigger : Transport.trigger channel written = .ok triggered) (env : Env) :
    post channel frame env m =
      ⟨.ok (), { m with transport := triggered }, postEvents channel frame,
        env.filter.keep [requestRecord frame]⟩ := by
  rw [post, Act.log_bind, Act.writeRequest, Act.bind_of_ok (Act.writing_of_ok _ env wrote),
    Act.trigger, Act.writing_of_ok _ env trigger]
  simp only [List.append_nil]
  rfl

theorem post_apply (channel : Channel) (frame : Frame) (env : Env) (m : Machine Scripted) :
    post channel frame env m =
      ⟨.ok (), m, postEvents channel frame, env.filter.keep [requestRecord frame]⟩ :=
  post_of_ok rfl rfl env

theorem sendNonBlocking_apply (channel : Channel) (frame : Frame) (env : Env)
    (m : Machine Scripted) :
    sendNonBlocking channel frame env m =
      ⟨.ok (.ok ()), m, postEvents channel frame, env.filter.keep [requestRecord frame]⟩ := by
  rw [sendNonBlocking, Act.bind_of_ok (post_apply channel frame env m)]
  simp only [Act.pure_apply, List.append_nil]

theorem send_apply (channel : Channel) (frame : Frame) (env : Env) (m : Machine Scripted) :
    send channel frame env m =
      ⟨.ok (if InTime env m then .ok () else .error .timeout), afterWait env m,
        postEvents channel frame ++ waitEvents channel env m,
        env.filter.keep [requestRecord frame]⟩ := by
  rw [send, Act.bind_of_ok (post_apply channel frame env m), awaitAck_apply]
  simp only [List.append_nil]

/-! ## Reading the response -/

/-- The response that is handed out next. -/
def nextResponse (m : Machine Scripted) : Response :=
  m.transport.responses.headD .zero

/-- The machine after its next response has been taken. -/
def afterResponse (m : Machine Scripted) : Machine Scripted :=
  { m with transport := { m.transport with responses := m.transport.responses.tail } }

theorem readResponse_apply {n : Nat} (channel : Channel) (values : Vector UInt32 n) (env : Env)
    (m : Machine Scripted) :
    Act.readResponse channel values env m =
      ⟨.ok ((nextResponse m).status, (nextResponse m).fill n), afterResponse m,
        [.link channel (.responseRead n)], []⟩ := by
  rcases m with ⟨⟨responses, busyPolls, callback, openError⟩, up, scope, sgi⟩
  cases responses <;> rfl

theorem sendForStatus_apply {n : Nat} (channel : Channel) (frame : Frame)
    (values : Vector UInt32 n) (env : Env) (m : Machine Scripted) :
    sendForStatus channel frame values env m =
      if InTime env m then
        ⟨.ok (.ok (nextResponse m).status, (nextResponse m).fill n),
          afterResponse (afterWait env m),
          postEvents channel frame ++ waitEvents channel env m ++ [.link channel (.responseRead n)],
          env.filter.keep [requestRecord frame]⟩
      else
        ⟨.ok (.error .timeout, values), afterWait env m,
          postEvents channel frame ++ waitEvents channel env m,
          env.filter.keep [requestRecord frame]⟩ := by
  rw [sendForStatus, Act.bind_of_ok (post_apply channel frame env m),
    Act.bind_of_ok (awaitAck_apply channel env m)]
  -- a response is read only if the wait was in time
  by_cases inTime : InTime env m
  · simp only [inTime, if_true]
    rw [Act.bind_of_ok (readResponse_apply channel values env (afterWait env m))]
    simp only [Act.pure_apply, List.append_nil, List.append_assoc]
    rfl
  · simp only [inTime, if_false, Act.pure_apply, List.append_nil]

theorem sendForAnswer_apply {n : Nat} (channel : Channel) (frame : Frame)
    (values : Vector UInt32 n) (env : Env) (m : Machine Scripted) :
    sendForAnswer channel frame values env m =
      if InTime env m then
        ⟨.ok (Failure.check (nextResponse m).status, (nextResponse m).fill n),
          afterResponse (afterWait env m),
          postEvents channel frame ++ waitEvents channel env m ++ [.link channel (.responseRead n)],
          env.filter.keep [requestRecord frame]⟩
      else
        ⟨.ok (.error .timeout, values), afterWait env m,
          postEvents channel frame ++ waitEvents channel env m,
          env.filter.keep [requestRecord frame]⟩ := by
  rw [sendForAnswer, Act.bind_apply, sendForStatus_apply]
  by_cases inTime : InTime env m
  · simp only [inTime, if_true, Outcome.andThen_ok, Act.pure_apply, List.append_nil, Except.bind]
  · simp only [inTime, if_false, Outcome.andThen_ok, Act.pure_apply, List.append_nil, Except.bind]

theorem request_apply (n : Nat) (channel : Channel) (frame : Frame) (env : Env)
    (m : Machine Scripted) :
    request n channel frame env m =
      if InTime env m then
        ⟨.ok ((Failure.check (nextResponse m).status).map fun () => (nextResponse m).fill n),
          afterResponse (afterWait env m),
          postEvents channel frame ++ waitEvents channel env m ++ [.link channel (.responseRead n)],
          env.filter.keep [requestRecord frame]⟩
      else
        ⟨.ok (.error .timeout), afterWait env m,
          postEvents channel frame ++ waitEvents channel env m,
          env.filter.keep [requestRecord frame]⟩ := by
  rw [request, Act.bind_apply, sendForAnswer_apply]
  by_cases inTime : InTime env m
  · simp only [inTime, if_true, Outcome.andThen_ok, Act.pure_apply, List.append_nil]
  · simp only [inTime, if_false, Outcome.andThen_ok, Act.pure_apply, List.append_nil, Except.map]

/-! ## Answers -/

/-- What a request for `n` words gives. -/
def answer (n : Nat) (env : Env) (m : Machine Scripted) : Eemi.Reply n :=
  if InTime env m then
    (Failure.check (nextResponse m).status).map fun () => (nextResponse m).fill n
  else .error .timeout

theorem ending_request (n : Nat) (channel : Channel) (frame : Frame) (env : Env)
    (m : Machine Scripted) :
    (request n channel frame env m).ending = .ok (answer n env m) := by
  rw [request_apply, answer]
  split <;> rfl

end Exchange

end PowerBridge
