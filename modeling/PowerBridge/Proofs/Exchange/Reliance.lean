import PowerBridge.Proofs.Exchange.Polls
import PowerBridge.Proofs.Link.Reliable

/-!
# Exchanges over transports that can be relied on

Over a transport that can be relied on an exchange ends, and is seen like one over a script: for
some number of polls the controller is busy, and the policy of the platform decides what comes of
that. So whatever a transport answers, an exchange has one of the transcripts that a policy allows.

Main statement: `exists_request`.
-/

namespace PowerBridge.Exchange

open Eemi (Failure Frame)
open Link (Channel Reliable Transport)

variable {T : Type} [Transport T] {env : Env} {used : Channel → Prop} {I : T → Prop}
  (rely : Reliable env.platform.wait used I) {channel : Channel} (uses : used channel)

include rely uses

/-- A wait without a bound allows one poll more than it takes the transport to settle. That is more
than there are busy ones. -/
theorem exists_pollUntilIdle (polls : Nat) (m : Machine T) (inv : I m.transport) :
    ∃ busy t, I t ∧
      (env.platform.wait = .forever → Transport.settled m.transport < polls → busy < polls) ∧
      pollUntilIdle channel polls env m =
        ⟨.ok (decide (busy < polls)), { m with transport := t },
          pollEvents channel (pollAnswers busy polls), []⟩ := by
  -- on the polls that are allowed; a busy one leaves one poll less, and less to settle
  induction polls generalizing m with
  | zero => exact ⟨0, m.transport, inv, fun _ less => absurd less (Nat.not_lt_zero _), rfl⟩
  | succ polls ih =>
    obtain ⟨answer, t, polled, kept, nearer⟩ := rely.isBusy uses m.transport inv
    rw [pollUntilIdle, Act.bind_of_ok (Act.isBusy_of_ok env polled)]
    cases answer with
    | false =>
      refine ⟨0, t, kept, fun _ _ => Nat.succ_pos polls, ?_⟩
      rw [pollAnswers_idle]
      rfl
    | true =>
      obtain ⟨busy, t', kept', enough, waited⟩ := ih { m with transport := t } kept
      refine ⟨busy + 1, t', kept', fun forever less => ?_, ?_⟩
      · have settles := nearer forever rfl
        exact Nat.succ_lt_succ (enough forever (Nat.lt_of_lt_of_le settles (Nat.lt_succ_iff.1 less)))
      · simp only [if_true, waited, pollAnswers_busy, Nat.add_lt_add_iff_right]
        rfl

/-- A wait ends: in time, or when the polls of a bounded one are used up. -/
theorem exists_awaitAck (m : Machine T) (inv : I m.transport) :
    ∃ busy t, I t ∧ awaitAck channel env m =
      ⟨.ok (if env.platform.wait.Allows busy then .ok () else .error .timeout),
        { m with transport := t }, pollEvents channel (env.platform.wait.answers busy), []⟩ := by
  rw [awaitAck, Act.env_bind]
  cases policy : env.platform.wait with
  | forever =>
    obtain ⟨busy, t, kept, enough, waited⟩ :=
      exists_pollUntilIdle rely uses (Transport.settled m.transport + 1) m inv
    have inTime := enough policy (Nat.lt_add_one _)
    refine ⟨busy, t, kept, ?_⟩
    have answers : WaitPolicy.forever.answers busy = List.replicate busy true ++ [false] :=
      if_pos trivial
    simp only [Act.machine_bind]
    rw [Act.bind_of_ok waited, pollAnswers_of_lt inTime, answers, decide_eq_true inTime,
      if_pos (show WaitPolicy.forever.Allows busy from trivial)]
    simp only [if_true, Act.pure_apply, List.append_nil]
  | bounded polls =>
    obtain ⟨busy, t, kept, -, waited⟩ := exists_pollUntilIdle rely uses polls.toNat m inv
    refine ⟨busy, t, kept, ?_⟩
    have answers : pollAnswers busy polls.toNat = (WaitPolicy.bounded polls).answers busy :=
      WaitPolicy.pollAnswers_eq busy (.bounded polls)
    dsimp only
    rw [Act.bind_of_ok waited, answers]
    by_cases inTime : (WaitPolicy.bounded polls).Allows busy
    · rw [if_pos inTime, decide_eq_true (show busy < polls.toNat from inTime)]
      simp only [if_true, Act.pure_apply, List.append_nil]
    · rw [if_neg inTime, decide_eq_false (show ¬ busy < polls.toNat from inTime)]
      simp only [Bool.false_eq_true, if_false, Act.pure_apply, List.append_nil]

theorem exists_post (frame : Frame) (m : Machine T) (inv : I m.transport) :
    ∃ t, I t ∧ post channel frame env m =
      ⟨.ok (), { m with transport := t }, postEvents channel frame,
        env.filter.keep [requestRecord frame]⟩ := by
  obtain ⟨written, wrote, kept⟩ := rely.writeRequest uses frame.words m.transport inv
  obtain ⟨triggered, trigger, kept'⟩ := rely.trigger uses written kept
  exact ⟨triggered, kept', post_of_ok wrote trigger env⟩

/-- A response is read if the wait was in time, and not otherwise. -/
theorem exists_sendForStatus {n : Nat} (frame : Frame) (values : Vector UInt32 n) (m : Machine T)
    (inv : I m.transport) :
    ∃ busy t status read, I t ∧ sendForStatus channel frame values env m =
      ⟨.ok (status, read), { m with transport := t },
        transcript channel frame.words (env.platform.wait.answers busy)
          (if env.platform.wait.Allows busy then some n else none),
        env.filter.keep [requestRecord frame]⟩ := by
  obtain ⟨posted, kept, sent⟩ := exists_post rely uses frame m inv
  obtain ⟨busy, t, kept', waited⟩ :=
    exists_awaitAck rely uses { m with transport := posted } kept
  rw [sendForStatus, Act.bind_of_ok sent, Act.bind_of_ok waited]
  by_cases inTime : env.platform.wait.Allows busy
  · obtain ⟨⟨status, read⟩, t', response, kept''⟩ := rely.readResponse uses values t kept'
    have answered : Act.readResponse channel values env { m with transport := t } = _ :=
      Act.seen_of_ok (.link channel (.responseRead n)) env response
    refine ⟨busy, t', .ok status, read, kept'', ?_⟩
    simp only [if_pos inTime]
    rw [Act.bind_of_ok answered]
    simp only [Act.pure_apply, List.append_nil, transcript, List.append_assoc]
    rfl
  · refine ⟨busy, t, .error .timeout, values, kept', ?_⟩
    simp only [if_neg inTime, Act.pure_apply, List.append_nil]
    exact congrArg (Outcome.mk _ _ · _) (List.append_nil _).symm

/-- **A request ends with a reply, and has a transcript that the policy allows.** -/
theorem exists_request (n : Nat) (frame : Frame) (m : Machine T) (inv : I m.transport) :
    ∃ busy t reply, I t ∧ request n channel frame env m =
      ⟨.ok reply, { m with transport := t },
        transcript channel frame.words (env.platform.wait.answers busy)
          (if env.platform.wait.Allows busy then some n else none),
        env.filter.keep [requestRecord frame]⟩ := by
  obtain ⟨busy, t, status, read, kept, sent⟩ :=
    exists_sendForStatus rely uses frame (Vector.replicate n 0) m inv
  refine ⟨busy, t, (status.bind Failure.check).map fun () => read, kept, ?_⟩
  rw [request, sendForAnswer, bind_assoc, Act.bind_of_ok sent]
  simp only [Act.pure_apply, pure_bind, List.append_nil]

end PowerBridge.Exchange
