import PowerBridge.Proofs.Exchange.Scripted

/-!
# How exchanges wait, poll by poll

Over a script it is known how many polls find the controller busy. So each way of sending can be
told exactly: what is seen of it, how it ends, what becomes of the caller's values, and what is left
of the script. The number of polls is the only thing that the policy of the platform decides.

A bounded wait ends with a busy poll, and expires, if there are at least as many busy polls as it
allows. What it has polled is used up, so that a later wait begins with fewer busy polls.

Main statement: `Exchange.exchanges_exact`.
-/

namespace PowerBridge

open Eemi (Failure Frame frameWords)
open Link (Channel Response Scripted)

/-! ## Waits under a policy -/

namespace WaitPolicy

/-- A controller that is busy for this many polls acknowledges in time. -/
def Allows (busy : Nat) : WaitPolicy → Prop
  | .forever => True
  | .bounded polls => busy < polls.toNat

instance (busy : Nat) : DecidablePred (Allows busy)
  | .forever => inferInstanceAs (Decidable True)
  | .bounded polls => inferInstanceAs (Decidable (busy < polls.toNat))

/-- How often a controller is polled that is busy for this many polls. -/
def polls (busy : Nat) : WaitPolicy → Nat
  | .forever => busy + 1
  | .bounded polls => min (busy + 1) polls.toNat

/-- How many busy polls are left after a wait that began with this many. -/
def busyLeft (busy : Nat) : WaitPolicy → Nat
  | .forever => 0
  | .bounded polls => busy - polls.toNat

/-- What the polls answer: all of them that the controller is busy, but for the last one if it is in
time. -/
def answers (busy : Nat) (policy : WaitPolicy) : List Bool :=
  if policy.Allows busy then List.replicate busy true ++ [false]
  else List.replicate (policy.polls busy) true

variable (busy : Nat) (policy : WaitPolicy)

theorem allows_iff_allowedPolls : policy.Allows busy ↔ busy < policy.allowedPolls busy := by
  cases policy with
  -- without a bound one poll more is allowed than there are busy ones
  | forever => exact ⟨fun _ => Nat.lt_add_one busy, fun _ => trivial⟩
  | bounded polls => exact Iff.rfl

theorem busyLeft_eq : policy.busyLeft busy = busy - policy.allowedPolls busy := by
  cases policy with
  | forever => exact (Nat.sub_eq_zero_of_le (Nat.le_add_right busy 1)).symm
  | bounded polls => rfl

theorem polls_of_allows (inTime : policy.Allows busy) : policy.polls busy = busy + 1 := by
  cases policy with
  | forever => rfl
  | bounded polls => exact Nat.min_eq_left inTime

theorem polls_of_not_allows (late : ¬ policy.Allows busy) :
    policy.polls busy = policy.allowedPolls busy := by
  cases policy with
  | forever => exact absurd trivial late
  | bounded polls => exact Nat.min_eq_right (Nat.le_succ_of_le (Nat.le_of_not_lt late))

/-- There is an answer to every poll. -/
theorem length_answers : (policy.answers busy).length = policy.polls busy := by
  unfold answers
  by_cases inTime : policy.Allows busy
  · rw [if_pos inTime, polls_of_allows busy policy inTime, List.length_append,
      List.length_replicate, List.length_singleton]
  · rw [if_neg inTime, List.length_replicate]

theorem pollAnswers_eq :
    Exchange.pollAnswers busy (policy.allowedPolls busy) = policy.answers busy := by
  have inTime := allows_iff_allowedPolls busy policy
  unfold answers
  by_cases allowed : policy.Allows busy
  · rw [if_pos allowed, Exchange.pollAnswers_of_lt (inTime.1 allowed)]
  · rw [if_neg allowed, polls_of_not_allows busy policy allowed,
      Exchange.pollAnswers_of_le (Nat.le_of_not_lt (mt inTime.2 allowed))]

end WaitPolicy

namespace Exchange

/-! ## Exchanges as they are seen -/

/-- What is seen of an exchange: the request, the trigger, the answers to the polls, and with how
many words the response is read, if it is. -/
def transcript (channel : Channel) (words : Vector UInt32 frameWords) (answers : List Bool)
    (read : Option Nat) : List Event :=
  [.link channel (.requestWritten words), .link channel .triggered] ++
    answers.map (fun busy => .link channel (.polled busy)) ++
    read.toList.map fun count => .link channel (.responseRead count)

/-- The machine after a wait, and after the given number of responses have been taken. -/
def left (policy : WaitPolicy) (taken : Nat) (m : Machine Scripted) : Machine Scripted :=
  { m with transport := { m.transport with
      responses := m.transport.responses.drop taken
      busyPolls := policy.busyLeft m.transport.busyPolls } }

theorem inTime_iff_allows (env : Env) (m : Machine Scripted) :
    InTime env m ↔ env.platform.wait.Allows m.transport.busyPolls :=
  (WaitPolicy.allows_iff_allowedPolls _ _).symm

theorem afterWait_eq_left (env : Env) (m : Machine Scripted) :
    afterWait env m = left env.platform.wait 0 m := by
  rw [afterWait, afterPolls, left, WaitPolicy.busyLeft_eq]
  rfl

theorem afterResponse_eq_left (env : Env) (m : Machine Scripted) :
    afterResponse (afterWait env m) = left env.platform.wait 1 m := by
  rw [afterWait_eq_left, afterResponse, left, left, List.drop_one]
  rfl

theorem waited_eq_transcript (channel : Channel) (frame : Frame) (env : Env)
    (m : Machine Scripted) :
    postEvents channel frame ++ waitEvents channel env m =
      transcript channel frame.words (env.platform.wait.answers m.transport.busyPolls) none := by
  rw [waitEvents, WaitPolicy.pollAnswers_eq]
  exact (List.append_nil _).symm

theorem read_eq_transcript (channel : Channel) (frame : Frame) (count : Nat) (env : Env)
    (m : Machine Scripted) :
    postEvents channel frame ++ waitEvents channel env m ++ [.link channel (.responseRead count)] =
      transcript channel frame.words (env.platform.wait.answers m.transport.busyPolls)
        (some count) := by
  rw [waitEvents, WaitPolicy.pollAnswers_eq]
  rfl

/-! ## The ways of sending -/

section

variable {n : Nat} (channel : Channel) (frame : Frame) (values : Vector UInt32 n) (env : Env)
  (m : Machine Scripted)

theorem send_exact :
    send channel frame env m =
      ⟨.ok (if env.platform.wait.Allows m.transport.busyPolls then .ok () else .error .timeout),
        left env.platform.wait 0 m,
        transcript channel frame.words (env.platform.wait.answers m.transport.busyPolls) none,
        env.filter.keep [requestRecord frame]⟩ := by
  rw [send_apply, waited_eq_transcript, afterWait_eq_left]
  simp only [inTime_iff_allows]

theorem sendForStatus_exact :
    sendForStatus channel frame values env m =
      if env.platform.wait.Allows m.transport.busyPolls then
        ⟨.ok (.ok (nextResponse m).status, (nextResponse m).fill n), left env.platform.wait 1 m,
          transcript channel frame.words (env.platform.wait.answers m.transport.busyPolls) (some n),
          env.filter.keep [requestRecord frame]⟩
      else
        ⟨.ok (.error .timeout, values), left env.platform.wait 0 m,
          transcript channel frame.words (env.platform.wait.answers m.transport.busyPolls) none,
          env.filter.keep [requestRecord frame]⟩ := by
  rw [sendForStatus_apply, read_eq_transcript, waited_eq_transcript, afterResponse_eq_left,
    afterWait_eq_left]
  simp only [inTime_iff_allows]

theorem sendForAnswer_exact :
    sendForAnswer channel frame values env m =
      if env.platform.wait.Allows m.transport.busyPolls then
        ⟨.ok (Failure.check (nextResponse m).status, (nextResponse m).fill n),
          left env.platform.wait 1 m,
          transcript channel frame.words (env.platform.wait.answers m.transport.busyPolls) (some n),
          env.filter.keep [requestRecord frame]⟩
      else
        ⟨.ok (.error .timeout, values), left env.platform.wait 0 m,
          transcript channel frame.words (env.platform.wait.answers m.transport.busyPolls) none,
          env.filter.keep [requestRecord frame]⟩ := by
  rw [sendForAnswer_apply, read_eq_transcript, waited_eq_transcript, afterResponse_eq_left,
    afterWait_eq_left]
  simp only [inTime_iff_allows]

theorem request_exact :
    request n channel frame env m =
      if env.platform.wait.Allows m.transport.busyPolls then
        ⟨.ok ((Failure.check (nextResponse m).status).map fun () => (nextResponse m).fill n),
          left env.platform.wait 1 m,
          transcript channel frame.words (env.platform.wait.answers m.transport.busyPolls) (some n),
          env.filter.keep [requestRecord frame]⟩
      else
        ⟨.ok (.error .timeout), left env.platform.wait 0 m,
          transcript channel frame.words (env.platform.wait.answers m.transport.busyPolls) none,
          env.filter.keep [requestRecord frame]⟩ := by
  rw [request_apply, read_eq_transcript, waited_eq_transcript, afterResponse_eq_left,
    afterWait_eq_left]
  simp only [inTime_iff_allows]

end

/-- **Waits and effects are exact.** Every way of sending writes the frame and triggers the
controller. One that does not wait polls nothing and leaves the script alone. The others poll once
more than there are busy polls, or as often as a bound allows. If the controller is in time, the
responses are left alone, or the next one is taken and all values are replaced by its words,
whatever its status is. Otherwise the request times out, the values and the responses stand, and the
polls are used up. -/
theorem exchanges_exact {n : Nat} (channel : Channel) (frame : Frame) (values : Vector UInt32 n)
    (env : Env) (m : Machine Scripted) :
    let policy := env.platform.wait
    let busy := m.transport.busyPolls
    let response := m.transport.responses.headD .zero
    let words : Vector UInt32 n := Vector.ofFn fun i => response.words.getD i.val 0
    let logs := env.filter.keep [requestRecord frame]
    (policy.answers busy).length = policy.polls busy ∧
    sendNonBlocking channel frame env m =
      ⟨.ok (.ok ()), m, transcript channel frame.words [] none, logs⟩ ∧
    send channel frame env m =
      ⟨.ok (if policy.Allows busy then .ok () else .error .timeout), left policy 0 m,
        transcript channel frame.words (policy.answers busy) none, logs⟩ ∧
    sendForStatus channel frame values env m =
      (if policy.Allows busy then
        ⟨.ok (.ok response.status, words), left policy 1 m,
          transcript channel frame.words (policy.answers busy) (some n), logs⟩
      else
        ⟨.ok (.error .timeout, values), left policy 0 m,
          transcript channel frame.words (policy.answers busy) none, logs⟩) ∧
    sendForAnswer channel frame values env m =
      (if policy.Allows busy then
        ⟨.ok (Failure.check response.status, words), left policy 1 m,
          transcript channel frame.words (policy.answers busy) (some n), logs⟩
      else
        ⟨.ok (.error .timeout, values), left policy 0 m,
          transcript channel frame.words (policy.answers busy) none, logs⟩) ∧
    ¬ (WaitPolicy.bounded 0).Allows busy ∧ (WaitPolicy.bounded 0).answers busy = [] := by
  intro policy busy response words logs
  refine ⟨WaitPolicy.length_answers busy policy, sendNonBlocking_apply channel frame env m,
    send_exact channel frame env m, sendForStatus_exact channel frame values env m,
    sendForAnswer_exact channel frame values env m, ?never, ?quiet⟩
  case never => exact Nat.not_lt_zero busy
  case quiet => exact if_neg (Nat.not_lt_zero busy)

end Exchange

end PowerBridge
