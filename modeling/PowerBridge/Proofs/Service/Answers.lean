import PowerBridge.Proofs.Eemi.StatusWords
import PowerBridge.Proofs.Exchange.Scripted
import PowerBridge.Proofs.Service.Primary

/-!
# Answers to the operations of the service

A request that reads a response ends with a status: the one in the response, or that of a timeout if
the controller is not in time. Whatever the status is, the operation ends with a value, so that no
answer of a controller makes the service fault.

Main statements: `Exchange.answer_eq`, and for each operation the answer it ends with.
-/

namespace PowerBridge

open Eemi (Api Failure Forwarded Frame frameArguments)
open Link (Scripted)

namespace Exchange

/-- The status that an exchange ends with, that of a timeout if the controller is not in time. -/
def finalStatus (env : Env) (m : Machine Scripted) : UInt32 :=
  if InTime env m then (nextResponse m).status else 2006

theorem answer_eq (n : Nat) (env : Env) (m : Machine Scripted) :
    answer n env m =
      (Failure.check (finalStatus env m)).map fun () => (nextResponse m).fill n := by
  unfold answer finalStatus
  by_cases inTime : InTime env m
  · simp only [if_pos inTime]
  · simp only [if_neg inTime]
    rfl

end Exchange

/-! ## Operations -/

namespace Service

variable {env : Env} {first : Processor}
  (listed : env.platform.processors.head? = some first) (m : Machine Scripted) (world : World)

include listed

theorem ending_ask (n : Nat) (api : Api) {args : List UInt32}
    (fits : args.length ≤ frameArguments) :
    (ask n api world args env m).ending = .ok (Exchange.answer n env m) := by
  rw [ask_apply listed m n api world fits, Exchange.ending_request]

theorem ending_forward (api : Forwarded) (args : List UInt32) :
    (forward api world args env m).ending = .ok (Exchange.answer api.outputs env m) := by
  have fits := Frame.length_take_arguments_le api args
  exact ending_ask listed m world api.outputs (.forwarded api) fits

theorem ending_askAcked (api : Api) {args : List UInt32} {ack : UInt32} (blocking : ack = 1)
    (fits : args.length ≤ frameArguments) :
    (askAcked api world args ack env m).ending = .ok (Exchange.answer 0 env m) := by
  have waits : ack = Eemi.blockingAck := blocking
  rw [askAcked_apply listed m api world ack fits, if_pos waits, Exchange.ending_request]

theorem ending_abortSuspend (reason : UInt32) :
    (abortSuspend reason world env m).ending = .ok (Exchange.answer 0 env m) := by
  have fits : [reason, first.node].length ≤ frameArguments := by simp [frameArguments]
  rw [abortSuspend_apply listed m reason world fits]
  exact Exchange.ending_request ..

omit listed in
theorem ending_selfSuspend (latency state : UInt32) (address : UInt64)
    (found : (env.platform.processorOf? env.core).isSome) :
    (selfSuspend latency state address world env m).ending = .ok (Exchange.answer 0 env m) := by
  obtain ⟨processor, found⟩ := Option.isSome_iff_exists.1 found
  have fits : [processor.node, latency, state, Word.low address, Word.high address].length ≤
      frameArguments := by simp [frameArguments]
  rw [selfSuspend_apply m found latency state address world fits]
  exact Exchange.ending_request ..

/-- The answer to a check of a feature is that to its request, with this service's version added. -/
theorem ending_featureCheck {api : UInt32}
    (base : Eemi.resolveModule (Eemi.moduleOf api) = Eemi.baseModule) :
    (featureCheck api world env m).ending =
      .ok ((Exchange.answer 1 env m).map fun version =>
        version.map (Eemi.localVersion api ||| ·)) := by
  rw [featureCheck_of_base world base, Act.ending_bind_pure,
    ask_apply listed m 1 .featureCheck world (by simp [frameArguments]), Exchange.ending_request]
  rfl

/-- The version of the controller's interface is given whatever the status is, if it is given in
time. -/
theorem ending_getApiVersion :
    (getApiVersion world env m).ending =
      .ok ((Failure.check (if Exchange.InTime env m then 0 else 2006)).map fun () =>
        Vector.ofFn fun i => (Exchange.nextResponse m).words.getD i.val 0) := by
  have fits : ([] : List UInt32).length ≤ frameArguments := Nat.zero_le _
  rw [getApiVersion, Frame.call_eq .getApiVersion world fits, Act.orFault_ok, pure_bind,
    primary_bind listed, Act.bind_apply, Exchange.sendForStatus_apply]
  by_cases inTime : Exchange.InTime env m
  · rw [if_pos inTime, if_pos inTime, Outcome.andThen_ok]
    -- a status other than success is logged, and the version is given all the same
    by_cases success : (Exchange.nextResponse m).status ≠ 0
    · simp only [if_pos success]
      rfl
    · simp only [if_neg success]
      rfl
  · rw [if_neg inTime, if_neg inTime]
    rfl

end Service

end PowerBridge
