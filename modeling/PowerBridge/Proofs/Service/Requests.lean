import PowerBridge.Proofs.Exchange.Requests
import PowerBridge.Proofs.Service.Answers
import PowerBridge.Proofs.Service.Interrupt
import PowerBridge.Proofs.Service.DataQuery

/-!
# Requests of the operations of the service

Which frames each operation of the service writes, and on which channel. Most write one, on the
primary channel, whatever becomes of it; a data query writes a second one only if the controller has
given its version, and has not retired data queries.

Main statements: `requestsOf_ask`, `requestsOf_queryData`, and one equation for each other
operation.
-/

namespace PowerBridge

/-- What is seen of an exchange is one request. -/
theorem Exchange.requestsOf_transcript (channel : Link.Channel)
    (words : Vector UInt32 Eemi.frameWords) (answers : List Bool) (read : Option Nat) :
    requestsOf (transcript channel words answers read) = [⟨channel, words.toList⟩] := by
  have polls : requestsOf (answers.map fun busy => .link channel (.polled busy)) = [] :=
    requestsOf_pollEvents channel answers
  rw [transcript, requestsOf_append, requestsOf_append, polls]
  cases read <;> rfl

/-- The request for the version is always made, that for data as far as the query gets there. -/
theorem Service.QueryCourse.requestsOf_events (course : QueryCourse) (channel : Link.Channel)
    (check ask : Vector UInt32 Eemi.frameWords) (policy : WaitPolicy) (busy : Nat) :
    requestsOf (course.events channel check ask policy busy) =
      ⟨channel, check.toList⟩ :: if course.Asks then [⟨channel, ask.toList⟩] else [] := by
  cases course with
  | versionExpired | versionRefused | retired => exact Exchange.requestsOf_transcript ..
  | expired | statusFirst | plain =>
    refine (requestsOf_append _ _).trans ?_
    rw [Exchange.requestsOf_transcript, Exchange.requestsOf_transcript]
    rfl

namespace Service

open Eemi (Api Forwarded Frame Header Ioctl frameArguments)
open Link (Channel Scripted)

/-- The request of a device specific control: those for PLLs stand for other APIs. -/
def controlRequest (channel : Channel) (world : World) (first second : UInt32) :
    Ioctl → List Request
  | .setPllMode => [.of channel 50 world [first, second]]
  | .getPllMode => [.of channel 51 world [first]]
  | .setPllData => [.of channel 48 world [first, 2, second]]
  | .getPllData => [.of channel 49 world [first, 2]]
  | .setSgi => []

/-- Whether the controller gives the version of data queries in time, and it is not the one that has
retired them. -/
def QuerySupported (env : Env) (m : Machine Scripted) : Prop :=
  Exchange.InTime env m ∧ (Exchange.nextResponse m).status = 0 ∧
    (Exchange.nextResponse m).words.getD 0 0 &&& 0xffff ≠ 3

instance (env : Env) (m : Machine Scripted) : Decidable (QuerySupported env m) :=
  inferInstanceAs (Decidable (_ ∧ _))

/-! ## Operations -/

variable {env : Env} {first : Processor}
  (listed : env.platform.processors.head? = some first) (m : Machine Scripted) (world : World)

include listed

theorem requestsOf_ask (n : Nat) (api : Api) {args : List UInt32}
    (fits : args.length ≤ frameArguments) :
    requestsOf (ask n api world args env m).events =
      [.of first.channel api.code world args] := by
  rw [ask_apply listed m n api world fits, Exchange.requestsOf_request, Request.of_words]

theorem requestsOf_forward (api : Forwarded) (args : List UInt32) :
    requestsOf (forward api world args env m).events =
      [.of first.channel (Api.forwarded api).code world (args.take api.arguments)] := by
  have fits := Frame.length_take_arguments_le api args
  exact requestsOf_ask listed m world api.outputs (.forwarded api) fits

theorem requestsOf_askAcked (api : Api) {args : List UInt32} (ack : UInt32)
    (fits : args.length ≤ frameArguments) :
    requestsOf (askAcked api world args ack env m).events =
      [.of first.channel api.code world args] := by
  rw [askAcked_apply listed m api world ack fits]
  by_cases blocking : ack = Eemi.blockingAck
  · rw [if_pos blocking, Exchange.requestsOf_request, Request.of_words]
  · rw [if_neg blocking, requestsOf_bind_pure, Exchange.requestsOf_send,
      Request.of_words]

theorem requestsOf_getApiVersion :
    requestsOf (getApiVersion world env m).events = [.of first.channel 1 world []] := by
  have fits : ([] : List UInt32).length ≤ frameArguments := Nat.zero_le _
  rw [getApiVersion, Frame.call_eq .getApiVersion world fits, Act.orFault_ok, pure_bind,
    primary_bind listed, requestsOf_bind, Exchange.requestsOf_sendForStatus, Request.of_words]
  · rfl
  · -- a status that is disregarded is logged at most
    rintro ⟨failure | status, version⟩ m'
    · rfl
    · by_cases success : status ≠ 0
      · simp only [if_pos success]
        rfl
      · simp only [if_neg success]
        rfl

theorem requestsOf_systemShutdown (kind subtype : UInt32) :
    requestsOf (systemShutdown kind subtype world env m).events =
      if kind = 2 then [] else [.of first.channel 12 world [kind, subtype]] := by
  have setting : Coded.ofCode? kind = some Eemi.ShutdownKind.setScope ↔ kind = 2 :=
    Coded.ofCode?_eq_some_iff.trans eq_comm
  by_cases scope : kind = 2
  · rw [systemShutdown, if_pos (setting.2 scope), if_pos scope]
    rfl
  · have fits : [kind, subtype].length ≤ frameArguments := by simp [frameArguments]
    rw [systemShutdown_apply listed m scope subtype world fits, if_neg scope, requestsOf_bind_pure,
      Exchange.requestsOf_sendNonBlocking, Request.of_words]
    rfl

omit listed in
theorem requestsOf_selfSuspend (latency state : UInt32) (address : UInt64) :
    requestsOf (selfSuspend latency state address world env m).events =
      match env.platform.processorOf? env.core with
      | none => []
      | some processor =>
        [.of processor.channel 7 world
          [processor.node, latency, state, Word.low address, Word.high address]] := by
  cases found : env.platform.processorOf? env.core with
  | none =>
    obtain ⟨logs, refused⟩ := selfSuspend_of_missing m found latency state address world
    rw [refused]
    rfl
  | some processor =>
    have fits : [processor.node, latency, state, Word.low address, Word.high address].length ≤
        frameArguments := by simp [frameArguments]
    rw [selfSuspend_apply m found latency state address world fits, requestsOf_chip_append,
      Exchange.requestsOf_request, Request.of_words]
    rfl

theorem requestsOf_abortSuspend (reason : UInt32) :
    requestsOf (abortSuspend reason world env m).events =
      [.of first.channel 9 world [reason, first.node]] := by
  have fits : [reason, first.node].length ≤ frameArguments := by simp [frameArguments]
  rw [abortSuspend_apply listed m reason world fits, requestsOf_chip_append,
    Exchange.requestsOf_request, Request.of_words]
  rfl

theorem requestsOf_featureCheck (api : UInt32) :
    requestsOf (featureCheck api world env m).events =
      if (api >>> 8) &&& 0xff = 0 ∨ (api >>> 8) &&& 0xff = 2 then
        [.of first.channel 63 world [api]]
      else [] := by
  have base := Header.resolveModule_eq_base_iff api
  by_cases checked : (api >>> 8) &&& 0xff = 0 ∨ (api >>> 8) &&& 0xff = 2
  · rw [featureCheck_of_base world (base.2 checked), requestsOf_bind_pure,
      requestsOf_ask listed m world 1 .featureCheck (by simp [frameArguments]), if_pos checked]
    rfl
  · rw [featureCheck_of_other world (mt base.1 checked), if_neg checked]
    rfl

theorem requestsOf_ioctl (id a b : UInt32) :
    requestsOf (ioctl id a b world env m).events =
      match (Coded.ofCode? id : Option Ioctl) with
      | none => []
      | some control => controlRequest first.channel world a b control := by
  have passed := requestsOf_forward listed m world
  unfold ioctl
  cases known : (Coded.ofCode? id : Option Ioctl) with
  | none => rfl
  | some control =>
    cases control with
    | setPllMode => exact (requestsOf_bind_pure _ _ m).trans (passed .pllSetMode [a, b])
    | getPllMode => exact passed .pllGetMode [a]
    | setPllData =>
      exact (requestsOf_bind_pure _ _ m).trans (passed .pllSetParameter [a, 2, b])
    | getPllData => exact passed .pllGetParameter [a, 2]
    | setSgi =>
      -- an interrupt is registered with the service alone
      refine (requestsOf_bind ?_ m).trans rfl
      rintro (e | _) m'
      · rfl
      · rfl

theorem requestsOf_queryData (query a b c : UInt32) :
    requestsOf (queryData query a b c world env m).events =
      .of first.channel 63 world [35] ::
        if QuerySupported env m then [.of first.channel 35 world [query, a, b, c]] else [] := by
  have supported : (queryCourse env.platform.wait m.transport query).Asks ↔ QuerySupported env m :=
    (asks_queryCourse_iff ..).trans (and_congr_left' (Exchange.inTime_iff_allows env m).symm)
  have checked : (⟨first.channel, (checkFrame 35 world).words.toList⟩ : Request) =
      .of first.channel 63 world [35] := Request.of_words first.channel .featureCheck world _
  have asked : (⟨first.channel, (queryFrame query a b c world).words.toList⟩ : Request) =
      .of first.channel 35 world [query, a, b, c] := Request.of_words first.channel .queryData world _
  obtain ⟨logs, queried⟩ := queryData_apply listed m world query a b c
  rw [queried, QueryCourse.requestsOf_events, checked, asked]
  simp only [supported]

omit world in
theorem requestsOf_readCallback (acknowledge : Bool) :
    requestsOf (readCallback acknowledge env m).events = [] := by
  rw [readCallback_apply listed acknowledge m, readEvents]
  -- a callback is read and cleared, and nothing is asked
  cases m.transport.callback with
  | none => rfl
  | some c => cases acknowledge <;> rfl

end Service

end PowerBridge
