import PowerBridge.Proofs.Service.Answers
import PowerBridge.Proofs.Session.Reachable
import PowerBridge.Proofs.Smc.Values

/-!
# How a secure monitor call is answered

A request that reads a response ends with a status: the one in the response, or that of a timeout if
the controller is not in time. The caller is given the status as it came, and on success the words
of the response behind it. No word of the response is given to the caller along with a failure.

Main statement: `Session.Reachable.values_routeSmc`.
-/

namespace PowerBridge

open Eemi (Api Failure Forwarded Reply)
open Link (Response Scripted)
open Smc (CallerRegisters argumentOf functionOf)

/-! ## Registers of a reply -/

namespace Service

/-- The registers of a reply with a status and output words. -/
def replyValues (outputs : Nat) (status : UInt32) (word : Nat → UInt32) : List UInt64 :=
  if status = 0 then
    match outputs with
    | 0 => [0]
    | 1 => [(word 0).toUInt64 <<< 32]
    | 2 => [(word 0).toUInt64 <<< 32, (word 1).toUInt64]
    | _ => [(word 0).toUInt64 <<< 32, (word 1).toUInt64 ||| ((word 2).toUInt64 <<< 32)]
  else if outputs ≤ 1 then [status.toUInt64]
  else [status.toUInt64, 0]

theorem pack_outputs {n : Nat} (few : n ≤ 3) (word : Nat → UInt32) :
    Word.pack (0 :: (Vector.ofFn fun i : Fin n => word i.val).toList) = replyValues n 0 word := by
  rw [Vector.toList_ofFn]
  match n, few with
  | 0, _ => rfl
  | 1, _ => exact congrArg (fun first => [first]) (Word.join_zero_left (word 0))
  | 2, _ =>
    have first := Word.join_zero_left (word 0)
    have second := Word.join_zero_right (word 1)
    exact congr (congrArg (fun first second => [first, second]) first) second
  | 3, _ =>
    have first := Word.join_zero_left (word 0)
    exact congrArg (fun first => [first, Word.join (word 1) (word 2)]) first

theorem pack_failure {n : Nat} (few : n ≤ 3) {status : UInt32} (failed : status ≠ 0)
    (word : Nat → UInt32) :
    Word.pack (status :: List.replicate n 0) = replyValues n status word := by
  have alone := Word.join_zero_right status
  match n, few with
  | 0, _ | 1, _ =>
    unfold replyValues
    rw [if_neg failed]
    exact congrArg (fun first => [first]) alone
  | 2, _ | 3, _ =>
    unfold replyValues
    rw [if_neg failed]
    exact congrArg (fun first => [first, 0]) alone

/-- The registers of a reply are determined by its status, and on success by its words. -/
theorem values_reply {n : Nat} (few : n ≤ 3) (status : UInt32) (word : Nat → UInt32) :
    ∃ r, (Result.reply ((Failure.check status).map fun () =>
        Vector.ofFn fun i : Fin n => word i.val)).toReturn = .ok r ∧
      r.values = replyValues n status word := by
  -- a failure is packed with zeros, a success with the words of the response
  by_cases success : status = 0
  · subst success
    have short : (Vector.ofFn fun i : Fin n => word i.val).toList.length <
        Smc.Return.replyWords := by
      rw [Vector.length_toList, Smc.Return.replyWords]
      omega
    obtain ⟨r, packed, values⟩ := Smc.Return.ofWords_eq 0 short
    exact ⟨r, packed, values.trans (pack_outputs few word)⟩
  · have short : (List.replicate n (0 : UInt32)).length < Smc.Return.replyWords := by
      rw [List.length_replicate, Smc.Return.replyWords]
      omega
    obtain ⟨r, packed, values⟩ := Smc.Return.ofWords_eq status short
    refine ⟨r, ?_, values.trans (pack_failure few success word)⟩
    rw [Failure.check, if_neg success]
    -- the status that is packed is the code of the failure that it was read as
    rw [← packed]
    exact congrArg (Smc.Return.ofWords · _) (Failure.code_ofCode status)

/-! ## Replies of an API -/

/-- How many reply words the caller of an API is given. -/
def replyOutputs : Api → Nat
  | .forwarded .getDeviceStatus => 3
  | .forwarded .getChipId | .forwarded .clockGetRate => 2
  | .forwarded .getOpCharacteristic | .forwarded .resetGetStatus | .forwarded .pinGetFunction
  | .forwarded .pinGetParameter | .forwarded .clockGetState | .forwarded .clockGetDivider
  | .forwarded .clockGetParent | .forwarded .pllGetParameter | .forwarded .pllGetMode
  | .featureCheck => 1
  | _ => 0

/-- Whether a call makes one request and takes its status from the response. Of those that do not,
device specific controls and data queries may, in their own ways, and the version of the
controller's interface is given whatever the status is. -/
def ReadsResponse (env : Env) (x : CallerRegisters) : Api → Prop
  | .forwarded _ | .abortSuspend | .requestWakeup | .loadImage => True
  | .requestSuspend | .forcePowerdown => argumentOf x 1 = 1
  | .selfSuspend => (env.platform.processorOf? env.core).isSome
  | .featureCheck =>
    (argumentOf x 0 >>> 8) &&& 0xff = 0 ∨ (argumentOf x 0 >>> 8) &&& 0xff = 2
  | _ => False

/-- The reply words: those of the response, zeros taking the place of missing ones. The version of
an API has this service's in its upper half. -/
def replyWord (api : Api) (x : CallerRegisters) (response : Response) (i : Nat) : UInt32 :=
  match api with
  | .featureCheck => Eemi.localVersion (argumentOf x 0) ||| response.words.getD i 0
  | _ => response.words.getD i 0

theorem outputs_eq_replyOutputs (api : Forwarded) :
    api.outputs = replyOutputs (.forwarded api) := by
  cases api <;> rfl

theorem replyOutputs_le (api : Api) : replyOutputs api ≤ 3 := by
  cases api with
  | forwarded api =>
    rw [← outputs_eq_replyOutputs]
    exact api.outputs_le
  | _ => decide

variable {env : Env} {first : Processor}
  (listed : env.platform.processors.head? = some first) (m : Machine Scripted) (world : World)

include listed

/-! ## Replies of the calls -/

omit listed in
/-- The reply of an API that reads a response. -/
def apiReply (api : Api) (x : CallerRegisters) (env : Env) (m : Machine Scripted) :
    Reply (replyOutputs api) :=
  (Failure.check (Exchange.finalStatus env m)).map fun () =>
    Vector.ofFn fun i => replyWord api x (Exchange.nextResponse m) i.val

omit listed in
/-- For all APIs but one the reply words are those of the response. -/
theorem reply_answer {api : Api} {x : CallerRegisters} {n : Nat} (outputs : n = replyOutputs api)
    (same : ∀ response i, replyWord api x response i = response.words.getD i 0) :
    Result.reply (Exchange.answer n env m) = .reply (apiReply api x env m) := by
  subst outputs
  rw [Exchange.answer_eq, apiReply]
  simp only [same, Response.fill]

theorem ending_perform_of_reads {api : Api} {x : CallerRegisters}
    (reads : ReadsResponse env x api) :
    ((Call.ofRegisters api x).perform world env m).ending =
      .ok (.reply (apiReply api x env m)) := by
  have packed {n : Nat} {op : Act Scripted (Reply n)} (answered : (op env m).ending =
      .ok (Exchange.answer n env m)) (outputs : n = replyOutputs api)
      (same : ∀ response i, replyWord api x response i = response.words.getD i 0) :
      ((op >>= fun reply => pure (Result.reply reply)) env m).ending =
        .ok (.reply (apiReply api x env m)) := by
    rw [Act.ending_bind_pure, answered, ← reply_answer m outputs same]
    rfl
  -- every operation gives its answer as a reply, and all but one give the words as they came
  cases api with
  | forwarded api =>
    exact packed (ending_forward listed m world api _) (outputs_eq_replyOutputs api) fun _ _ => rfl
  | abortSuspend =>
    exact packed (ending_abortSuspend listed m world _) rfl fun _ _ => rfl
  | requestWakeup =>
    exact packed (ending_ask listed m world 0 .requestWakeup (by simp [Eemi.frameArguments])) rfl
      fun _ _ => rfl
  | loadImage =>
    exact packed (ending_ask listed m world 0 .loadImage (by simp [Eemi.frameArguments])) rfl
      fun _ _ => rfl
  | requestSuspend =>
    exact packed (ending_askAcked listed m world .requestSuspend reads
      (by simp [Eemi.frameArguments])) rfl fun _ _ => rfl
  | forcePowerdown =>
    exact packed (ending_askAcked listed m world .forcePowerdown reads
      (by simp [Eemi.frameArguments])) rfl fun _ _ => rfl
  | selfSuspend =>
    exact packed (ending_selfSuspend m world _ _ _ reads) rfl fun _ _ => rfl
  | featureCheck =>
    -- this service's version is added to the one word of the response
    have base := (Eemi.Header.resolveModule_eq_base_iff _).2 reads
    have answered := ending_featureCheck listed m world base
    rw [Exchange.answer_eq] at answered
    refine (Act.ending_bind_pure _ _ env m).trans ?_
    rw [answered, apiReply]
    cases Failure.check (Exchange.finalStatus env m) with
    | error failure => rfl
    | ok _ =>
      simp only [Except.map, Response.fill, Vector.map_ofFn]
      rfl
  | _ => exact reads.elim

theorem ending_perform_getApiVersion (x : CallerRegisters) :
    ((Call.ofRegisters .getApiVersion x).perform world env m).ending =
      .ok (.reply ((Failure.check (if Exchange.InTime env m then 0 else 2006)).map fun () =>
        Vector.ofFn fun i : Fin 1 => (Exchange.nextResponse m).words.getD i.val 0)) := by
  refine (Act.ending_bind_pure _ _ env m).trans ?_
  rw [ending_getApiVersion listed m world]
  rfl

omit listed in
/-- The registers of a version do not look like those of a timeout. -/
theorem version_ne_timeout (version : UInt32) : [version.toUInt64 <<< 32] ≠ [2006] := by
  intro same
  -- the low half of the one is zero
  have halves := congrArg Word.low (List.cons.inj same).1
  rw [← Word.join_zero_left, Word.low_join] at halves
  exact absurd halves (by decide)

end Service

/-! ## Secure monitor calls -/

open Service

/-- **How a caller is answered**: a call that reads a response is answered by its status as it came,
and on success by its words; the version of the controller's interface is answered without the
status; and in either case a controller that is not in time is answered by the status of a timeout.
-/
theorem Session.Reachable.values_routeSmc {config : Config} {s : Session Scripted}
    (reachable : s.Reachable config) (up : s.machine.up = true) (world : World)
    {x : CallerRegisters} (accepted : Accepts (functionOf x)) {api : Api}
    (number : (functionOf x).number.toUInt32 = api.code) :
    (ReadsResponse (s.env config) x api →
      ∃ r, (routeSmc world x (s.env config) s.machine).ending = .ok r ∧
        r.values = replyValues (replyOutputs api)
          (Exchange.finalStatus (s.env config) s.machine)
          (replyWord api x (Exchange.nextResponse s.machine))) ∧
      (api = .getApiVersion →
        ∃ r, (routeSmc world x (s.env config) s.machine).ending = .ok r ∧
          (Exchange.InTime (s.env config) s.machine →
            r.values = [((Exchange.nextResponse s.machine).words.getD 0 0).toUInt64 <<< 32]) ∧
          (r.values = [2006] ↔ ¬ Exchange.InTime (s.env config) s.machine)) := by
  obtain ⟨first, primary⟩ := reachable.exists_primary up
  have listed : (s.env config).platform.processors.head? = some first := primary
  rw [routeSmc_of_accepts world accepted]
  refine ⟨?reads, ?version⟩
  case reads =>
    intro reads
    have performed := ending_perform_of_reads listed s.machine world reads
    obtain ⟨r, packed, values⟩ := values_reply (replyOutputs_le api)
      (Exchange.finalStatus (s.env config) s.machine)
      (replyWord api x (Exchange.nextResponse s.machine))
    refine ⟨r, ?_, values⟩
    rw [ending_handleSmc world _ up number performed]
    exact congrArg (Except.mapError _) packed
  case version =>
    rintro rfl
    have performed := ending_perform_getApiVersion listed s.machine world x
    -- the status is disregarded, so that the reply is that of a success unless the wait expires
    obtain ⟨r, packed, values⟩ := values_reply (n := 1) (by decide)
      (if Exchange.InTime (s.env config) s.machine then 0 else 2006)
      fun i => (Exchange.nextResponse s.machine).words.getD i 0
    have answered : (handleSmc world x (s.env config) s.machine).ending = .ok r := by
      rw [ending_handleSmc world _ up number performed]
      exact congrArg (Except.mapError _) packed
    refine ⟨r, answered, ?_⟩
    by_cases inTime : Exchange.InTime (s.env config) s.machine
    · rw [if_pos inTime] at values
      rw [values]
      exact ⟨fun _ => rfl, fun same => absurd same (version_ne_timeout _), (absurd inTime ·)⟩
    · rw [if_neg inTime] at values
      rw [values]
      exact ⟨(absurd · inTime), fun _ => inTime, fun _ => rfl⟩

/-- The status of a device, its requirements and its usage, in two registers. -/
theorem values_getDeviceStatus :
    ∃ r, (routeSmc .secure (callerRegisters 0xc2000003 0x1822402d 0)
        ((Session.setUp [⟨0, [1, 2, 3]⟩]).env Config.oneCore)
        (Session.setUp [⟨0, [1, 2, 3]⟩]).machine).ending = .ok r ∧
      r.values = [0x100000000, 0x300000002] := by
  have accepted : Accepts (functionOf (callerRegisters 0xc2000003 0x1822402d 0)) := by decide
  have number : (functionOf (callerRegisters 0xc2000003 0x1822402d 0)).number.toUInt32 =
      (Api.forwarded .getDeviceStatus).code := rfl
  obtain ⟨reads, -⟩ := (Session.reachable_setUp [⟨0, [1, 2, 3]⟩]).values_routeSmc
    (Session.up_setUp _) .secure accepted number
  exact reads trivial

end PowerBridge
