import PowerBridge.Proofs.Service.Answers
import PowerBridge.Proofs.Service.DataQuery
import PowerBridge.Proofs.Session.Reachable
import PowerBridge.Proofs.Smc.Values

/-!
# How a data query adapts to the controller

What a data query does and gives, over a script in which the controller may answer anything, and
what its caller finds in the registers: the status as it came, and three words of data, also along
with a failure.

Over a script the second wait is never the one that expires, since a wait that is in time leaves no
busy poll. Over another transport it may be, and this is covered as well.

Main statement: `Service.queryData_adapts`.
-/

namespace PowerBridge

open Eemi (Api Failure Header QueryFormat)
open Link (Channel Response Scripted Transport)
open Smc (CallerRegisters argumentOf functionOf)

/-! ## Registers of a data query -/

/-- A status word is read without loss. -/
theorem Eemi.Failure.status_check (word : UInt32) : status (check word) = word := by
  unfold check
  by_cases success : word = 0
  · rw [if_pos success, success]
    rfl
  · rw [if_neg success]
    exact code_ofCode word

namespace Service

/-- The status and the first word of data stand in the first register, the other two words in the
second one. -/
theorem values_query (reply : QueryReply) :
    ∃ r, (Result.query reply).toReturn = .ok r ∧
      r.values = [Word.join (Failure.status reply.status) reply.data[0],
        Word.join reply.data[1] reply.data[2]] := by
  rcases reply with ⟨status, ⟨⟨data⟩, size⟩⟩
  match data, size with
  | [x, y, z], _ => exact Smc.Return.ofWords_eq (Failure.status status) (by decide : 3 < 8)

/-! ## The upper half of the version -/

/-- The upper half of the version word is disregarded. -/
theorem queryCourse_upper_half (policy : WaitPolicy) (script : Scripted) (status word : UInt32)
    (words : List UInt32) (later : List Response) (query : UInt32) :
    queryCourse policy { script with responses := ⟨status, word :: words⟩ :: later } query =
      queryCourse policy
        { script with responses := ⟨status, (word &&& 0xffff) :: words⟩ :: later } query := by
  unfold queryCourse
  simp only [List.headD_cons, List.drop_succ_cons, List.drop_zero, List.getD_cons_zero,
    UInt32.and_assoc, UInt32.and_self]

theorem queryCourse_ne_versionExpired {policy : WaitPolicy} (script : Scripted)
    (inTime : policy.Allows script.busyPolls) (query : UInt32) :
    queryCourse policy script query ≠ .versionExpired := by
  unfold queryCourse
  simp only [if_neg (not_not_intro inTime)]
  -- none of the later courses is that one
  split
  · nofun
  split
  · nofun
  split
  · nofun
  split <;> nofun

/-- If the version has been read, then what it was read from makes no difference any more. -/
theorem QueryCourse.machine_eq_of_left {course : QueryCourse} (read : course ≠ .versionExpired)
    {policy : WaitPolicy} {m m' : Machine Scripted}
    (same : Exchange.left policy 1 m = Exchange.left policy 1 m') :
    course.machine policy m = course.machine policy m' := by
  cases course with
  | versionExpired => exact absurd rfl read
  | versionRefused | retired => exact same
  | expired => exact congrArg (Exchange.left policy 0) same
  | statusFirst | plain => exact congrArg (Exchange.left policy 1) same

/-! ## Data queries -/

section

variable {env : Env} {first : Processor}
  (listed : env.platform.processors.head? = some first)

include listed

theorem ending_perform_queryData (m : Machine Scripted) (world : World) (x : CallerRegisters) :
    ((Call.ofRegisters .queryData x).perform world env m).ending =
      .ok (.query (queryCourse env.platform.wait m.transport (argumentOf x 0)).reply) := by
  obtain ⟨logs, queried⟩ := queryData_apply listed m world (argumentOf x 0) (argumentOf x 1)
    (argumentOf x 2) (argumentOf x 3)
  refine (Act.ending_bind_pure _ _ env m).trans ?_
  rw [queried]
  rfl

/-- The answer to a data query and what is seen of it do not depend on the upper half of the version
word. Nor does the machine that is left, unless the version has not been read at all. -/
theorem queryData_upper_half (m : Machine Scripted) (status word : UInt32) (words : List UInt32)
    (later : List Response) (query a b c : UInt32) (world : World) :
    let answering (version : UInt32) : Machine Scripted :=
      { m with transport := { m.transport with responses := ⟨status, version :: words⟩ :: later } }
    let full := queryData query a b c world env (answering word)
    let lower := queryData query a b c world env (answering (word &&& 0xffff))
    full.ending = lower.ending ∧ full.events = lower.events ∧
      (env.platform.wait.Allows m.transport.busyPolls → full.machine = lower.machine) := by
  intro answering full lower
  obtain ⟨_, whole⟩ := queryData_apply listed (answering word) world query a b c
  obtain ⟨_, half⟩ := queryData_apply listed (answering (word &&& 0xffff)) world query a b c
  -- both queries take the same course
  have same : queryCourse env.platform.wait (answering word).transport query =
      queryCourse env.platform.wait (answering (word &&& 0xffff)).transport query :=
    queryCourse_upper_half env.platform.wait m.transport status word words later query
  rw [same] at whole
  refine ⟨(congrArg Outcome.ending whole).trans (congrArg Outcome.ending half).symm,
    (congrArg Outcome.events whole).trans (congrArg Outcome.events half).symm, fun inTime => ?_⟩
  have read := queryCourse_ne_versionExpired (answering (word &&& 0xffff)).transport inTime query
  have taken : Exchange.left env.platform.wait 1 (answering word) =
      Exchange.left env.platform.wait 1 (answering (word &&& 0xffff)) := rfl
  exact (congrArg Outcome.machine whole).trans ((QueryCourse.machine_eq_of_left read taken).trans
    (congrArg Outcome.machine half).symm)

/-- **A data query adapts to the version of the controller.** It asks for the version first, and
goes on as far as the answer allows. The upper half of the version word makes no difference. A query
whose own wait expires, over whatever transport, is answered by that failure. The caller is given
the status as it came, and three words of data. -/
theorem queryData_adapts (query a b c : UInt32) (world : World) :
    (∀ m : Machine Scripted,
      let policy := env.platform.wait
      let course := queryCourse policy m.transport query
      ∃ logs, queryData query a b c world env m =
        ⟨.ok course.reply, course.machine policy m,
          course.events first.channel #v[Header.wordOf 63 world, 35, 0, 0, 0, 0]
            #v[Header.wordOf 35 world, query, a, b, c, 0] policy m.transport.busyPolls, logs⟩) ∧
    (∀ (m : Machine Scripted) (status word : UInt32) (words : List UInt32) (later : List Response),
      let answering (version : UInt32) : Machine Scripted :=
        { m with transport :=
          { m.transport with responses := ⟨status, version :: words⟩ :: later } }
      let full := queryData query a b c world env (answering word)
      let lower := queryData query a b c world env (answering (word &&& 0xffff))
      full.ending = lower.ending ∧ full.events = lower.events ∧
        (env.platform.wait.Allows m.transport.busyPolls → full.machine = lower.machine)) ∧
    (∀ {T : Type} [Transport T] {m m' m'' : Machine T} {version : UInt32}
      {events later : List Event} {logs laterLogs : List Log.Record} {failure : Failure},
      featureCheck 35 world env m = ⟨.ok (.ok #v[version]), m', events, logs⟩ →
      QueryFormat.classify version query ≠ .retired →
      Exchange.send first.channel (queryFrame query a b c world) env m' =
        ⟨.ok (.error failure), m'', later, laterLogs⟩ →
      queryData query a b c world env m =
        ⟨.ok { status := .error failure, data := #v[0, 0, 0] }, m'', events ++ later,
          logs ++ laterLogs⟩) ∧
    (∀ (m : Machine Scripted) (x : CallerRegisters), m.up = true → Accepts (functionOf x) →
      (functionOf x).number = 35 →
      let reply := (queryCourse env.platform.wait m.transport (argumentOf x 0)).reply
      ∃ r, (routeSmc world x env m).ending = .ok r ∧
        r.values =
          [(Failure.status reply.status).toUInt64 ||| (reply.data[0].toUInt64 <<< 32),
            reply.data[1].toUInt64 ||| (reply.data[2].toUInt64 <<< 32)]) ∧
    ∀ status : UInt32, Failure.status (Failure.check status) = status := by
  refine ⟨?course, ?upperHalf, ?expired, ?registers, Failure.status_check⟩
  case course =>
    intro m
    rw [← words_checkFrame, ← words_queryFrame]
    exact queryData_apply listed m world query a b c
  case upperHalf =>
    intro m status word words later
    exact queryData_upper_half listed m status word words later query a b c world
  case expired =>
    intro T _ m m' m'' version events later logs laterLogs failure given made expired
    exact queryData_of_expired listed given made expired
  case registers =>
    intro m x up accepted number reply
    have api : (functionOf x).number.toUInt32 = Api.queryData.code :=
      congrArg UInt16.toUInt32 number
    obtain ⟨r, packed, values⟩ := values_query reply
    refine ⟨r, ?_, values⟩
    rw [routeSmc_of_accepts world accepted, ending_handleSmc world env up api
      (ending_perform_queryData listed m world x)]
    exact congrArg (Except.mapError _) packed

end

end Service

/-! ## Two runs -/

/-- A transport that takes its answers to polls from a list and answers every request with zeros. -/
structure Link.PollScript where
  answers : List Bool

instance : Transport Link.PollScript where
  openChannel _ s := .ok (.ok (), s)
  writeRequest _ _ s := .ok s
  trigger _ s := .ok s
  isBusy _ s := .ok (s.answers.headD false, ⟨s.answers.tail⟩)
  readResponse {n} _ _ s := .ok ((0, Vector.replicate n 0), s)
  readCallback _ callback _ := .ok callback
  isPending _ _ := .ok false
  clearPending _ s := .ok s
  enableInterrupt _ s := .ok s
  settled s := s.answers.length

/-- A clock is asked for its name: the first status word of the response is the one that counts, and
the other is disregarded. A controller that takes the second request too late gives a timeout. -/
theorem Service.queryData_adapts_clockName :
    let env : Env := ⟨{ Config.oneCore.platform with wait := .bounded 1 }, 0, .off⟩
    let script : Scripted :=
      { responses := [⟨0, [2]⟩, ⟨2003, [0, 0x6b6c6361, 0x305f6b, 1]⟩] }
    let polls : Machine Link.PollScript := { transport := ⟨[false, true]⟩ }
    (∃ r, (routeSmc .secure (callerRegisters 0xc2000023 1 0) env
        { transport := script, up := true }).ending = .ok r ∧
      r.values = [0x6b6c636100000000, 0x100305f6b]) ∧
    (queryData 1 0 0 0 .secure env polls).ending =
      .ok { status := .error .timeout, data := #v[0, 0, 0] } := by
  intro env script polls
  have listed : env.platform.processors.head? = some _ := rfl
  obtain ⟨-, -, expired, registers, -⟩ := queryData_adapts listed 1 0 0 0 .secure
  have accepted : Accepts (functionOf (callerRegisters 0xc2000023 1 0)) := by decide
  obtain ⟨r, answered, values⟩ := registers { transport := script, up := true } _ rfl accepted rfl
  refine ⟨⟨r, answered, values.trans (by decide)⟩, ?_⟩
  obtain ⟨_, _, asked⟩ : ∃ events logs, ask 1 .featureCheck .secure [35] env polls =
      ⟨.ok (.ok #v[0]), { transport := ⟨[true]⟩ }, events, logs⟩ := ⟨_, _, rfl⟩
  obtain ⟨_, _, late⟩ : ∃ events logs, Exchange.send ⟨0, 1⟩ (queryFrame 1 0 0 0 .secure) env
      ({ transport := ⟨[true]⟩ } : Machine Link.PollScript) =
        ⟨.ok (.error .timeout), { transport := ⟨[]⟩ }, events, logs⟩ := ⟨_, _, rfl⟩
  have base : Eemi.resolveModule (Eemi.moduleOf 35) = Eemi.baseModule := by decide
  have given := congrFun (congrFun (featureCheck_of_base .secure base) env) polls
  rw [Act.bind_of_ok asked] at given
  simp only [Except.map, Vector.map_mk, List.map_toArray, List.map_cons, List.map_nil] at given
  exact congrArg Outcome.ending (expired given (by decide) late)

end PowerBridge
