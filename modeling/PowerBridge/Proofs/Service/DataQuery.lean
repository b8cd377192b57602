import PowerBridge.Proofs.Eemi.Frames
import PowerBridge.Proofs.Exchange.Polls
import PowerBridge.Proofs.Service.Primary

/-!
# The course of a data query

A data query makes up to two exchanges. The first asks for the controller's version of data queries,
which decides whether there is a second one, how many words of its response are read, and where its
status and its data are found. Either exchange may time out, and the controller may refuse the first
one, or give a version that has retired data queries.

Main statements: `queryData_of_expired` (over every transport), `asks_queryCourse_iff` and
`queryData_apply` (over a script).
-/

namespace PowerBridge

open Eemi (Api Failure Frame Header QueryFormat frameWords)
open Link (Channel Response Scripted Transport)

/-! ## Courses -/

namespace Service

/-- How far a data query gets. -/
inductive QueryCourse where
  /-- The wait for the version has expired. -/
  | versionExpired
  /-- The controller has refused to give the version. -/
  | versionRefused (status : UInt32)
  /-- The controller has retired data queries. -/
  | retired
  /-- The wait for the data has expired. -/
  | expired
  /-- The data has come with a status word in front of it. -/
  | statusFirst (response : Response)
  | plain (response : Response)

namespace QueryCourse

/-- The answer to a data query. The status word in front of the data takes the place of that of the
response. -/
def reply : QueryCourse → QueryReply
  | versionExpired | expired => .failed .timeout
  | versionRefused status => .failed (Failure.ofCode status)
  | retired => .failed .notSupported
  | statusFirst response =>
    let word := response.words.getD
    { status := Failure.check (word 0 0)
      data := #v[word 1 0, word 2 0, word 3 0] }
  | plain response =>
    let word := response.words.getD
    { status := Failure.check response.status
      data := #v[word 0 0, word 1 0, word 2 0] }

/-- Whether the data is asked for. -/
def Asks : QueryCourse → Prop
  | versionExpired | versionRefused _ | retired => False
  | expired | statusFirst _ | plain _ => True

instance : DecidablePred Asks
  | versionExpired | versionRefused _ | retired => inferInstanceAs (Decidable False)
  | expired | statusFirst _ | plain _ => inferInstanceAs (Decidable True)

/-- The course of a query that is answered in the given format. -/
def answered (response : Response) : QueryFormat → QueryCourse
  | .retired => retired
  | .statusFirst => statusFirst response
  | .plain => plain response

end QueryCourse

/-- The course of a data query over a script. The first response of the script has the version, of
which only the lower half counts, and the second one the data. -/
def queryCourse (policy : WaitPolicy) (script : Scripted) (query : UInt32) : QueryCourse :=
  let version := script.responses.headD .zero
  let answer := (script.responses.drop 1).headD .zero
  let firmware := version.words.getD 0 0 &&& 0xffff
  if ¬ policy.Allows script.busyPolls then .versionExpired
  else if version.status ≠ 0 then .versionRefused version.status
  else if firmware = 3 then .retired
  else if ¬ policy.Allows (policy.busyLeft script.busyPolls) then .expired
  else if firmware = 2 ∧ (query = 1 ∨ query = 9) then .statusFirst answer
  else .plain answer

/-- Data is asked for if the version is given in time, and is not the one that has retired it. -/
theorem asks_queryCourse_iff (policy : WaitPolicy) (script : Scripted) (query : UInt32) :
    (queryCourse policy script query).Asks ↔ policy.Allows script.busyPolls ∧
      (script.responses.headD .zero).status = 0 ∧
        (script.responses.headD .zero).words.getD 0 0 &&& 0xffff ≠ 3 := by
  unfold queryCourse
  by_cases inTime : policy.Allows script.busyPolls
  case neg =>
    rw [if_pos inTime]
    exact iff_of_false id fun given => inTime given.1
  rw [if_neg (not_not_intro inTime)]
  by_cases success : (script.responses.headD .zero).status = 0
  case neg =>
    rw [if_pos success]
    exact iff_of_false id fun given => success given.2.1
  rw [if_neg (not_not_intro success)]
  by_cases retired : (script.responses.headD .zero).words.getD 0 0 &&& 0xffff = 3
  case pos =>
    rw [if_pos retired]
    exact iff_of_false id fun given => given.2.2 retired
  rw [if_neg retired]
  -- whatever comes of the second exchange
  refine iff_of_true ?_ ⟨inTime, success, retired⟩
  split
  · trivial
  split <;> trivial

end Service

/-! ## Formats -/

namespace Eemi.QueryFormat

/-- The format is decided by the lower half of the version word, which has the controller's version
in it, and by whether a name is asked for. -/
theorem classify_localVersion (word query : UInt32) :
    classify (localVersion Api.queryData.code ||| word) query =
      if word &&& 0xffff = 3 then .retired
      else if word &&& 0xffff = 2 ∧ (query = 1 ∨ query = 9) then .statusFirst
      else .plain := by
  -- this service's version stands in the upper half, which the mask cuts off
  have version : (localVersion Api.queryData.code ||| word) &&& 0xffff = word &&& 0xffff := by
    rw [Word.or_and_distrib, show localVersion Api.queryData.code &&& 0xffff = 0 by decide,
      UInt32.zero_or]
  have forName : (Coded.ofCode? query : Option NameQuery).isSome = true ↔
      query = 1 ∨ query = 9 := by
    simp only [Option.isSome_iff_exists, Coded.ofCode?_eq_some_iff]
    constructor
    · rintro ⟨name, rfl⟩
      cases name
      · exact .inl rfl
      · exact .inr rfl
    · rintro (rfl | rfl)
      · exact ⟨.clock, rfl⟩
      · exact ⟨.pinFunction, rfl⟩
  unfold classify
  simp only [version, forName]

end Eemi.QueryFormat

namespace Service

/-! ## The second exchange -/

/-- What a request that is answered comes to goes on from what sending it comes to. -/
theorem sendForStatus_eq_send_bind {T : Type} [Transport T] {n : Nat} (channel : Channel)
    (frame : Frame) (values : Vector UInt32 n) :
    (Exchange.sendForStatus channel frame values : Act T _) =
      Exchange.send channel frame >>= fun
        | .error failure => pure (.error failure, values)
        | .ok () => do
          let (status, read) ← Act.readResponse channel values
          return (.ok status, read) := by
  rw [Exchange.send, bind_assoc]
  rfl

/-- **A data query whose wait expires is answered by that failure**, over every transport: nothing
is read, and there is no data. -/
theorem queryAs_of_expired {T : Type} [Transport T] {format : QueryFormat}
    (made : format ≠ .retired) {channel : Channel} {frame : Frame} {env : Env} {m m' : Machine T}
    {failure : Failure} {events : List Event} {logs : List Log.Record}
    (expired : Exchange.send channel frame env m = ⟨.ok (.error failure), m', events, logs⟩) :
    queryAs format channel frame env m =
      ⟨.ok (.failed failure), m', events, logs⟩ := by
  cases format with
  | retired => exact absurd rfl made
  | statusFirst =>
    rw [queryAs, sendForStatus_eq_send_bind, bind_assoc, Act.bind_of_ok expired]
    simp only [pure_bind, Act.pure_apply, List.append_nil]
  | plain =>
    rw [queryAs, Exchange.sendForAnswer, sendForStatus_eq_send_bind, bind_assoc, bind_assoc,
      Act.bind_of_ok expired]
    simp only [pure_bind, Act.pure_apply, List.append_nil]
    rfl

/-- The status is taken off the eight words that are read, and three words of data stay. -/
theorem stripStatus_fill (response : Response) :
    ∃ more, Eemi.stripStatus (response.fill 8).toList =
      .ok (response.words.getD 0 0, response.words.getD 1 0 :: response.words.getD 2 0 ::
        response.words.getD 3 0 :: more) := by
  rw [Response.fill, Vector.toList_ofFn]
  exact ⟨_, rfl⟩

theorem queryAs_apply {format : QueryFormat} (made : format ≠ .retired) (channel : Channel)
    (frame : Frame) (env : Env) (m : Machine Scripted) :
    queryAs format channel frame env m =
      if env.platform.wait.Allows m.transport.busyPolls then
        ⟨.ok (QueryCourse.answered (Exchange.nextResponse m) format).reply,
          Exchange.left env.platform.wait 1 m,
          Exchange.transcript channel frame.words
            (env.platform.wait.answers m.transport.busyPolls) (some format.replyWords),
          env.filter.keep [Exchange.requestRecord frame]⟩
      else
        ⟨.ok QueryCourse.expired.reply, Exchange.left env.platform.wait 0 m,
          Exchange.transcript channel frame.words
            (env.platform.wait.answers m.transport.busyPolls) none,
          env.filter.keep [Exchange.requestRecord frame]⟩ := by
  by_cases inTime : env.platform.wait.Allows m.transport.busyPolls
  · rw [if_pos inTime]
    cases format with
    | retired => exact absurd rfl made
    | statusFirst =>
      obtain ⟨more, stripped⟩ := stripStatus_fill (Exchange.nextResponse m)
      change Eemi.stripStatus
        ((Exchange.nextResponse m).fill QueryFormat.statusFirst.replyWords).toList = _ at stripped
      have read := Exchange.sendForStatus_exact channel frame
        (Vector.replicate QueryFormat.statusFirst.replyWords 0) env m
      rw [if_pos inTime] at read
      rw [queryAs, Act.bind_of_ok read]
      simp only [stripped, Act.orFault_ok, pure_bind, Act.pure_apply, List.append_nil]
      rfl
    | plain =>
      have read := Exchange.sendForAnswer_exact channel frame
        (Vector.replicate QueryFormat.plain.replyWords 0) env m
      rw [if_pos inTime] at read
      rw [queryAs, Act.bind_of_ok read]
      simp only [Act.pure_apply, List.append_nil, Response.fill, Vector.getElem_ofFn]
      rfl
  · rw [if_neg inTime]
    have expired := Exchange.send_exact channel frame env m
    rw [if_neg inTime] at expired
    exact queryAs_of_expired made expired

/-! ## The frames of both exchanges -/

/-- The request for the controller's version of an API. -/
def checkFrame (api : UInt32) (world : World) : Frame :=
  ⟨Header.ofApi .featureCheck world, [api], Nat.le_add_left 1 4⟩

/-- The request for data. -/
def queryFrame (query a b c : UInt32) (world : World) : Frame :=
  ⟨Header.ofApi .queryData world, [query, a, b, c], Nat.le_add_left 4 1⟩

theorem words_checkFrame (api : UInt32) (world : World) :
    (checkFrame api world).words = #v[Header.wordOf 63 world, api, 0, 0, 0, 0] := by
  apply Vector.toList_inj.1
  rw [Frame.toList_words, checkFrame, Header.encode_ofApi]
  rfl

theorem words_queryFrame (query a b c : UInt32) (world : World) :
    (queryFrame query a b c world).words = #v[Header.wordOf 35 world, query, a, b, c, 0] := by
  apply Vector.toList_inj.1
  rw [Frame.toList_words, queryFrame, Header.encode_ofApi]
  rfl

/-! ## Both exchanges -/

namespace QueryCourse

/-- What is seen of a data query, by the words of its two requests: the exchange for the version,
and that for the data if it is made. -/
def events (channel : Channel) (check ask : Vector UInt32 frameWords) (policy : WaitPolicy)
    (busy : Nat) (course : QueryCourse) : List Event :=
  let checked := Exchange.transcript channel check (policy.answers busy)
  let asked := Exchange.transcript channel ask (policy.answers (policy.busyLeft busy))
  match course with
  | versionExpired => checked none
  | versionRefused _ | retired => checked (some 1)
  | expired => checked (some 1) ++ asked none
  | statusFirst _ => checked (some 1) ++ asked (some 8)
  | plain _ => checked (some 1) ++ asked (some 4)

/-- The machine that is left by a data query: every exchange that was in time has taken a
response. -/
def machine (policy : WaitPolicy) (m : Machine Scripted) : QueryCourse → Machine Scripted
  | versionExpired => Exchange.left policy 0 m
  | versionRefused _ | retired => Exchange.left policy 1 m
  | expired => Exchange.left policy 0 (Exchange.left policy 1 m)
  | statusFirst _ | plain _ => Exchange.left policy 1 (Exchange.left policy 1 m)

end QueryCourse

section

variable {env : Env} {first : Processor}
  (listed : env.platform.processors.head? = some first) (m : Machine Scripted) (world : World)

include listed

/-- The version of an API of the base module is asked for in one exchange, and this service's
version is added to it. -/
theorem featureCheck_apply {api : UInt32}
    (base : Eemi.resolveModule (Eemi.moduleOf api) = Eemi.baseModule) :
    featureCheck api world env m =
      if env.platform.wait.Allows m.transport.busyPolls then
        ⟨.ok ((Failure.check (Exchange.nextResponse m).status).map fun () =>
            #v[Eemi.localVersion api ||| (Exchange.nextResponse m).words.getD 0 0]),
          Exchange.left env.platform.wait 1 m,
          Exchange.transcript first.channel (checkFrame api world).words
            (env.platform.wait.answers m.transport.busyPolls) (some 1),
          env.filter.keep [Exchange.requestRecord (checkFrame api world)]⟩
      else
        ⟨.ok (.error .timeout), Exchange.left env.platform.wait 0 m,
          Exchange.transcript first.channel (checkFrame api world).words
            (env.platform.wait.answers m.transport.busyPolls) none,
          env.filter.keep [Exchange.requestRecord (checkFrame api world)]⟩ := by
  have asked : ask 1 .featureCheck world [api] env m =
      Exchange.request 1 first.channel (checkFrame api world) env m :=
    ask_apply listed m 1 .featureCheck world (checkFrame api world).args_le
  rw [featureCheck_of_base world base, Act.bind_apply, asked, Exchange.request_exact]
  by_cases inTime : env.platform.wait.Allows m.transport.busyPolls
  · rw [if_pos inTime, if_pos inTime]
    simp only [Outcome.andThen_ok, Act.pure_apply, List.append_nil]
    -- the one word of the response is that of the version
    cases Failure.check (Exchange.nextResponse m).status with
    | error failure => rfl
    | ok _ =>
      simp only [Except.map, Response.fill, Vector.map_ofFn]
      rfl
  · rw [if_neg inTime, if_neg inTime]
    simp only [Outcome.andThen_ok, Act.pure_apply, List.append_nil]
    rfl

end

/-! ## Both exchanges, over every transport -/

section

variable {T : Type} [Transport T] {env : Env} {m m' : Machine T} {events : List Event}
  {logs : List Log.Record}

/-- Without a version there is no query, and the failure is the answer. -/
theorem queryData_of_failed {world : World} {failure : Failure}
    (failed : featureCheck 35 world env m = ⟨.ok (.error failure), m', events, logs⟩)
    (query a b c : UInt32) :
    queryData query a b c world env m = ⟨.ok (.failed failure), m', events, logs⟩ := by
  change featureCheck Api.queryData.code world env m = _ at failed
  rw [queryData, Act.bind_of_ok failed]
  simp only [Act.pure_apply, List.append_nil]

variable {first : Processor} (listed : env.platform.processors.head? = some first)

include listed

/-- The version that is given decides the format of the query. -/
theorem queryData_of_version {world : World} {version : UInt32}
    (given : featureCheck 35 world env m = ⟨.ok (.ok #v[version]), m', events, logs⟩)
    {query a b c : UInt32} {format : QueryFormat}
    (known : QueryFormat.classify version query = format) {ending : Except Halt QueryReply}
    {m'' : Machine T} {later : List Event} {laterLogs : List Log.Record}
    (asked : queryAs format first.channel (queryFrame query a b c world) env m' =
      ⟨ending, m'', later, laterLogs⟩) :
    queryData query a b c world env m = ⟨ending, m'', events ++ later, logs ++ laterLogs⟩ := by
  change featureCheck Api.queryData.code world env m = _ at given
  have called : Frame.call .queryData world [query, a, b, c] = .ok (queryFrame query a b c world) :=
    Frame.call_eq .queryData world (queryFrame query a b c world).args_le
  rw [queryData, Act.bind_of_ok given]
  change QueryFormat.classify #v[version][0] query = format at known
  simp only [called, Act.orFault_ok, pure_bind, primary_bind listed, known, asked]

/-- **A data query whose second wait expires is answered by that failure**, over every transport:
nothing is read any more, and there is no data. -/
theorem queryData_of_expired {world : World} {version : UInt32}
    (given : featureCheck 35 world env m = ⟨.ok (.ok #v[version]), m', events, logs⟩)
    {query a b c : UInt32} (made : QueryFormat.classify version query ≠ .retired)
    {m'' : Machine T} {later : List Event} {laterLogs : List Log.Record} {failure : Failure}
    (expired : Exchange.send first.channel (queryFrame query a b c world) env m' =
      ⟨.ok (.error failure), m'', later, laterLogs⟩) :
    queryData query a b c world env m =
      ⟨.ok (.failed failure), m'', events ++ later, logs ++ laterLogs⟩ :=
  queryData_of_version listed given rfl (queryAs_of_expired made expired)

end

/-! ## Both exchanges, over a script -/

section

variable {env : Env} {first : Processor}
  (listed : env.platform.processors.head? = some first) (m : Machine Scripted) (world : World)

include listed

/-- If the controller gives its version, which decides the format of the query, the query starts
from what the first exchange has left of the script. -/
theorem queryData_of_given (inTime : env.platform.wait.Allows m.transport.busyPolls)
    (success : (Exchange.nextResponse m).status = 0) {query a b c : UInt32} {format : QueryFormat}
    (known : QueryFormat.classify (Eemi.localVersion Api.queryData.code |||
      (Exchange.nextResponse m).words.getD 0 0) query = format)
    {reply : QueryReply} {m' : Machine Scripted} {events : List Event} {logs : List Log.Record}
    (asked : queryAs format first.channel (queryFrame query a b c world) env
      (Exchange.left env.platform.wait 1 m) = ⟨.ok reply, m', events, logs⟩) :
    ∃ logs, queryData query a b c world env m =
      ⟨.ok reply, m', Exchange.transcript first.channel (checkFrame 35 world).words
        (env.platform.wait.answers m.transport.busyPolls) (some 1) ++ events, logs⟩ := by
  have base : Eemi.resolveModule (Eemi.moduleOf 35) = Eemi.baseModule := by decide
  have checked := featureCheck_apply listed m world base
  rw [if_pos inTime, Failure.check, if_pos success] at checked
  exact ⟨_, queryData_of_version listed checked known asked⟩

/-- **A data query follows its course**: its answer, what is seen of it, and the machine that is
left are those of the course that the script gives it. -/
theorem queryData_apply (query a b c : UInt32) :
    let policy := env.platform.wait
    let course := queryCourse policy m.transport query
    ∃ logs, queryData query a b c world env m =
      ⟨.ok course.reply, course.machine policy m,
        course.events first.channel (checkFrame 35 world).words (queryFrame query a b c world).words
          policy m.transport.busyPolls, logs⟩ := by
  intro policy course
  have base : Eemi.resolveModule (Eemi.moduleOf 35) = Eemi.baseModule := by decide
  have checked := featureCheck_apply listed m world base
  by_cases inTime : policy.Allows m.transport.busyPolls
  case neg =>
    have late : course = .versionExpired := if_pos inTime
    rw [if_neg inTime] at checked
    rw [late]
    exact ⟨_, queryData_of_failed checked query a b c⟩
  by_cases success : (Exchange.nextResponse m).status = 0
  case neg =>
    have refused : course = .versionRefused (Exchange.nextResponse m).status :=
      (if_neg (not_not_intro inTime)).trans (if_pos success)
    rw [if_pos inTime, Failure.check, if_neg success] at checked
    rw [refused]
    exact ⟨_, queryData_of_failed checked query a b c⟩
  -- the version is given, and the course is that of its format
  have given : course = _ := (if_neg (not_not_intro inTime)).trans (if_neg (not_not_intro success))
  have known := QueryFormat.classify_localVersion ((Exchange.nextResponse m).words.getD 0 0) query
  have asked (format : QueryFormat) (made : format ≠ .retired) :=
    queryAs_apply made first.channel (queryFrame query a b c world) env (Exchange.left policy 1 m)
  by_cases retired : (Exchange.nextResponse m).words.getD 0 0 &&& 0xffff = 3
  case pos =>
    have gone : course = .retired := given.trans (if_pos retired)
    rw [gone, ← List.append_nil (QueryCourse.events ..)]
    exact queryData_of_given listed m world inTime success (known.trans (if_pos retired)) rfl
  replace given := given.trans (if_neg retired)
  replace known := known.trans (if_neg retired)
  by_cases second : policy.Allows (policy.busyLeft m.transport.busyPolls)
  case neg =>
    have expired : course = .expired := given.trans (if_pos second)
    rw [expired]
    exact queryData_of_given listed m world inTime success known
      ((asked _ (by split <;> nofun)).trans (if_neg second))
  replace given := given.trans (if_neg (not_not_intro second))
  by_cases named : (Exchange.nextResponse m).words.getD 0 0 &&& 0xffff = 2 ∧
      (query = 1 ∨ query = 9)
  case pos =>
    have answered : course = .statusFirst _ := given.trans (if_pos named)
    rw [answered]
    exact queryData_of_given listed m world inTime success (known.trans (if_pos named))
      ((asked .statusFirst nofun).trans (if_pos second))
  case neg =>
    have answered : course = .plain _ := given.trans (if_neg named)
    rw [answered]
    exact queryData_of_given listed m world inTime success (known.trans (if_neg named))
      ((asked .plain nofun).trans (if_pos second))

end

end Service

end PowerBridge
