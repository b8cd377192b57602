import PowerBridge.Proofs.Exchange.Polls
import PowerBridge.Proofs.Exchange.Requests
import PowerBridge.Proofs.Service.Primary
import PowerBridge.Proofs.Session.Reachable

/-!
# Requests that are passed through

Many calls are one exchange on the primary channel. The same exchange can be had by passing a
request through as words: the number of the API in the low half of the first word, then the
arguments, then zeros. The frames are put together in different ways, from the API and a list of
arguments, or from the words one by one; they come to the same. The answer to a request that is
passed through has eight words, the first of which are those that the call gives.

Main statements: `ask_eq_passThrough` (one request in two ways), `perform_eq_passThrough` (calls,
and the frames of all requests that are passed through).
-/

namespace PowerBridge

open Eemi (Api Failure Frame Header Reply frameArguments frameWords)
open Link (Channel Response Scripted Transport)

/-! ## Words of a request -/

namespace Eemi

/-- The words of a request: the given one, the arguments, and zeros. -/
def requestWords (word : UInt32) (args : List UInt32) : Vector UInt32 frameWords :=
  Vector.ofFn fun i => (word :: args).getD i.val 0

theorem requestWords_first (word : UInt32) (args : List UInt32) :
    (requestWords word args)[0] = word :=
  Vector.getElem_ofFn _

theorem toList_requestWords (word : UInt32) {args : List UInt32}
    (fits : args.length ≤ frameArguments) :
    (requestWords word args).toList =
      word :: args ++ List.replicate (frameArguments - args.length) 0 :=
  Frame.toList_ofFn_getD word fits

namespace Frame

theorem frameWords_pos : 0 < frameWords := Nat.succ_pos 5

theorem length_tail (words : Vector UInt32 frameWords) :
    words.toList.tail.length = frameArguments := by
  rw [List.length_tail, Vector.length_toList]
  rfl

/-- The frame that is put together from words. -/
def raw (world : World) (words : Vector UInt32 frameWords) : Frame :=
  -- both look-ups are inside the words
  have inside := frameWords_pos
  { header := Header.make words[0].toUInt8 (moduleOf words[0]) world
    args := words.toList.tail
    args_le := Nat.le_of_eq (length_tail words) }

/-- All words but the first are written as they are. -/
theorem toList_words_raw (world : World) (words : Vector UInt32 frameWords) :
    (raw world words).words.toList = (raw world words).header.encode :: words.toList.tail := by
  have full : (raw world words).args.length = frameArguments := length_tail words
  rw [toList_words, full, Nat.sub_self, List.replicate_zero, List.append_nil]
  rfl

section

variable {api : Api} {word : UInt32} (number : word &&& 0xffff = api.code) (world : World)
include number

theorem header_raw (args : List UInt32) :
    (raw world (requestWords word args)).header = Header.ofApi api world := by
  rw [Header.ofApi_eq, ← Header.make_of_and_eq number, raw, requestWords_first]

/-- **Both ways of putting a frame together** come to the same words. -/
theorem words_raw {args : List UInt32} (fits : args.length ≤ frameArguments) :
    (raw world (requestWords word args)).words =
      (⟨Header.ofApi api world, args, fits⟩ : Frame).words := by
  apply Vector.toList_inj.1
  rw [toList_words_raw, toList_words, header_raw number, toList_requestWords word fits]
  rfl

end

end Frame

/-! ## Words of an answer -/

/-- The first words of an answer of eight. -/
def firstWords {n : Nat} (few : n ≤ 8) (words : Vector UInt32 8) : Vector UInt32 n :=
  Vector.ofFn fun i => words[i.val]

theorem firstWords_fill {n : Nat} (few : n ≤ 8) (response : Response) :
    firstWords few (response.fill 8) = response.fill n := by
  apply Vector.ext
  intro i inside
  simp only [firstWords, Response.fill, Vector.getElem_ofFn]

end Eemi

open Eemi (firstWords requestWords)

/-- An event, with another count of words in the response that it may read. -/
def Event.reading (count : Nat) : Event → Event
  | .link channel (.responseRead _) => .link channel (.responseRead count)
  | event => event

/-- The outcome of a request for eight words, as it is if only the first of them are asked for. -/
def Outcome.firstWords {T : Type} {n : Nat} (few : n ≤ 8) (o : Outcome T (Reply 8)) :
    Outcome T (Reply n) :=
  { ending := o.ending.map fun reply => reply.map (Eemi.firstWords few)
    machine := o.machine
    events := o.events.map (Event.reading n)
    logs := o.logs }

/-! ## Exchanges -/

namespace Exchange

theorem map_reading (count : Nat) (channel : Channel) (words : Vector UInt32 frameWords)
    (answers : List Bool) (read : Option Nat) :
    (transcript channel words answers read).map (Event.reading count) =
      transcript channel words answers (read.map fun _ => count) := by
  simp only [transcript, List.map_append, List.map_map, List.map_cons, List.map_nil]
  cases read <;> rfl

/-- How many words are asked for does not matter to an exchange otherwise. -/
theorem request_firstWords {n : Nat} (few : n ≤ 8) (channel : Channel) {frame frame' : Frame}
    (header : frame'.header = frame.header) (words : frame'.words = frame.words) (env : Env)
    (m : Machine Scripted) :
    request n channel frame env m = (request 8 channel frame' env m).firstWords few := by
  have record : requestRecord frame' = requestRecord frame := by
    rw [requestRecord, requestRecord, header]
  rw [request_exact, request_exact, words, record]
  by_cases inTime : env.platform.wait.Allows m.transport.busyPolls
  · rw [if_pos inTime, if_pos inTime, Outcome.firstWords, map_reading]
    cases status : Failure.check (nextResponse m).status with
    | error failure => rfl
    | ok _ => simp only [Except.map, Eemi.firstWords_fill, Option.map_some]
  · rw [if_neg inTime, if_neg inTime, Outcome.firstWords, map_reading]
    rfl

end Exchange

namespace Service

/-! ## One request in two ways -/

theorem passThrough_of_no_processors {T : Type} [Transport T] {env : Env}
    (none : env.platform.processors = []) (m : Machine T) (world : World)
    (words : Vector UInt32 frameWords) :
    passThrough world words env m = ⟨.error (.fault .noProcessor), m, [], []⟩ := by
  rw [passThrough, Frame.ofWords_eq world words (Nat.le_of_eq (Frame.length_tail words)),
    Act.orFault_ok, pure_bind, Act.bind_of_error (primary_of_no_processors none m)]

theorem passThrough_apply {T : Type} [Transport T] {env : Env} {first : Processor}
    (listed : env.platform.processors.head? = some first) (m : Machine T) (world : World)
    (words : Vector UInt32 frameWords) :
    passThrough world words env m =
      Exchange.request 8 first.channel (Frame.raw world words) env m := by
  rw [passThrough, Frame.ofWords_eq world words (Nat.le_of_eq (Frame.length_tail words)),
    Act.orFault_ok, pure_bind]
  exact primary_bind listed m _

/-- **A request and the same request passed through** have one outcome, but for how many words are
read and given. -/
theorem ask_eq_passThrough {n : Nat} (few : n ≤ 8) {api : Api} {word : UInt32}
    (number : word &&& 0xffff = api.code) {args : List UInt32}
    (fits : args.length ≤ frameArguments) (world : World) (env : Env) (m : Machine Scripted) :
    ask n api world args env m =
      (passThrough world (requestWords word args) env m).firstWords few := by
  cases listed : env.platform.processors.head? with
  | none =>
    have noProcessors := List.head?_eq_none_iff.1 listed
    rw [ask_of_no_processors noProcessors m n api world fits,
      passThrough_of_no_processors noProcessors]
    rfl
  | some first =>
    rw [ask_apply listed m n api world fits, passThrough_apply listed]
    exact Exchange.request_firstWords few first.channel (Frame.header_raw number world args)
      (Frame.words_raw number world fits) env m

/-- The frame of a request that is passed through. -/
theorem requestsOf_passThrough (world : World) (words : Vector UInt32 frameWords) (env : Env)
    (m : Machine Scripted) :
    requestsOf (passThrough world words env m).events =
      env.platform.processors.head?.toList.map fun first =>
        ⟨first.channel, Header.wordOf words[0] world :: words.toList.tail⟩ := by
  cases listed : env.platform.processors.head? with
  | none =>
    rw [passThrough_of_no_processors (List.head?_eq_none_iff.1 listed)]
    rfl
  | some first =>
    rw [passThrough_apply listed, Exchange.requestsOf_request, Frame.toList_words_raw, Frame.raw,
      Header.encode_make]
    rfl

/-! ## Calls of one request -/

/-- The request that a call consists of: an API, its arguments, and how many words the caller is
given. -/
structure SingleRequest where
  api : Api
  args : List UInt32
  outputs : Nat
  args_le : args.length ≤ 4
  outputs_le : outputs ≤ 3

/-- The node of the primary processor. -/
def primaryNode (env : Env) : UInt32 :=
  (env.platform.processors.head?.map Processor.node).getD 0

/-- The request of a call that does nothing else but wait for the answer to it. -/
def Call.request? (env : Env) : Call → Option SingleRequest
  | .forward api args => some
    { api := .forwarded api
      args := args.take api.arguments
      outputs := api.outputs
      args_le := Nat.le_trans (List.length_take_le ..) api.arguments_le
      outputs_le := api.outputs_le }
  | .abortSuspend reason => some
    { api := .abortSuspend
      args := [reason, primaryNode env]
      outputs := 0
      args_le := Nat.le_add_left 2 2
      outputs_le := Nat.zero_le 3 }
  | .requestWakeup target setAddress address ack => some
    { api := .requestWakeup
      args := [target, setAddress, Word.low address, ack]
      outputs := 0
      args_le := Nat.le_refl 4
      outputs_le := Nat.zero_le 3 }
  | .loadImage source addressLow addressHigh => some
    { api := .loadImage
      args := [source, addressHigh, addressLow]
      outputs := 0
      args_le := Nat.le_add_left 3 1
      outputs_le := Nat.zero_le 3 }
  | _ => none

/-- What the chip does before the request of a call. -/
def Call.hook (env : Env) : Call → List Event
  | .abortSuspend _ => if env.platform.suspendHooks then [.chip .suspendUndone] else []
  | _ => []

theorem SingleRequest.few (request : SingleRequest) : request.outputs ≤ 8 :=
  Nat.le_trans request.outputs_le (Nat.le_add_left 3 5)

theorem SingleRequest.fits (request : SingleRequest) : request.args.length ≤ frameArguments :=
  Nat.le_succ_of_le request.args_le

/-- The outcome of a call whose request comes to `o`. -/
def Call.outcome {T : Type} {n : Nat} (call : Call) (env : Env) (o : Outcome T (Reply n)) :
    Outcome T Result :=
  { ending := o.ending.map .reply
    machine := o.machine
    events := call.hook env ++ o.events
    logs := o.logs }

/-- A call comes to its request if the action behind it is the hook and the request. -/
theorem Call.outcome_of_hooked {T : Type} {n : Nat} {call : Call} {env : Env} {m : Machine T}
    {x : Act T (Reply n)} {o : Outcome T (Reply n)}
    (hooked : x env m = { o with events := call.hook env ++ o.events }) :
    (x >>= fun reply => pure (.reply reply) : Act T Result) env m = call.outcome env o := by
  rw [Act.bind_apply, hooked]
  rcases o with ⟨ending, m', events, logs⟩
  cases ending with
  | error why => rfl
  | ok reply =>
    simp only [Outcome.andThen_ok, Act.pure_apply, List.append_nil]
    rfl

section

variable {T : Type} [Transport T] (world : World) (env : Env) (m : Machine T)

/-- An abort names the primary processor, if there is one. If there is none, there is no request. -/
theorem primary_bind_abortSuspend (reason : UInt32) :
    (primary >>= fun first => ask 0 .abortSuspend world [reason, first.node] :
        Act T (Reply 0)) env m =
      ask 0 .abortSuspend world [reason, primaryNode env] env m := by
  cases listed : env.platform.processors.head? with
  | none =>
    have noProcessors := List.head?_eq_none_iff.1 listed
    have two : [reason, primaryNode env].length ≤ frameArguments := Nat.le_add_left 2 3
    rw [Act.bind_of_error (primary_of_no_processors noProcessors m),
      ask_of_no_processors noProcessors m 0 .abortSuspend world two]
  | some first =>
    rw [primary_bind listed, primaryNode, listed]
    rfl

theorem abortSuspend_hooked (reason : UInt32) :
    abortSuspend reason world env m =
      { ask 0 .abortSuspend world [reason, primaryNode env] env m with
        events := (Call.abortSuspend reason).hook env ++
          (ask 0 .abortSuspend world [reason, primaryNode env] env m).events } := by
  rw [← primary_bind_abortSuspend, Service.abortSuspend, Act.env_bind, Call.hook]
  cases env.platform.suspendHooks <;> rfl

/-- A call of one request comes to that request, with the hook in front of it. -/
theorem Call.perform_of_request {call : Call} {request : SingleRequest}
    (asks : call.request? env = some request) :
    call.perform world env m =
      call.outcome env (ask request.outputs request.api world request.args env m) := by
  cases call with
  | abortSuspend reason =>
    cases asks
    exact outcome_of_hooked (abortSuspend_hooked world env m reason)
  | forward | requestWakeup | loadImage =>
    -- no hook, and nothing but the request
    cases asks
    exact outcome_of_hooked rfl
  | _ => cases asks

end

/-- **Passing a request through agrees with the calls.** A call of one request has the outcome of
the same request passed through, whatever the upper half of the word with the number is: the frame,
the channel, the polls, the response that is taken, and a failure are the same, and the caller of
the call is given the first words of the answer; only a hook comes before. Any words that are passed
through are written as they are behind a header of the number, its module and the caller's world. -/
theorem perform_eq_passThrough (world : World) (env : Env) (m : Machine Scripted) :
    (∀ (call : Call) (request : SingleRequest), call.request? env = some request →
      ∀ word : UInt32, word &&& 0xffff = request.api.code →
        call.perform world env m =
          call.outcome env
            ((passThrough world (requestWords word request.args) env m).firstWords request.few)) ∧
    ∀ words : Vector UInt32 frameWords,
      requestsOf (passThrough world words env m).events =
        env.platform.processors.head?.toList.map fun first =>
          ⟨first.channel, Header.wordOf words[0] world :: words.toList.tail⟩ := by
  refine ⟨?calls, fun words => requestsOf_passThrough world words env m⟩
  case calls =>
    intro call request asks word number
    rw [Call.perform_of_request world env m asks,
      ask_eq_passThrough request.few number request.fits world env m]

end Service

/-! ## The rate of a clock -/

open Service (passThrough)

/-- The rate of clock 7, for a caller of the normal world: the low and high words are the first of
the words that the controller answers with, and the upper half of the first word passed through does
not matter. -/
theorem perform_eq_passThrough_clockGetRate :
    let s := Session.setUp [⟨0, [100, 2, 30]⟩]
    let env := s.env Config.oneCore
    let call := Service.Call.forward .clockGetRate [7]
    let raw := passThrough .nonSecure #v[0xbeef002a, 7, 0, 0, 0, 0] env s.machine
    call.perform .nonSecure env s.machine = call.outcome env (raw.firstWords (by decide : 2 ≤ 8)) ∧
      raw.ending = .ok (.ok #v[100, 2, 30, 0, 0, 0, 0, 0]) ∧
      requestsOf raw.events = [⟨⟨0, 1⟩, [0x0100022a, 7, 0, 0, 0, 0]⟩] := by
  intro s env call raw
  obtain ⟨calls, frames⟩ := Service.perform_eq_passThrough .nonSecure env s.machine
  refine ⟨?agrees, ?answer, ?frame⟩
  case agrees => exact calls call _ rfl 0xbeef002a rfl
  case answer => rfl
  case frame => exact frames #v[0xbeef002a, 7, 0, 0, 0, 0]

end PowerBridge
