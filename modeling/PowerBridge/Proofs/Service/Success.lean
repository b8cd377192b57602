import PowerBridge.Proofs.Exchange.Reliance
import PowerBridge.Proofs.Machine.Sequences
import PowerBridge.Proofs.Service.Primary
import PowerBridge.Proofs.Smc.Dispatch
import PowerBridge.Proofs.Smc.Values

/-!
# Calls that end with a value

Over a transport that can be relied on no secure monitor call halts, whatever its registers are: the
service has a primary processor when it is up, no frame is given more arguments than it has room
for, no reply has more words than the return registers, and every wait ends.

Each operation is followed along its text, with the invariant of the transport.

Main statements: `Service.Call.succeeds_perform`, `Service.answered_routeSmc`.
-/

namespace PowerBridge

open Act (Succeeds)
open Eemi (Api Failure Frame Header frameArguments)
open Link (Channel Reliable Transport)
open Smc (CallerRegisters functionOf)

variable {T α : Type} [Transport T] {env : Env} {used : Channel → Prop} {I : T → Prop}
  (rely : Reliable env.platform.wait used I)

/-! ## Exchanges -/

namespace Exchange

variable {channel : Channel} (uses : used channel)

include rely uses

theorem succeeds_post (frame : Frame) :
    Succeeds I env (post channel frame) fun _ => True := by
  refine .of_outcome fun m inv => ?_
  obtain ⟨t, kept, posted⟩ := exists_post rely uses frame m inv
  exact ⟨(), t, _, _, kept, posted⟩

theorem succeeds_awaitAck : Succeeds I env (awaitAck channel) fun _ => True := by
  refine .of_outcome fun m inv => ?_
  obtain ⟨busy, t, kept, waited⟩ := exists_awaitAck rely uses m inv
  exact ⟨_, t, _, _, kept, waited⟩

theorem succeeds_sendNonBlocking (frame : Frame) :
    Succeeds I env (sendNonBlocking channel frame) fun _ => True :=
  (succeeds_post rely uses frame).andThen fun _ => .pure trivial

theorem succeeds_send (frame : Frame) : Succeeds I env (send channel frame) fun _ => True :=
  (succeeds_post rely uses frame).andThen fun _ => succeeds_awaitAck rely uses

theorem succeeds_sendForStatus {n : Nat} (frame : Frame) (values : Vector UInt32 n) :
    Succeeds I env (sendForStatus channel frame values) fun _ => True := by
  refine .of_outcome fun m inv => ?_
  obtain ⟨busy, t, status, read, kept, sent⟩ := exists_sendForStatus rely uses frame values m inv
  exact ⟨_, t, _, _, kept, sent⟩

theorem succeeds_sendForAnswer {n : Nat} (frame : Frame) (values : Vector UInt32 n) :
    Succeeds I env (sendForAnswer channel frame values) fun _ => True :=
  (succeeds_sendForStatus rely uses frame values).andThen fun _ => .pure trivial

theorem succeeds_request (n : Nat) (frame : Frame) :
    Succeeds I env (request n channel frame) fun _ => True :=
  (succeeds_sendForAnswer rely uses frame _).andThen fun _ => .pure trivial

end Exchange

namespace Service

/-! ## Results -/

theorem toReturn_reply {n : Nat} (few : n < Smc.Return.replyWords) (reply : Eemi.Reply n) :
    ∃ r, (Result.reply reply).toReturn = .ok r := by
  cases reply with
  | error failure =>
    have zeros : (List.replicate n (0 : UInt32)).length < Smc.Return.replyWords := by
      rwa [List.length_replicate]
    obtain ⟨r, packed, -⟩ := Smc.Return.ofWords_eq failure.code zeros
    exact ⟨r, packed⟩
  | ok words =>
    have fits : words.toList.length < Smc.Return.replyWords := by rwa [Vector.length_toList]
    obtain ⟨r, packed, -⟩ := Smc.Return.ofWords_eq 0 fits
    exact ⟨r, packed⟩

theorem toReturn_query (reply : QueryReply) : ∃ r, (Result.query reply).toReturn = .ok r := by
  have fits : reply.data.toList.length < Smc.Return.replyWords := by
    rw [Vector.length_toList]
    decide
  obtain ⟨r, packed, -⟩ := Smc.Return.ofWords_eq (Failure.status reply.status) fits
  exact ⟨r, packed⟩

/-! ## Operations -/

variable {first : Processor} (listed : env.platform.processors.head? = some first)
  (uses : used first.channel)

omit [Transport T] in
include listed in
theorem succeeds_primary_bind {f : Processor → Act T α} {Q : α → Prop}
    (rest : Succeeds I env (f first) Q) : Succeeds I env (primary >>= f) Q :=
  .congr_apply (fun m => primary_bind listed m f) rest

include rely listed uses

theorem succeeds_ask (n : Nat) (api : Api) (world : World) {args : List UInt32}
    (fits : args.length ≤ frameArguments) :
    Succeeds I env (ask n api world args) fun _ => True :=
  .congr_apply (fun m => ask_apply listed m n api world fits)
    (Exchange.succeeds_request rely uses n _)

theorem succeeds_forward (api : Eemi.Forwarded) (world : World) (args : List UInt32) :
    Succeeds I env (forward api world args) fun _ => True :=
  succeeds_ask rely listed uses _ _ world (Frame.length_take_arguments_le api args)

theorem succeeds_askAcked (api : Api) (world : World) {args : List UInt32} (ack : UInt32)
    (fits : args.length ≤ frameArguments) :
    Succeeds I env (askAcked api world args ack) fun _ => True := by
  have asked (m : Machine T) := askAcked_apply listed m api world ack fits
  by_cases blocking : ack = Eemi.blockingAck
  · exact .congr_apply (fun m => (asked m).trans (if_pos blocking))
      (Exchange.succeeds_request rely uses 0 _)
  · exact .congr_apply (fun m => (asked m).trans (if_neg blocking))
      ((Exchange.succeeds_send rely uses _).andThen fun _ => .pure trivial)

theorem succeeds_getApiVersion (world : World) :
    Succeeds I env (getApiVersion world) fun _ => True := by
  rw [getApiVersion, Frame.call_eq .getApiVersion world (Nat.zero_le _), Act.orFault_ok, pure_bind]
  refine succeeds_primary_bind listed ?_
  refine (Exchange.succeeds_sendForStatus rely uses _ _).andThen fun result => ?_
  rcases result with ⟨failure | status, version⟩
  · exact .pure trivial
  · by_cases success : status ≠ 0
    · simp only [if_pos success]
      exact (Succeeds.log _ _).andThen fun _ => .pure trivial
    · simp only [if_neg success]
      exact .pure trivial

theorem succeeds_featureCheck (api : UInt32) (world : World) :
    Succeeds I env (featureCheck api world) fun _ => True := by
  have fits : [api].length ≤ frameArguments := Nat.le_add_left 1 4
  unfold featureCheck
  split
  · exact (succeeds_ask rely listed uses 1 .featureCheck world fits).andThen
      fun _ => .pure trivial
  · exact .pure trivial

omit listed uses in
theorem succeeds_queryAs (format : Eemi.QueryFormat) {channel : Channel} (uses : used channel)
    (frame : Frame) : Succeeds I env (queryAs format channel frame) fun _ => True := by
  cases format with
  | retired => exact .pure trivial
  | statusFirst =>
    refine (Exchange.succeeds_sendForStatus rely uses frame _).andThen fun result => ?_
    rcases result with ⟨failure | status, read⟩
    · exact .pure trivial
    · -- a reply of eight words has a first one
      obtain ⟨status, rest, words⟩ : ∃ status rest, read.toList = status :: rest :=
        List.exists_cons_of_length_pos (by rw [Vector.length_toList]; decide)
      have stripped : Eemi.stripStatus read.toList =
          .ok (status, rest ++ [rest.getLastD status]) := by rw [words]; rfl
      exact (Succeeds.orFault stripped trivial).andThen fun _ => .pure trivial
  | plain => exact (Exchange.succeeds_sendForAnswer rely uses frame _).andThen fun _ => .pure trivial

theorem succeeds_queryData (query a b c : UInt32) (world : World) :
    Succeeds I env (queryData query a b c world) fun _ => True := by
  refine (succeeds_featureCheck rely listed uses _ world).andThen fun version => ?_
  cases version with
  | error failure => exact .pure trivial
  | ok version =>
    have fits : [query, a, b, c].length ≤ frameArguments := Nat.le_add_left 4 1
    simp only [Frame.call_eq .queryData world fits, Act.orFault_ok, pure_bind]
    refine succeeds_primary_bind listed ?_
    exact succeeds_queryAs rely _ uses _

theorem succeeds_systemShutdown (kind subtype : UInt32) (world : World) :
    Succeeds I env (systemShutdown kind subtype world) fun _ => True := by
  have fits : [kind, subtype].length ≤ frameArguments := Nat.le_add_left 2 3
  unfold systemShutdown
  split
  · refine (Succeeds.log _ _).andThen fun _ => ?_
    have set : Succeeds I env (setScope subtype : Act T Unit) fun _ => True :=
      .modify fun _ => rfl
    exact set.andThen fun _ => .pure trivial
  · rw [Frame.call_eq .systemShutdown world fits, Act.orFault_ok, pure_bind]
    refine succeeds_primary_bind listed ?_
    exact (Exchange.succeeds_sendNonBlocking rely uses _).andThen
      fun _ => .pure trivial

omit listed uses in
/-- A core suspends on the channel of its own processor. -/
theorem succeeds_selfSuspend (uses : ∀ processor ∈ env.platform.processors, used processor.channel)
    (latency state : UInt32) (address : UInt64) (world : World) :
    Succeeds I env (selfSuspend latency state address world) fun _ => True := by
  refine .env_bind ?_
  split
  · exact (Succeeds.log _ _).andThen fun _ => .pure trivial
  · rename_i processor found
    -- the processor of the core is one of the platform's
    have usesOwn := uses processor (List.mem_of_find?_eq_some found)
    have asked := Exchange.succeeds_request rely usesOwn 0
    have fits : [processor.node, latency, state, Word.low address, Word.high address].length ≤
      frameArguments := Nat.le_refl 5
    rw [Frame.call_eq .selfSuspend world fits]
    dsimp only
    split
    · exact (Succeeds.emit _).andThen fun _ => asked _
    · exact asked _

theorem succeeds_abortSuspend (reason : UInt32) (world : World) :
    Succeeds I env (abortSuspend reason world) fun _ => True := by
  have asked := succeeds_primary_bind listed (f := fun first : Processor =>
    (ask 0 .abortSuspend world [reason, first.node] : Act T (Eemi.Reply 0)))
    (succeeds_ask rely listed uses 0 .abortSuspend world (Nat.le_add_left 2 3))
  refine .env_bind ?_
  dsimp only
  split
  · exact (Succeeds.emit _).andThen fun _ => asked
  · exact asked

omit rely listed uses [Transport T] in
theorem succeeds_registerSgi (sgi : UInt32) (reset : Bool) :
    Succeeds I env (registerSgi sgi reset) fun _ => True :=
  fun _ inv => ⟨_, rfl, trivial, inv⟩

theorem succeeds_ioctl (id a b : UInt32) (world : World) :
    Succeeds I env (ioctl id a b world) fun _ => True := by
  have passed (api : Eemi.Forwarded) (args : List UInt32) :=
    succeeds_forward rely listed uses api world args
  unfold ioctl
  split
  · exact (passed _ _).andThen fun _ => .pure trivial
  · exact passed _ _
  · exact (passed _ _).andThen fun _ => .pure trivial
  · exact passed _ _
  · refine (succeeds_registerSgi a _).andThen fun result => ?_
    cases result with
    | error e => exact (Succeeds.log _ _).andThen fun _ => .pure trivial
    | ok _ => exact .pure trivial
  · exact .pure trivial

theorem succeeds_readCallback (acknowledge : Bool) :
    Succeeds I env (readCallback acknowledge) fun _ => True := by
  refine succeeds_primary_bind listed ?_
  refine ((Succeeds.emit _).andThen fun _ => .looking (rely.isPending uses)).andThen
    fun pending => ?_
  cases pending with
  | false => exact .pure trivial
  | true =>
    refine ((Succeeds.emit _).andThen fun _ =>
      .looking (rely.readCallback uses .zero)).andThen fun callback => ?_
    cases acknowledge with
    | false => exact .pure trivial
    | true =>
      refine ((Succeeds.emit _).andThen fun _ =>
        .writing (rely.clearPending uses)).andThen fun _ => ?_
      exact .pure trivial

/-! ## Calls -/

omit uses in
/-- **Every call ends with a result that fits the return registers.** -/
theorem Call.succeeds_perform
    (all : ∀ processor ∈ env.platform.processors, used processor.channel) (call : Call)
    (world : World) :
    Succeeds I env (call.perform world) fun result => ∃ r, result.toReturn = .ok r := by
  have uses := all first (List.mem_of_head? listed)
  -- what is replied has seven words at most
  have replied {n : Nat} (few : n < Smc.Return.replyWords) {x : Act T (Eemi.Reply n)}
      (h : Succeeds I env x fun _ => True) :
      Succeeds I env (x >>= fun reply => Pure.pure (Result.reply reply)) fun result =>
        ∃ r, result.toReturn = .ok r :=
    h.andThen fun reply => .pure (toReturn_reply few reply)
  have status {x : Act T (Eemi.Reply 0)} := replied (n := 0) (x := x) (by decide)
  have oneWord {x : Act T (Eemi.Reply 1)} := replied (n := 1) (x := x) (by decide)
  cases call with
  | forward api args =>
    have few : api.outputs < Smc.Return.replyWords :=
      Nat.lt_of_le_of_lt api.outputs_le (by decide)
    exact replied few (succeeds_forward rely listed uses api world args)
  | selfSuspend latency state address =>
    exact status (succeeds_selfSuspend rely all latency state address world)
  | abortSuspend reason => exact status (succeeds_abortSuspend rely listed uses reason world)
  | requestSuspend target ack latency state =>
    exact status (succeeds_askAcked rely listed uses _ world ack (Nat.le_add_left 4 1))
  | forcePowerdown target ack =>
    exact status (succeeds_askAcked rely listed uses _ world ack (Nat.le_add_left 2 3))
  | requestWakeup target setAddress address ack =>
    exact status (succeeds_ask rely listed uses 0 _ world (Nat.le_add_left 4 1))
  | systemShutdown kind subtype =>
    exact status (succeeds_systemShutdown rely listed uses kind subtype world)
  | getApiVersion => exact oneWord (succeeds_getApiVersion rely listed uses world)
  | getTrustzoneVersion =>
    exact .env_bind (.pure (toReturn_reply (by decide) _))
  | getCallbackData =>
    exact (succeeds_readCallback rely listed uses true).andThen fun _ => .pure ⟨_, rfl⟩
  | ioctl device id a b => exact oneWord (succeeds_ioctl rely listed uses id a b world)
  | queryData query a b c =>
    exact (succeeds_queryData rely listed uses query a b c world).andThen fun reply =>
      .pure (toReturn_query reply)
  | featureCheck api => exact oneWord (succeeds_featureCheck rely listed uses api world)
  | loadImage source addressLow addressHigh =>
    exact status (succeeds_ask rely listed uses 0 _ world (Nat.le_add_left 3 2))

/-! ## Secure monitor calls -/

omit listed uses in
/-- The service answers every call, if it has a primary processor when it is up. -/
theorem answered_handleSmc (all : ∀ processor ∈ env.platform.processors, used processor.channel)
    (world : World) (x : CallerRegisters) {m : Machine T}
    (inv : I m.transport)
    (primary : m.up = true → ∃ first, env.platform.processors.head? = some first) :
    ∃ r, (handleSmc world x env m).ending = .ok r := by
  cases up : m.up with
  | false => exact ⟨_, congrArg Outcome.ending (handleSmc_of_down world x env up)⟩
  | true =>
    obtain ⟨first, listed⟩ := primary up
    cases known : (Coded.ofCode? (functionOf x).number.toUInt32 : Option Api) with
    | none =>
      obtain ⟨logs, refused⟩ := handleSmc_of_unknown world env m known
      exact ⟨_, congrArg Outcome.ending refused⟩
    | some api =>
      -- the call is performed, and its result is packed
      have number := (Coded.code_of_ofCode? known).symm
      have performed : Succeeds I env ((Call.ofRegisters api x).perform world >>= fun result =>
          Act.orFault result.toReturn) fun _ => True :=
        (Call.succeeds_perform rely listed all (Call.ofRegisters api x) world).bind
          fun result ⟨r, packed⟩ => .orFault packed trivial
      obtain ⟨r, ended, -⟩ := performed m inv
      exact ⟨r, (congrArg Outcome.ending (handleSmc_of_api world env up number)).trans ended⟩

omit listed uses in
/-- **No secure monitor call halts** over a transport that can be relied on. -/
theorem answered_routeSmc (all : ∀ processor ∈ env.platform.processors, used processor.channel)
    (world : World) (x : CallerRegisters) {m : Machine T}
    (inv : I m.transport)
    (primary : m.up = true → ∃ first, env.platform.processors.head? = some first) :
    ∃ r, (routeSmc world x env m).ending = .ok r := by
  by_cases accepted : Accepts (functionOf x)
  · rw [routeSmc_of_accepts world accepted]
    exact answered_handleSmc rely all world x inv primary
  · obtain ⟨logs, refused⟩ := routeSmc_of_not_accepts world accepted env m
    exact ⟨_, congrArg Outcome.ending refused⟩

end Service

end PowerBridge
