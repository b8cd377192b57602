import PowerBridge.Proofs.Eemi.SecurityFlag
import PowerBridge.Proofs.Exchange.Requests
import PowerBridge.Proofs.Session.Reachable

/-!
# The security flag of a caller

The controller trusts the flag of a request. It is the flag of the caller's world whatever the
caller asks for and whatever was answered before, in the second request of a data query too. What
the service asks for of its own accord is secure. And the flag is all that the caller's world
decides.

Every frame that an action writes is the frame of an exchange of its footprint, over every transport
and whatever the transport answers; and the exchanges of a call are made for the world of its
caller.

That nothing else depends on the world is shown over a script, on which a call is made once for
either world. The world of a caller only ever goes into the header of a frame. So an operation is
alike for both worlds as soon as its exchanges are, which follows from the script: it does not
depend on what is written.

Main statements: `Performs.requests_allowed` (what an action writes), `Act.Alike.bind`,
`Act.Alike.call`, `flag_follows_world`.
-/

namespace PowerBridge

open Act (Elementary TracedBy)
open Eemi (Api Frame Header WellFlagged withoutFlag)
open Link (Channel Scripted Transport)
open Service (callerRegisters routeSmc)
open Smc (CallerRegisters)

variable {T α β : Type}

/-! ## What an action writes -/

/-- A request that is the frame of an exchange that may happen. -/
def Request.Allowed (may : Effect → Prop) (request : Request) : Prop :=
  ∃ awaited channel frame, may (.exchanged awaited channel frame) ∧
    request = ⟨channel, frame.words.toList⟩

/-- An event that is no request, or one that is allowed. -/
def Event.Allowed (may : Effect → Prop) (event : Event) : Prop :=
  ∀ request, event.request? = some request → request.Allowed may

section Requests

variable [Transport T]

namespace Act

theorem Elementary.events_allowed {may : Effect → Prop} {x : Act T α} (h : Elementary may x)
    (env : Env) : TracedBy (fun _ events _ => ∀ event ∈ events, event.Allowed may) env x := by
  have composes := Composes.allEvents (T := T) (Event.Allowed may)
  have quiet {event : Event} (none : event.request? = Option.none) : event.Allowed may := by
    intro request some
    rw [none] at some
    cases some
  have emitted {event : Event} (allowed : event.Allowed may) :
      TracedBy (T := T) (fun _ events _ => ∀ event ∈ events, event.Allowed may) env
        (Act.emit event) := by
    intro m event' mem
    cases List.mem_singleton.1 mem
    exact allowed
  have unseen {β : Type} (operation : T → Except Fault (β × T)) :
      TracedBy (fun _ events _ => ∀ event ∈ events, event.Allowed may) env
        (Act.transport operation) := by
    intro m
    rw [events_transport]
    exact composes.nil m
  cases h with
  | gic | chip => exact emitted (quiet rfl)
  | isPending | readCallback | readResponse | openChannel | enableInterrupt | clearPending =>
    exact (emitted (quiet rfl)).bind composes fun _ => unseen _
  | isBusy channel =>
    exact (unseen _).bind composes fun _ =>
      (emitted (quiet rfl)).bind composes fun _ => .pure composes _
  | post allowed =>
    -- the frame is written, and the trigger is no request
    rename_i channel frame
    have written : (Event.link channel (.requestWritten frame.words)).Allowed may := by
      intro request same
      cases same
      exact ⟨_, _, _, allowed, rfl⟩
    refine .bind composes (.of_silent composes fun _ => ⟨rfl, rfl⟩) fun _ => ?_
    refine .bind composes ((emitted written).bind composes fun _ => unseen _) fun _ => ?_
    exact (emitted (quiet rfl)).bind composes fun _ => unseen _
  | comeUp | setScope | registerSgi => exact fun _ _ mem => absurd mem List.not_mem_nil

end Act

/-- **What an action writes** is what its footprint allows, whatever the transport answers. -/
theorem Performs.requests_allowed {may : Effect → Prop} {n : Nat} {x : Act T α}
    (h : Performs may n x) (env : Env) (m : Machine T) :
    ∀ request ∈ requestsOf (x env m).events, request.Allowed may := by
  intro request written
  obtain ⟨event, seen, isRequest⟩ := List.mem_filterMap.1 written
  have traced : TracedBy (fun _ events _ => ∀ event ∈ events, event.Allowed may) env x :=
    h.tracedBy (.allEvents (Event.Allowed may)) fun elementary => elementary.events_allowed env
  exact traced m event seen request isRequest

/-! ## Flags of requests -/

/-- A request whose header is as it must be for a world. -/
def Request.FlaggedFor (world : World) (request : Request) : Prop :=
  ∃ header args, request.words = header :: args ∧ WellFlagged world header

/-- The world that the requests of a command are made for, if the command comes from the service
itself or from one of its callers. -/
def Command.world? : Command → Option World
  | .smc world _ | .serviceSmc world _ | .call world _ | .passThrough world _ => some world
  | .setup | .systemOff | .systemReset => some .secure
  | _ => none

theorem Request.flaggedFor_of_header {world : World} {channel : Link.Channel} {frame : Frame}
    (flagged : WellFlagged world frame.header.encode) :
    Request.FlaggedFor world ⟨channel, frame.words.toList⟩ :=
  ⟨_, _, frame.toList_words, flagged⟩

/-- **The flag of a request is that of the world it is made for**: the caller's for calls, and the
secure world's for setup, shutdown and reset. -/
theorem Command.requests_flagged {command : Command} {world : World}
    (made : command.world? = some world) (env : Env) (m : Machine T) :
    ∀ request ∈ requestsOf (command.perform env m).events, request.FlaggedFor world := by
  intro request written
  obtain ⟨awaited, channel, frame, allowed, rfl⟩ :=
    command.performs_perform.requests_allowed env m request written
  have ofApi {api : Eemi.Api} (header : frame.header = Header.ofApi api world) :
      Request.FlaggedFor world ⟨channel, frame.words.toList⟩ := by
    refine Request.flaggedFor_of_header ?_
    rw [header]
    exact Header.wellFlagged_ofApi api world
  cases command with
  | setup | systemOff | systemReset =>
    cases made
    exact ofApi allowed.2
  | smc | serviceSmc =>
    cases made
    obtain ⟨_, _, exchanges⟩ := allowed
    obtain ⟨api, header⟩ := exchanges.forApi
    exact ofApi header
  | call =>
    cases made
    obtain ⟨api, header⟩ := Service.Call.Exchanges.forApi allowed
    exact ofApi header
  | passThrough _ words =>
    cases made
    -- whatever the first word says of the world is not looked at
    refine Request.flaggedFor_of_header ?_
    rw [Frame.header_of_pushAll allowed.2]
    exact Header.wellFlagged_make _ _ world
  | _ => cases made

end Requests

/-! ## Outcomes that are alike -/

/-- An event, with the flag of the frame that it may write cleared. -/
def Event.withoutFlag : Event → Event
  | .link channel (.requestWritten words) =>
    .link channel (.requestWritten (Eemi.withoutFlag words))
  | event => event

/-- Outcomes that differ in the flags of frames and in the log at most. -/
structure Outcome.Alike (o o' : Outcome T α) : Prop where
  ending : o.ending = o'.ending
  machine : o.machine = o'.machine
  events : o.events.map Event.withoutFlag = o'.events.map Event.withoutFlag

/-- Actions with outcomes that are alike, wherever they start. -/
def Act.Alike (x y : Act T α) : Prop :=
  ∀ env m, (x env m).Alike (y env m)

namespace Act.Alike

theorem refl (x : Act T α) : Alike x x :=
  fun _ _ => ⟨rfl, rfl, rfl⟩

/-- Sequences are alike if their parts are. -/
theorem bind {x y : Act T α} {f g : α → Act T β} (first : Alike x y)
    (rest : ∀ a, Alike (f a) (g a)) : Alike (x >>= f) (y >>= g) := by
  intro env m
  have alike := first env m
  rw [bind_apply, bind_apply]
  rcases hx : x env m with ⟨ending, m', seen, logs⟩
  rcases hy : y env m with ⟨ending', m'', seen', logs'⟩
  rw [hx, hy] at alike
  obtain ⟨rfl, rfl, events⟩ := alike
  cases ending with
  | error why => exact ⟨rfl, rfl, events⟩
  | ok a =>
    -- the rest starts from the same machine with the same value
    obtain ⟨ending, machine, events'⟩ := rest a env m'
    refine ⟨ending, machine, ?_⟩
    rw [Outcome.andThen_ok, Outcome.andThen_ok, List.map_append, List.map_append, events, events']

theorem after (x : Act T α) {f g : α → Act T β} (rest : ∀ a, Alike (f a) (g a)) :
    Alike (x >>= f) (x >>= g) :=
  (refl x).bind rest

theorem before {x y : Act T α} (first : Alike x y) (f : α → Act T β) :
    Alike (x >>= f) (y >>= f) :=
  first.bind fun a => refl (f a)

/-- The frames of a call for two worlds differ in the flag, or there is no frame in either. -/
theorem call {api : Api} {world other : World} {args : List UInt32} {f g : Frame → Act T α}
    (rest : ∀ frame frame' : Frame, withoutFlag frame.words = withoutFlag frame'.words →
      Alike (f frame) (g frame')) :
    Alike (Act.orFault (Frame.call api world args) >>= f)
      (Act.orFault (Frame.call api other args) >>= g) := by
  rw [Frame.call_other_world api world other]
  cases built : Frame.call api world args with
  | error why => exact refl _
  | ok frame =>
    refine rest _ _ ?_
    exact (Frame.withoutFlag_words api world other (Frame.header_of_call built)).symm

end Act.Alike

open Act (Alike)

/-! ## Exchanges -/

namespace Exchange

variable {channel : Channel} {frame frame' : Frame}
  (same : withoutFlag frame.words = withoutFlag frame'.words)

include same

/-- A script does not depend on what is written. -/
theorem alike_post :
    Alike (post channel frame : Act Scripted Unit) (post channel frame') := by
  intro env m
  rw [post_apply, post_apply]
  refine ⟨rfl, rfl, ?_⟩
  simp only [postEvents, List.map_cons, Event.withoutFlag, same]

theorem alike_sendNonBlocking :
    Alike (sendNonBlocking channel frame : Act Scripted _) (sendNonBlocking channel frame') :=
  (alike_post same).before _

theorem alike_send :
    Alike (send channel frame : Act Scripted _) (send channel frame') :=
  (alike_post same).before _

theorem alike_sendForStatus {n : Nat} (values : Vector UInt32 n) :
    Alike (sendForStatus channel frame values : Act Scripted _)
      (sendForStatus channel frame' values) :=
  (alike_post same).before _

theorem alike_sendForAnswer {n : Nat} (values : Vector UInt32 n) :
    Alike (sendForAnswer channel frame values : Act Scripted _)
      (sendForAnswer channel frame' values) :=
  (alike_sendForStatus same values).before _

theorem alike_request (n : Nat) :
    Alike (request n channel frame : Act Scripted _) (request n channel frame') :=
  (alike_sendForAnswer same _).before _

end Exchange

/-! ## Operations -/

namespace Service

open Exchange (alike_request alike_send alike_sendForAnswer alike_sendForStatus
  alike_sendNonBlocking)

variable (world other : World)

theorem alike_ask (n : Nat) (api : Api) (args : List UInt32) :
    Alike (ask n api world args : Act Scripted _) (ask n api other args) :=
  .call fun _ _ same => .after _ fun _ => alike_request same n

theorem alike_forward (api : Eemi.Forwarded) (args : List UInt32) :
    Alike (forward api world args : Act Scripted _) (forward api other args) :=
  alike_ask world other _ _ _

theorem alike_askAcked (api : Api) (args : List UInt32) (ack : UInt32) :
    Alike (askAcked api world args ack : Act Scripted _) (askAcked api other args ack) := by
  refine .call fun _ _ same => .after _ fun first => ?_
  by_cases blocking : ack = Eemi.blockingAck
  · simp only [if_pos blocking]
    exact alike_request same 0
  · simp only [if_neg blocking]
    exact (alike_send same).before _

theorem alike_getApiVersion :
    Alike (getApiVersion world : Act Scripted _) (getApiVersion other) :=
  .call fun _ _ same => .after _ fun _ => (alike_sendForStatus same _).before _

theorem alike_featureCheck (api : UInt32) :
    Alike (featureCheck api world : Act Scripted _) (featureCheck api other) := by
  unfold featureCheck
  split
  · exact (alike_ask world other 1 .featureCheck [api]).before _
  · exact .refl _

omit world other in
theorem alike_queryAs (format : Eemi.QueryFormat) {channel : Channel} {frame frame' : Frame}
    (same : withoutFlag frame.words = withoutFlag frame'.words) :
    Alike (queryAs format channel frame : Act Scripted _) (queryAs format channel frame') := by
  cases format with
  | retired => exact .refl _
  | statusFirst => exact (alike_sendForStatus same _).before _
  | plain => exact (alike_sendForAnswer same _).before _

theorem alike_queryData (query first second third : UInt32) :
    Alike (queryData query first second third world : Act Scripted _)
      (queryData query first second third other) := by
  refine (alike_featureCheck world other _).bind fun version => ?_
  -- the format depends on the version that was answered, which is the same
  cases version with
  | error failure => exact .refl _
  | ok version => exact .call fun _ _ same => .after _ fun _ => alike_queryAs _ same

theorem alike_systemShutdown (kind subtype : UInt32) :
    Alike (systemShutdown kind subtype world : Act Scripted _)
      (systemShutdown kind subtype other) := by
  unfold systemShutdown
  split
  · exact .refl _
  · exact .call fun _ _ same => .after _ fun _ => (alike_sendNonBlocking same).before _

theorem alike_selfSuspend (latency state : UInt32) (address : UInt64) :
    Alike (selfSuspend latency state address world : Act Scripted _)
      (selfSuspend latency state address other) := by
  refine .after _ fun env => ?_
  split
  · exact .refl _
  · rename_i processor _
    dsimp only
    split
    · exact .after _ fun _ => .call fun _ _ same => alike_request same 0
    · exact .call fun _ _ same => alike_request same 0

theorem alike_abortSuspend (reason : UInt32) :
    Alike (abortSuspend reason world : Act Scripted _) (abortSuspend reason other) := by
  refine .after _ fun env => ?_
  dsimp only
  split
  · exact .after _ fun _ => .after _ fun _ => alike_ask world other _ _ _
  · exact .after _ fun _ => alike_ask world other _ _ _

theorem alike_ioctl (id first second : UInt32) :
    Alike (ioctl id first second world : Act Scripted _) (ioctl id first second other) := by
  unfold ioctl
  split
  · exact (alike_forward world other _ _).before _
  · exact alike_forward world other _ _
  · exact (alike_forward world other _ _).before _
  · exact alike_forward world other _ _
  · exact .refl _
  · exact .refl _

/-! ## Calls -/

theorem alike_perform (call : Call) :
    Alike (call.perform world : Act Scripted _) (call.perform other) := by
  cases call with
  | forward api args => exact (alike_forward world other _ _).before _
  | selfSuspend latency state address => exact (alike_selfSuspend world other _ _ _).before _
  | abortSuspend reason => exact (alike_abortSuspend world other _).before _
  | requestSuspend target ack latency state => exact (alike_askAcked world other _ _ _).before _
  | forcePowerdown target ack => exact (alike_askAcked world other _ _ _).before _
  | requestWakeup target setAddress address ack => exact (alike_ask world other _ _ _).before _
  | systemShutdown kind subtype => exact (alike_systemShutdown world other _ _).before _
  | getApiVersion => exact (alike_getApiVersion world other).before _
  | getTrustzoneVersion => exact .refl _
  | getCallbackData => exact .refl _
  | ioctl device id first second => exact (alike_ioctl world other _ _ _).before _
  | queryData query first second third => exact (alike_queryData world other _ _ _ _).before _
  | featureCheck api => exact (alike_featureCheck world other _).before _
  | loadImage source addressLow addressHigh => exact (alike_ask world other _ _ _).before _

theorem alike_handleSmc (x : Smc.CallerRegisters) :
    Alike (handleSmc world x : Act Scripted _) (handleSmc other x) := by
  refine .after _ fun m => ?_
  split
  · dsimp only
    split
    · exact (alike_perform world other _).before _
    · exact .refl _
  · exact .refl _

theorem alike_routeSmc (x : Smc.CallerRegisters) :
    Alike (routeSmc world x : Act Scripted _) (routeSmc other x) := by
  unfold routeSmc
  dsimp only
  split
  · split
    · exact alike_handleSmc world other x
    · exact .refl _
  · exact .refl _

end Service

/-! ## Flags and worlds -/

/-- **The flag of a request is that of the world it is made for, and nothing else depends on the
world.** Over every transport, every frame that is written for a caller has the flag of the caller's
world, frames that are given as words included, and those of setup, shutdown and reset are secure.
Over a script, a call gives the same values, leaves the same machine and is seen by the same events
for both worlds, but for the flag in the frames. -/
theorem flag_follows_world :
    (∀ (T : Type) [Transport T] (command : Command) (world : World),
      command.world? = some world → ∀ (env : Env) (m : Machine T),
        ∀ request ∈ requestsOf (command.perform env m).events, request.FlaggedFor world) ∧
    ∀ (x : CallerRegisters) (world other : World) (env : Env) (m : Machine Scripted),
      (routeSmc world x env m).Alike (routeSmc other x env m) := by
  refine ⟨?flagged, ?alike⟩
  case flagged =>
    intro T _ command world made env m
    exact Command.requests_flagged made env m
  case alike =>
    intro x world other env m
    exact Service.alike_routeSmc world other x env m

/-- A data query from the normal world makes two requests, both flagged. From the secure world it
makes the same ones without the flag. -/
theorem flag_follows_world_queryData :
    let query := callerRegisters 0xc2000023 0x200000001 0
    let s := Session.setUp [⟨0, [2]⟩, ⟨0, [7, 8, 9]⟩]
    let normal := Command.perform (.smc .nonSecure query) (s.env Config.oneCore) s.machine
    requestsOf normal.events =
        [⟨⟨0, 1⟩, [0x0100023f, 35, 0, 0, 0, 0]⟩, ⟨⟨0, 1⟩, [0x01000223, 1, 2, 0, 0, 0]⟩] ∧
      (∀ request ∈ requestsOf normal.events, request.FlaggedFor .nonSecure) ∧
      (routeSmc .secure query (s.env Config.oneCore) s.machine).Alike
        (routeSmc .nonSecure query (s.env Config.oneCore) s.machine) := by
  intro query s normal
  obtain ⟨flagged, alike⟩ := flag_follows_world
  refine ⟨by decide +kernel, ?_, alike query .secure .nonSecure _ _⟩
  exact flagged Scripted (.smc .nonSecure query) .nonSecure rfl (s.env Config.oneCore) s.machine

end PowerBridge
