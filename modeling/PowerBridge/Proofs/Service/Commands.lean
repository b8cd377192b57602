import PowerBridge.Session
import PowerBridge.Proofs.Eemi.Frames
import PowerBridge.Proofs.Service.Footprint
import PowerBridge.Proofs.Service.Primary
import PowerBridge.Proofs.Smc.Dispatch

/-!
# Footprints of calls and commands

Which effects a call or a command may have, and how many exchanges it may make. A call exchanges
frames of the world it is made for, reads eight words at most, and goes on without waiting only for
a shutdown; two exchanges are made by data queries only. Nothing but setup brings the service up.

Main statements: `Service.Call.performs_perform`, `Command.performs_perform`.
-/

namespace PowerBridge

open Eemi (Api Failure Frame Header Ioctl Reply ShutdownKind frameWords)
open Link (Channel Transport)
open Smc (CallerRegisters functionOf)

/-! ## What is allowed -/

namespace Service

/-- A call to shut down or reset, or to set the scope of that. -/
def Call.ShutsDown (call : Call) : Prop :=
  ∃ kind subtype, call = .systemShutdown kind subtype

/-- An exchange that a call may make for a world. -/
structure Call.Exchanges (call : Call) (world : World) (awaited : Awaited) (frame : Frame) :
    Prop where
  forApi : ∃ api, frame.header = Header.ofApi api world
  fewWords : awaited.words ≤ 8
  unawaited : awaited = .nothing →
    frame.header = Header.ofApi .systemShutdown world ∧ call.ShutsDown
  nothingElse : call.ShutsDown → awaited = .nothing

/-- The effects that a call may have when it is made for a world. -/
def Call.Allows (call : Call) (world : World) : Effect → Prop
  | .exchanged awaited _ frame => call.Exchanges world awaited frame
  | .callbackCleared _ => call = .getCallbackData
  | .scopeSet scope => call = .systemShutdown ShutdownKind.setScope.code scope
  | .sgiRegistered sgi reset =>
    ∃ device second, call = .ioctl device Ioctl.setSgi.code sgi second ∧ reset = decide (second = 1)
  | .channelOpened _ | .interruptEnabled _ | .cameUp => False

/-- How many exchanges a call may make. -/
def Call.exchanges : Call → Nat
  | .queryData .. => 2
  | _ => 1

/-- How many exchanges a call may make that is given by its registers. -/
def smcExchanges (x : CallerRegisters) : Nat :=
  if (functionOf x).number.toUInt32 = Api.queryData.code then 2 else 1

end Service

/-- The effects that a command may have. -/
def Command.Allows : Command → Effect → Prop
  | .setup, .exchanged awaited _ frame =>
    awaited = .response 0 ∧ frame.header = Header.ofApi (.forwarded .registerNotifier) .secure
  | .setup, .channelOpened _ | .setup, .interruptEnabled _ | .setup, .cameUp => True
  | .smc world x, effect | .serviceSmc world x, effect =>
    ∃ api : Api, (functionOf x).number.toUInt32 = api.code ∧
      (Service.Call.ofRegisters api x).Allows world effect
  | .interrupt _, .callbackCleared _ | .controllerIrq _, .callbackCleared _ => True
  | .call world c, effect => c.Allows world effect
  | .systemOff, .exchanged awaited _ frame | .systemReset, .exchanged awaited _ frame =>
    awaited = .nothing ∧ frame.header = Header.ofApi .systemShutdown .secure
  | .passThrough world words, .exchanged awaited _ frame =>
    awaited = .response 8 ∧ Frame.ofWords world words = .ok frame
  | .registerSgi sgi reset, .sgiRegistered sgi' reset' => sgi' = sgi ∧ reset' = reset
  | .readCallback acknowledge, .callbackCleared _ => acknowledge = true
  | .send mode channel header _ _, .exchanged awaited channel' frame =>
    channel' = channel ∧ frame.header = header ∧ (mode = .nonBlocking → awaited = .nothing)
  | _, _ => False

/-- How many exchanges a command may make. -/
def Command.exchanges : Command → Nat
  | .smc _ x | .serviceSmc _ x => Service.smcExchanges x
  | .call _ c => c.exchanges
  | _ => 1

variable {T : Type} [Transport T]

/-! ## Operations of the service -/

namespace Service

variable {may : Effect → Prop}

theorem performs_primary : Performs may 0 (primary : Act T Processor) := by
  refine .env (fun env => ?_) fun _ _ _ => rfl
  split
  · exact .pure _
  · exact .halt _

theorem performs_ask {n : Nat} {api : Api} {world : World} {args : List UInt32}
    (h : ∀ channel frame, frame.header = Header.ofApi api world →
      may (.exchanged (.response n) channel frame)) :
    Performs may 1 (ask n api world args : Act T (Reply n)) := by
  refine .orFault fun frame built => ?_
  refine performs_primary.after fun first => ?_
  exact .request (h _ _ (Frame.header_of_call built))

theorem performs_askAcked {api : Api} {world : World} {args : List UInt32} {ack : UInt32}
    (h : ∀ awaited channel frame, awaited ≠ .nothing → awaited.words = 0 →
      frame.header = Header.ofApi api world → may (.exchanged awaited channel frame)) :
    Performs may 1 (askAcked api world args ack : Act T (Reply 0)) := by
  refine .orFault fun frame built => ?_
  have header := Frame.header_of_call built
  refine performs_primary.after fun first => ?_
  by_cases blocking : ack = Eemi.blockingAck
  · simp only [if_pos blocking]
    exact .request (h _ _ _ (by simp) rfl header)
  · simp only [if_neg blocking]
    exact (Performs.send (h _ _ _ (by simp) rfl header)).before fun _ => .pure _

theorem performs_getApiVersion {world : World}
    (h : ∀ channel frame, frame.header = Header.ofApi .getApiVersion world →
      may (.exchanged (.response 1) channel frame)) :
    Performs may 1 (getApiVersion world : Act T (Reply 1)) := by
  refine .orFault fun frame built => ?_
  refine performs_primary.after fun first => ?_
  refine (Performs.sendForStatus _ (h _ _ (Frame.header_of_call built))).before fun result => ?_
  rcases result with ⟨failure | status, version⟩
  · exact .pure _
  · by_cases success : status ≠ 0
    · simp only [if_pos success]
      exact (Performs.log _ _).after fun _ => .pure _
    · simp only [if_neg success]
      exact .pure _

theorem performs_featureCheck {api : UInt32} {world : World}
    (h : ∀ channel frame, frame.header = Header.ofApi .featureCheck world →
      may (.exchanged (.response 1) channel frame)) :
    Performs may 1 (featureCheck api world : Act T (Reply 1)) := by
  unfold featureCheck
  -- APIs of other modules are not asked about
  split
  · exact (performs_ask h).before fun _ => .pure _
  · exact (Performs.pure _).idle

theorem performs_queryAs {format : Eemi.QueryFormat} {channel : Channel} {frame : Frame}
    (h : ∀ words, words ≤ 8 → may (.exchanged (.response words) channel frame)) :
    Performs may 1 (queryAs format channel frame : Act T QueryReply) := by
  -- a query that has been retired is not made, and the others make one exchange
  cases format with
  | retired => exact (Performs.pure _).idle
  | statusFirst =>
    refine (Performs.sendForStatus _ (h _ (by decide))).before fun result => ?_
    rcases result with ⟨failure | status, read⟩
    · exact .pure _
    · exact .orFault fun _ _ => .pure _
  | plain => exact (Performs.sendForAnswer _ (h _ (by decide))).before fun _ => .pure _

theorem performs_queryData {query first second third : UInt32} {world : World}
    (check : ∀ channel frame, frame.header = Header.ofApi .featureCheck world →
      may (.exchanged (.response 1) channel frame))
    (ask : ∀ words channel frame, words ≤ 8 → frame.header = Header.ofApi .queryData world →
      may (.exchanged (.response words) channel frame)) :
    Performs may 2 (queryData query first second third world : Act T QueryReply) := by
  refine Performs.bind (n := 1) (k := 1) (performs_featureCheck check) fun version => ?_
  rcases version with failure | version
  · exact (Performs.pure _).idle
  · refine .orFault fun frame built => ?_
    have header := Frame.header_of_call built
    refine performs_primary.after fun primary => ?_
    exact performs_queryAs fun words few => ask words _ _ few header

theorem performs_systemShutdown {kind subtype : UInt32} {world : World}
    (scope : kind = ShutdownKind.setScope.code → may (.scopeSet subtype))
    (h : ∀ channel frame, frame.header = Header.ofApi .systemShutdown world →
      may (.exchanged .nothing channel frame)) :
    Performs may 1 (systemShutdown kind subtype world : Act T (Reply 0)) := by
  unfold systemShutdown
  -- a shutdown request that only sets the scope makes no exchange
  split
  · rename_i setting
    have code := (Coded.code_of_ofCode? setting).symm
    refine Performs.idle ?_
    refine (Performs.log _ _).after fun _ => ?_
    exact (Performs.setScope (scope code)).after fun _ => .pure _
  · refine .orFault fun frame built => ?_
    refine performs_primary.after fun first => ?_
    exact (Performs.sendNonBlocking (h _ _ (Frame.header_of_call built))).before fun _ => .pure _

theorem performs_selfSuspend {latency state : UInt32} {address : UInt64} {world : World}
    (h : ∀ channel frame, frame.header = Header.ofApi .selfSuspend world →
      may (.exchanged (.response 0) channel frame)) :
    Performs may 1 (selfSuspend latency state address world : Act T (Reply 0)) := by
  refine .env (fun env => ?_) fun _ _ _ => rfl
  split
  · exact ((Performs.log _ _).after fun _ => .pure _).idle
  · rename_i processor _
    have request : Performs may 1 (do
        let frame ← Act.orFault (Frame.call .selfSuspend world
          [processor.node, latency, state, Word.low address, Word.high address])
        Exchange.request 0 processor.channel frame : Act T (Reply 0)) :=
      .orFault fun frame built => .request (h _ _ (Frame.header_of_call built))
    dsimp only
    split
    · exact (Performs.chip _).after fun _ => request
    · exact request

theorem performs_abortSuspend {reason : UInt32} {world : World}
    (h : ∀ channel frame, frame.header = Header.ofApi .abortSuspend world →
      may (.exchanged (.response 0) channel frame)) :
    Performs may 1 (abortSuspend reason world : Act T (Reply 0)) := by
  have request : Performs may 1 (do
      ask 0 .abortSuspend world [reason, (← primary).node] : Act T (Reply 0)) :=
    performs_primary.after fun _ => performs_ask h
  refine .env (fun env => ?_) fun _ _ _ => rfl
  dsimp only
  split
  · exact (Performs.chip _).after fun _ => request
  · exact request

theorem performs_readCallback {acknowledge : Bool}
    (h : ∀ channel, acknowledge = true → may (.callbackCleared channel)) :
    Performs may 0 (readCallback acknowledge : Act T Eemi.Callback) := by
  refine performs_primary.after fun first => ?_
  refine (Performs.isPending _).after fun pending => ?_
  split
  · refine (Performs.readCallback _).after fun callback => ?_
    dsimp only
    split
    · rename_i acknowledged
      exact (Performs.clearPending (h _ acknowledged)).after fun _ => .pure _
    · exact .pure _
  · exact .pure _

theorem performs_ioctl {device id first second : UInt32} {world : World}
    (h : ∀ effect, (Call.ioctl device id first second).Allows world effect → may effect) :
    Performs may 1 (ioctl id first second world : Act T (Reply 1)) := by
  -- the controls that stand for other calls make one exchange that waits for a response
  have passed (api : Eemi.Forwarded) (args : List UInt32) :
      Performs may 1 (forward api world args : Act T (Reply api.outputs)) := by
    refine performs_ask fun channel frame header => h _ ?_
    exact
      { forApi := ⟨_, header⟩
        fewWords := Nat.le_trans api.outputs_le (Nat.le_add_left 3 5)
        unawaited := by simp
        nothingElse := by rintro ⟨_, _, ⟨⟩⟩ }
  unfold ioctl
  split
  · exact (passed _ _).before fun _ => .pure _
  · exact passed _ _
  · exact (passed _ _).before fun _ => .pure _
  · exact passed _ _
  · rename_i setting
    have code := Coded.code_of_ofCode? setting
    refine Performs.idle ?_
    refine (Performs.registerSgi (h _ ⟨device, second, ?_, rfl⟩)).after fun result => ?_
    · rw [← code]
      rfl
    · rcases result with e | _
      · exact (Performs.log _ _).after fun _ => .pure _
      · exact .pure _
  · exact (Performs.pure _).idle

/-! ## Interrupts -/

theorem performs_notifySystem : Performs may 0 (notifySystem : Act T Unit) := by
  refine Performs.machine.after fun m => ?_
  split
  · exact .pure _
  · refine .env (fun env => ?_) fun _ _ _ => rfl
    refine .orFault fun targets _ => ?_
    refine (Performs.log _ _).after fun _ => ?_
    exact .orFault fun interrupt _ => .gic _

theorem performs_raiseIdle (mask : UInt32) (cores : List Nat) :
    Performs may 0 (raiseIdle mask cores : Act T Unit) := by
  induction cores with
  | nil => exact .pure _
  | cons core rest ih =>
    refine .orFault fun raised _ => ?_
    dsimp only
    split
    · refine (Performs.log _ _).after fun _ => ?_
      refine .env (fun env => ?_) fun _ _ _ => rfl
      exact (Performs.gic _).after fun _ => ih
    · exact ih

theorem performs_requestIdle (mask : UInt32) :
    Performs may 0 (requestIdle mask : Act T Unit) :=
  (Performs.log _ _).after fun _ => .env (fun _ => performs_raiseIdle mask _) fun _ _ _ => rfl

theorem performs_handleCallback (callback : Eemi.Callback)
    (h : ∀ channel, may (.callbackCleared channel)) :
    Performs may 0 (handleCallback callback : Act T Unit) := by
  unfold handleCallback
  split
  · exact performs_notifySystem
  · split
    · refine (performs_requestIdle _).after fun _ => ?_
      exact performs_primary.after fun _ => .clearPending (h _)
    · exact performs_notifySystem
  · refine performs_primary.after fun _ => ?_
    exact (Performs.clearPending (h _)).after fun _ => .log _ _

theorem performs_handleControllerIrq (interrupt : InterruptId)
    (h : ∀ channel, may (.callbackCleared channel)) :
    Performs may 0 (handleControllerIrq interrupt : Act T Unit) := by
  refine (Performs.log _ _).after fun _ => ?_
  refine (Performs.gic _).after fun _ => ?_
  refine (performs_readCallback (by simp)).after fun callback => ?_
  exact (performs_handleCallback callback h).after fun _ => .gic _

theorem performs_handleIdleSgi (interrupt : InterruptId) :
    Performs may 0 (handleIdleSgi interrupt : Act T Unit) := by
  -- what follows is the same whether or not the core has a processor
  have parked : Performs may 0 (do
      Act.emit (.chip .powerDownAwaited)
      Act.halt .poweredDown : Act T Unit) := (Performs.chip _).after fun _ => .halt _
  refine .env (fun env => ?_) fun _ _ _ => rfl
  refine (Performs.log _ _).after fun _ => ?_
  refine (Performs.gic _).after fun _ => ?_
  refine (Performs.gic _).after fun _ => ?_
  dsimp only
  split
  · exact (Performs.chip _).after fun _ => parked
  · exact (Performs.log _ _).after fun _ => parked

theorem performs_routeInterrupt (interrupt : InterruptId)
    (h : ∀ channel, may (.callbackCleared channel)) :
    Performs may 0 (routeInterrupt interrupt : Act T Unit) := by
  refine .env (fun env => ?_) fun _ _ _ => rfl
  dsimp only
  split
  · exact performs_handleControllerIrq interrupt h
  · split
    · exact performs_handleIdleSgi interrupt
    · exact .log _ _

/-! ## Setup -/

theorem performs_bringUp {channel : Channel} (enabled : may (.interruptEnabled channel))
    (h : ∀ channel frame,
      frame.header = Header.ofApi (.forwarded .registerNotifier) .secure →
        may (.exchanged (.response 0) channel frame)) :
    Performs may 1 (bringUp channel : Act T (Except Link.OpenError Unit)) := by
  refine .env (fun env => ?_) fun _ _ _ => rfl
  refine (Performs.gic _).after fun _ => ?_
  refine (Performs.enableInterrupt enabled).after fun _ => ?_
  refine (Performs.gic _).after fun _ => ?_
  refine (performs_ask h).before fun result => ?_
  have ending : Performs may 0 (do
      Act.log .info "PM service initialised"
      return .ok () : Act T (Except Link.OpenError Unit)) :=
    (Performs.log _ _).after fun _ => .pure _
  rcases result with failure | _
  · exact (Performs.log _ _).after fun _ => ending
  · exact ending

theorem performs_setup (opened : ∀ channel, may (.channelOpened channel)) (up : may .cameUp)
    (enabled : ∀ channel, may (.interruptEnabled channel))
    (h : ∀ channel frame,
      frame.header = Header.ofApi (.forwarded .registerNotifier) .secure →
        may (.exchanged (.response 0) channel frame)) :
    Performs may 1 (setup : Act T (Except Link.OpenError Unit)) := by
  refine performs_primary.after fun first => ?_
  refine (Performs.openChannel (opened _)).after fun result => ?_
  -- a channel that cannot be opened leaves the service down
  rcases result with e | _
  · exact ((Performs.log _ _).after fun _ => .pure _).idle
  · exact (Performs.comeUp up).after fun _ => performs_bringUp (enabled _) h

/-! ## Calls -/

theorem Call.performs_perform (call : Call) (world : World) :
    Performs (call.Allows world) call.exchanges (call.perform world : Act T Result) := by
  by_cases shutsDown : call.ShutsDown
  · obtain ⟨kind, subtype, rfl⟩ := shutsDown
    have shutdown : Performs ((Call.systemShutdown kind subtype).Allows world) 1
        (Service.systemShutdown kind subtype world : Act T (Reply 0)) := by
      refine performs_systemShutdown ?_ fun channel frame header => ?_
      · rintro rfl
        rfl
      · exact ⟨⟨_, header⟩, by decide, fun _ => ⟨header, kind, subtype, rfl⟩, fun _ => rfl⟩
    exact shutdown.before fun _ => .pure _
  -- exchanges that wait, which every other call may make
  have waiting (awaited : Awaited) (waits : awaited ≠ .nothing) (few : awaited.words ≤ 8)
      (api : Api) (channel : Channel) (frame : Frame)
      (header : frame.header = Header.ofApi api world) :
      call.Allows world (.exchanged awaited channel frame) :=
    ⟨⟨api, header⟩, few, fun nothing => absurd nothing waits, fun shuts => absurd shuts shutsDown⟩
  have acked (api : Api) (awaited : Awaited) (channel : Channel) (frame : Frame)
      (waits : awaited ≠ .nothing) (none : awaited.words = 0)
      (header : frame.header = Header.ofApi api world) :=
    waiting awaited waits (by omega) api channel frame header
  -- and those of them that read a response
  have responding (n : Nat) (few : n ≤ 8) := waiting (.response n) (by simp) few
  have status := responding 0 (Nat.zero_le 8)
  have oneWord := responding 1 (Nat.le_add_left 1 7)
  cases call with
  | forward api args =>
    have few : api.outputs ≤ 8 := Nat.le_trans api.outputs_le (Nat.le_add_left 3 5)
    exact (performs_ask (responding _ few _)).before fun _ => .pure _
  | selfSuspend latency state address =>
    exact (performs_selfSuspend (status _)).before fun _ => .pure _
  | abortSuspend reason =>
    exact (performs_abortSuspend (status _)).before fun _ => .pure _
  | requestSuspend target ack latency state =>
    exact (performs_askAcked (acked _)).before fun _ => .pure _
  | forcePowerdown target ack =>
    exact (performs_askAcked (acked _)).before fun _ => .pure _
  | requestWakeup target setAddress address ack =>
    exact (performs_ask (status _)).before fun _ => .pure _
  | systemShutdown kind subtype => exact absurd ⟨kind, subtype, rfl⟩ shutsDown
  | getApiVersion =>
    exact (performs_getApiVersion (oneWord _)).before fun _ => .pure _
  | getTrustzoneVersion => exact .idle (.env (fun _ => .pure _) fun _ _ _ => rfl)
  | getCallbackData =>
    exact ((performs_readCallback fun _ _ => rfl).after fun _ => .pure _).idle
  | ioctl device id first second =>
    exact (performs_ioctl fun _ allowed => allowed).before fun _ => .pure _
  | queryData query first second third =>
    exact (performs_queryData (oneWord _) fun words channel frame few header =>
      responding words few _ channel frame header).before fun _ => .pure _
  | featureCheck api =>
    exact (performs_featureCheck (oneWord _)).before fun _ => .pure _
  | loadImage source addressLow addressHigh =>
    exact (performs_ask (status _)).before fun _ => .pure _

/-! ## Secure monitor calls -/

theorem Call.exchanges_ofRegisters (api : Api) (x : CallerRegisters) :
    (Call.ofRegisters api x).exchanges = if api = .queryData then 2 else 1 := by
  cases api <;> rfl

theorem exchanges_ofRegisters_of_number {x : CallerRegisters} {api : Api}
    (number : (functionOf x).number.toUInt32 = api.code) :
    (Call.ofRegisters api x).exchanges = smcExchanges x := by
  rw [Call.exchanges_ofRegisters, smcExchanges, number]
  by_cases query : api = .queryData
  · rw [if_pos query, if_pos (congrArg Api.code query)]
  · -- no other API has the number of data queries
    rw [if_neg query, if_neg (mt (Api.code_injective _ _) query)]

theorem performs_handleSmc (world : World) (x : CallerRegisters)
    (h : ∀ api : Api, (functionOf x).number.toUInt32 = api.code →
      ∀ effect, (Call.ofRegisters api x).Allows world effect → may effect) :
    Performs may (smcExchanges x) (handleSmc world x : Act T Smc.Return) := by
  refine Performs.machine.after fun m => ?_
  -- a service that is down performs nothing, and an unknown API is refused
  split
  · dsimp only
    split
    · rename_i api known
      have number := (Coded.code_of_ofCode? known).symm
      have performed :=
        (Call.performs_perform (T := T) (Call.ofRegisters api x) world).mono (h api number)
      rw [exchanges_ofRegisters_of_number number] at performed
      exact performed.before fun _ => .orFault_last
    · exact ((Performs.log _ _).after fun _ => .pure _).idle
  · exact (Performs.pure _).idle

theorem performs_routeSmc (world : World) (x : CallerRegisters)
    (h : ∀ api : Api, (functionOf x).number.toUInt32 = api.code →
      ∀ effect, (Call.ofRegisters api x).Allows world effect → may effect) :
    Performs may (smcExchanges x) (routeSmc world x : Act T Smc.Return) := by
  unfold routeSmc
  dsimp only
  split
  · split
    · exact performs_handleSmc world x h
    · exact ((Performs.log _ _).after fun _ => .pure _).idle
  · exact (Performs.pure _).idle

/-! ## Requests that do not come from a call -/

/-- A shutdown of another kind than one that only sets the scope. -/
theorem performs_shutdownNow (kind : ShutdownKind) (other : kind ≠ .setScope)
    (h : ∀ channel frame, frame.header = Header.ofApi .systemShutdown .secure →
      may (.exchanged .nothing channel frame)) :
    Performs may 1 (do
      systemShutdown (Coded.code kind) (← Act.machine).scope .secure : Act T (Reply 0)) := by
  refine Performs.machine.after fun m => performs_systemShutdown (fun same => ?_) h
  exact absurd (Coded.Lawful.code_inj kind .setScope same) other

theorem performs_passThrough {world : World} {words : Vector UInt32 frameWords}
    (h : ∀ channel frame, Frame.ofWords world words = .ok frame →
      may (.exchanged (.response 8) channel frame)) :
    Performs may 1 (passThrough world words : Act T (Reply 8)) := by
  refine .orFault fun frame built => ?_
  exact performs_primary.after fun first => .request (h _ _ built)

end Service

theorem SendMode.performs_perform {may : Effect → Prop} (mode : SendMode) (channel : Channel)
    (frame : Frame) (values : List UInt32)
    (h : ∀ awaited, (mode = .nonBlocking → awaited = .nothing) →
      may (.exchanged awaited channel frame)) :
    Performs may 1 (mode.perform channel frame values : Act T Answer) := by
  cases mode with
  | nonBlocking => exact (Performs.sendNonBlocking (h _ fun _ => rfl)).before fun _ => .pure _
  | acknowledged => exact (Performs.send (h _ (by simp))).before fun _ => .pure _
  | forStatus => exact (Performs.sendForStatus _ (h _ (by simp))).before fun ⟨_, _⟩ => .pure _
  | forAnswer => exact (Performs.sendForAnswer _ (h _ (by simp))).before fun ⟨_, _⟩ => .pure _

/-! ## Commands -/

/-- **The footprint of every command**: it has no effects but those that are allowed, and makes no
more exchanges than it may. -/
theorem Command.performs_perform (command : Command) :
    Performs command.Allows command.exchanges (command.perform : Act T Answer) := by
  cases command with
  | setup =>
    exact (Service.performs_setup (fun _ => trivial) trivial (fun _ => trivial)
      fun _ _ header => ⟨rfl, header⟩).before fun _ => .pure _
  | smc world x =>
    exact (Service.performs_routeSmc world x fun api number _ allowed =>
      ⟨api, number, allowed⟩).before fun _ => .pure _
  | serviceSmc world x =>
    exact (Service.performs_handleSmc world x fun api number _ allowed =>
      ⟨api, number, allowed⟩).before fun _ => .pure _
  | owns function => exact (Performs.pure _).idle
  | interrupt i =>
    exact ((Service.performs_routeInterrupt i fun _ => trivial).after fun _ => .pure _).idle
  | controllerIrq i =>
    exact ((Service.performs_handleControllerIrq i fun _ => trivial).after fun _ => .pure _).idle
  | idleSgi i => exact ((Service.performs_handleIdleSgi i).after fun _ => .pure _).idle
  | call world c => exact (c.performs_perform world).before fun _ => .pure _
  | systemOff =>
    exact (Service.performs_shutdownNow .shutdown (by decide) fun _ _ header =>
      ⟨rfl, header⟩).before fun _ => .pure _
  | systemReset =>
    exact (Service.performs_shutdownNow .reset (by decide) fun _ _ header =>
      ⟨rfl, header⟩).before fun _ => .pure _
  | passThrough world words =>
    exact (Service.performs_passThrough fun _ _ built => ⟨rfl, built⟩).before fun _ => .pure _
  | registerSgi sgi reset =>
    exact ((Performs.registerSgi (.intro rfl rfl)).after fun _ => .pure _).idle
  | readCallback acknowledge =>
    exact ((Service.performs_readCallback fun _ acknowledged => acknowledged).after
      fun _ => .pure _).idle
  | send mode channel header args values =>
    refine .orFault fun frame built => ?_
    exact mode.performs_perform channel frame values fun awaited unawaited =>
      ⟨rfl, Frame.header_of_pushAll built, unawaited⟩

end PowerBridge
