import PowerBridge.Proofs.Eemi.Frames
import PowerBridge.Proofs.Machine.Sequences
import PowerBridge.Service.Call

/-!
# Requests on the primary channel

On a platform with a primary processor a request of the service is an exchange on its channel, of
the frame that is made of the header of the API and its arguments. No request has more arguments
than a frame has room for, so that none of them faults.

Setup depends on one answer, that of the transport when this channel is opened. If this faults,
setup halts; if it is refused, setup reports why, and has done nothing else; if the channel opens,
the service is up from then on, and the interrupts follow.

Main statements: `ask_apply`, `askAcked_apply`, and for setup `setup_of_fault`, `setup_of_refused`
and `setup_of_opened`.
-/

namespace PowerBridge.Service

open Eemi (Api Frame Header frameArguments)
open Link (Channel OpenError Transport)

section Requests

variable {T α : Type} [Transport T] {env : Env} {first : Processor}
  (listed : env.platform.processors.head? = some first) (m : Machine T)

/-! ## Versions -/

theorem featureCheck_of_base {api : UInt32} (world : World)
    (base : Eemi.resolveModule (Eemi.moduleOf api) = Eemi.baseModule) :
    (featureCheck api world : Act T (Eemi.Reply 1)) =
      ask 1 .featureCheck world [api] >>= fun reply =>
        pure (reply.map fun version => version.map (Eemi.localVersion api ||| ·)) := by
  rw [featureCheck, if_pos base]

theorem featureCheck_of_other {api : UInt32} (world : World)
    (other : Eemi.resolveModule (Eemi.moduleOf api) ≠ Eemi.baseModule) :
    (featureCheck api world : Act T (Eemi.Reply 1)) = pure (.ok Eemi.zeroWord) := by
  rw [featureCheck, if_neg other]

/-! ## Exchanges on the primary channel -/

omit [Transport T] in
theorem primary_of_no_processors {env : Env} (none : env.platform.processors = [])
    (m : Machine T) :
    (primary : Act T Processor) env m = ⟨.error (.fault .noProcessor), m, [], []⟩ := by
  rw [primary, Act.env_bind, none]
  rfl

theorem ask_of_no_processors {env : Env} (none : env.platform.processors = []) (m : Machine T)
    (n : Nat) (api : Api) (world : World) {args : List UInt32}
    (fits : args.length ≤ frameArguments) :
    ask n api world args env m = ⟨.error (.fault .noProcessor), m, [], []⟩ := by
  rw [ask, Frame.call_eq api world fits, Act.orFault_ok, pure_bind,
    Act.bind_of_error (primary_of_no_processors none m)]

include listed

omit [Transport T] in
theorem primary_bind (f : Processor → Act T α) :
    (primary >>= f) env m = f first env m := by
  have found : (primary : Act T Processor) env m = ⟨.ok first, m, [], []⟩ := by
    rw [primary, Act.env_bind]
    -- the list cannot be empty, since it has a first member
    cases processors : env.platform.processors with
    | nil =>
      rw [processors] at listed
      cases listed
    | cons head rest =>
      rw [processors] at listed
      cases listed
      rfl
  rw [Act.bind_of_ok found]
  simp only [List.nil_append]

theorem ask_apply (n : Nat) (api : Api) (world : World) {args : List UInt32}
    (fits : args.length ≤ frameArguments) :
    ask n api world args env m =
      Exchange.request n first.channel ⟨Header.ofApi api world, args, fits⟩ env m := by
  rw [ask, Frame.call_eq api world fits, Act.orFault_ok, pure_bind]
  exact primary_bind listed m _

theorem askAcked_apply (api : Api) (world : World) {args : List UInt32} (ack : UInt32)
    (fits : args.length ≤ frameArguments) :
    askAcked api world args ack env m =
      if ack = Eemi.blockingAck then
        Exchange.request 0 first.channel ⟨Header.ofApi api world, args, fits⟩ env m
      else
        (Exchange.send first.channel ⟨Header.ofApi api world, args, fits⟩ >>= fun result =>
          pure (result.map fun () => Eemi.noWords)) env m := by
  rw [askAcked, Frame.call_eq api world fits, Act.orFault_ok, pure_bind]
  refine (primary_bind listed m _).trans ?_
  by_cases blocking : ack = Eemi.blockingAck
  · simp only [if_pos blocking]
  · simp only [if_neg blocking]

/-- A shutdown or reset, other than a request that only sets the scope, is sent and not waited
for. -/
theorem systemShutdown_apply {kind : UInt32} (other : kind ≠ 2) (subtype : UInt32) (world : World)
    (fits : [kind, subtype].length ≤ frameArguments) :
    systemShutdown kind subtype world env m =
      (Exchange.sendNonBlocking first.channel ⟨Header.ofApi .systemShutdown world, _, fits⟩ >>=
        fun result => pure (result.map fun () => Eemi.noWords)) env m := by
  have sent : Coded.ofCode? kind ≠ some Eemi.ShutdownKind.setScope :=
    fun setting => other (Coded.code_of_ofCode? setting).symm
  rw [systemShutdown, if_neg sent, Frame.call_eq .systemShutdown world fits, Act.orFault_ok,
    pure_bind]
  exact primary_bind listed m _

/-! ## Suspends -/

/-- What the chip does of its own around a suspend, if it does anything. -/
def hooked (env : Env) (event : ChipEvent) : List ChipEvent :=
  if env.platform.suspendHooks then [event] else []

omit [Transport T] listed in
/-- What the chip may have to do first is seen first, and changes nothing else. -/
theorem hooked_apply (env : Env) (m : Machine T) (event : ChipEvent) (x : Act T α) :
    (if env.platform.suspendHooks = true then Act.emit (.chip event) >>= fun _ => x else x) env m =
      { x env m with events := (hooked env event).map .chip ++ (x env m).events } := by
  unfold hooked
  split <;> rfl

theorem abortSuspend_apply (reason : UInt32) (world : World)
    (fits : [reason, first.node].length ≤ frameArguments) :
    abortSuspend reason world env m =
      { Exchange.request 0 first.channel
          ⟨Header.ofApi .abortSuspend world, [reason, first.node], fits⟩ env m with
        events := (hooked env .suspendUndone).map .chip ++ (Exchange.request 0 first.channel
          ⟨Header.ofApi .abortSuspend world, [reason, first.node], fits⟩ env m).events } := by
  rw [abortSuspend, Act.env_bind, ← ask_apply listed m 0 .abortSuspend world fits]
  -- the request names the primary processor, and goes over its channel
  have named := primary_bind listed m fun first : Processor =>
    (ask 0 .abortSuspend world [reason, first.node] : Act T _)
  have seen := hooked_apply env m .suspendUndone
    (primary >>= fun first => ask 0 .abortSuspend world [reason, first.node])
  rw [named] at seen
  exact seen

omit listed in
theorem selfSuspend_apply {processor : Processor}
    (found : env.platform.processorOf? env.core = some processor) (latency state : UInt32)
    (address : UInt64) (world : World)
    (fits : [processor.node, latency, state, Word.low address, Word.high address].length ≤
      frameArguments) :
    selfSuspend latency state address world env m =
      { Exchange.request 0 processor.channel ⟨Header.ofApi .selfSuspend world, _, fits⟩ env m with
        events :=
          (hooked env (.suspendPrepared processor.node processor.core state)).map .chip ++
            (Exchange.request 0 processor.channel
              ⟨Header.ofApi .selfSuspend world, _, fits⟩ env m).events } := by
  rw [selfSuspend, Act.env_bind]
  simp only [found, Frame.call_eq .selfSuspend world fits, Act.orFault_ok, pure_bind]
  exact hooked_apply env m _ _

omit listed in
/-- A core without a processor cannot be suspended. -/
theorem selfSuspend_of_missing (missing : env.platform.processorOf? env.core = none)
    (latency state : UInt32) (address : UInt64) (world : World) :
    ∃ logs, selfSuspend latency state address world env m =
      ⟨.ok (.error .internal), m, [], logs⟩ := by
  simp only [selfSuspend, Act.env_bind, missing]
  exact ⟨_, rfl⟩

end Requests

/-! ## Setup -/

variable {T : Type} [Transport T] {env : Env} {m : Machine T}

/-- What setup does once the service is up: interrupts are routed and enabled, and the controller is
asked to report when cores must power down. -/
def bringUp (channel : Channel) : Act T (Except OpenError Unit) := do
  let platform := (← Act.env).platform
  Act.emit (.gic (.routed platform.idleSgi))
  Act.enableInterrupt channel
  Act.emit (.gic (.routed platform.controllerIrq))
  match ← registerIdleEvent with
  | .ok _ => pure ()
  | .error failure =>
    Act.log .warn s!"Registering CPU idle notifier failed: {failure.message}"
  Act.log .info "PM service initialised"
  return .ok ()

/-- Without processors setup faults before it has done anything. -/
theorem setup_of_no_processors (none : env.platform.processors = []) (m : Machine T) :
    (setup : Act T (Except OpenError Unit)) env m = ⟨.error (.fault .noProcessor), m, [], []⟩ :=
  Act.bind_of_error (primary_of_no_processors none m)

variable {first : Processor} (listed : env.platform.processors.head? = some first)

include listed

theorem setup_of_fault {why : Fault}
    (opened : Transport.openChannel first.channel m.transport = .error why) :
    (setup : Act T (Except OpenError Unit)) env m =
      ⟨.error (.fault why), m, [.link first.channel .opened], []⟩ := by
  have faulted := Act.seen_of_error (.link first.channel .opened) env opened
  rw [setup, primary_bind listed, Act.openChannel, Act.bind_of_error faulted]

/-- A channel that is refused leaves the service as it was. -/
theorem setup_of_refused {e : OpenError} {t : T}
    (opened : Transport.openChannel first.channel m.transport = .ok (.error e, t)) :
    (setup : Act T (Except OpenError Unit)) env m =
      ⟨.ok (.error e), { m with transport := t }, [.link first.channel .opened],
        env.filter.keep [{ level := .info, message := s!"PM service init failed: {e.message}" }]⟩ := by
  have refused := Act.seen_of_ok (.link first.channel .opened) env opened
  rw [setup, primary_bind listed, Act.openChannel, Act.bind_of_ok refused]
  dsimp only
  rw [Act.log_bind]
  simp only [Act.pure_apply, List.append_nil, List.nil_append]

/-- A channel that is open brings the service up, whatever becomes of the rest. -/
theorem setup_of_opened {t : T}
    (opened : Transport.openChannel first.channel m.transport = .ok (.ok (), t)) :
    (setup : Act T (Except OpenError Unit)) env m =
      { bringUp first.channel env { m with transport := t, up := true } with
        events := .link first.channel .opened ::
          (bringUp first.channel env { m with transport := t, up := true }).events } := by
  have answered := Act.seen_of_ok (.link first.channel .opened) env opened
  rw [setup, primary_bind listed, Act.openChannel, Act.bind_of_ok answered]
  rfl

/-- Setup succeeds only if the channel of the primary processor can be opened. -/
theorem openChannel_of_setup
    (succeeded : ((setup : Act T (Except OpenError Unit)) env m).ending = .ok (.ok ())) :
    ∃ t, Transport.openChannel first.channel m.transport = .ok (.ok (), t) := by
  match opened : Transport.openChannel first.channel m.transport with
  | .error why =>
    rw [setup_of_fault listed opened] at succeeded
    cases succeeded
  | .ok (.error e, t) =>
    rw [setup_of_refused listed opened] at succeeded
    cases succeeded
  | .ok (.ok (), t) => exact ⟨t, rfl⟩

end PowerBridge.Service
