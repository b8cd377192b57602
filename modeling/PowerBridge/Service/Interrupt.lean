import PowerBridge.Service.Request

/-!
# Setup and interrupts

Setup opens the channel of the primary processor. Once that has succeeded the service is up, and the
interrupts it handles are routed to the monitor. At last the controller is asked to report when
cores must power down; the service stays up if that fails.

The controller raises an interrupt when it leaves a callback, which waits until the interrupt is
cleared. A callback that asks cores to power down is handled here: an interrupt is raised on each of
them. Other known callbacks are left for the operating system, which is told of them through an
interrupt that it may register. Unknown ones are dropped.

A core on which the idle interrupt was raised powers down, and does not come back.
-/

namespace PowerBridge.Service

open Eemi
open Link (OpenError Transport)

variable {T : Type} [Transport T]

/-! ## Setup -/

/-- Asks the controller to report forced power downs of the first core's subsystem. -/
def registerIdleEvent : Act T (Reply 0) :=
  ask 0 (.forwarded .registerNotifier) .secure [firstCoreNode, forcedIdleEvent, 0, 1]

def setup : Act T (Except OpenError Unit) := do
  let channel := (← primary).channel
  match ← Act.openChannel channel with
  | .error e =>
    Act.log .info s!"PM service init failed: {e.message}"
    return .error e
  | .ok () =>
    -- from here on the service is up, whatever becomes of the rest
    Act.modify fun m => { m with up := true }
    let platform := (← Act.env).platform
    Act.emit (.gic (.routed platform.idleSgi))
    Act.enableInterrupt channel
    Act.emit (.gic (.routed platform.controllerIrq))
    match ← registerIdleEvent with
    | .ok _ => pure ()
    | .error failure =>
      Act.log .warn s!"Registering CPU idle notifier failed: {failure.message}"
    Act.log .info "PM service initialised"
    return .ok ()

/-! ## Callbacks -/

def registerSgi (sgi : UInt32) (reset : Bool) : Act T (Except SgiError Unit) := do
  let (result, registration) :=
    (← Act.machine).sgi.register sgi reset (← Act.env).platform.sgiLimit
  Act.modify fun m => { m with sgi := registration }
  return result

/-- The callback that waits, or zeros. If it is acknowledged, it waits no longer. -/
def readCallback (acknowledge : Bool) : Act T Callback := do
  let channel := (← primary).channel
  if ← Act.isPending channel then
    let callback ← Act.readCallback channel
    if acknowledge then
      Act.clearPending channel
    return callback
  else return .zero

/-! ## Handling interrupts -/

/-- The target list for the calling core. -/
def targetList (core : UInt64) : Except Fault UInt16 :=
  -- the list of a core is the number after its index
  if core.toNat + 1 < UInt64.size then .ok (core + 1).toUInt16
  else .error .targetListOverflow

/-- Raises the registered interrupt on the calling core, if there is one. -/
def notifySystem : Act T Unit := do
  match (← Act.machine).sgi with
  | .unregistered => return
  | .registered sgi =>
    let targets ← Act.orFault (targetList (← Act.env).core)
    Act.log .debug s!"Notifying OS with SGI {sgi}, target list {Text.hex targets.toNat}"
    let interrupt ← Act.orFault (InterruptId.sgi sgi)
    Act.emit (.gic (.systemSgiRaised interrupt targets))

/-- Whether a core is in a mask. Only the first 32 cores have a bit. -/
def coreInMask (mask : UInt32) (core : Nat) : Except Fault Bool :=
  if core < 32 then .ok (mask.toNat.testBit core)
  else .error .coreOutsideMask

/-- Raises the idle interrupt on those of the given cores that are in a mask. -/
def raiseIdle (mask : UInt32) : List Nat → Act T Unit
  | [] => return
  | core :: rest => do
    if ← Act.orFault (coreInMask mask core) then
      Act.log .trace s!"Raise SGI for {core}"
      Act.emit (.gic (.monitorSgiRaised (← Act.env).platform.idleSgi core))
    raiseIdle mask rest

/-- Asks the cores in a mask to power down. -/
def requestIdle (mask : UInt32) : Act T Unit := do
  Act.log .debug s!"CPU idle request received for {Text.hex mask.toNat}"
  raiseIdle mask (List.range (← Act.env).platform.coreCount)

/-- Does what a callback asks for. -/
def handleCallback (callback : Callback) : Act T Unit := do
  match (Coded.ofCode? callback.kind : Option CallbackKind) with
  | some .initSuspend => notifySystem
  | some .notify =>
    if callback.event = forcedIdleEvent then
      requestIdle callback.target
      Act.clearPending (← primary).channel
    else notifySystem
  | none =>
    Act.clearPending (← primary).channel
    Act.log .warn s!"Invalid IPI payload {callback.describe}"

/-- Handles the interrupt of the controller. -/
def handleControllerIrq (interrupt : InterruptId) : Act T Unit := do
  Act.log .debug "Received IPI interrupt from firmware"
  Act.emit (.gic .acknowledged)
  handleCallback (← readCallback false)
  Act.emit (.gic (.ended interrupt))

/-- Handles the idle interrupt: the calling core powers down. -/
def handleIdleSgi (interrupt : InterruptId) : Act T Unit := do
  let env ← Act.env
  Act.log .debug s!"Entering wfi {env.core}"
  Act.emit (.gic (.pendingCleared interrupt))
  Act.emit (.gic .interfaceDisabled)
  match env.platform.processorOf? env.core with
  | some processor => Act.emit (.chip (.powerDownRequested processor.powerDownMask))
  | none => Act.log .warn s!"Failed to get proc {env.core}"
  Act.emit (.chip .powerDownAwaited)
  Act.halt .poweredDown

/-- Handles an interrupt that was taken to the monitor. The controller's interrupt comes first, even
where the idle interrupt has the same number. -/
def routeInterrupt (interrupt : InterruptId) : Act T Unit := do
  let platform := (← Act.env).platform
  if interrupt = platform.controllerIrq then handleControllerIrq interrupt
  else if interrupt = platform.idleSgi then handleIdleSgi interrupt
  else Act.log .warn s!"Unexpected group 0 interrupt {interrupt.describe}"

end PowerBridge.Service
