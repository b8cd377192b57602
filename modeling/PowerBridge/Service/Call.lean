import PowerBridge.Service.Interrupt
import PowerBridge.Smc

/-!
# Calls

The calls that callers may make, with their arguments, what they give, and what each of them does.
Most calls give reply words or a failure. Data queries give data along with a failure too, and
reading a callback cannot fail. Device specific controls either stand for another call or concern
this service alone.

By a secure monitor call a caller puts the identifier of a function into x0, and four argument words
into x1 and x2, low halves first. The number of the function is that of the API. The answer is a
status word and output words, packed two to a register; a callback is returned without a status.
-/

namespace PowerBridge.Service

open Eemi
open Link (Transport)
open Smc (CallerRegisters FunctionId Return argumentOf functionOf)

/-! ## Calls and their results -/

/-- A call of the service with its arguments. -/
inductive Call where
  /-- Passes arguments on as they are: as many as the API takes, zeros standing for missing ones. -/
  | forward (api : Forwarded) (args : List UInt32)
  | selfSuspend (latency state : UInt32) (address : UInt64)
  | abortSuspend (reason : UInt32)
  | requestSuspend (target ack latency state : UInt32)
  | forcePowerdown (target ack : UInt32)
  /-- Wakes up a core or subsystem. Only the low half of the address is passed on. -/
  | requestWakeup (target setAddress : UInt32) (address : UInt64) (ack : UInt32)
  /-- Shuts down or resets, or only sets the scope of doing so later. -/
  | systemShutdown (kind subtype : UInt32)
  /-- The version of the controller's interface. -/
  | getApiVersion
  /-- The version of this service. -/
  | getTrustzoneVersion
  /-- The callback that waits, which is taken. -/
  | getCallbackData
  | ioctl (device id first second : UInt32)
  | queryData (query first second third : UInt32)
  | featureCheck (api : UInt32)
  | loadImage (source addressLow addressHigh : UInt32)
  deriving DecidableEq, Repr

/-- What a call gives. -/
inductive Result where
  | reply {outputs : Nat} (reply : Reply outputs)
  | query (reply : QueryReply)
  | callback (callback : Callback)

variable {T : Type} [Transport T]

/-! ## Device specific control -/

/-- The controls that stand for other calls, or concern this service. -/
def ioctl (id first second : UInt32) (world : World) : Act T (Reply 1) := do
  match (Coded.ofCode? id : Option Ioctl) with
  -- the forwarded setters give no words, and their caller is given a zero
  | some .setPllMode =>
    return (← forward .pllSetMode world [first, second]).map fun _ => zeroWord
  | some .getPllMode => forward .pllGetMode world [first]
  | some .setPllData =>
    return (← forward .pllSetParameter world [first, pllDataParameter, second]).map fun _ => zeroWord
  | some .getPllData => forward .pllGetParameter world [first, pllDataParameter]
  | some .setSgi =>
    match ← registerSgi first (second = 1) with
    | .ok () => return .ok zeroWord
    | .error e =>
      Act.log .warn s!"SGI registration failed: {e.message}"
      return .error .args
  | none => return .error .notSupported

/-! ## All calls -/

def Call.perform (call : Call) (world : World) : Act T Result := do
  match call with
  | forward api args => return .reply (← Service.forward api world args)
  | selfSuspend latency state address =>
    return .reply (← Service.selfSuspend latency state address world)
  | abortSuspend reason => return .reply (← Service.abortSuspend reason world)
  | requestSuspend target ack latency state =>
    return .reply (← askAcked .requestSuspend world [target, ack, latency, state] ack)
  | forcePowerdown target ack =>
    return .reply (← askAcked .forcePowerdown world [target, ack] ack)
  | requestWakeup target setAddress address ack =>
    return .reply (← ask 0 .requestWakeup world [target, setAddress, Word.low address, ack])
  | systemShutdown kind subtype => return .reply (← Service.systemShutdown kind subtype world)
  | getApiVersion => return .reply (← Service.getApiVersion world)
  | getTrustzoneVersion =>
    return .reply (.ok #v[(← Act.env).platform.trustzoneVersion] : Reply 1)
  | getCallbackData => return .callback (← readCallback true)
  | ioctl _ id first second => return .reply (← Service.ioctl id first second world)
  | queryData query first second third =>
    return .query (← Service.queryData query first second third world)
  | featureCheck api => return .reply (← Service.featureCheck api world)
  -- on the wire the high half of the address comes first
  | loadImage source addressLow addressHigh =>
    return .reply (← ask 0 .loadImage world [source, addressHigh, addressLow])

/-! ## Calls from registers -/

/-- The call of an API with four argument words. Some APIs take their arguments from later words
than the first. -/
def Call.ofWords (api : Api) (a0 a1 a2 a3 : UInt32) : Call :=
  match api with
  | .forwarded api => .forward api [a0, a1, a2, a3]
  | .getApiVersion => .getApiVersion
  | .requestSuspend => .requestSuspend a0 a1 a2 a3
  | .selfSuspend => .selfSuspend a1 a2 a3.toUInt64
  | .forcePowerdown => .forcePowerdown a0 a1
  | .abortSuspend => .abortSuspend a0
  | .requestWakeup => .requestWakeup a0 a1 a2.toUInt64 a3
  | .systemShutdown => .systemShutdown a0 a1
  | .ioctl => .ioctl a0 a1 a2 a3
  | .queryData => .queryData a0 a1 a2 a3
  | .featureCheck => .featureCheck a0
  | .loadImage => .loadImage a0 a1 a2
  | .getCallbackData => .getCallbackData
  | .getTrustzoneVersion => .getTrustzoneVersion

/-- The call of an API with the arguments in a caller's registers. -/
def Call.ofRegisters (api : Api) (x : CallerRegisters) : Call :=
  Call.ofWords api (argumentOf x 0) (argumentOf x 1) (argumentOf x 2) (argumentOf x 3)

/-! ## Answers in registers -/

/-- The answer for the result of a call. With a failure, zeros stand for the reply words. -/
def Result.toReturn : Result → Except Fault Return
  | reply (.ok words) => Return.ofWords 0 words.toList
  | @reply n (.error failure) => Return.ofWords failure.code (List.replicate n 0)
  | query { status, data } => Return.ofWords (Failure.status status) data.toList
  | callback c => .ok (Return.ofPair (Word.join c.kind c.target) (Word.join c.event c.detail))

/-! ## The service -/

/-- The numbers of the service's functions are below this. -/
def functionLimit : UInt16 := 0x1000

/-- Whether the service handles a function: a fast call to the owner of silicon partners' calls,
with a number in the service's range. -/
def owns (f : FunctionId) : Bool :=
  f.owner == FunctionId.siliconPartner && f.number < functionLimit && f.kind != .yielding

/-- Handles a call. While the service is down, and for an API it does not know, the call is not
supported. -/
def handleSmc (world : World) (x : CallerRegisters) : Act T Return := do
  if (← Act.machine).up then
    let function := functionOf x
    match (Coded.ofCode? function.number.toUInt32 : Option Api) with
    | some api =>
      let result ← (Call.ofRegisters api x).perform world
      Act.orFault result.toReturn
    | none =>
      Act.log .warn s!"Unimplemented PM service call: {function.display}"
      return .notSupported
  else return .notSupported

/-- The power management service. -/
def power : Smc.Service (Act T) where
  owns := owns
  handle := handleSmc

/-! ## Routing -/

/-- Handles a call that was trapped. The hint in the identifier is disregarded; identifiers that are
not valid, or that no service owns, are not supported. -/
def routeSmc (world : World) (x : CallerRegisters) : Act T Return := do
  let function := (functionOf x).clearHint
  if function.isValid then
    -- the hint is cleared for this decision only: the service is given the registers as they came
    if (power (T := T)).owns function then power.handle world x
    else
      Act.log .warn s!"Unowned SMC call: {function.describe}"
      return .notSupported
  else return .notSupported

end PowerBridge.Service
