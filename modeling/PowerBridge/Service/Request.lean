import PowerBridge.Eemi.Codes
import PowerBridge.Exchange

/-!
# Requests of the service

Unless something else is said, a request goes over the channel of the primary processor, the first
one of the platform, and its answer is waited for.
-/

namespace PowerBridge.Service

open Eemi
open Link (Channel Transport)

variable {T : Type} [Transport T]

/-! ## Processors -/

def primary : Act T Processor := do
  match (← Act.env).platform.processors with
  | first :: _ => return first
  | [] => Act.halt (.fault .noProcessor)

/-! ## Exchanges -/

/-- Calls an API on the channel of the primary processor and gives `n` reply words. -/
def ask (n : Nat) (api : Api) (world : World) (args : List UInt32) : Act T (Reply n) := do
  let frame ← Act.orFault (Frame.call api world args)
  Exchange.request n (← primary).channel frame

/-- Passes the arguments of a forwarded API on. -/
def forward (api : Forwarded) (world : World) (args : List UInt32) : Act T (Reply api.outputs) :=
  ask api.outputs (.forwarded api) world (args.take api.arguments)

/-- Calls an API and waits for its answer if `ack` asks for that, otherwise only until the
controller has taken the request. -/
def askAcked (api : Api) (world : World) (args : List UInt32) (ack : UInt32) : Act T (Reply 0) := do
  let frame ← Act.orFault (Frame.call api world args)
  let channel := (← primary).channel
  if ack = blockingAck then Exchange.request 0 channel frame
  else return (← Exchange.send channel frame).map fun () => noWords

/-- Passes a request on that is given as words, and gives all reply words. -/
def passThrough (world : World) (words : Vector UInt32 frameWords) : Act T (Reply 8) := do
  let frame ← Act.orFault (Frame.ofWords world words)
  Exchange.request 8 (← primary).channel frame

/-! ## Suspend of the calling core

A core suspends as the processor that the platform lists for it. The chip may have work of its own
to do before, and to undo if the suspend is aborted. -/

/-- Suspends the calling core: the request is made for the node of its processor, on the channel of
that processor. -/
def selfSuspend (latency state : UInt32) (address : UInt64) (world : World) : Act T (Reply 0) := do
  let env ← Act.env
  match env.platform.processorOf? env.core with
  | none =>
    Act.log .warn s!"Failed to get proc {env.core}"
    return .error .internal
  | some processor =>
    if env.platform.suspendHooks then
      Act.emit (.chip (.suspendPrepared processor.node processor.core state))
    let frame ← Act.orFault (Frame.call .selfSuspend world
      [processor.node, latency, state, Word.low address, Word.high address])
    Exchange.request 0 processor.channel frame

/-- Aborts the suspend of the calling core, naming the primary processor. -/
def abortSuspend (reason : UInt32) (world : World) : Act T (Reply 0) := do
  if (← Act.env).platform.suspendHooks then
    Act.emit (.chip .suspendUndone)
  ask 0 .abortSuspend world [reason, (← primary).node]

/-! ## Shutdown and reset

A shutdown or reset takes a scope. The scope of those that the system firmware asks for is set
beforehand, by a shutdown request that does nothing else. -/

/-- Sets the scope of later shutdowns and resets. -/
def setScope (scope : UInt32) : Act T Unit :=
  Act.modify fun m => { m with scope }

/-- Shuts down or resets, without waiting for the controller, which may take the calling core down
first. If only the scope is to be set, nothing is sent. -/
def systemShutdown (kind subtype : UInt32) (world : World) : Act T (Reply 0) := do
  if Coded.ofCode? kind = some ShutdownKind.setScope then
    Act.log .debug s!"Shutdown scope set to {Text.hex subtype.toNat}"
    setScope subtype
    return .ok noWords
  else
    let frame ← Act.orFault (Frame.call .systemShutdown world [kind, subtype])
    return (← Exchange.sendNonBlocking (← primary).channel frame).map fun () => noWords

/-- Shuts the system down within the scope that is set. -/
def systemOff : Act T (Reply 0) := do
  systemShutdown ShutdownKind.shutdown.code (← Act.machine).scope .secure

def systemReset : Act T (Reply 0) := do
  systemShutdown ShutdownKind.reset.code (← Act.machine).scope .secure

/-! ## Versions and data queries

Versions are asked of the controller. A data query first asks for the version of the call, since the
format of the reply depends on it. -/

/-- The answer to a data query. Data may come along with a failure. -/
structure QueryReply where
  status : Except Failure Unit
  data : Vector UInt32 3

namespace QueryReply

/-- The answer of a query that was not made. -/
def failed (failure : Failure) : QueryReply :=
  { status := .error failure
    data := #v[0, 0, 0] }

end QueryReply

/-- The version of the controller's interface, whatever the status of the answer is. -/
def getApiVersion (world : World) : Act T (Reply 1) := do
  let frame ← Act.orFault (Frame.call .getApiVersion world [])
  match ← Exchange.sendForStatus (← primary).channel frame zeroWord with
  | (.error failure, _) => return .error failure
  | (.ok status, version) =>
    if status ≠ 0 then
      Act.log .debug s!"GET_API_VERSION status {status} ignored"
    return .ok version

/-- The version of an API: this service's in the upper half, the controller's in the lower. APIs of
other modules than the base one are not checked, and give zero. -/
def featureCheck (api : UInt32) (world : World) : Act T (Reply 1) := do
  if resolveModule (moduleOf api) = baseModule then
    return (← ask 1 .featureCheck world [api]).map fun version =>
      version.map (localVersion api ||| ·)
  else return .ok zeroWord

/-- Makes a data query that is answered in the given format. -/
def queryAs (format : QueryFormat) (channel : Channel) (frame : Frame) : Act T QueryReply := do
  match format with
  | .retired => return .failed .notSupported
  | .statusFirst =>
    let (result, read) ← Exchange.sendForStatus channel frame
      (Vector.replicate QueryFormat.statusFirst.replyWords 0)
    match result with
    | .error failure => return .failed failure
    -- the status that counts is the one in front of the data
    | .ok _ =>
      let (status, data) ← Act.orFault (stripStatus read.toList)
      return { status := Failure.check status
               data := #v[data.getD 0 0, data.getD 1 0, data.getD 2 0] }
  | .plain =>
    let (result, read) ← Exchange.sendForAnswer channel frame
      (Vector.replicate QueryFormat.plain.replyWords 0)
    return { status := result
             data := #v[read[0], read[1], read[2]] }

/-- Queries data of the controller, in the format of the controller's version. -/
def queryData (query first second third : UInt32) (world : World) : Act T QueryReply := do
  match ← featureCheck Api.queryData.code world with
  | .error failure => return .failed failure
  | .ok version =>
    let frame ← Act.orFault (Frame.call .queryData world [query, first, second, third])
    queryAs (QueryFormat.classify version[0] query) (← primary).channel frame

end PowerBridge.Service
