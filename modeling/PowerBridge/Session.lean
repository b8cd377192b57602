import PowerBridge.Service.Call

/-!
# Sessions

A session is a machine with the core that runs on it. It takes inputs: commands, and what happens
outside, where the transport changes or another core comes to run. Each input is reported by how it
ended and what was seen of it. A session goes on after a core has powered down, and ends at a fault,
or when the controller is waited for in vain.

A command is taken as a whole: it has ended before the next input is taken. Cores that are in the
service at the same time are not modelled, and neither is the lock that keeps their exchanges apart,
which is held from the writing of a request until its response has been read.
-/

namespace PowerBridge

open Eemi
open Link (Channel OpenError Transport)
open Smc (CallerRegisters FunctionId Return)

/-! ## Commands -/

/-- How a request is sent. -/
inductive SendMode where
  | nonBlocking
  | acknowledged
  | forStatus
  | forAnswer
  deriving DecidableEq, Repr

/-- What the monitor may be told to do. -/
inductive Command where
  | setup
  /-- A secure monitor call, by way of the router. -/
  | smc (world : World) (x : CallerRegisters)
  /-- A secure monitor call, to the service itself. -/
  | serviceSmc (world : World) (x : CallerRegisters)
  | owns (function : FunctionId)
  /-- An interrupt, by way of the router. -/
  | interrupt (interrupt : InterruptId)
  | controllerIrq (interrupt : InterruptId)
  | idleSgi (interrupt : InterruptId)
  | call (world : World) (call : Service.Call)
  /-- Shuts the system down within the scope that is set. -/
  | systemOff
  | systemReset
  /-- Passes a request on that is given as words. -/
  | passThrough (world : World) (words : Vector UInt32 frameWords)
  | registerSgi (sgi : UInt32) (reset : Bool)
  | readCallback (acknowledge : Bool)
  /-- Sends a request on any channel, its answer being read over the given words. -/
  | send (mode : SendMode) (channel : Channel) (header : Header) (args values : List UInt32)

/-- What a command answers. -/
inductive Answer where
  | done
  | owned (value : Bool)
  | opened (result : Except OpenError Unit)
  | returned (values : Return)
  | result (result : Service.Result)
  | registered (result : Except SgiError Unit)
  | sent (result : Except Failure Unit) (values : List UInt32)
  | status (result : Except Failure UInt32) (values : List UInt32)

variable {T : Type} [Transport T]

def SendMode.perform (mode : SendMode) (channel : Channel) (frame : Frame) (values : List UInt32) :
    Act T Answer := do
  let places := values.toArray.toVector
  match mode with
  | nonBlocking => return .sent (← Exchange.sendNonBlocking channel frame) values
  | acknowledged => return .sent (← Exchange.send channel frame) values
  | forStatus =>
    let (result, read) ← Exchange.sendForStatus channel frame places
    return .status result read.toList
  | forAnswer =>
    let (result, read) ← Exchange.sendForAnswer channel frame places
    return .sent result read.toList

def Command.perform (command : Command) : Act T Answer := do
  match command with
  | setup => return .opened (← Service.setup)
  | smc world x => return .returned (← Service.routeSmc world x)
  | serviceSmc world x => return .returned (← Service.handleSmc world x)
  | owns function => return .owned (Service.owns function)
  | interrupt i => Service.routeInterrupt i; return .done
  | controllerIrq i => Service.handleControllerIrq i; return .done
  | idleSgi i => Service.handleIdleSgi i; return .done
  | call world c => return .result (← c.perform world)
  | systemOff => return .result (.reply (← Service.systemOff))
  | systemReset => return .result (.reply (← Service.systemReset))
  | passThrough world words => return .result (.reply (← Service.passThrough world words))
  | registerSgi sgi reset => return .registered (← Service.registerSgi sgi reset)
  | readCallback acknowledge => return .result (.callback (← Service.readCallback acknowledge))
  | send mode channel header args values =>
    let frame ← Act.orFault ((Frame.empty header).pushAll args)
    mode.perform channel frame values

/-! ## Runs -/

/-- What happens to a session. -/
inductive Input (T : Type) where
  /-- The transport changes from outside. -/
  | outside (change : T → T)
  /-- Another core comes to run. -/
  | core (index : UInt64)
  | command (command : Command)

/-- A machine and the core that runs on it. -/
structure Session (T : Type) where
  machine : Machine T
  core : UInt64 := 0

/-- What stays the same in a session. -/
structure Config where
  platform : Platform
  filter : Log.Filter

/-- How an input ended and what was seen of it. -/
structure Report where
  ending : Except Halt Answer
  events : List Event
  logs : List Log.Record

/-- Whether a session goes on after an input. -/
def Report.continues (r : Report) : Bool :=
  match r.ending with
  | .ok _ | .error .poweredDown => true
  | .error (.fault _) | .error .stalled => false

namespace Session

/-- The session that starts with a transport. -/
def start (transport : T) : Session T :=
  { machine := { transport } }

def step (config : Config) (s : Session T) : Input T → Report × Session T
  | .outside change =>
    ({ ending := .ok .done, events := [], logs := [] },
      { s with machine := { s.machine with transport := change s.machine.transport } })
  | .core index => ({ ending := .ok .done, events := [], logs := [] }, { s with core := index })
  | .command c =>
    let outcome := c.perform ⟨config.platform, s.core, config.filter⟩ s.machine
    ({ ending := outcome.ending, events := outcome.events, logs := outcome.logs },
      { s with machine := outcome.machine })

/-- The reports of a history of inputs, each with the session after it. -/
def run (config : Config) (s : Session T) : List (Input T) → List (Report × Session T)
  | [] => []
  | input :: rest =>
    let next := s.step config input
    next :: if next.1.continues then run config next.2 rest else []

end Session

end PowerBridge
