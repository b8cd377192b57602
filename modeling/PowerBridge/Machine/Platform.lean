import PowerBridge.Interrupt
import PowerBridge.Link.Transport

/-!
# Platforms and events

What the service has to know about the chip it runs on: its cores and processors, its interrupts,
and how long the controller may take.

What the outside sees of an action is a list of events: operations of the transport, of the
interrupt controller and of the chip, in order.
-/

namespace PowerBridge

open Eemi (frameWords)

/-! ## Platforms -/

/-- How long to wait for the controller to acknowledge a request. -/
inductive WaitPolicy where
  /-- Until it does. -/
  | forever
  /-- For the given number of polls. -/
  | bounded (polls : UInt32)
  deriving DecidableEq, Repr

/-- A processor, as the controller knows it. -/
structure Processor where
  node : UInt32
  core : UInt64
  /-- The bits that ask for the core to be powered down. -/
  powerDownMask : UInt32
  channel : Link.Channel
  deriving DecidableEq, Repr

/-- What is fixed by the chip. -/
structure Platform where
  /-- The number of cores that can be asked to idle. -/
  coreCount : Nat
  /-- Interrupts that the operating system registers must be below this. -/
  sgiLimit : UInt32 := 16
  /-- The interrupt raised on cores that must power down. -/
  idleSgi : InterruptId
  controllerIrq : InterruptId
  wait : WaitPolicy := .forever
  /-- The version of this service that callers are told: 1.0 by default. -/
  trustzoneVersion : UInt32 := 0x00010000
  /-- The processors, the primary one first. -/
  processors : List Processor
  /-- Whether the chip does work of its own around a suspend. -/
  suspendHooks : Bool := false
  deriving DecidableEq, Repr

/-- The processor of a core: the first one listed for it. -/
def Platform.processorOf? (p : Platform) (core : UInt64) : Option Processor :=
  p.processors.find? fun q => q.core == core

/-! ## Events -/

/-- An operation of the transport, as it is seen on its channel. -/
inductive LinkEvent where
  /-- The channel was opened, or at least an attempt was made. -/
  | opened
  | requestWritten (words : Vector UInt32 frameWords)
  | triggered
  /-- The remote agent was asked whether it is busy, and answered. -/
  | polled (busy : Bool)
  /-- A response was read, with this many words after its status. -/
  | responseRead (count : Nat)
  | callbackRead
  | pendingRead
  | pendingCleared
  | interruptEnabled
  deriving DecidableEq, Repr

/-- An operation of the interrupt controller. -/
inductive GicEvent where
  /-- The pending interrupt of highest priority was acknowledged. -/
  | acknowledged
  | ended (interrupt : InterruptId)
  | pendingCleared (interrupt : InterruptId)
  | routed (interrupt : InterruptId)
  /-- An interrupt was raised for the monitor on a core. -/
  | monitorSgiRaised (interrupt : InterruptId) (core : Nat)
  /-- An interrupt was raised for the operating system on a list of targets. -/
  | systemSgiRaised (interrupt : InterruptId) (targets : UInt16)
  | interfaceDisabled
  deriving DecidableEq, Repr

/-- An operation of the chip. -/
inductive ChipEvent where
  /-- The chip prepared a processor's suspend to a state. -/
  | suspendPrepared (node : UInt32) (core : UInt64) (state : UInt32)
  | suspendUndone
  /-- Bits of the power control register were set. -/
  | powerDownRequested (mask : UInt32)
  | powerDownAwaited
  deriving DecidableEq, Repr

/-- What the outside sees. -/
inductive Event where
  | link (channel : Link.Channel) (event : LinkEvent)
  | gic (event : GicEvent)
  | chip (event : ChipEvent)
  deriving DecidableEq, Repr

namespace Event

/-- Whether this is an operation of the transport. -/
def isLink : Event → Bool
  | link _ _ => true
  | _ => false

/-- Whether this is a poll. -/
def isPoll : Event → Bool
  | link _ (.polled _) => true
  | _ => false

/-- Counts equal polls that follow each other; every other event stands for itself. -/
def condense : List Event → List (Event × Nat)
  | [] => []
  | event :: rest =>
    match condense rest with
    | (next, n) :: more =>
      if event.isPoll && event = next then (event, n + 1) :: more
      else (event, 1) :: (next, n) :: more
    | [] => [(event, 1)]

end Event

end PowerBridge
