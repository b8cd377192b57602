import PowerBridge.Basic

/-!
# Further codes of the protocol

The small enumerations that occur in arguments and in callbacks.
-/

namespace PowerBridge.Eemi

/-! ## Device specific control -/

/-- The device specific controls that the service handles. -/
inductive Ioctl where
  | setPllMode
  | getPllMode
  | setPllData
  | getPllData
  /-- Registers the interrupt through which callbacks are announced. -/
  | setSgi
  deriving DecidableEq, Repr

namespace Ioctl

def code : Ioctl → UInt32
  | setPllMode => 8
  | getPllMode => 9
  | setPllData => 10
  | getPllData => 11
  | setSgi => 25

def name : Ioctl → String
  | setPllMode => "SetPllFracMode"
  | getPllMode => "GetPllFracMode"
  | setPllData => "SetPllFracData"
  | getPllData => "GetPllFracData"
  | setSgi => "SetSgi"

instance : Coded Ioctl where
  all := [setPllMode, getPllMode, setPllData, getPllData, setSgi]
  code := code
  name := name

instance : Coded.Lawful Ioctl where
  mem_all := by intro a; cases a <;> decide
  code_inj := by intro a b h; revert h; cases a <;> cases b <;> decide

end Ioctl

/-! ## Queries -/

/-- The queries for names. -/
inductive NameQuery where
  | clock
  | pinFunction
  deriving DecidableEq, Repr

namespace NameQuery

def code : NameQuery → UInt32
  | clock => 1
  | pinFunction => 9

def name : NameQuery → String
  | clock => "ClockGetName"
  | pinFunction => "PinctrlGetFunctionName"

instance : Coded NameQuery where
  all := [clock, pinFunction]
  code := code
  name := name

instance : Coded.Lawful NameQuery where
  mem_all := by intro a; cases a <;> decide
  code_inj := by intro a b h; revert h; cases a <;> cases b <;> decide

end NameQuery

/-! ## Shutdown -/

/-- What a shutdown request asks for. -/
inductive ShutdownKind where
  | shutdown
  | reset
  /-- Only sets the scope of later shutdowns and resets. -/
  | setScope
  deriving DecidableEq, Repr

namespace ShutdownKind

def code : ShutdownKind → UInt32
  | shutdown => 0
  | reset => 1
  | setScope => 2

def name : ShutdownKind → String
  | shutdown => "Shutdown"
  | reset => "Reset"
  | setScope => "SetScopeOnly"

instance : Coded ShutdownKind where
  all := [shutdown, reset, setScope]
  code := code
  name := name

instance : Coded.Lawful ShutdownKind where
  mem_all := by intro a; cases a <;> decide
  code_inj := by intro a b h; revert h; cases a <;> cases b <;> decide

end ShutdownKind

/-- How much a shutdown or reset takes down. -/
inductive ShutdownScope where
  | subsystem
  | processingSystem
  | system
  deriving DecidableEq, Repr

namespace ShutdownScope

def code : ShutdownScope → UInt32
  | subsystem => 0
  | processingSystem => 1
  | system => 2

def name : ShutdownScope → String
  | subsystem => "Subsystem"
  | processingSystem => "PsOnly"
  | system => "System"

instance : Coded ShutdownScope where
  all := [subsystem, processingSystem, system]
  code := code
  name := name

instance : Coded.Lawful ShutdownScope where
  mem_all := by intro a; cases a <;> decide
  code_inj := by intro a b h; revert h; cases a <;> cases b <;> decide

end ShutdownScope

/-! ## Callbacks -/

/-- The callbacks that the service knows. -/
inductive CallbackKind where
  /-- The controller asks the operating system to suspend. -/
  | initSuspend
  /-- An event happened for which someone registered. -/
  | notify
  deriving DecidableEq, Repr

namespace CallbackKind

def code : CallbackKind → UInt32
  | initSuspend => 30
  | notify => 32

def name : CallbackKind → String
  | initSuspend => "InitSuspend"
  | notify => "Notify"

instance : Coded CallbackKind where
  all := [initSuspend, notify]
  code := code
  name := name

instance : Coded.Lawful CallbackKind where
  mem_all := by intro a; cases a <;> decide
  code_inj := by intro a b h; revert h; cases a <;> cases b <;> decide

end CallbackKind

/-- The event by which the controller asks cores to power down. -/
def forcedIdleEvent : UInt32 := 4

/-- The node of the first application core. -/
def firstCoreNode : UInt32 := 0x1810c003

/-- The PLL parameter that holds the fractional data. -/
def pllDataParameter : UInt32 := 2

/-- The acknowledgement argument that asks to wait for the answer. -/
def blockingAck : UInt32 := 1

end PowerBridge.Eemi
