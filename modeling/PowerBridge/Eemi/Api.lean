import PowerBridge.Basic

/-!
# APIs of the controller

The controller is asked for work by the number of an API. Most APIs are *forwarded*: the service
passes the caller's arguments on as they are, and hands the reply words back. The others are handled
one by one.

Byte 1 of the number of an API names the module of the controller that implements it; zero stands
for the base module.
-/

namespace PowerBridge.Eemi

/-- The base power management module of the controller. -/
def baseModule : UInt8 := 2

/-- The module in the number of an API. -/
def moduleOf (api : UInt32) : UInt8 :=
  ((api &&& 0xff00) >>> 8).toUInt8

/-- The module that implements APIs whose number carries the given module byte. -/
def resolveModule (moduleId : UInt8) : UInt8 :=
  if moduleId = 0 then baseModule else moduleId

/-! ## Forwarded APIs -/

/-- The APIs whose arguments are passed on to the controller as they are. -/
inductive Forwarded where
  -- devices, and who is told about them
  | getDeviceStatus
  | getOpCharacteristic
  | registerNotifier
  | setWakeupSource
  | requestDevice
  | releaseDevice
  | setRequirement
  | setMaxLatency
  -- reset lines
  | resetAssert
  | resetGetStatus
  -- the calling subsystem has finished its bring-up
  | initFinalize
  -- the identity and version of the chip
  | getChipId
  -- pins
  | pinRequest
  | pinRelease
  | pinGetFunction
  | pinSetFunction
  | pinGetParameter
  | pinSetParameter
  -- clocks; a rate is given as its low and high words
  | clockEnable
  | clockDisable
  | clockGetState
  | clockSetDivider
  | clockGetDivider
  | clockGetRate
  | clockSetParent
  | clockGetParent
  -- phase locked loops
  | pllSetParameter
  | pllGetParameter
  | pllSetMode
  | pllGetMode
  deriving DecidableEq, Repr

/-- What the protocol lays down for a forwarded API. -/
structure Signature where
  name : String
  code : UInt32
  /-- How many argument words it takes. -/
  arguments : Nat
  /-- How many reply words it gives. -/
  outputs : Nat

namespace Forwarded

/-- The signatures of the forwarded APIs. -/
def signature : Forwarded → Signature
  | getDeviceStatus => ⟨"GetDeviceStatus", 3, 1, 3⟩
  | getOpCharacteristic => ⟨"GetOpCharacteristic", 4, 2, 1⟩
  | registerNotifier => ⟨"RegisterNotifier", 5, 4, 0⟩
  | setWakeupSource => ⟨"SetWakeupSource", 11, 3, 0⟩
  | requestDevice => ⟨"RequestDevice", 13, 4, 0⟩
  | releaseDevice => ⟨"ReleaseDevice", 14, 1, 0⟩
  | setRequirement => ⟨"SetRequirement", 15, 4, 0⟩
  | setMaxLatency => ⟨"SetMaxLatency", 16, 2, 0⟩
  | resetAssert => ⟨"ResetAssert", 17, 2, 0⟩
  | resetGetStatus => ⟨"ResetGetStatus", 18, 1, 1⟩
  | initFinalize => ⟨"InitFinalize", 21, 0, 0⟩
  | getChipId => ⟨"GetChipId", 24, 0, 2⟩
  | pinRequest => ⟨"PinctrlRequest", 28, 1, 0⟩
  | pinRelease => ⟨"PinctrlRelease", 29, 1, 0⟩
  | pinGetFunction => ⟨"PinctrlGetFunction", 30, 1, 1⟩
  | pinSetFunction => ⟨"PinctrlSetFunction", 31, 2, 0⟩
  | pinGetParameter => ⟨"PinctrlConfigParamGet", 32, 2, 1⟩
  | pinSetParameter => ⟨"PinctrlConfigParamSet", 33, 3, 0⟩
  | clockEnable => ⟨"ClockEnable", 36, 1, 0⟩
  | clockDisable => ⟨"ClockDisable", 37, 1, 0⟩
  | clockGetState => ⟨"ClockGetState", 38, 1, 1⟩
  | clockSetDivider => ⟨"ClockSetDivider", 39, 2, 0⟩
  | clockGetDivider => ⟨"ClockGetDivider", 40, 1, 1⟩
  | clockGetRate => ⟨"ClockGetRate", 42, 1, 2⟩
  | clockSetParent => ⟨"ClockSetParent", 43, 2, 0⟩
  | clockGetParent => ⟨"ClockGetParent", 44, 1, 1⟩
  | pllSetParameter => ⟨"PllSetParameter", 48, 3, 0⟩
  | pllGetParameter => ⟨"PllGetParameter", 49, 2, 1⟩
  | pllSetMode => ⟨"PllSetMode", 50, 2, 0⟩
  | pllGetMode => ⟨"PllGetMode", 51, 1, 1⟩

def arguments (api : Forwarded) : Nat := api.signature.arguments

def outputs (api : Forwarded) : Nat := api.signature.outputs

theorem arguments_le (api : Forwarded) : api.arguments ≤ 4 := by
  cases api <;> decide

theorem outputs_le (api : Forwarded) : api.outputs ≤ 3 := by
  cases api <;> decide

end Forwarded

/-! ## All APIs -/

/-- The APIs that callers may ask for. -/
inductive Api where
  /-- An API whose arguments are passed on as they are. -/
  | forwarded (api : Forwarded)
  | getApiVersion
  | requestSuspend
  | selfSuspend
  | forcePowerdown
  | abortSuspend
  | requestWakeup
  | systemShutdown
  | ioctl
  /-- Queries data of the controller, such as the names of clocks. -/
  | queryData
  | featureCheck
  /-- Loads a device image; the loader module does this. -/
  | loadImage
  /-- The callback that waits, answered without the controller. -/
  | getCallbackData
  /-- The version of this service, answered without the controller. -/
  | getTrustzoneVersion
  deriving DecidableEq, Repr

namespace Api

def code : Api → UInt32
  | forwarded api => api.signature.code
  | getApiVersion => 1
  | requestSuspend => 6
  | selfSuspend => 7
  | forcePowerdown => 8
  | abortSuspend => 9
  | requestWakeup => 10
  | systemShutdown => 12
  | ioctl => 34
  | queryData => 35
  | featureCheck => 63
  | loadImage => 0x701
  | getCallbackData => 0xa01
  | getTrustzoneVersion => 0xa03

def name : Api → String
  | forwarded api => api.signature.name
  | getApiVersion => "GetApiVersion"
  | requestSuspend => "ReqSuspend"
  | selfSuspend => "SelfSuspend"
  | forcePowerdown => "ForcePowerdown"
  | abortSuspend => "AbortSuspend"
  | requestWakeup => "ReqWakeup"
  | systemShutdown => "SystemShutdown"
  | ioctl => "Ioctl"
  | queryData => "QueryData"
  | featureCheck => "FeatureCheck"
  | loadImage => "LoadPdi"
  | getCallbackData => "GetCallbackData"
  | getTrustzoneVersion => "GetTrustzoneVersion"

/-- The APIs in the order of their numbers. -/
def all : List Api :=
  [getApiVersion, forwarded .getDeviceStatus, forwarded .getOpCharacteristic,
    forwarded .registerNotifier, requestSuspend, selfSuspend, forcePowerdown, abortSuspend,
    requestWakeup, forwarded .setWakeupSource, systemShutdown, forwarded .requestDevice,
    forwarded .releaseDevice, forwarded .setRequirement, forwarded .setMaxLatency,
    forwarded .resetAssert, forwarded .resetGetStatus, forwarded .initFinalize,
    forwarded .getChipId, forwarded .pinRequest, forwarded .pinRelease,
    forwarded .pinGetFunction, forwarded .pinSetFunction, forwarded .pinGetParameter,
    forwarded .pinSetParameter, ioctl, queryData, forwarded .clockEnable,
    forwarded .clockDisable, forwarded .clockGetState, forwarded .clockSetDivider,
    forwarded .clockGetDivider, forwarded .clockGetRate, forwarded .clockSetParent,
    forwarded .clockGetParent, forwarded .pllSetParameter, forwarded .pllGetParameter,
    forwarded .pllSetMode, forwarded .pllGetMode, featureCheck, loadImage, getCallbackData,
    getTrustzoneVersion]

instance : Coded Api where
  all := all
  code := code
  name := name

theorem mem_all (api : Api) : api ∈ all := by
  cases api with
  | forwarded f => cases f <;> decide
  | _ => decide

/-- No two APIs share a number. -/
theorem code_injective (a b : Api) (h : a.code = b.code) : a = b := by
  have distinct : ∀ a ∈ all, ∀ b ∈ all, a.code = b.code → a = b := by decide +kernel
  exact distinct a (mem_all a) b (mem_all b) h

instance : Coded.Lawful Api where
  mem_all := mem_all
  code_inj := code_injective

/-- The module that implements an API. -/
def moduleId (api : Api) : UInt8 :=
  resolveModule (moduleOf api.code)

end Api

end PowerBridge.Eemi
