import PowerBridge.Proofs.Service.Requests
import PowerBridge.Proofs.Session.Reachable

/-!
# What a secure monitor call asks of the controller

A caller's registers x1 and x2 carry four argument words. For most APIs the controller is sent the
first few of them, on the primary channel, under the number of the API. The others have requests of
their own: some name a processor, some stand for other APIs or for two requests, and some are
answered without the controller.

Main statement: `Session.Reachable.requestsOf_routeSmc`.
-/

namespace PowerBridge

open Eemi (Api Forwarded Ioctl frameArguments)
open Link (Scripted)
open Smc (CallerRegisters argumentOf functionOf)

namespace Service

/-! ## Requests of an API -/

/-- The argument words of a call. -/
def argumentWords (x : CallerRegisters) : List UInt32 :=
  [argumentOf x 0, argumentOf x 1, argumentOf x 2, argumentOf x 3]

/-- How many argument words are passed on, for APIs whose request consists of the first of them. -/
def passedWords : Api → Option Nat
  | .getApiVersion | .forwarded .initFinalize | .forwarded .getChipId => some 0
  | .forwarded .getDeviceStatus | .forwarded .releaseDevice | .forwarded .resetGetStatus
  | .forwarded .pinRequest | .forwarded .pinRelease | .forwarded .pinGetFunction
  | .forwarded .clockEnable | .forwarded .clockDisable | .forwarded .clockGetState
  | .forwarded .clockGetDivider | .forwarded .clockGetRate | .forwarded .clockGetParent
  | .forwarded .pllGetMode => some 1
  | .forwarded .getOpCharacteristic | .forcePowerdown | .forwarded .setMaxLatency
  | .forwarded .resetAssert | .forwarded .pinSetFunction | .forwarded .pinGetParameter
  | .forwarded .clockSetDivider | .forwarded .clockSetParent | .forwarded .pllGetParameter
  | .forwarded .pllSetMode => some 2
  | .forwarded .setWakeupSource | .forwarded .pinSetParameter
  | .forwarded .pllSetParameter => some 3
  | .forwarded .registerNotifier | .forwarded .requestDevice | .forwarded .setRequirement
  | .requestSuspend | .requestWakeup => some 4
  | .abortSuspend | .loadImage | .systemShutdown | .selfSuspend | .featureCheck | .ioctl
  | .queryData | .getCallbackData | .getTrustzoneVersion => none

/-- The requests of the other APIs. -/
def ownRequests (env : Env) (m : Machine Scripted) (first : Processor) (world : World)
    (x : CallerRegisters) (api : Api) : List Request :=
  let a0 := argumentOf x 0
  let a1 := argumentOf x 1
  let a2 := argumentOf x 2
  let a3 := argumentOf x 3
  match api with
  | .abortSuspend => [.of first.channel 9 world [a0, first.node]]
  | .loadImage => [.of first.channel 0x701 world [a0, a2, a1]]
  | .systemShutdown => if a0 = 2 then [] else [.of first.channel 12 world [a0, a1]]
  | .selfSuspend =>
    match env.platform.processorOf? env.core with
    | none => []
    | some processor => [.of processor.channel 7 world [processor.node, a1, a2, a3, 0]]
  | .featureCheck =>
    if (a0 >>> 8) &&& 0xff = 0 ∨ (a0 >>> 8) &&& 0xff = 2 then
      [.of first.channel 63 world [a0]]
    else []
  | .ioctl =>
    match (Coded.ofCode? a1 : Option Ioctl) with
    | none => []
    | some control => controlRequest first.channel world a2 a3 control
  | .queryData =>
    .of first.channel 63 world [35] ::
      if QuerySupported env m then [.of first.channel 35 world [a0, a1, a2, a3]] else []
  | _ => []

/-! ## Requests of the calls -/

variable {env : Env} {first : Processor}
  (listed : env.platform.processors.head? = some first) (m : Machine Scripted) (world : World)

theorem passedWords_forwarded (api : Forwarded) :
    passedWords (.forwarded api) = some api.arguments := by
  cases api <;> rfl

include listed

theorem requestsOf_perform_of_passed {api : Api} {k : Nat} (passed : passedWords api = some k)
    (x : CallerRegisters) :
    requestsOf ((Call.ofRegisters api x).perform world env m).events =
      [.of first.channel api.code world ((argumentWords x).take k)] := by
  have four : (argumentWords x).length ≤ frameArguments := by simp [argumentWords, frameArguments]
  -- one request of the argument words that are passed on
  cases api with
  | forwarded api =>
    -- the signature of a forwarded API says how many words it takes
    rw [passedWords_forwarded] at passed
    cases passed
    exact (requestsOf_bind_pure _ _ m).trans (requestsOf_forward listed m world api _)
  | getApiVersion =>
    cases passed
    exact (requestsOf_bind_pure _ _ m).trans (requestsOf_getApiVersion listed m world)
  | requestSuspend =>
    cases passed
    exact (requestsOf_bind_pure _ _ m).trans
      (requestsOf_askAcked listed m world .requestSuspend _ four)
  | forcePowerdown =>
    cases passed
    have two : [argumentOf x 0, argumentOf x 1].length ≤ frameArguments := by simp [frameArguments]
    exact (requestsOf_bind_pure _ _ m).trans
      (requestsOf_askAcked listed m world .forcePowerdown _ two)
  | requestWakeup =>
    cases passed
    -- the address is widened to a register, and its low half is passed on
    have same : [argumentOf x 0, argumentOf x 1, Word.low (argumentOf x 2).toUInt64,
        argumentOf x 3] = argumentWords x := by rw [Word.low_toUInt64, argumentWords]
    have asked := requestsOf_ask listed m world 0 .requestWakeup (same ▸ four)
    refine (requestsOf_bind_pure _ _ m).trans (asked.trans ?_)
    rw [same]
    rfl
  | _ => cases passed

theorem requestsOf_perform_of_own {api : Api} (own : passedWords api = none)
    (x : CallerRegisters) :
    requestsOf ((Call.ofRegisters api x).perform world env m).events =
      ownRequests env m first world x api := by
  cases api with
  | forwarded api =>
    -- no forwarded API has requests of its own
    rw [passedWords_forwarded] at own
    cases own
  | abortSuspend =>
    exact (requestsOf_bind_pure _ _ m).trans (requestsOf_abortSuspend listed m world _)
  | loadImage =>
    -- the halves of the address change places
    have three : [argumentOf x 0, argumentOf x 2, argumentOf x 1].length ≤ frameArguments := by
      simp [frameArguments]
    exact (requestsOf_bind_pure _ _ m).trans (requestsOf_ask listed m world 0 .loadImage three)
  | systemShutdown =>
    exact (requestsOf_bind_pure _ _ m).trans (requestsOf_systemShutdown listed m world _ _)
  | selfSuspend =>
    -- the last word is widened to an address, whose high half is zero
    refine (requestsOf_bind_pure _ _ m).trans ?_
    rw [requestsOf_selfSuspend, Word.low_toUInt64, Word.high_toUInt64]
    rfl
  | featureCheck =>
    exact (requestsOf_bind_pure _ _ m).trans (requestsOf_featureCheck listed m world _)
  | ioctl =>
    -- the device, which is the first argument, is not looked at
    exact (requestsOf_bind_pure _ _ m).trans (requestsOf_ioctl listed m world _ _ _)
  | queryData =>
    exact (requestsOf_bind_pure _ _ m).trans (requestsOf_queryData listed m world _ _ _ _)
  | getCallbackData =>
    exact (requestsOf_bind_pure _ _ m).trans (requestsOf_readCallback listed m true)
  | getTrustzoneVersion => rfl
  | _ => cases own

end Service

/-! ## Secure monitor calls -/

open Service

/-- **What the controller is asked**: for a call that reaches a service that is up, either one frame
is written on the primary channel, with the first of the caller's argument words and zeros behind
its header, or the requests are those that the API has of its own. -/
theorem Session.Reachable.requestsOf_routeSmc {config : Config} {s : Session Scripted}
    (reachable : s.Reachable config) (up : s.machine.up = true) (world : World)
    {x : CallerRegisters} (accepted : Accepts (functionOf x)) {api : Api}
    (number : (functionOf x).number.toUInt32 = api.code) :
    ∃ first, config.platform.processors.head? = some first ∧
      (∀ k, passedWords api = some k →
        requestsOf (routeSmc world x (s.env config) s.machine).events =
          [.of first.channel api.code world ((argumentWords x).take k)]) ∧
      (passedWords api = none →
        requestsOf (routeSmc world x (s.env config) s.machine).events =
          ownRequests (s.env config) s.machine first world x api) := by
  -- the primary processor was there when setup brought the service up
  obtain ⟨first, primary⟩ := reachable.exists_primary up
  have listed : (s.env config).platform.processors.head? = some first := primary
  rw [routeSmc_of_accepts world accepted, events_handleSmc world _ up number]
  refine ⟨first, primary, ?passed, ?own⟩
  case passed =>
    intro k passed
    exact requestsOf_perform_of_passed listed s.machine world passed x
  case own =>
    intro own
    exact requestsOf_perform_of_own listed s.machine world own x

/-- A clock is enabled by a caller of the normal world: the clock is the only argument. -/
theorem requestsOf_clockEnable :
    requestsOf (routeSmc .nonSecure (callerRegisters 0xc2000024 0x900000007 0)
        ((Session.setUp []).env Config.oneCore) (Session.setUp []).machine).events =
      [⟨⟨0, 1⟩, [0x01000224, 7, 0, 0, 0, 0]⟩] := by
  have accepted : Accepts (functionOf (callerRegisters 0xc2000024 0x900000007 0)) := by decide
  have number : (functionOf (callerRegisters 0xc2000024 0x900000007 0)).number.toUInt32 =
      (Api.forwarded .clockEnable).code := rfl
  obtain ⟨first, primary, passed, -⟩ := (Session.reachable_setUp []).requestsOf_routeSmc
    (Session.up_setUp []) .nonSecure accepted number
  cases primary
  exact passed 1 rfl

end PowerBridge
