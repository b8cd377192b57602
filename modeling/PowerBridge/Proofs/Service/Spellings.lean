import PowerBridge.Proofs.Eemi.Codec
import PowerBridge.Proofs.Service.DataQuery
import PowerBridge.Proofs.Session.Reachable

/-!
# Two spellings of an API

The number of an API of the base module may name the module, or have a zero in its place. In the
header of a request both come to the same. A check of a feature tells the controller the number as
it is, and both spellings are answered by one exchange of the same form.

This service's own version of an API is found by the whole number, though. So one API is answered
differently: data queries have their own version only if the module is not spelled out.

Main statements: `localVersion_spelledOut` and `localVersion_of_short` (the versions of both
spellings), `featureCheck_spellings` (what becomes of the check).
-/

namespace PowerBridge

open Link (Channel Scripted)

namespace Eemi

/-! ## Numbers -/

/-- The number of an API with the base module spelled out. -/
def spelledOut (number : UInt32) : UInt32 := number ||| 0x200

theorem toNat_byte_one_and (number : UInt32) :
    ((number >>> 8) &&& 0xff).toNat = number.toNat / 2 ^ 8 % 2 ^ 8 := by
  rw [Word.toNat_and_field (number >>> 8) 0xff 0 8 rfl, UInt32.toNat_shiftRight,
    show (8 : UInt32).toNat % 32 = 8 from rfl, Nat.shiftRight_eq_div_pow]
  simp only [Nat.pow_zero, Nat.div_one, Nat.mul_one]

section

variable {number : UInt32} (short : (number >>> 8) &&& 0xff = 0)
include short

theorem byte_one_of_short : number.toNat / 2 ^ 8 % 2 ^ 8 = 0 := by
  rw [← toNat_byte_one_and, short]
  rfl

/-- Where there is no module, to spell the base module out is to add its number. -/
theorem toNat_spelledOut : (spelledOut number).toNat = number.toNat + 2 * 2 ^ 8 := by
  have byte := byte_one_of_short short
  have free : number &&& 0x200 = 0 := by
    rw [Word.and_eq_zero_iff_field number 0x200 9 1 rfl]
    omega
  have sum : number ||| 0x200 = number + 0x200 := by
    apply UInt32.toBitVec_inj.1
    exact (BitVec.add_eq_or_of_and_eq_zero _ _ (UInt32.toBitVec_inj.2 free)).symm
  have below := number.toNat_lt
  rw [spelledOut, sum, UInt32.toNat_add]
  exact Nat.mod_eq_of_lt (by simp; omega)

/-- **Both spellings name the same API** in the header of a request. -/
theorem make_spelledOut (world : World) :
    Header.make (spelledOut number).toUInt8 (moduleOf (spelledOut number)) world =
      Header.make number.toUInt8 (moduleOf number) world := by
  have byte := byte_one_of_short short
  have sum := toNat_spelledOut short
  have sameApi : (spelledOut number).toUInt8 = number.toUInt8 := by
    apply UInt8.toNat_inj.1
    rw [UInt32.toNat_toUInt8, UInt32.toNat_toUInt8]
    omega
  have noModule : moduleOf number = 0 := by
    apply UInt8.toNat_inj.1
    rw [Header.moduleOf_eq, Header.toNat_byte_one]
    exact byte
  have baseModule : moduleOf (spelledOut number) = baseModule := by
    apply UInt8.toNat_inj.1
    rw [Header.moduleOf_eq, Header.toNat_byte_one]
    change _ = 2
    omega
  rw [sameApi, noModule, baseModule]
  rfl

end

/-! ## Versions -/

/-- Three numbers have a later version than all others. -/
theorem localVersion_eq (number : UInt32) :
    localVersion number =
      if number = 35 ∨ number = 0xa01 ∨ number = 0xa03 then 0x20000 else 0x10000 := by
  by_cases later : number = 35 ∨ number = 0xa01 ∨ number = 0xa03
  · rw [if_pos later]
    rcases later with rfl | rfl | rfl <;> rfl
  · rw [if_neg later, localVersion]
    have other (api : Api) (known : Coded.ofCode? number = some api) : api.code = number :=
      Coded.code_of_ofCode? known
    split
    case h_1 known => exact absurd (.inr (.inl (other _ known).symm)) later
    case h_2 known => exact absurd (.inr (.inr (other _ known).symm)) later
    case h_3 known => exact absurd (.inl (other _ known).symm) later
    case h_4 => rfl

section

variable {number : UInt32} (short : (number >>> 8) &&& 0xff = 0)
include short

theorem localVersion_spelledOut : localVersion (spelledOut number) = 0x10000 := by
  have byte := byte_one_of_short short
  have sum := toNat_spelledOut short
  -- byte 1 of the numbers with a later version is zero or ten
  have other (later : UInt32) (differs : later.toNat / 2 ^ 8 % 2 ^ 8 ≠ 2) :
      spelledOut number ≠ later := by
    rintro rfl
    omega
  have base : ¬ (spelledOut number = 35 ∨ spelledOut number = 0xa01 ∨
      spelledOut number = 0xa03) := by
    simp only [not_or]
    exact ⟨other 35 (by decide), other 0xa01 (by decide), other 0xa03 (by decide)⟩
  rw [localVersion_eq, if_neg base]

theorem localVersion_of_short :
    localVersion number = if number = 35 then 0x20000 else 0x10000 := by
  have byte := byte_one_of_short short
  have other : ¬ (number = 0xa01 ∨ number = 0xa03) := by
    rintro (rfl | rfl) <;> exact absurd byte (by decide)
  rw [localVersion_eq]
  simp only [or_iff_left other]

end

end Eemi

/-! ## Checks of a feature -/

/-- An event, with another first argument in the frame that it may write. -/
def Event.withFirstArgument (arg : UInt32) : Event → Event
  | .link channel (.requestWritten words) => .link channel (.requestWritten (words.set 1 arg))
  | event => event

theorem Exchange.map_withFirstArgument (arg : UInt32) (channel : Channel)
    (words : Vector UInt32 Eemi.frameWords) (answers : List Bool) (read : Option Nat) :
    (transcript channel words answers read).map (Event.withFirstArgument arg) =
      transcript channel (words.set 1 arg) answers read := by
  simp only [transcript, List.map_append, List.map_map, List.map_cons, List.map_nil]
  rfl

namespace Service

open Eemi

theorem words_checkFrame_set (number other : UInt32) (world : World) :
    (checkFrame number world).words.set 1 other = (checkFrame other world).words := by
  rw [words_checkFrame, words_checkFrame]
  rfl

variable {number : UInt32} (short : (number >>> 8) &&& 0xff = 0)
include short

theorem base_of_short : resolveModule (moduleOf number) = baseModule :=
  (Header.resolveModule_eq_base_iff number).2 (.inl short)

theorem base_spelledOut : resolveModule (moduleOf (spelledOut number)) = baseModule := by
  have same := congrArg Header.moduleId (make_spelledOut short .secure)
  exact same.trans (base_of_short short)

/-- The answers to both checks, from the status and the word of the controller: the same, unless the
number is that of data queries and the word does not have the bits in which the versions differ. -/
theorem versions_eq_iff (status : Except Failure Unit) (word : UInt32) :
    (status.map fun () => #v[localVersion (spelledOut number) ||| word]) =
        (status.map fun () => #v[localVersion number ||| word]) ↔
      (number = 35 → status = .ok () →
        word &&& 0x10000 = 0x10000 ∧ word &&& 0x20000 = 0x20000) := by
  have apart : (0x10000 : UInt32) &&& 0x20000 = 0 := by decide
  rw [localVersion_spelledOut short, localVersion_of_short short, ← Word.or_eq_or_iff apart word]
  by_cases query : number = 35
  · cases status with
    | error failure => simp [Except.map]
    | ok _ => simp [Except.map, query]
  · simp [query]

omit short in
/-- Without a primary processor there is no check. -/
theorem featureCheck_of_no_processors {env : Env} (none : env.platform.processors = [])
    (base : resolveModule (moduleOf number) = baseModule) (m : Machine Scripted) (world : World) :
    featureCheck number world env m = ⟨.error (.fault .noProcessor), m, [], []⟩ := by
  have one : [number].length ≤ frameArguments := Nat.le_add_left 1 4
  rw [featureCheck_of_base world base,
    Act.bind_of_error (ask_of_no_processors none m 1 .featureCheck world one)]

section

variable {env : Env} {first : Processor}
  (listed : env.platform.processors.head? = some first) (m : Machine Scripted) (world : World)
include listed

/-- What is left by both checks is the same, and what is seen of them but for the argument. -/
theorem featureCheck_seen :
    (featureCheck (spelledOut number) world env m).machine =
        (featureCheck number world env m).machine ∧
      (featureCheck (spelledOut number) world env m).events =
        (featureCheck number world env m).events.map
          (Event.withFirstArgument (spelledOut number)) := by
  rw [featureCheck_apply listed m world (base_spelledOut short),
    featureCheck_apply listed m world (base_of_short short)]
  by_cases inTime : env.platform.wait.Allows m.transport.busyPolls
  · simp only [if_pos inTime, Exchange.map_withFirstArgument, words_checkFrame_set, and_self]
  · simp only [if_neg inTime, Exchange.map_withFirstArgument, words_checkFrame_set, and_self]

theorem featureCheck_ending_eq_iff :
    (featureCheck (spelledOut number) world env m).ending =
        (featureCheck number world env m).ending ↔
      (number = 35 → ∀ version, (featureCheck number world env m).ending = .ok (.ok version) →
        (Exchange.nextResponse m).words.getD 0 0 &&& 0x10000 = 0x10000 ∧
          (Exchange.nextResponse m).words.getD 0 0 &&& 0x20000 = 0x20000) := by
  rw [featureCheck_apply listed m world (base_spelledOut short),
    featureCheck_apply listed m world (base_of_short short)]
  by_cases inTime : env.platform.wait.Allows m.transport.busyPolls
  · simp only [if_pos inTime, Except.ok.injEq, versions_eq_iff short]
    cases Failure.check (Exchange.nextResponse m).status with
    | error failure => simp only [Except.map, reduceCtorEq, false_implies, implies_true]
    | ok _ => simp only [Except.map, Except.ok.injEq, forall_eq', forall_const]
  · simp only [if_neg inTime, Except.ok.injEq, reduceCtorEq, false_implies, implies_true]

omit short in
/-- The version that is given if the controller answers in time and without a failure. -/
theorem featureCheck_of_answered (base : resolveModule (moduleOf number) = baseModule)
    (inTime : env.platform.wait.Allows m.transport.busyPolls)
    (success : (Exchange.nextResponse m).status = 0) :
    (featureCheck number world env m).ending =
      .ok (.ok #v[localVersion number ||| (Exchange.nextResponse m).words.getD 0 0]) := by
  rw [featureCheck_apply listed m world base, if_pos inTime, success]
  rfl

end

/-- **A check of a feature is made in the same way for both spellings, and answered alike, unless it
is data queries that are checked.** The number names the same API in a header, the machine is left
the same, and the events differ in the first argument of the frame only. For data queries the
answers are the same only if there is none, or if the controller's word has the bits in which this
service's versions differ. -/
theorem featureCheck_spellings (world : World) (env : Env) (m : Machine Scripted) :
    let full := featureCheck (spelledOut number) world env m
    let brief := featureCheck number world env m
    let word := (Exchange.nextResponse m).words.getD 0 0
    Header.make (spelledOut number).toUInt8 (moduleOf (spelledOut number)) world =
        Header.make number.toUInt8 (moduleOf number) world ∧
      full.machine = brief.machine ∧
      full.events = brief.events.map (Event.withFirstArgument (spelledOut number)) ∧
      (full.ending = brief.ending ↔
        (number = 35 → ∀ version, brief.ending = .ok (.ok version) →
          word &&& 0x10000 = 0x10000 ∧ word &&& 0x20000 = 0x20000)) := by
  intro full brief word
  refine ⟨make_spelledOut short world, ?_⟩
  cases listed : env.platform.processors.head? with
  | none =>
    have noProcessors := List.head?_eq_none_iff.1 listed
    have fullNone := featureCheck_of_no_processors noProcessors (base_spelledOut short) m world
    have briefNone := featureCheck_of_no_processors noProcessors (base_of_short short) m world
    simp [full, brief, fullNone, briefNone]
  | some first =>
    obtain ⟨machine, events⟩ := featureCheck_seen short listed m world
    exact ⟨machine, events, featureCheck_ending_eq_iff short listed m world⟩

end Service

/-- The call that enables a clock has the same version in both spellings. -/
theorem featureCheck_clockEnable :
    let s := Session.setUp [⟨0, [7]⟩]
    let check (number : UInt32) :=
      Service.featureCheck number .nonSecure (s.env Config.oneCore) s.machine
    ((36 : UInt32) >>> 8) &&& 0xff = 0 ∧
      (check (Eemi.spelledOut 36)).ending = (check 36).ending ∧
      (check 36).ending = .ok (.ok #v[0x00010007]) := by
  intro s check
  have short : ((36 : UInt32) >>> 8) &&& 0xff = 0 := by decide
  have brief : (check 36).ending = .ok (.ok #v[Eemi.localVersion 36 ||| 7]) :=
    Service.featureCheck_of_answered rfl s.machine .nonSecure (Service.base_of_short short) trivial
      rfl
  obtain ⟨-, -, -, answered⟩ :=
    Service.featureCheck_spellings short .nonSecure (s.env Config.oneCore) s.machine
  exact ⟨short, answered.2 fun query => absurd query (by decide), brief⟩

/-- Data queries have version 2 of this service in the one spelling and version 1 in the other. -/
theorem featureCheck_queryData :
    let s := Session.setUp [⟨0, [2]⟩]
    let check (number : UInt32) :=
      Service.featureCheck number .nonSecure (s.env Config.oneCore) s.machine
    Eemi.spelledOut 35 = 0x223 ∧ (check 35).ending = .ok (.ok #v[0x00020002]) ∧
      (check (Eemi.spelledOut 35)).ending = .ok (.ok #v[0x00010002]) := by
  intro s check
  have short : ((35 : UInt32) >>> 8) &&& 0xff = 0 := by decide
  have brief : (check 35).ending = .ok (.ok #v[Eemi.localVersion 35 ||| 2]) :=
    Service.featureCheck_of_answered rfl s.machine .nonSecure (Service.base_of_short short) trivial
      rfl
  have full : (check (Eemi.spelledOut 35)).ending =
      .ok (.ok #v[Eemi.localVersion (Eemi.spelledOut 35) ||| 2]) :=
    Service.featureCheck_of_answered rfl s.machine .nonSecure (Service.base_spelledOut short)
      trivial rfl
  rw [Eemi.localVersion_spelledOut short] at full
  exact ⟨rfl, brief, full⟩

end PowerBridge
