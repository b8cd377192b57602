import PowerBridge.Proofs.Machine.Sequences
import PowerBridge.Proofs.Smc.Values
import PowerBridge.Proofs.Word.Masks

/-!
# How a call finds its way

A call reaches the service if its identifier is valid and the service owns it, the hint about vector
registers being disregarded. The fields of the identifier that decide this make up one mask. The
service performs the call if it is up and knows the API.

In every other case the call is refused at once, and nothing happens. The caller learns this from
one register with all bits set, and learns it from nothing else: no controller, whatever it answers,
can make the service give that value.

Main statements: `accepts_iff` (a function is accepted exactly if the bits under the mask are those
of a fast call to silicon partners with a number in the service's range), `routeSmc_of_accepts` and
`handleSmc_of_api` (what becomes of a call), `routeSmc_notSupported_iff`.
-/

namespace PowerBridge

open Eemi (Api)
open Link (Transport)
open Smc (CallerRegisters FunctionId functionOf)
open Word (toNat_and_field and_or_eq_iff)

/-! ## The fields of an identifier -/

namespace Smc.FunctionId

theorem toUInt32_number (f : FunctionId) : f.number.toUInt32 = f.word &&& 0xffff := by
  have field := toNat_and_field f.word 0xffff 0 16 rfl
  apply UInt32.toNat_inj.1
  -- the number is cut off twice, which is a remainder of a remainder
  change f.word.toUInt16.toUInt32.toNat = _
  rw [field, UInt16.toNat_toUInt32, UInt32.toNat_toUInt16]
  omega

theorem owner_eq_siliconPartner_iff (f : FunctionId) :
    f.owner = siliconPartner ↔ f.word &&& 0x3f000000 = 0x02000000 := by
  have field := toNat_and_field f.word 0x3f000000 24 6 rfl
  have shifted : ((f.word &&& 0x3f000000) >>> 24).toUInt8.toNat =
      f.word.toNat / 2 ^ 24 % 2 ^ 6 := by
    rw [UInt32.toNat_toUInt8, UInt32.toNat_shiftRight, field,
      show (24 : UInt32).toNat % 32 = 24 from rfl, Nat.shiftRight_eq_div_pow]
    omega
  rw [← UInt8.toNat_inj, ← UInt32.toNat_inj, owner, shifted, field,
    show siliconPartner.toNat = 2 from rfl, show (0x02000000 : UInt32).toNat = 2 ^ 25 from rfl]
  omega

theorem number_lt_iff (f : FunctionId) : f.number < 0x1000 ↔ f.word &&& 0xf000 = 0 := by
  have field := toNat_and_field f.word 0xf000 12 4 rfl
  rw [UInt16.lt_iff_toNat_lt, ← UInt32.toNat_inj, field, number, UInt32.toNat_toUInt16,
    show (0x1000 : UInt16).toNat = 2 ^ 12 from rfl, show (0 : UInt32).toNat = 0 from rfl]
  omega

theorem kind_ne_yielding_iff (f : FunctionId) :
    f.kind ≠ .yielding ↔ f.word &&& 0x80000000 = 0x80000000 := by
  have field := toNat_and_field f.word 0x80000000 31 1 rfl
  -- a call is a yielding one exactly if its top bit is clear
  have fast : f.kind ≠ .yielding ↔ f.word &&& 0x80000000 ≠ 0 := by
    unfold kind
    split
    · simp_all
    · split <;> simp_all
  rw [fast, Ne, ← UInt32.toNat_inj, ← UInt32.toNat_inj, field, show (0 : UInt32).toNat = 0 from rfl,
    show (0x80000000 : UInt32).toNat = 2 ^ 31 from rfl]
  omega

/-- A mask that leaves the hint out does not see whether the hint is cleared. -/
theorem clearHint_and (f : FunctionId) (mask : UInt32)
    (without : ~~~0x00010000 &&& mask = mask) :
    f.clearHint.word &&& mask = f.word &&& mask := by
  rw [clearHint, UInt32.and_assoc, without]

/-- The mask is the union of the four fields. -/
theorem fields_iff (word : UInt32) :
    word &&& 0xbffef000 = 0x82000000 ↔
      word &&& 0x80000000 = 0x80000000 ∧ word &&& 0x3f000000 = 0x02000000 ∧
        word &&& 0x00fe0000 = 0 ∧ word &&& 0xf000 = 0 := by
  have low := and_or_eq_iff word 0x00fe0000 0xf000 0 0 rfl rfl rfl
  have owned := and_or_eq_iff word 0x3f000000 0x00fef000 0x02000000 0 rfl rfl rfl
  have whole := and_or_eq_iff word 0x80000000 0x3ffef000 0x80000000 0x02000000 rfl rfl rfl
  -- the four fields are split off one at a time
  exact whole.trans (and_congr_right' (owned.trans (and_congr_right' low)))

end Smc.FunctionId

namespace Service

/-! ## The functions that are routed to the service -/

/-- Whether the router hands calls of a function to the service. -/
def Accepts (f : FunctionId) : Prop :=
  f.clearHint.isValid = true ∧ owns f.clearHint = true

instance (f : FunctionId) : Decidable (Accepts f) :=
  inferInstanceAs (Decidable (_ ∧ _))

theorem accepts_iff (f : FunctionId) : Accepts f ↔ f.word &&& 0xbffef000 = 0x82000000 := by
  have fast := f.clearHint.kind_ne_yielding_iff
  have owned := f.clearHint.owner_eq_siliconPartner_iff
  have inRange : f.clearHint.number < functionLimit ↔ _ := f.clearHint.number_lt_iff
  -- none of the four masks sees the hint
  have reserved := f.clearHint_and 0x00fe0000 rfl
  rw [f.clearHint_and _ rfl] at fast owned inRange
  rw [FunctionId.fields_iff, ← fast, ← owned, ← inRange]
  simp only [Accepts, FunctionId.isValid, owns, Bool.or_eq_true, Bool.and_eq_true, beq_iff_eq,
    bne_iff_ne, decide_eq_true_eq, reserved]
  constructor
  · rintro ⟨yielding | reserved, ⟨owner, number⟩, fast⟩
    · -- a yielding call is valid whatever its reserved bits are, but it is not owned
      exact absurd yielding fast
    · exact ⟨fast, owner, reserved, number⟩
  · rintro ⟨fast, owner, reserved, number⟩
    exact ⟨.inr reserved, ⟨owner, number⟩, fast⟩

variable {T : Type} [Transport T]

/-- The registers of a caller that gives a function and two registers of arguments. -/
def callerRegisters (function x1 x2 : UInt64) : CallerRegisters :=
  #v[function, x1, x2, 0, 0, 0, 0, 0, 0, 0, 0, 0, 0, 0, 0, 0, 0, 0]

/-! ## The router -/

theorem routeSmc_of_accepts (world : World) {x : CallerRegisters}
    (accepted : Accepts (functionOf x)) :
    (routeSmc world x : Act T Smc.Return) = handleSmc world x := by
  have owned : (power (T := T)).owns (functionOf x).clearHint = true := accepted.2
  simp only [routeSmc, if_pos accepted.1, if_pos owned]
  rfl

/-- A call that is not accepted is refused, and leaves no trace but a log record. -/
theorem routeSmc_of_not_accepts (world : World) {x : CallerRegisters}
    (unaccepted : ¬ Accepts (functionOf x)) (env : Env) (m : Machine T) :
    ∃ logs, routeSmc world x env m = ⟨.ok .notSupported, m, [], logs⟩ := by
  by_cases valid : (functionOf x).clearHint.isValid = true
  · have unowned : ¬ (power (T := T)).owns (functionOf x).clearHint = true :=
      fun owned => unaccepted ⟨valid, owned⟩
    simp only [routeSmc, if_pos valid, if_neg unowned]
    exact ⟨_, rfl⟩
  · simp only [routeSmc, if_neg valid]
    exact ⟨_, rfl⟩

/-! ## The dispatch -/

theorem handleSmc_of_down (world : World) (x : CallerRegisters) (env : Env) {m : Machine T}
    (down : m.up = false) : handleSmc world x env m = ⟨.ok .notSupported, m, [], []⟩ := by
  rw [handleSmc, Act.machine_bind, down]
  rfl

theorem handleSmc_of_unknown (world : World) {x : CallerRegisters} (env : Env) (m : Machine T)
    (unknown : (Coded.ofCode? (functionOf x).number.toUInt32 : Option Api) = none) :
    ∃ logs, handleSmc world x env m = ⟨.ok .notSupported, m, [], logs⟩ := by
  cases up : m.up with
  | false => exact ⟨_, handleSmc_of_down world x env up⟩
  | true =>
    rw [handleSmc, Act.machine_bind, up]
    simp only [unknown, if_true]
    exact ⟨_, rfl⟩

/-- A service that is up performs the call that the registers name, and packs its result. -/
theorem handleSmc_of_api (world : World) {x : CallerRegisters} {api : Api} (env : Env)
    {m : Machine T} (up : m.up = true)
    (number : (functionOf x).number.toUInt32 = api.code) :
    handleSmc world x env m =
      ((Call.ofRegisters api x).perform world >>= fun result => Act.orFault result.toReturn)
        env m := by
  have known : (Coded.ofCode? (functionOf x).number.toUInt32 : Option Api) = some api :=
    Coded.ofCode?_eq_some_iff.2 number.symm
  rw [handleSmc, Act.machine_bind, up]
  simp only [known, if_true]

/-! ## What is seen of a call that is performed -/

theorem events_handleSmc (world : World) {x : CallerRegisters} {api : Api} (env : Env)
    {m : Machine T} (up : m.up = true)
    (number : (functionOf x).number.toUInt32 = api.code) :
    (handleSmc world x env m).events =
      ((Call.ofRegisters api x).perform world env m).events := by
  rw [handleSmc_of_api world env up number, Act.bind_apply]
  rcases (Call.ofRegisters api x).perform world env m with ⟨ending, m', events, logs⟩
  cases ending with
  | error why => rfl
  | ok result => simp only [Outcome.andThen_ok, Act.orFault_apply, List.append_nil]

/-- Packing the result of a call does not change the machine. -/
theorem machine_handleSmc (world : World) {x : CallerRegisters} {api : Api} (env : Env)
    {m : Machine T} (up : m.up = true)
    (number : (functionOf x).number.toUInt32 = api.code) :
    (handleSmc world x env m).machine =
      ((Call.ofRegisters api x).perform world env m).machine := by
  rw [handleSmc_of_api world env up number, Act.bind_apply]
  rcases (Call.ofRegisters api x).perform world env m with ⟨ending, m', events, logs⟩
  cases ending with
  | error why => rfl
  | ok result => simp only [Outcome.andThen_ok, Act.orFault_apply]

/-- If a call ends with a result, the packed result is the answer. -/
theorem ending_handleSmc (world : World) {x : CallerRegisters} {api : Api} (env : Env)
    {m : Machine T} (up : m.up = true)
    (number : (functionOf x).number.toUInt32 = api.code) {result : Result}
    (performed : ((Call.ofRegisters api x).perform world env m).ending = .ok result) :
    (handleSmc world x env m).ending = result.toReturn.mapError .fault := by
  rw [handleSmc_of_api world env up number, Act.bind_apply]
  rcases h : (Call.ofRegisters api x).perform world env m with ⟨ending, m', events, logs⟩
  rw [h] at performed
  cases performed
  simp only [Outcome.andThen_ok, Act.orFault_apply]

/-- An answer to a call of an API is the packed result of some call. -/
theorem exists_toReturn_of_handleSmc (world : World) {x : CallerRegisters} {api : Api} (env : Env)
    {m : Machine T} (up : m.up = true)
    (number : (functionOf x).number.toUInt32 = api.code) {r : Smc.Return}
    (answered : (handleSmc world x env m).ending = .ok r) :
    ∃ result : Result, result.toReturn = .ok r := by
  cases performed : ((Call.ofRegisters api x).perform world env m).ending with
  -- a call that halts is not answered
  | error why =>
    rw [handleSmc_of_api world env up number, Act.bind_apply, Outcome.andThen, performed]
      at answered
    cases answered
  | ok result =>
    rw [ending_handleSmc world env up number performed] at answered
    refine ⟨result, ?_⟩
    cases packed : result.toReturn with
    | error why =>
      rw [packed] at answered
      cases answered
    | ok r' =>
      rw [packed] at answered
      exact congrArg Except.ok (Except.ok.inj answered)

/-! ## Refused calls -/

/-- Whether a call is refused without anyone being asked. -/
def Refused (m : Machine T) (x : CallerRegisters) : Prop :=
  (functionOf x).word &&& 0xbffef000 ≠ 0x82000000 ∨ m.up = false ∨
    ∀ api : Api, api.code ≠ (functionOf x).word &&& 0xffff

/-- A refused call is answered at once and has no effect. -/
theorem routeSmc_of_refused (world : World) {x : CallerRegisters} (env : Env) {m : Machine T}
    (refused : Refused m x) :
    ∃ logs, routeSmc world x env m = ⟨.ok .notSupported, m, [], logs⟩ := by
  -- the router refuses what is not accepted, the service refuses the rest
  by_cases accepted : Accepts (functionOf x)
  · rw [routeSmc_of_accepts world accepted]
    rcases refused with unaccepted | down | unknown
    · exact absurd ((accepts_iff _).1 accepted) unaccepted
    · exact ⟨_, handleSmc_of_down world x env down⟩
    · apply handleSmc_of_unknown
      rw [Coded.ofCode?_eq_none_iff, Smc.FunctionId.toUInt32_number]
      exact unknown
  · exact routeSmc_of_not_accepts world accepted env m

omit [Transport T] in
/-- A call that is not refused is accepted, by a service that is up, for some API. -/
theorem exists_api_of_not_refused {x : CallerRegisters} {m : Machine T} (h : ¬ Refused m x) :
    Accepts (functionOf x) ∧ m.up = true ∧
      ∃ api : Api, (functionOf x).number.toUInt32 = api.code := by
  simp only [Refused, not_or, Classical.not_not, Classical.not_forall, Bool.not_eq_false] at h
  obtain ⟨mask, up, api, number⟩ := h
  refine ⟨(accepts_iff _).2 mask, up, api, ?_⟩
  rw [Smc.FunctionId.toUInt32_number]
  exact number.symm

/-- **Refusals are unambiguous and have no effect**: the answer is one register with all bits set
exactly if the call is refused; a refused call is not seen outside and changes nothing; and any
other call goes to the service of the caller's world as it is. -/
theorem routeSmc_notSupported_iff (world : World) (x : CallerRegisters) (env : Env)
    (m : Machine T) :
    ((∃ r, (routeSmc world x env m).ending = .ok r ∧ r.values = [0xffffffffffffffff]) ↔
        Refused m x) ∧
      (Refused m x → (routeSmc world x env m).events = [] ∧ (routeSmc world x env m).machine = m) ∧
      (¬ Refused m x → routeSmc world x env m = handleSmc world x env m) := by
  refine ⟨⟨?only, ?always⟩, ?quiet, ?direct⟩
  case only =>
    rintro ⟨r, answered, ones⟩
    refine Classical.byContradiction fun served => ?_
    obtain ⟨accepted, up, api, number⟩ := exists_api_of_not_refused served
    rw [routeSmc_of_accepts world accepted] at answered
    -- what is not refused is answered by a packed result, which has no such register
    obtain ⟨result, packed⟩ := exists_toReturn_of_handleSmc world env up number answered
    exact values_toReturn_ne packed ones
  case always =>
    intro refused
    obtain ⟨logs, h⟩ := routeSmc_of_refused world env refused
    exact ⟨.notSupported, by rw [h], Smc.Return.values_notSupported⟩
  case quiet =>
    intro refused
    obtain ⟨logs, h⟩ := routeSmc_of_refused world env refused
    rw [h]
    exact ⟨rfl, rfl⟩
  case direct =>
    intro served
    rw [routeSmc_of_accepts world (exists_api_of_not_refused served).1]

end Service

end PowerBridge
