import Mathlib.Algebra.Group.Int.Defs
import Mathlib.Data.List.GetD
import PowerBridge.Proofs.Smc.Values

/-!
# Answers are given by their values

An answer is kept as eighteen slots and the number of those that are used. Equality compares all of
them, so that it could tell answers apart whose values are the same. But every answer that can be
made holds zero in the slots that it does not use, whether its last values are zero or not; and of
such answers no two have the same values.

Main statements: `Made.padded` (unused slots hold zero), `Padded.eq_iff_values` (equal values, equal
answers), `representation_exact`.
-/

namespace PowerBridge.Smc.Return

/-! ## Unused slots -/

/-- There are as many slots as are used, and those behind them hold zero. -/
structure Padded (r : Return) : Prop where
  used_le : r.used ≤ returnSlots
  zero : ∀ (i : Nat) (inside : i < returnSlots), r.used ≤ i → r.slots[i] = 0

theorem padded_ofList (values : List UInt64) (fits : values.length ≤ returnSlots) :
    (ofList values fits).Padded where
  used_le := fits
  zero i inside unused := by
    change (Vector.ofFn fun i => values.getD i.val 0)[i] = 0
    rw [Vector.getElem_ofFn]
    exact List.getD_eq_default values 0 unused

/-- The answers that can be made. -/
inductive Made : Return → Prop where
  | empty : Made empty
  | default : Made default
  | ofValues {values : List UInt64} {r : Return} (h : ofValues values = .ok r) : Made r
  | ofUInt64 (value : UInt64) : Made (ofUInt64 value)
  | ofUInt32 (value : UInt32) : Made (ofUInt32 value)
  | ofInt32 (value : Int32) : Made (ofInt32 value)
  | ofPair (first second : UInt64) : Made (ofPair first second)
  | ofTriple (first second third : UInt64) : Made (ofTriple first second third)
  | ofQuadruple (first second third fourth : UInt64) : Made (ofQuadruple first second third fourth)

theorem empty_eq_ofList : empty = ofList [] (Nat.zero_le returnSlots) := rfl

theorem ofValues_of_many {values : List UInt64} (many : returnSlots < values.length) :
    ofValues values = .error .tooManyReturnValues :=
  dif_neg (Nat.not_le.2 many)

theorem Made.padded {r : Return} (made : r.Made) : r.Padded := by
  cases made with
  | empty | default => exact padded_ofList [] (Nat.zero_le returnSlots)
  | @ofValues values _ h =>
    by_cases fits : values.length ≤ returnSlots
    · rw [ofValues_of_fits fits] at h
      cases h
      exact padded_ofList values fits
    · rw [ofValues_of_many (Nat.not_le.1 fits)] at h
      cases h
  | ofUInt64 | ofUInt32 | ofInt32 => exact padded_ofList [_] (Nat.le_add_left 1 17)
  | ofPair | ofTriple | ofQuadruple => exact padded_ofList _ _

/-! ## Equality -/

/-- Equality is that of the numbers of used slots and of all slots. -/
theorem eq_iff_slots (r r' : Return) :
    r = r' ↔ r.used = r'.used ∧
      ∀ (i : Nat) (inside : i < returnSlots), r.slots[i] = r'.slots[i] := by
  obtain ⟨used, slots⟩ := r
  obtain ⟨used', slots'⟩ := r'
  rw [mk.injEq, Vector.ext_iff]

namespace Padded

variable {r r' : Return}

theorem length_values (padded : r.Padded) : r.values.length = r.used := by
  rw [values, List.length_take, Vector.length_toList]
  exact Nat.min_eq_left padded.used_le

/-- A slot holds its value, or zero if there is none. -/
theorem getElem_slots (padded : r.Padded) (i : Nat) (inside : i < returnSlots) :
    r.slots[i] = r.values.getD i 0 := by
  by_cases inUse : i < r.used
  · have there : i < r.values.length := padded.length_values.symm ▸ inUse
    rw [List.getD_eq_getElem _ _ there]
    simp only [values, List.getElem_take, Vector.getElem_toList]
  · have unused := Nat.not_lt.1 inUse
    have behind : r.values.length ≤ i := padded.length_values.symm ▸ unused
    rw [padded.zero i inside unused, List.getD_eq_default _ _ behind]

/-- Answers with unused slots at zero are equal if their values are. -/
theorem eq_iff_values (padded : r.Padded) (padded' : r'.Padded) :
    r = r' ↔ r.values = r'.values := by
  constructor
  · exact congrArg values
  · intro same
    refine (eq_iff_slots r r').2 ⟨?_, fun i inside => ?_⟩
    · rw [← padded.length_values, ← padded'.length_values, same]
    · rw [padded.getElem_slots i inside, padded'.getElem_slots i inside, same]

end Padded

/-- The answer without values is the only one that uses no slot. -/
theorem Made.eq_empty_iff {r : Return} (made : r.Made) : r = .empty ↔ r.isEmpty = true := by
  rw [made.padded.eq_iff_values Made.empty.padded, empty_eq_ofList, values_ofList,
    ← List.length_eq_zero_iff, made.padded.length_values]
  exact beq_iff_eq.symm

/-! ## Signed values -/

/-- The sign of a value is carried into the high half of its register. -/
theorem values_ofInt32 (value : Int32) :
    ∃ register : UInt64, (ofInt32 value).values = [register] ∧
      (register.toNat : Int) = value.toInt % 2 ^ 64 := by
  refine ⟨value.toInt64.toUInt64, values_ofUInt64 _, ?_⟩
  have signed : value.toInt = (value.toInt64.toUInt64.toNat : Int).bmod (2 ^ 64) := by
    rw [← Int32.toInt_toInt64]
    exact BitVec.toInt_eq_toNat_bmod _
  have below : (value.toInt64.toUInt64.toNat : Int) < 2 ^ 64 := by
    exact_mod_cast value.toInt64.toUInt64.toNat_lt
  change _ = value.toInt % ((2 ^ 64 : Nat) : Int)
  rw [signed, Int.bmod_emod]
  exact (Int.emod_eq_of_lt (Int.natCast_nonneg _) below).symm

/-! ## All together -/

/-- **Answers are represented by their values.** Eighteen values at most are kept and given back,
and more are refused. Equality compares the number of used slots and all slots. An answer that can
be made holds zero in each slot that it does not use; so two of them are equal exactly if their
values are, and one is equal to the answer without values exactly if it has none. The only value of
an answer made of a signed word is that word modulo 2^64. -/
theorem representation_exact :
    (∀ values : List UInt64, values.length ≤ 18 →
      ∃ r, ofValues values = .ok r ∧ r.values = values) ∧
    (∀ values : List UInt64, 18 < values.length →
      ofValues values = .error .tooManyReturnValues) ∧
    (∀ r r' : Return, (r == r') = true ↔
      r.used = r'.used ∧ ∀ (i : Nat) (inside : i < 18), r.slots[i] = r'.slots[i]) ∧
    (∀ r : Return, r.Made →
      r.used ≤ 18 ∧ ∀ (i : Nat) (inside : i < 18), r.used ≤ i → r.slots[i] = 0) ∧
    (∀ r r' : Return, r.Made → r'.Made → ((r == r') = true ↔ r.values = r'.values)) ∧
    (∀ r : Return, r.Made → ((r == empty) = true ↔ r.isEmpty = true)) ∧
    ∀ value : Int32, ∃ register : UInt64, (ofInt32 value).values = [register] ∧
      (register.toNat : Int) = value.toInt % 2 ^ 64 := by
  refine ⟨?kept, fun _ many => ofValues_of_many many, ?equality, ?padded, ?sameValues, ?noValues,
    values_ofInt32⟩
  case kept =>
    intro values fits
    exact ⟨ofList values fits, ofValues_of_fits fits, values_ofList values fits⟩
  case equality =>
    intro r r'
    rw [beq_iff_eq]
    exact eq_iff_slots r r'
  case padded =>
    intro r made
    exact ⟨made.padded.used_le, made.padded.zero⟩
  case sameValues =>
    intro r r' made made'
    rw [beq_iff_eq]
    exact made.padded.eq_iff_values made'.padded
  case noValues =>
    intro r made
    rw [beq_iff_eq]
    exact made.eq_empty_iff

/-- A pair that ends with a zero is another answer than its first value alone, although their slots
are the same. The word -1 gives a register with all bits set. -/
theorem representation_exact_trailingZero :
    (∃ r, ofValues [7, 0] = .ok r ∧ r.values = [7, 0]) ∧
      ofValues (List.replicate 19 0) = .error .tooManyReturnValues ∧
      ¬ (ofPair 7 0 == ofUInt64 7) = true ∧
      (ofPair 7 0).slots[17] = 0 ∧
      ∃ register : UInt64, (ofInt32 (-1)).values = [register] ∧
        (register.toNat : Int) = 18446744073709551615 := by
  obtain ⟨kept, many, -, padded, sameValues, -, signed⟩ := representation_exact
  have pair := Made.ofPair 7 0
  refine ⟨kept [7, 0] (by decide), many _ (by decide), ?_, ?_, signed (-1)⟩
  · intro same
    have values := (sameValues _ _ pair (.ofUInt64 7)).1 same
    rw [values_ofPair, values_ofUInt64] at values
    exact absurd values (by decide)
  · exact (padded _ pair).2 17 (by decide) (by decide)

end PowerBridge.Smc.Return
