import PowerBridge.Service.Call

/-!
# The registers of an answer

What stands in the registers when a call is answered: the packed words of a status and its outputs.
The first register tells an answer of the service from a refusal, since its low half is zero on
success and its high half is zero on failure.

Main statements: `values_ofWords` (the registers of packed words), `values_toReturn_ne` (no result
of a call is answered by one register with all bits set).
-/

namespace PowerBridge

namespace Smc.Return

theorem values_ofList (values : List UInt64) (fits : values.length ≤ returnSlots) :
    (ofList values fits).values = values := by
  apply List.ext_getElem
  · simp only [Return.values, ofList, List.length_take, Vector.length_toList]
    omega
  · intro i _ inside
    simp only [Return.values, ofList, List.getElem_take, Vector.getElem_toList, Vector.getElem_ofFn]
    rw [List.getD_eq_getElem?_getD, List.getElem?_eq_getElem inside, Option.getD_some]

theorem ofValues_of_fits {values : List UInt64} (fits : values.length ≤ returnSlots) :
    ofValues values = .ok (ofList values fits) :=
  dif_pos fits

theorem values_ofUInt64 (value : UInt64) : (ofUInt64 value).values = [value] :=
  values_ofList [value] (Nat.le_add_left 1 17)

theorem values_ofPair (first second : UInt64) : (ofPair first second).values = [first, second] :=
  values_ofList [first, second] (Nat.le_add_left 2 16)

theorem values_notSupported : notSupported.values = [0xffffffffffffffff] := by
  exact values_ofUInt64 (-1 : Int32).toInt64.toUInt64

/-- Up to seven output words fit the reply registers, and are packed behind the status. -/
theorem ofWords_eq (status : UInt32) {outputs : List UInt32} (few : outputs.length < replyWords) :
    ∃ r, ofWords status outputs = .ok r ∧ r.values = Word.pack (status :: outputs) := by
  have fits : (Word.pack (status :: outputs)).length ≤ returnSlots := by
    rw [Word.length_pack, List.length_cons]
    simp only [replyWords, returnSlots] at few ⊢
    omega
  refine ⟨ofList _ fits, ?_, values_ofList _ fits⟩
  rw [ofWords, if_pos few, ofValues_of_fits fits]

theorem values_ofWords {status : UInt32} {outputs : List UInt32} {r : Return}
    (h : ofWords status outputs = .ok r) : r.values = Word.pack (status :: outputs) := by
  by_cases few : outputs.length < replyWords
  · obtain ⟨r', packed, values⟩ := ofWords_eq status few
    rw [packed] at h
    cases h
    exact values
  · rw [ofWords, if_neg few] at h
    cases h

end Smc.Return

/-! ## The first register -/

/-- The status stands in the low half of the first register, the first output in its high half. -/
theorem Word.pack_cons_eq (status : UInt32) (outputs : List UInt32) :
    ∃ rest, pack (status :: outputs) = join status (outputs.headD 0) :: rest := by
  cases outputs with
  | nil => exact ⟨[], rfl⟩
  | cons first rest => exact ⟨pack rest, rfl⟩

theorem Word.eq_of_pack_eq_ones {status : UInt32} {outputs : List UInt32}
    (h : pack (status :: outputs) = [0xffffffffffffffff]) :
    status = 0xffffffff ∧ outputs.headD 0 = 0xffffffff := by
  obtain ⟨rest, packed⟩ := pack_cons_eq status outputs
  rw [packed] at h
  have whole : join status (outputs.headD 0) = 0xffffffffffffffff := (List.cons.inj h).1
  -- each half of the register gives back the word it was made of
  have lowHalf : low (join status (outputs.headD 0)) = low 0xffffffffffffffff := by rw [whole]
  have highHalf : high (join status (outputs.headD 0)) = high 0xffffffffffffffff := by rw [whole]
  rw [low_join] at lowHalf
  rw [high_join] at highHalf
  exact ⟨lowHalf, highHalf⟩

namespace Service

open Eemi

/-- **No result looks like a refusal**: whatever a call gives, it is not answered by one register
with all bits set. -/
theorem values_toReturn_ne {result : Result} {r : Smc.Return} (h : result.toReturn = .ok r) :
    r.values ≠ [0xffffffffffffffff] := by
  intro ones
  match result, h with
  -- the low half is the status, which is zero on success
  | .reply (.ok words), h =>
    rw [Smc.Return.values_ofWords h] at ones
    have zero := (Word.eq_of_pack_eq_ones ones).1
    exact absurd zero (by decide)
  | @Result.reply n (.error failure), h =>
    rw [Smc.Return.values_ofWords h] at ones
    have zero := (Word.eq_of_pack_eq_ones ones).2
    -- with a failure all outputs are zero
    cases n with
    | zero => exact absurd zero (by decide)
    | succ n => exact absurd zero (by rw [List.replicate_succ, List.headD_cons]; decide)
  -- three words of data do not fit into one register
  | .query { status, data }, h =>
    rw [Smc.Return.values_ofWords h] at ones
    have two := congrArg List.length ones
    rw [Word.length_pack, List.length_cons, Vector.length_toList] at two
    exact absurd two (by decide)
  -- and neither does a callback
  | .callback c, h =>
    cases h
    rw [Smc.Return.values_ofPair] at ones
    exact absurd (List.cons.inj ones).2 (List.cons_ne_nil _ _)

end Service

end PowerBridge
