import Mathlib.Data.List.GetD
import PowerBridge.Proofs.Smc.Values

/-!
# Packed words

A status word and its output words are packed two to a register. Here they are packed once more, one
word at a time: into four registers that are zero at first, each word is merged at its place, in the
low or in the high half of a register. There are places for eight words, and the ninth one faults.
Both come to the same. From the registers every word is read back, each bit of a register being a
bit of the one word whose place it is in.

Main statements: `getD_pack` (a register and its two words), `testBit_pack` (a bit and its word),
`fillAll_eq` (one word at a time), `packing_lossless`.
-/

namespace PowerBridge.Word

/-! ## Registers and their words -/

/-- A register is made of the two words at its places, zeros standing for missing ones. -/
theorem getD_pack (words : List UInt32) (k : Nat) :
    (pack words).getD k 0 = join (words.getD (2 * k) 0) (words.getD (2 * k + 1) 0) := by
  fun_induction pack words generalizing k with
  | case1 => simp [join]
  | case2 lo =>
    cases k with
    | zero => rfl
    | succ k => simp [join, Nat.mul_add]
  | case3 lo hi rest ih =>
    cases k with
    | zero => rfl
    | succ k => simpa [Nat.mul_add] using ih k

theorem testBit_join (lo hi : UInt32) (b : Nat) :
    (join lo hi).toNat.testBit b =
      if b < 32 then lo.toNat.testBit b else hi.toNat.testBit (b - 32) := by
  rw [toNat_join, Nat.add_comm]
  exact Nat.testBit_two_pow_mul_add hi.toNat lo.toNat_lt b

/-- Neighbouring words do not mix: a bit of a register is a bit of the word whose place it is in. -/
theorem testBit_pack (words : List UInt32) (k : Nat) {b : Nat} (inside : b < 64) :
    ((pack words).getD k 0).toNat.testBit b =
      (words.getD (2 * k + b / 32) 0).toNat.testBit (b % 32) := by
  rw [getD_pack, testBit_join]
  by_cases low : b < 32
  · rw [if_pos low, Nat.div_eq_of_lt low, Nat.mod_eq_of_lt low]
    rfl
  · have half : b / 32 = 1 := by omega
    have place : b % 32 = b - 32 := by omega
    rw [if_neg low, half, place]

/-! ## One word more -/

theorem getD_concat (words : List UInt32) (word : UInt32) (i : Nat) :
    (words ++ [word]).getD i 0 = if i = words.length then word else words.getD i 0 := by
  rcases Nat.lt_trichotomy i words.length with before | rfl | behind
  · rw [if_neg (Nat.ne_of_lt before), List.getD_append _ _ _ _ before]
  · rw [if_pos rfl, List.getD_append_right _ _ _ _ (Nat.le_refl _), Nat.sub_self]
    rfl
  · have past : (words ++ [word]).length ≤ i := by
      rw [List.length_append]
      exact behind
    rw [if_neg (Nat.ne_of_gt behind), List.getD_eq_default _ _ past,
      List.getD_eq_default _ _ (Nat.le_of_lt behind)]

/-- A word behind others is merged into its register, next to nothing or to one word. -/
theorem merge_concat (words : List UInt32) (word : UInt32) :
    let k := words.length / 2
    join (words.getD (2 * k) 0) (words.getD (2 * k + 1) 0) |||
        word.toUInt64 <<< UInt64.ofNat (32 * (words.length % 2)) =
      join ((words ++ [word]).getD (2 * k) 0) ((words ++ [word]).getD (2 * k + 1) 0) := by
  intro k
  rw [getD_concat, getD_concat]
  rcases Nat.mod_two_eq_zero_or_one words.length with even | odd
  · -- the register is zero, and the word goes into its low half
    have low : 2 * k = words.length := by omega
    have high : 2 * k + 1 ≠ words.length := by omega
    rw [if_pos low, if_neg high, List.getD_eq_default _ _ (Nat.le_of_eq low.symm),
      List.getD_eq_default _ _ (by omega), even, join_zero_right, join_zero_right]
    simp
  · -- the low half is taken, and the word goes into the high half, which is zero
    have low : 2 * k ≠ words.length := by omega
    have high : 2 * k + 1 = words.length := by omega
    rw [if_neg low, if_pos high, List.getD_eq_default _ _ (Nat.le_of_eq high.symm), odd,
      join_zero_right]
    rfl

/-! ## Reading back -/

/-- The status word and the output words in some registers, of which there are `n`. -/
def readBack (n : Nat) (registers : List UInt64) : UInt32 × List UInt32 :=
  ((unpack registers).headD 0, (unpack registers).tail.take n)

theorem unpack_pack_cons (status : UInt32) (outputs : List UInt32) :
    unpack (pack (status :: outputs)) =
      status :: (outputs ++ if outputs.length % 2 = 0 then [0] else []) := by
  rw [unpack_pack, List.cons_append, List.length_cons]
  rcases Nat.mod_two_eq_zero_or_one outputs.length with even | odd
  · have unpaired : (outputs.length + 1) % 2 = 1 := by omega
    rw [if_pos even, unpaired]
    rfl
  · have paired : (outputs.length + 1) % 2 = 0 := by omega
    rw [if_neg (by omega), paired]
    rfl

theorem readBack_pack (status : UInt32) (outputs : List UInt32) :
    readBack outputs.length (pack (status :: outputs)) = (status, outputs) := by
  rw [readBack, unpack_pack_cons, List.headD_cons, List.tail_cons, List.take_left]

end PowerBridge.Word

namespace PowerBridge.Smc

open Word (join pack)

/-! ## One word at a time -/

/-- Four registers that are filled with words, and how many of them are used. -/
structure Bank where
  registers : Vector UInt64 4
  used : Nat

namespace Bank

def zero : Bank :=
  { registers := Vector.replicate 4 0
    used := 0 }

/-- Merges a word at a place, of which every register has two, the first one in its low half. -/
def fill (b : Bank) (place : Nat) (word : UInt32) : Except Fault Bank :=
  if inside : place / 2 < 4 then
    let shift := UInt64.ofNat (32 * (place % 2))
    let register := b.registers[place / 2] ||| word.toUInt64 <<< shift
    .ok { registers := b.registers.set (place / 2) register
          used := place / 2 + 1 }
  else .error .tooManyOutputs

/-- Merges words from a place on. -/
def fillAll (b : Bank) (place : Nat) : List UInt32 → Except Fault Bank
  | [] => .ok b
  | word :: rest => do (← b.fill place word).fillAll (place + 1) rest

/-- The answer that writes the registers in use. -/
def toReturn (b : Bank) : Except Fault Return :=
  Return.ofValues (b.registers.toList.take b.used)

/-- A bank holds some words, and nothing else. -/
structure Holds (b : Bank) (words : List UInt32) : Prop where
  used : b.used = (words.length + 1) / 2
  registers : ∀ (k : Nat) (inside : k < 4),
    b.registers[k] = join (words.getD (2 * k) 0) (words.getD (2 * k + 1) 0)

theorem holds_zero : zero.Holds [] where
  used := rfl
  registers k inside := by simp [zero, join]

/-- **A bank that holds some words holds one more after it is merged at the next place.** -/
theorem Holds.fill {b : Bank} {words : List UInt32} (holds : b.Holds words)
    (room : words.length < 8) (word : UInt32) :
    ∃ b', b.fill words.length word = .ok b' ∧ b'.Holds (words ++ [word]) := by
  have inside : words.length / 2 < 4 := by omega
  refine ⟨_, dif_pos inside, ?used, fun k there => ?_⟩
  case used =>
    rw [List.length_append]
    change words.length / 2 + 1 = (words.length + 1 + 1) / 2
    omega
  rw [Vector.getElem_set]
  by_cases here : words.length / 2 = k
  · subst here
    rw [if_pos rfl, holds.registers _ inside]
    exact Word.merge_concat words word
  · -- the other registers keep their words
    have notLow : 2 * k ≠ words.length := by omega
    have notHigh : 2 * k + 1 ≠ words.length := by omega
    rw [if_neg here, holds.registers k there, Word.getD_concat, Word.getD_concat, if_neg notLow,
      if_neg notHigh]

theorem Holds.fillAll {b : Bank} {words : List UInt32} (holds : b.Holds words)
    {rest : List UInt32} (room : (words ++ rest).length ≤ 8) :
    ∃ b', b.fillAll words.length rest = .ok b' ∧ b'.Holds (words ++ rest) := by
  induction rest generalizing b words with
  | nil => exact ⟨b, rfl, by rwa [List.append_nil]⟩
  | cons word rest ih =>
    rw [List.length_append, List.length_cons] at room
    obtain ⟨next, merged, holds'⟩ := holds.fill (by omega) word
    have room' : (words ++ [word] ++ rest).length ≤ 8 := by
      simp only [List.length_append, List.length_singleton]
      omega
    obtain ⟨b', filled, holds''⟩ := ih holds' room'
    rw [List.length_append, List.length_singleton] at filled
    refine ⟨b', ?_, ?_⟩
    · rw [Bank.fillAll, merged]
      exact filled
    · rwa [List.append_assoc] at holds''

/-- There is no place for a ninth word. -/
theorem fillAll_of_many (b : Bank) (place : Nat) (few : place ≤ 8) {words : List UInt32}
    (many : 8 < place + words.length) :
    b.fillAll place words = .error .tooManyOutputs := by
  induction words generalizing b place with
  | nil => exact absurd many (by simpa using few)
  | cons word rest ih =>
    rw [fillAll]
    by_cases inside : place / 2 < 4
    · rw [fill, dif_pos inside]
      rw [List.length_cons] at many
      exact ih _ (place + 1) (by omega) (by omega)
    · rw [fill, dif_neg inside]
      rfl

/-- The registers in use are the packed words. -/
theorem Holds.take_eq_pack {b : Bank} {words : List UInt32} (holds : b.Holds words)
    (few : words.length ≤ 8) : b.registers.toList.take b.used = pack words := by
  apply List.ext_getElem
  · rw [List.length_take, Vector.length_toList, Word.length_pack, holds.used]
    omega
  · intro k _ inside
    rw [List.getElem_take, Vector.getElem_toList, holds.registers, ← Word.getD_pack,
      List.getD_eq_getElem _ _ inside]

end Bank

/-- **Packing one word at a time comes to packing two at a time.** -/
theorem fillAll_eq (status : UInt32) (outputs : List UInt32) :
    (Bank.zero.fillAll 0 (status :: outputs)).bind Bank.toReturn =
      Return.ofWords status outputs := by
  by_cases few : outputs.length < Return.replyWords
  · have room : ([] ++ status :: outputs).length ≤ 8 := few
    obtain ⟨b, filled, holds⟩ := Bank.holds_zero.fillAll room
    change Bank.zero.fillAll 0 (status :: outputs) = .ok b at filled
    rw [filled, Return.ofWords, if_pos few]
    exact congrArg Return.ofValues (holds.take_eq_pack room)
  · rw [Bank.fillAll_of_many _ 0 (by decide), Return.ofWords, if_neg few]
    · rfl
    · rw [List.length_cons]
      change ¬ outputs.length < 8 at few
      omega

/-! ## Nothing is lost -/

/-- **Packing a status and its outputs loses nothing.** It comes to merging one word after the other
into four registers. With seven output words at most it gives one to four registers: half as many as
there are words, rounded up. Their halves are the status, the outputs in order, and a zero if the
number of outputs is even, so that status and outputs are read back from the registers and the
number of outputs. Every bit of a register is a bit of the one word whose place it is in. With eight
output words or more it faults. -/
theorem packing_lossless (status : UInt32) (outputs : List UInt32) :
    (Bank.zero.fillAll 0 (status :: outputs)).bind Bank.toReturn =
      Return.ofWords status outputs ∧
    (outputs.length ≤ 7 → ∃ r, Return.ofWords status outputs = .ok r ∧
      r.values.length = (outputs.length + 2) / 2 ∧ 1 ≤ r.values.length ∧ r.values.length ≤ 4 ∧
      Word.unpack r.values =
        status :: (outputs ++ if outputs.length % 2 = 0 then [0] else []) ∧
      Word.readBack outputs.length r.values = (status, outputs) ∧
      ∀ k < r.values.length, ∀ b < 64,
        (r.values.getD k 0).toNat.testBit b =
          ((status :: outputs).getD (2 * k + b / 32) 0).toNat.testBit (b % 32)) ∧
    (8 ≤ outputs.length → Return.ofWords status outputs = .error .tooManyOutputs) := by
  refine ⟨fillAll_eq status outputs, ?few, fun many => if_neg (Nat.not_lt.2 many)⟩
  case few =>
    intro few
    obtain ⟨r, packed, values⟩ := Return.ofWords_eq status (Nat.lt_succ_of_le few)
    have count : r.values.length = (outputs.length + 2) / 2 := by
      rw [values, Word.length_pack, List.length_cons]
    refine ⟨r, packed, count, by omega, by omega, ?_, ?_, fun k _ b inside => ?_⟩
    · rw [values, Word.unpack_pack_cons]
    · rw [values, Word.readBack_pack]
    · rw [values, Word.testBit_pack _ _ inside]

/-- Two outputs fill the high half of the first register and the low half of the second one. For an
eighth output there is no place. -/
theorem packing_lossless_twoOutputs :
    (∃ r, Return.ofWords 1 [2, 0xffffffff] = .ok r ∧ r.values.length = 2 ∧
      Word.unpack r.values = [1, 2, 0xffffffff, 0] ∧
      Word.readBack 2 r.values = (1, [2, 0xffffffff])) ∧
    Return.ofWords 0 [1, 2, 3, 4, 5, 6, 7, 8] = .error .tooManyOutputs := by
  obtain ⟨-, few, -⟩ := packing_lossless 1 [2, 0xffffffff]
  obtain ⟨-, -, many⟩ := packing_lossless 0 [1, 2, 3, 4, 5, 6, 7, 8]
  obtain ⟨r, packed, count, -, -, halves, back, -⟩ := few (by decide)
  exact ⟨⟨r, packed, count, halves, back⟩, many (by decide)⟩

end PowerBridge.Smc
