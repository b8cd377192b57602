/-!
# Words and registers

A 64-bit register carries two 32-bit words, the first of them in its low half. A list of words is
packed two to a register, an odd last word being followed by a zero half. In log messages words are
written in hexadecimal.

Main statements: `low_join` and `high_join` (a register gives back the words it was made of),
`join_low_high` (and is made of its halves), `unpack_pack` (packing loses no word).
-/

namespace PowerBridge.Word

/-- The low 32 bits of a register. -/
def low (register : UInt64) : UInt32 :=
  register.toUInt32

/-- The high 32 bits of a register. -/
def high (register : UInt64) : UInt32 :=
  (register >>> 32).toUInt32

/-- The register whose low half is `lo` and whose high half is `hi`. -/
def join (lo hi : UInt32) : UInt64 :=
  lo.toUInt64 ||| (hi.toUInt64 <<< 32)

/-- Packs words into registers, two to a register. -/
def pack : List UInt32 → List UInt64
  | [] => []
  | [lo] => [join lo 0]
  | lo :: hi :: rest => join lo hi :: pack rest

/-- The words of a list of registers, low half first. -/
def unpack : List UInt64 → List UInt32
  | [] => []
  | register :: rest => low register :: high register :: unpack rest

/-! ## Halves and registers -/

theorem toNat_join (lo hi : UInt32) : (join lo hi).toNat = lo.toNat + UInt32.size * hi.toNat := by
  change _ = lo.toNat + 2 ^ 32 * hi.toNat
  have hl := lo.toNat_lt
  have hh := hi.toNat_lt
  simp only [join, UInt64.toNat_or, UInt64.toNat_shiftLeft, UInt32.toNat_toUInt64]
  -- the halves do not overlap, so that their union is their sum
  rw [show (32 : UInt64).toNat % 64 = 32 from rfl, Nat.shiftLeft_eq,
    Nat.mod_eq_of_lt (by omega), Nat.or_comm, Nat.mul_comm,
    ← Nat.two_pow_add_eq_or_of_lt (by omega)]
  omega

theorem toNat_low (register : UInt64) : (low register).toNat = register.toNat % UInt32.size := by
  change _ = register.toNat % 2 ^ 32
  simp [low]

theorem toNat_high (register : UInt64) : (high register).toNat = register.toNat / UInt32.size := by
  change _ = register.toNat / 2 ^ 32
  have h := register.toNat_lt
  simp only [high, UInt64.toNat_toUInt32, UInt64.toNat_shiftRight]
  rw [show (32 : UInt64).toNat % 64 = 32 from rfl, Nat.shiftRight_eq_div_pow]
  omega

@[simp] theorem low_join (lo hi : UInt32) : low (join lo hi) = lo := by
  apply UInt32.toNat_inj.1
  have hl := lo.toNat_lt
  rw [toNat_low, toNat_join, UInt32.size]
  omega

@[simp] theorem high_join (lo hi : UInt32) : high (join lo hi) = hi := by
  apply UInt32.toNat_inj.1
  have hl := lo.toNat_lt
  rw [toNat_high, toNat_join, UInt32.size]
  omega

@[simp] theorem join_low_high (register : UInt64) :
    join (low register) (high register) = register := by
  apply UInt64.toNat_inj.1
  -- a number is made of its quotient and its remainder
  rw [toNat_join, toNat_low, toNat_high, UInt32.size]
  omega

@[simp] theorem low_toUInt64 (word : UInt32) : low word.toUInt64 = word := by
  simp [low]

@[simp] theorem high_toUInt64 (word : UInt32) : high word.toUInt64 = 0 := by
  apply UInt32.toNat_inj.1
  have below := word.toNat_lt
  rw [toNat_high, UInt32.toNat_toUInt64, UInt32.toNat_zero]
  exact Nat.div_eq_of_lt below

theorem join_zero_left (word : UInt32) : join 0 word = word.toUInt64 <<< 32 := by
  rw [join, show (0 : UInt32).toUInt64 = 0 from rfl, UInt64.zero_or]

theorem join_zero_right (word : UInt32) : join word 0 = word.toUInt64 := by
  rw [join, show (0 : UInt32).toUInt64 = 0 from rfl, UInt64.zero_shiftLeft, UInt64.or_zero]

/-! ## Lists of words -/

@[simp] theorem length_pack (words : List UInt32) :
    (pack words).length = (words.length + 1) / 2 := by
  fun_induction pack words with
  | case1 => rfl
  | case2 => simp
  | case3 lo hi rest ih => simp only [List.length_cons, ih]; omega

/-- Unpacking gives the packed words back, and a zero half after an odd number of them. -/
theorem unpack_pack (words : List UInt32) :
    unpack (pack words) = words ++ List.replicate (words.length % 2) 0 := by
  fun_induction pack words with
  | case1 => rfl
  -- an odd last word is followed by a zero half
  | case2 lo => simp [unpack]
  | case3 lo hi rest ih =>
    simp only [unpack, low_join, high_join, ih, List.length_cons, List.cons_append]
    rw [show (rest.length + 1 + 1) % 2 = rest.length % 2 by omega]

end PowerBridge.Word

namespace PowerBridge.Text

/-! ## Hexadecimal text

Numbers are written with a leading `0x` and lower-case digits, either with as many digits as they
need or filled up with zeros to eight. -/

/-- The hexadecimal digits of a number, most significant first; zero has the single digit `0`. -/
def hexDigits (n : Nat) : List Char :=
  Nat.toDigits 16 n

/-- A number in hexadecimal, with no leading zeros. -/
def hex (n : Nat) : String :=
  "0x" ++ String.ofList (hexDigits n)

/-- A number in hexadecimal, with at least eight digits. -/
def hex8 (n : Nat) : String :=
  let digits := hexDigits n
  "0x" ++ String.ofList (List.replicate (8 - digits.length) '0' ++ digits)

end PowerBridge.Text
