import PowerBridge.Proofs.Eemi.Frames

/-!
# The security flag of a frame

The header of a frame carries the world that a request is made for in one bit, and nothing else of a
frame depends on the world. The fields of a header lie in bytes of their own, so that the flag is
neither set nor cleared by the number of an API or by its module.

Main statements: `Header.wellFlagged_make` and `Header.wellFlagged_ofApi` (the flag is the world's,
and the reserved bits are zero), `Frame.withoutFlag_words` (frames for two worlds differ in the flag
only).
-/

namespace PowerBridge

theorem World.toNat_flag (world : World) :
    world.flag.toNat = if world = .nonSecure then 1 else 0 := by
  cases world <;> rfl

namespace Eemi

/-! ## Flags of headers -/

/-- A header word as it must be for requests of a world: the flag is set for the normal world, the
bits that are reserved are zero, and some module is named. -/
structure WellFlagged (world : World) (word : UInt32) : Prop where
  flag : word &&& 0x01000000 ≠ 0 ↔ world = .nonSecure
  /-- Bits 16 to 23. -/
  reservedLow : word &&& 0x00ff0000 = 0
  /-- Bits 25 to 31. -/
  reservedHigh : word &&& 0xfe000000 = 0
  namesModule : word &&& 0x0000ff00 ≠ 0

namespace Header

/-- A header as a number: its fields lie in bytes of their own. -/
theorem toNat_encode (h : Header) :
    h.encode.toNat =
      h.apiId.toNat + 2 ^ 8 * h.moduleId.toNat + 2 ^ 24 * h.world.flag.toNat := by
  have api := h.apiId.toNat_lt
  have module := h.moduleId.toNat_lt
  have flag : h.world.flag.toNat ≤ 1 := by cases h.world <;> decide
  simp only [encode, UInt32.toNat_or, UInt32.toNat_shiftLeft, UInt8.toNat_toUInt32]
  rw [show (8 : UInt32).toNat % 32 = 8 from rfl, show (24 : UInt32).toNat % 32 = 24 from rfl,
    Nat.shiftLeft_eq, Nat.shiftLeft_eq, Nat.mod_eq_of_lt (by omega), Nat.mod_eq_of_lt (by omega)]
  -- no two fields overlap, so that their union is their sum
  rw [Nat.or_comm h.apiId.toNat, Nat.mul_comm h.moduleId.toNat,
    ← Nat.two_pow_add_eq_or_of_lt (by omega), Nat.or_comm, Nat.mul_comm h.world.flag.toNat,
    ← Nat.two_pow_add_eq_or_of_lt (by omega)]
  omega

theorem wellFlagged_encode {h : Header} (named : h.moduleId ≠ 0) :
    WellFlagged h.world h.encode := by
  have sum := h.toNat_encode
  have api := h.apiId.toNat_lt
  have module := h.moduleId.toNat_lt
  have nonzero : h.moduleId.toNat ≠ 0 := fun zero => named (UInt8.toNat_inj.1 zero)
  have field := Word.and_eq_zero_iff_field h.encode
  rw [World.toNat_flag] at sum
  refine ⟨?flag, ?low, ?high, ?module⟩
  case flag =>
    rw [Ne, field _ 24 1 rfl]
    by_cases normal : h.world = .nonSecure
    · rw [if_pos normal] at sum
      simp only [normal, iff_true]
      omega
    · rw [if_neg normal] at sum
      simp only [normal, iff_false, Decidable.not_not]
      omega
  case low =>
    rw [field _ 16 8 rfl]
    split at sum <;> omega
  case high =>
    rw [field _ 25 7 rfl]
    split at sum <;> omega
  case module =>
    rw [Ne, field _ 8 8 rfl]
    split at sum <;> omega

/-- A module that has been resolved is named. -/
theorem resolveModule_ne_zero (moduleId : UInt8) : resolveModule moduleId ≠ 0 := by
  unfold resolveModule
  split
  · decide
  · assumption

/-- **The flag of a header is that of its world**, whatever API it is for. -/
theorem wellFlagged_make (apiId moduleId : UInt8) (world : World) :
    WellFlagged world (make apiId moduleId world).encode :=
  wellFlagged_encode (h := make apiId moduleId world) (resolveModule_ne_zero moduleId)

theorem wellFlagged_ofApi (api : Api) (world : World) :
    WellFlagged world (ofApi api world).encode :=
  wellFlagged_make _ _ world

/-- The header of a call without its flag, which is the only part that depends on the world. -/
theorem encode_ofApi_without_flag (api : Api) (world other : World) :
    (ofApi api world).encode &&& 0xfeffffff = (ofApi api other).encode &&& 0xfeffffff := by
  have cut (world : World) : (world.flag <<< 24) &&& 0xfeffffff = 0 := by cases world <;> decide
  simp only [encode, ofApi, make, Word.or_and_distrib, cut, UInt32.or_zero]

end Header

/-! ## Frames for two worlds -/

/-- The words of a frame with the flag of its header cleared. -/
def withoutFlag (words : Vector UInt32 frameWords) : Vector UInt32 frameWords :=
  words.mapIdx fun i word => if i = 0 then word &&& 0xfeffffff else word

namespace Frame

/-- The frame with another header. -/
def withHeader (header : Header) (f : Frame) : Frame :=
  { f with header }

theorem push_withHeader (header : Header) (f : Frame) (arg : UInt32) :
    (f.withHeader header).push arg = (f.push arg).map (withHeader header) := by
  unfold push
  split <;> rename_i room
  · rw [dif_pos (show f.args.length < frameArguments from room)]
    rfl
  · rw [dif_neg (show ¬ f.args.length < frameArguments from room)]
    rfl

/-- What a frame takes does not depend on its header. -/
theorem pushAll_withHeader (header : Header) (f : Frame) (args : List UInt32) :
    (f.withHeader header).pushAll args = (f.pushAll args).map (withHeader header) := by
  induction args generalizing f with
  | nil => rfl
  | cons arg rest ih =>
    rw [pushAll, pushAll, List.foldlM_cons, List.foldlM_cons, push_withHeader]
    cases f.push arg with
    | error why => rfl
    | ok next => exact ih next

theorem call_other_world (api : Api) (world other : World) (args : List UInt32) :
    Frame.call api other args =
      (Frame.call api world args).map (withHeader (Header.ofApi api other)) :=
  pushAll_withHeader _ (empty (Header.ofApi api world)) args

/-- **Frames for two worlds differ in the flag only.** -/
theorem withoutFlag_words (api : Api) (world other : World) {f : Frame}
    (header : f.header = Header.ofApi api world) :
    withoutFlag (f.withHeader (Header.ofApi api other)).words = withoutFlag f.words := by
  have first := Header.encode_ofApi_without_flag api other world
  rw [← header] at first
  apply Vector.ext
  intro i inside
  rw [withoutFlag, withoutFlag, Vector.getElem_mapIdx, Vector.getElem_mapIdx]
  simp only [words, Vector.getElem_ofFn]
  cases i with
  | zero => exact first
  -- behind the header there are the same arguments
  | succ i => rfl

end Frame

end Eemi

end PowerBridge
