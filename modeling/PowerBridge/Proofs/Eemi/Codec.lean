import PowerBridge.Proofs.Eemi.SecurityFlag

/-!
# Frames and their words

A header is packed into one word and read back from it, whatever the reserved bits are. A frame is
given back by its words as well, once it is known how many arguments it has: behind them there are
zeros, which an argument may be, too.

The fields of a header lie in bytes of their own. So both directions are settled by looking at the
header word as a number.

Main statements: `Header.decode_encode`, `Header.encode_decode`, `Frame.eq_iff_words`, and
`frame_codec`, which puts them together.
-/

namespace PowerBridge.Eemi

/-! ## Headers -/

namespace Header

/-- Byte 1 of a word. -/
theorem toNat_byte_one (word : UInt32) :
    (word >>> 8).toUInt8.toNat = word.toNat / 2 ^ 8 % 2 ^ 8 := by
  rw [UInt32.toNat_toUInt8, UInt32.toNat_shiftRight, show (8 : UInt32).toNat % 32 = 8 from rfl,
    Nat.shiftRight_eq_div_pow]

theorem toNat_flag_decode (word : UInt32) :
    (decode word).world.flag.toNat = word.toNat / 2 ^ 24 % 2 := by
  have clear := Word.and_eq_zero_iff_field word 0x01000000 24 1 rfl
  by_cases secure : word &&& 0x01000000 = 0
  · have zero := clear.1 secure
    simp only [decode, if_pos secure]
    exact zero.symm
  · have nonzero := mt clear.2 secure
    simp only [decode, if_neg secure]
    change 1 = _
    omega

/-- The header that is read from a word, as a number: the reserved bits are left out. -/
theorem toNat_encode_decode (word : UInt32) :
    (decode word).encode.toNat = word.toNat % 2 ^ 16 + 2 ^ 24 * (word.toNat / 2 ^ 24 % 2) := by
  have api : (decode word).apiId.toNat = word.toNat % 2 ^ 8 := UInt32.toNat_toUInt8 word
  have module : (decode word).moduleId.toNat = word.toNat / 2 ^ 8 % 2 ^ 8 := toNat_byte_one word
  rw [toNat_encode, toNat_flag_decode, api, module]
  omega

/-- **A header is read back from its word.** -/
theorem decode_encode (h : Header) : decode h.encode = h := by
  have sum := h.toNat_encode
  have api := h.apiId.toNat_lt
  have module := h.moduleId.toNat_lt
  have flag : h.world.flag.toNat ≤ 1 := by cases h.world <;> decide
  have readApi : (decode h.encode).apiId = h.apiId := by
    apply UInt8.toNat_inj.1
    change h.encode.toUInt8.toNat = _
    rw [UInt32.toNat_toUInt8]
    omega
  have readModule : (decode h.encode).moduleId = h.moduleId := by
    apply UInt8.toNat_inj.1
    change (h.encode >>> 8).toUInt8.toNat = _
    rw [toNat_byte_one]
    omega
  have readWorld : (decode h.encode).world = h.world := by
    have bit := toNat_flag_decode h.encode
    -- the flag tells the worlds apart
    have same : (decode h.encode).world.flag.toNat = h.world.flag.toNat := by omega
    revert same
    cases (decode h.encode).world <;> cases h.world <;> simp [World.flag]
  calc decode h.encode
      = ⟨(decode h.encode).apiId, (decode h.encode).moduleId, (decode h.encode).world⟩ := rfl
    _ = h := by rw [readApi, readModule, readWorld]

/-- **A word is written back without its reserved bits.** -/
theorem encode_decode (word : UInt32) : (decode word).encode = word &&& 0x0100ffff := by
  have low := Word.toNat_and_field word 0xffff 0 16 rfl
  have flag := Word.toNat_and_field word 0x01000000 24 1 rfl
  have bound : word.toNat / 2 ^ 0 % 2 ^ 16 * 2 ^ 0 < 2 ^ 24 := by omega
  apply UInt32.toNat_inj.1
  -- the two masks do not overlap, so that the union of the fields is their sum
  rw [toNat_encode_decode, show (0x0100ffff : UInt32) = 0x01000000 ||| 0xffff from rfl,
    Word.and_or_distrib, UInt32.toNat_or, low, flag, Nat.mul_comm (word.toNat / 2 ^ 24 % 2 ^ 1),
    ← Nat.two_pow_add_eq_or_of_lt bound]
  omega

/-- A word is the word of a header exactly if its reserved bits are zero. -/
theorem encode_decode_eq_iff (word : UInt32) :
    (decode word).encode = word ↔ word &&& 0xfeff0000 = 0 := by
  rw [encode_decode]
  constructor
  · intro kept
    rw [← kept, UInt32.and_assoc, show (0x0100ffff : UInt32) &&& 0xfeff0000 = 0 from rfl,
      UInt32.and_zero]
  · intro clear
    calc word &&& 0x0100ffff
        = (word &&& 0x0100ffff) ||| (word &&& 0xfeff0000) := by rw [clear, UInt32.or_zero]
      _ = word &&& (0x0100ffff ||| 0xfeff0000) := (Word.and_or_distrib ..).symm
      _ = word := UInt32.and_neg_one

theorem encode_injective {g h : Header} (same : g.encode = h.encode) : g = h := by
  rw [← decode_encode g, same, decode_encode]

/-- The module of an API is byte 1 of its number. -/
theorem moduleOf_eq (number : UInt32) : moduleOf number = (number >>> 8).toUInt8 := by
  apply UInt8.toUInt32_inj.1
  rw [toUInt32_moduleOf, UInt32.toUInt32_toUInt8, Word.and_low_byte]

theorem ofApi_eq_make (api : Api) (world : World) :
    ofApi api world = make api.code.toUInt8 (api.code >>> 8).toUInt8 world := by
  rw [ofApi_eq, moduleOf_eq]

end Header

/-! ## Frames -/

namespace Frame

/-- More arguments than a frame has room for are refused. -/
theorem pushAll_eq_error (f : Frame) (args : List UInt32)
    (many : frameArguments < (f.args ++ args).length) :
    f.pushAll args = .error .tooManyArguments := by
  induction args generalizing f with
  | nil =>
    have few := f.args_le
    rw [List.append_nil] at many
    omega
  | cons arg rest ih =>
    rw [pushAll, List.foldlM_cons]
    by_cases room : f.args.length < frameArguments
    · -- the first argument fits, so that it is one of the others that does not
      have fits : (f.args ++ [arg]).length ≤ frameArguments := by
        rw [List.length_append]
        exact room
      rw [push_eq f arg fits]
      refine ih ⟨f.header, f.args ++ [arg], fits⟩ ?_
      rwa [List.append_assoc]
    · rw [push, dif_neg room]
      rfl

/-- The words of the frame with some arguments, or the fault that there are too many. -/
theorem words_pushAll (header : Header) (args : List UInt32) :
    ((empty header).pushAll args).map (fun f => f.words.toList) =
      if args.length ≤ 5 then
        .ok (header.encode :: args ++ List.replicate (5 - args.length) 0)
      else .error .tooManyArguments := by
  by_cases few : args.length ≤ 5
  · have fits : ((empty header).args ++ args).length ≤ frameArguments := few
    rw [pushAll_eq _ args fits, if_pos few]
    exact congrArg Except.ok (toList_words _)
  · have many : frameArguments < ((empty header).args ++ args).length := Nat.lt_of_not_le few
    rw [pushAll_eq_error _ args many, if_neg few]
    rfl

/-- **A frame is given by the number of its arguments and its words.** -/
theorem eq_iff_words (f g : Frame) :
    f = g ↔ f.args.length = g.args.length ∧ f.words = g.words := by
  constructor
  · rintro rfl
    exact ⟨rfl, rfl⟩
  · rintro ⟨count, words⟩
    have lists := congrArg Vector.toList words
    rw [toList_words, toList_words, List.cons_append, List.cons_append, List.cons.injEq] at lists
    obtain ⟨first, rest⟩ := lists
    have header := Header.encode_injective first
    have args := (List.append_inj rest count).1
    obtain ⟨_, _, _⟩ := f
    obtain ⟨_, _, _⟩ := g
    cases header
    cases args
    rfl

end Frame

/-! ## Both together -/

/-- **Headers and frames go through their words unchanged.** A header is read back from its word,
and a word is written back but for its reserved bits. The words of a frame are its header, its
arguments, and zeros; more than five arguments are refused, and no fewer. A frame is given back by
its words and the number of its arguments. A call of an API has the header that is made of the two
low bytes of its number, which always names a module. -/
theorem frame_codec :
    (∀ h : Header, Header.decode h.encode = h) ∧
    (∀ word : UInt32, (Header.decode word).encode = word &&& 0x0100ffff) ∧
    (∀ word : UInt32, (Header.decode word).encode = word ↔ word &&& 0xfeff0000 = 0) ∧
    (∀ (header : Header) (args : List UInt32),
      ((Frame.empty header).pushAll args).map (fun f => f.words.toList) =
        if args.length ≤ 5 then
          .ok (header.encode :: args ++ List.replicate (5 - args.length) 0)
        else .error .tooManyArguments) ∧
    (∀ f g : Frame, f = g ↔ f.args.length = g.args.length ∧ f.words = g.words) ∧
    ∀ (api : Api) (world : World) (args : List UInt32),
      let header := Header.make api.code.toUInt8 (api.code >>> 8).toUInt8 world
      Frame.call api world args = (Frame.empty header).pushAll args ∧ header.moduleId ≠ 0 := by
  refine ⟨Header.decode_encode, Header.encode_decode, Header.encode_decode_eq_iff,
    Frame.words_pushAll, Frame.eq_iff_words, ?call⟩
  case call =>
    intro api world args header
    refine ⟨?_, Header.resolveModule_ne_zero _⟩
    rw [Frame.call, Header.ofApi_eq_make]

end PowerBridge.Eemi
