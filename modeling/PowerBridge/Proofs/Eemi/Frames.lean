import PowerBridge.Eemi.Frame
import PowerBridge.Proofs.Word.Masks

/-!
# The words of a frame

A frame is put together one argument after the other. As long as there is room, it ends up with the
arguments in order, and its words are the header, the arguments, and zeros.

Main statements: `pushAll_eq` (arguments that fit are all taken), `header_of_pushAll` (no argument
changes the header), `toList_words` (what is written).
-/

namespace PowerBridge.Eemi

namespace Header

/-- The header of a request for the API with a given number: the low byte of the number, its module
byte, and the flag of the caller's world. Module zero stands for the base module. -/
def wordOf (number : UInt32) (world : World) : UInt32 :=
  let apiByte : UInt32 := number &&& 0xff
  let moduleByte : UInt32 := (number >>> 8) &&& 0xff
  apiByte ||| ((if moduleByte = 0 then 2 else moduleByte) <<< 8) ||| (world.flag <<< 24)

/-- The module byte, cut out by a mask before or after it is moved down. -/
theorem toUInt32_moduleOf (number : UInt32) :
    (moduleOf number).toUInt32 = (number >>> 8) &&& 0xff := by
  have field := Word.toNat_and_field number 0xff00 8 8 rfl
  have below := Word.toNat_and_field (number >>> 8) 0xff 0 8 rfl
  -- as numbers, both sides are the same quotient and remainder
  apply UInt32.toNat_inj.1
  rw [below, moduleOf, UInt32.toUInt32_toUInt8, UInt32.toNat_mod, UInt32.toNat_shiftRight,
    UInt32.toNat_shiftRight, field, show (8 : UInt32).toNat % 32 = 8 from rfl,
    show (256 : UInt32).toNat = 2 ^ 8 from rfl, Nat.shiftRight_eq_div_pow,
    Nat.shiftRight_eq_div_pow]
  omega

theorem toUInt32_resolveModule (moduleId : UInt8) :
    (resolveModule moduleId).toUInt32 =
      if moduleId.toUInt32 = 0 then 2 else moduleId.toUInt32 := by
  unfold resolveModule
  by_cases none : moduleId = 0
  · subst none
    rfl
  · have some : moduleId.toUInt32 ≠ 0 := fun h => none (UInt8.toUInt32_inj.1 h)
    rw [if_neg none, if_neg some]

/-- An API belongs to the base module if its module byte says so, or says nothing. -/
theorem resolveModule_eq_base_iff (number : UInt32) :
    resolveModule (moduleOf number) = baseModule ↔
      (number >>> 8) &&& 0xff = 0 ∨ (number >>> 8) &&& 0xff = 2 := by
  rw [← UInt8.toUInt32_inj, toUInt32_resolveModule, toUInt32_moduleOf]
  by_cases none : (number >>> 8) &&& 0xff = 0
  · simp only [none, if_true, true_or, iff_true]
    rfl
  · simp only [none, if_false, false_or]
    rfl

theorem encode_make (number : UInt32) (world : World) :
    (make number.toUInt8 (moduleOf number) world).encode = wordOf number world := by
  have low : number.toUInt8.toUInt32 = number &&& 0xff := by
    rw [UInt32.toUInt32_toUInt8, Word.and_low_byte]
  simp only [encode, make, wordOf, low, toUInt32_resolveModule, toUInt32_moduleOf]

/-- The upper half of a number does not get into the header. -/
theorem make_of_and_eq {word number : UInt32} (same : word &&& 0xffff = number) (world : World) :
    make word.toUInt8 (moduleOf word) world = make number.toUInt8 (moduleOf number) world := by
  have low : word.toUInt8 = number.toUInt8 := by
    apply UInt8.toUInt32_inj.1
    rw [UInt32.toUInt32_toUInt8, UInt32.toUInt32_toUInt8, ← Word.and_low_byte,
      ← Word.and_low_byte, ← same, UInt32.and_assoc]
    rfl
  have middle : moduleOf word = moduleOf number := by
    rw [moduleOf, moduleOf, ← same, UInt32.and_assoc]
    rfl
  rw [low, middle]

/-- A module that has been resolved is not zero any more, and stands for itself. -/
theorem resolveModule_resolveModule (moduleId : UInt8) :
    resolveModule (resolveModule moduleId) = resolveModule moduleId := by
  by_cases none : moduleId = 0
  · subst none
    rfl
  · have same : resolveModule moduleId = moduleId := if_neg none
    rw [same, same]

theorem ofApi_eq (api : Api) (world : World) :
    ofApi api world = make api.code.toUInt8 (moduleOf api.code) world := by
  unfold ofApi make Api.moduleId
  rw [resolveModule_resolveModule]

theorem encode_ofApi (api : Api) (world : World) :
    (ofApi api world).encode = wordOf api.code world := by
  rw [ofApi_eq, encode_make]

end Header

namespace Frame

/-! ## Taking arguments -/

theorem push_eq (f : Frame) (arg : UInt32) (fits : (f.args ++ [arg]).length ≤ frameArguments) :
    f.push arg = .ok ⟨f.header, f.args ++ [arg], fits⟩ := by
  have room : f.args.length < frameArguments := by
    rw [List.length_append] at fits
    exact fits
  rw [push, dif_pos room]

theorem pushAll_eq (f : Frame) (args : List UInt32)
    (fits : (f.args ++ args).length ≤ frameArguments) :
    f.pushAll args = .ok ⟨f.header, f.args ++ args, fits⟩ := by
  induction args generalizing f with
  | nil => simp [pushAll, pure, Except.pure]
  | cons arg rest ih =>
    have split : f.args ++ arg :: rest = (f.args ++ [arg]) ++ rest := by
      rw [List.append_assoc, List.singleton_append]
    have fits' : ((f.args ++ [arg]) ++ rest).length ≤ frameArguments := split ▸ fits
    have room : (f.args ++ [arg]).length ≤ frameArguments := by
      rw [List.length_append] at fits'
      exact Nat.le_trans (Nat.le_add_right _ _) fits'
    -- the frame with one argument more takes the rest
    have more := ih ⟨f.header, f.args ++ [arg], room⟩ fits'
    rw [pushAll, List.foldlM_cons, push_eq f arg room]
    simp only [split]
    exact more

/-- The arguments that a forwarded API takes fit a frame. -/
theorem length_take_arguments_le (api : Forwarded) (args : List UInt32) :
    (args.take api.arguments).length ≤ frameArguments := by
  have few := api.arguments_le
  rw [List.length_take, frameArguments]
  omega

/-- A call with at most five arguments gives a frame of exactly these. -/
theorem call_eq (api : Api) (world : World) {args : List UInt32}
    (fits : args.length ≤ frameArguments) :
    Frame.call api world args = .ok ⟨Header.ofApi api world, args, fits⟩ :=
  pushAll_eq (empty (Header.ofApi api world)) args fits

/-- A request that is given as words takes all of them behind the first. -/
theorem ofWords_eq (world : World) (words : Vector UInt32 frameWords)
    (fits : words.toList.tail.length ≤ frameArguments) :
    Frame.ofWords world words =
      .ok ⟨Header.make words[0].toUInt8 (moduleOf words[0]) world, words.toList.tail, fits⟩ :=
  pushAll_eq (empty (Header.make words[0].toUInt8 (moduleOf words[0]) world)) _ fits

theorem header_of_push {f g : Frame} {arg : UInt32} (h : f.push arg = .ok g) :
    g.header = f.header := by
  unfold push at h
  split at h
  · cases h
    rfl
  · cases h

theorem header_of_pushAll {f g : Frame} {args : List UInt32} (h : f.pushAll args = .ok g) :
    g.header = f.header := by
  induction args generalizing f with
  | nil =>
    cases h
    rfl
  | cons arg rest ih =>
    rw [pushAll, List.foldlM_cons] at h
    -- each argument either leaves the header as it is or ends the sequence
    cases one : f.push arg with
    | error why =>
      rw [one] at h
      cases h
    | ok next =>
      rw [one] at h
      exact (ih h).trans (header_of_push one)

theorem header_of_call {api : Api} {world : World} {args : List UInt32} {f : Frame}
    (h : Frame.call api world args = .ok f) : f.header = Header.ofApi api world :=
  header_of_pushAll h

/-! ## Words -/

/-- A first word and up to five more are followed by zeros up to six words. -/
theorem toList_ofFn_getD (first : UInt32) {args : List UInt32}
    (fits : args.length ≤ frameArguments) :
    (Vector.ofFn fun i : Fin frameWords => (first :: args).getD i.val 0).toList =
      first :: args ++ List.replicate (frameArguments - args.length) 0 := by
  apply List.ext_getElem
  · simp only [Vector.length_toList, frameWords, frameArguments, List.length_append,
      List.length_cons, List.length_replicate] at fits ⊢
    omega
  -- a word is looked up among the given ones, or lies behind them
  · intro i hi _
    simp only [Vector.getElem_toList, Vector.getElem_ofFn]
    by_cases inside : i < (first :: args).length
    · rw [List.getD_eq_getElem?_getD, List.getElem?_eq_getElem inside, Option.getD_some,
        List.getElem_append_left inside]
    · rw [List.getD_eq_getElem?_getD, List.getElem?_eq_none (by omega), Option.getD_none,
        List.getElem_append_right (by omega), List.getElem_replicate]

/-- The words of a frame are its header, its arguments, and zeros up to six words. -/
theorem toList_words (f : Frame) :
    f.words.toList =
      f.header.encode :: f.args ++ List.replicate (frameArguments - f.args.length) 0 :=
  toList_ofFn_getD f.header.encode f.args_le

end Frame

end PowerBridge.Eemi
