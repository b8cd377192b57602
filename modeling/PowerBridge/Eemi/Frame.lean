import PowerBridge.Word
import PowerBridge.Eemi.Api

/-!
# Request frames and callbacks

A request to the controller is a frame of six words. Word 0 is the header: the low byte of the
number of the API in bits 0 to 7, the module in bits 8 to 15, the security flag in bit 24, all else
zero. Up to five arguments follow, and zeros fill the frame up.

The controller reports events by callbacks of four words: what happened, whom it concerns, and two
words of detail.
-/

namespace PowerBridge.Eemi

/-- The number of words in a frame. -/
def frameWords : Nat := 6

/-- The number of arguments a frame has room for. -/
def frameArguments : Nat := 5

/-! ## Headers -/

/-- The header of a frame. -/
structure Header where
  /-- The low byte of the number of the API. -/
  apiId : UInt8
  moduleId : UInt8
  world : World
  deriving DecidableEq, Repr

namespace Header

/-- The header for an API of a module, module zero standing for the base module. -/
def make (apiId moduleId : UInt8) (world : World) : Header :=
  { apiId
    moduleId := resolveModule moduleId
    world }

/-- The header for a call of an API. -/
def ofApi (api : Api) (world : World) : Header :=
  make api.code.toUInt8 api.moduleId world

/-- The header as a word. -/
def encode (h : Header) : UInt32 :=
  h.apiId.toUInt32 ||| (h.moduleId.toUInt32 <<< 8) ||| (h.world.flag <<< 24)

/-- The header in a word, whatever the reserved bits are. -/
def decode (word : UInt32) : Header :=
  { apiId := word.toUInt8
    moduleId := (word >>> 8).toUInt8
    world := if word &&& 0x01000000 = 0 then .secure else .nonSecure }

/-- The header as it is named in log messages. -/
def describe (h : Header) : String :=
  s!"PayloadHeader \x7b api_id: {h.apiId}, module_id: {h.moduleId}, flag: {h.world.name} \x7d"

end Header

/-! ## Frames -/

/-- A request frame. -/
structure Frame where
  header : Header
  args : List UInt32
  args_le : args.length ≤ frameArguments
  deriving DecidableEq, Repr

namespace Frame

/-- The frame without arguments. -/
def empty (header : Header) : Frame :=
  { header
    args := []
    args_le := Nat.zero_le _ }

/-- Adds an argument, if there is room for it. -/
def push (f : Frame) (arg : UInt32) : Except Fault Frame :=
  if room : f.args.length < frameArguments then
    .ok { header := f.header
          args := f.args ++ [arg]
          args_le := by simp only [List.length_append, List.length_singleton]; omega }
  else .error .tooManyArguments

/-- Adds arguments, one after the other. -/
def pushAll (f : Frame) (args : List UInt32) : Except Fault Frame :=
  args.foldlM push f

/-- The frame for a call of an API. -/
def call (api : Api) (world : World) (args : List UInt32) : Except Fault Frame :=
  (empty (Header.ofApi api world)).pushAll args

/-- The frame for a request that is given as words: the number of the API in the low half of the
first, then the arguments. The security flag is that of `world`, whatever the first word says. -/
def ofWords (world : World) (words : Vector UInt32 frameWords) : Except Fault Frame :=
  let first := words[0]
  (empty (Header.make first.toUInt8 (moduleOf first) world)).pushAll words.toList.tail

/-- The words of a frame. -/
def words (f : Frame) : Vector UInt32 frameWords :=
  -- behind the arguments there are zeros
  Vector.ofFn fun i => (f.header.encode :: f.args).getD i.val 0

end Frame

/-! ## Callbacks -/

/-- A callback of the controller. -/
structure Callback where
  kind : UInt32
  /-- Whom it concerns: a node, or the cores that are to power down. -/
  target : UInt32
  event : UInt32
  detail : UInt32
  deriving DecidableEq, Repr

namespace Callback

/-- The callback of four zeros, which stands for none. -/
def zero : Callback := ⟨0, 0, 0, 0⟩

/-- The words of a callback. -/
def words (c : Callback) : List UInt32 :=
  [c.kind, c.target, c.event, c.detail]

/-- The words in hexadecimal, one to a line. -/
def describe (c : Callback) : String :=
  "[\n" ++ String.join (c.words.map fun w => s!"    {Text.hex w.toNat},\n") ++ "]"

end Callback

end PowerBridge.Eemi
