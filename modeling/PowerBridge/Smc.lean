import PowerBridge.Basic
import PowerBridge.Word

/-!
# Secure monitor calls

A caller names the function it wants by a 32-bit word:

* bit 31 distinguishes fast calls from yielding ones, bit 30 the 64-bit fast calls from the 32-bit
  ones;
* bits 24 to 29 name the owner of the function;
* bits 17 to 23 are reserved, and must be zero in a fast call;
* bit 16 is a hint about the caller's vector registers, which plays no part in naming the function;
* bits 0 to 15 are the number of the function with its owner.

An answer is written to the caller's registers from x0 onwards. It is kept as eighteen slots with
the number of those that are used; a slot that is not used holds zero, so that answers with the same
values are the same answer.

A service owns some functions and handles calls of them. A service that says nothing about a call
does not support it.
-/

namespace PowerBridge.Smc

/-! ## Function identifiers -/

/-- How a call is made. -/
inductive CallKind where
  | fast32
  | fast64
  /-- A call that may be interrupted and resumed. -/
  | yielding
  deriving DecidableEq, Repr

def CallKind.name : CallKind → String
  | fast32 => "Fast32"
  | fast64 => "Fast64"
  | yielding => "Yielding"

/-- The identifier of a function, as the word a caller passes. -/
structure FunctionId where
  word : UInt32
  deriving DecidableEq, Repr

namespace FunctionId

/-- The owner of the calls of silicon partners, power management among them. -/
def siliconPartner : UInt8 := 2

/-- The number of the owner of the function. -/
def owner (f : FunctionId) : UInt8 :=
  ((f.word &&& 0x3f000000) >>> 24).toUInt8

/-- The number of the function with its owner. -/
def number (f : FunctionId) : UInt16 :=
  f.word.toUInt16

def kind (f : FunctionId) : CallKind :=
  if f.word &&& 0x80000000 = 0 then .yielding
  else if f.word &&& 0x40000000 = 0 then .fast32
  else .fast64

/-- The identifier without the hint about vector registers. -/
def clearHint (f : FunctionId) : FunctionId :=
  ⟨f.word &&& ~~~0x00010000⟩

/-- Whether the reserved bits are as they must be: zero, unless the call is a yielding one. -/
def isValid (f : FunctionId) : Bool :=
  f.kind == .yielding || f.word &&& 0x00fe0000 == 0

/-- The word in hexadecimal. -/
def display (f : FunctionId) : String :=
  Text.hex8 f.word.toNat

/-- The word in hexadecimal, followed by how the function is called and who owns it. -/
def describe (f : FunctionId) : String :=
  s!"{f.display} ({f.kind.name} OEN {f.owner})"

end FunctionId

/-! ## Values returned to a caller -/

/-- The number of registers a call can return. -/
def returnSlots : Nat := 18

/-- The values to write to a caller's registers, x0 first. -/
structure Return where
  /-- How many registers are written. -/
  used : Nat
  /-- The values, followed by zeros. -/
  slots : Vector UInt64 returnSlots
  deriving DecidableEq

namespace Return

/-- The answer that writes the given values. -/
def ofList (values : List UInt64) (_fits : values.length ≤ returnSlots) : Return :=
  { used := values.length
    slots := Vector.ofFn fun i => values.getD i.val 0 }

/-- The answer that writes the given values, of which there may be eighteen at most. -/
def ofValues (values : List UInt64) : Except Fault Return :=
  if fits : values.length ≤ returnSlots then .ok (ofList values fits)
  else .error .tooManyReturnValues

/-- The answer that leaves all registers as they are. -/
def empty : Return :=
  { used := 0
    slots := Vector.replicate returnSlots 0 }

instance : Inhabited Return := ⟨empty⟩

def ofUInt64 (value : UInt64) : Return :=
  ofList [value] (Nat.le_add_left 1 17)

/-- The answer that writes one register, with a zero high half. -/
def ofUInt32 (value : UInt32) : Return :=
  ofUInt64 value.toUInt64

/-- The answer that writes one register, with the sign carried into the high half. -/
def ofInt32 (value : Int32) : Return :=
  ofUInt64 value.toInt64.toUInt64

def ofPair (first second : UInt64) : Return :=
  ofList [first, second] (Nat.le_add_left 2 16)

def ofTriple (first second third : UInt64) : Return :=
  ofList [first, second, third] (Nat.le_add_left 3 15)

def ofQuadruple (first second third fourth : UInt64) : Return :=
  ofList [first, second, third, fourth] (Nat.le_add_left 4 14)

/-- The answer to a call that is not supported: one register with all bits set. -/
def notSupported : Return :=
  ofInt32 (-1)

/-- The values that are written. -/
def values (r : Return) : List UInt64 :=
  r.slots.toList.take r.used

def isEmpty (r : Return) : Bool :=
  r.used == 0

/-- The values in hexadecimal, in a list. -/
def describe (r : Return) : String :=
  "SmcReturn([" ++ ", ".intercalate (r.values.map fun v => Text.hex v.toNat) ++ "])"

/-! ## Packed words

Replies to power management calls are a status word and output words, two to a register. -/

/-- The number of words that the reply registers hold. -/
def replyWords : Nat := 8

/-- The answer that writes a status word followed by output words, packed two to a register. -/
def ofWords (status : UInt32) (outputs : List UInt32) : Except Fault Return :=
  if outputs.length < replyWords then ofValues (Word.pack (status :: outputs))
  else .error .tooManyOutputs

end Return

/-! ## Services -/

/-- The registers of a caller, x0 to x17. -/
abbrev CallerRegisters := Vector UInt64 18

/-- The function that a caller asks for, named by the low half of x0. -/
def functionOf (x : CallerRegisters) : FunctionId :=
  ⟨Word.low x[0]⟩

/-- The argument words of a caller: x1 and x2, low halves first. There are four of them. -/
def argumentOf (x : CallerRegisters) : Nat → UInt32
  | 0 => Word.low x[1]
  | 1 => Word.high x[1]
  | 2 => Word.low x[2]
  | 3 => Word.high x[2]
  | _ => 0

/-- A service whose handling of calls are actions in `m`. -/
structure Service (m : Type → Type) [Pure m] where
  /-- Whether the service is meant to handle a function. -/
  owns : FunctionId → Bool
  /-- Handles a call from a world. -/
  handle : World → CallerRegisters → m Return := fun _ _ => pure .notSupported

end PowerBridge.Smc
