/-!
# Worlds, faults and codes

What all parts of the monitor speak of: the world a request comes from, the faults that stop the
monitor, and enumerations whose members have codes on the wire.

Main statement: `Coded.ofCode?_eq_some_iff`, reading a code is the inverse of `code`.
-/

namespace PowerBridge

/-! ## Worlds

The security state a request comes from. Requests to the controller carry it as one flag bit. -/

/-- The security state of a caller. -/
inductive World where
  | secure
  | nonSecure
  deriving DecidableEq, Repr

namespace World

/-- The value of the security flag: set for the normal world. -/
def flag : World → UInt32
  | secure => 0
  | nonSecure => 1

/-- The name of a world in log messages. -/
def name : World → String
  | secure => "Secure"
  | nonSecure => "NonSecure"

end World

/-! ## Faults

The programming errors that stop the monitor. A fault is never an answer to a caller: it ends the
action in which it arises, and everything after it. -/

/-- A broken assumption of the monitor itself. -/
inductive Fault where
  /-- More values were to be returned than there are return registers. -/
  | tooManyReturnValues
  /-- More output words were to be packed than the reply registers hold. -/
  | tooManyOutputs
  /-- A request frame was given more arguments than it has words for. -/
  | tooManyArguments
  /-- A status word was to be taken off an empty reply. -/
  | emptyReply
  /-- The platform lists no processor, so that there is no primary one. -/
  | noProcessor
  /-- A core has no bit in a 32-bit core mask. -/
  | coreOutsideMask
  /-- The target list for a core index does not fit the index type. -/
  | targetListOverflow
  /-- A number of sixteen or more was used as a software generated interrupt. -/
  | notAnSgi
  /-- A sum of buffer offsets leaves the 64-bit address range. -/
  | addressOverflow
  deriving DecidableEq, Repr

/-! ## Coded enumerations

The identifiers of the controller's protocol are enumerations in which every member has a numeric
code and a name. Reading a code is a search of the members, so that a code is known exactly if some
member carries it. -/

/-- An enumeration whose members have numeric codes and names. -/
class Coded (α : Type) where
  /-- The members, each once. -/
  all : List α
  /-- The number of a member on the wire. -/
  code : α → UInt32
  /-- The name of a member in the protocol's documents. -/
  name : α → String

namespace Coded

variable {α : Type} [Coded α]

/-- The member with the given code, if there is one. -/
def ofCode? (c : UInt32) : Option α :=
  (all : List α).find? fun a => code a == c

/-- Every member is listed, and no two share a code. -/
class Lawful (α : Type) [Coded α] : Prop where
  mem_all : ∀ a : α, a ∈ (all : List α)
  code_inj : ∀ a b : α, code a = code b → a = b

theorem code_of_ofCode? {c : UInt32} {a : α} (h : ofCode? c = some a) : code a = c := by
  have := List.find?_some h
  simpa using this

theorem ofCode?_code [Lawful α] (a : α) : ofCode? (code a) = some a := by
  -- the search finds some member with this code, and no two members share it
  cases h : (ofCode? (code a) : Option α) with
  | none =>
    have := List.find?_eq_none.1 h a (Lawful.mem_all a)
    simp at this
  | some b => exact congrArg some (Lawful.code_inj b a (code_of_ofCode? h))

theorem ofCode?_eq_some_iff [Lawful α] {c : UInt32} {a : α} : ofCode? c = some a ↔ code a = c :=
  ⟨code_of_ofCode?, fun h => h ▸ ofCode?_code a⟩

theorem ofCode?_eq_none_iff [Lawful α] {c : UInt32} :
    (ofCode? c : Option α) = none ↔ ∀ a : α, code a ≠ c := by
  rw [Option.eq_none_iff_forall_not_mem]
  exact forall_congr' fun a => not_congr ofCode?_eq_some_iff

end Coded

end PowerBridge
