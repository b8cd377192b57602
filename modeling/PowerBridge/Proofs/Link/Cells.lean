import PowerBridge.Proofs.Link.Mailbox

/-!
# Cells

A mailbox stores words in two kinds of cells: the registers of its agents, and the words of its
memory. Together with the layout, which no operation changes, the cells are all there is to a
mailbox. So what an operation does can be told by the cells that it writes, each with its new word:
all other cells are as before.

Main statements: `Mailbox.eq_of_cells`, `Mailbox.updated_setRegister`, `Mailbox.updated_setWords`.
-/

namespace PowerBridge.Link

/-! ## Registers by name -/

namespace Registers

/-- The value of a register. -/
def get (name : RegisterName) (r : Registers) : UInt32 :=
  match name with
  | .trigger => r.trigger
  | .observation => r.observation
  | .status => r.status
  | .mask => r.mask
  | .enable => r.enable
  | .disable => r.disable

@[simp] theorem get_set (name other : RegisterName) (value : UInt32) (r : Registers) :
    (r.set name value).get other = if other = name then value else r.get other := by
  cases name <;> cases other <;> rfl

theorem eq_of_get {r r' : Registers} (same : ∀ name, r'.get name = r.get name) : r' = r := by
  have trigger := same .trigger
  have observation := same .observation
  have status := same .status
  have mask := same .mask
  have enable := same .enable
  have disable := same .disable
  cases r
  cases r'
  simp_all [get]

end Registers

/-! ## Cells that are written -/

/-- A place for a word: a register of an agent, or a word of the memory. -/
inductive Cell where
  | register (agent : Nat) (name : RegisterName)
  | word (index : Nat)
  deriving DecidableEq, Repr

theorem lookup_cons_of_ne {cell other : Cell} (different : other ≠ cell) (value : UInt32)
    (writes : List (Cell × UInt32)) :
    ((cell, value) :: writes).lookup other = writes.lookup other := by
  rw [List.lookup_cons, beq_false_of_ne different]

theorem lookup_single (cell other : Cell) (value : UInt32) :
    [(cell, value)].lookup other = if other = cell then some value else none := by
  by_cases same : other = cell
  · simp [same]
  · rw [lookup_cons_of_ne same, if_neg same]
    rfl

/-- The cells that words take up in the memory, from an index on. -/
def wordCells (start : Nat) (words : List UInt32) : List (Cell × UInt32) :=
  (words.zipIdx start).map fun (word, i) => (.word i, word)

theorem lookup_wordCells (start : Nat) (words : List UInt32) (i : Nat) :
    (wordCells start words).lookup (.word i) = if start ≤ i then words[i - start]? else none := by
  induction words generalizing start with
  | nil => simp [wordCells]
  | cons word rest ih =>
    have behind := ih (start + 1)
    simp only [wordCells, List.zipIdx_cons, List.map_cons, List.lookup_cons] at behind ⊢
    rw [behind]
    -- the index is that of the first word, or one before it, or one behind it
    grind

theorem lookup_wordCells_register (start : Nat) (words : List UInt32) (agent : Nat)
    (name : RegisterName) : (wordCells start words).lookup (.register agent name) = none := by
  induction words generalizing start with
  | nil => rfl
  | cons word rest ih => exact ih (start + 1)

/-- Words that fit into the memory are stored in their cells, and change no other word. -/
theorem getElem?_storeWords_eq (memory : Array UInt32) (start : Nat) (words : List UInt32)
    (inside : start + words.length ≤ memory.size) (i : Nat) :
    (storeWords memory start words)[i]? =
      ((wordCells start words).lookup (.word i)).or memory[i]? := by
  induction words generalizing memory start with
  | nil => rfl
  | cons word rest ih =>
    rw [List.length_cons] at inside
    have rest_inside : start + 1 + rest.length ≤ (memory.setIfInBounds start word).size := by
      rw [Array.size_setIfInBounds]
      omega
    rw [storeWords, ih _ _ rest_inside, lookup_wordCells, lookup_wordCells,
      Array.getElem?_setIfInBounds]
    grind

namespace Mailbox

/-! ## The cells of a mailbox -/

/-- The word in a cell, if the mailbox has the cell. -/
def cell? (m : Mailbox) : Cell → Option UInt32
  | .register agent name => m.agents[agent]?.map fun a => a.registers.get name
  | .word index => m.memory[index]?

/-- **A mailbox is its layout and what is in its cells.** -/
theorem eq_of_cells {m m' : Mailbox} (layout : m'.layout = m.layout)
    (cells : ∀ cell, m'.cell? cell = m.cell? cell) : m' = m := by
  have memory : m'.memory = m.memory := Array.ext_getElem? fun i => cells (.word i)
  have agents : m'.agents = m.agents := by
    refine List.ext_getElem? fun i => ?_
    cases found : m.agents[i]? with
    | none =>
      have register := cells (.register i .trigger)
      simpa [cell?, found] using register
    | some a =>
      obtain ⟨a', found', bit, buffer, target⟩ := exists_agent_of_layout layout found
      have registers : a'.registers = a.registers := Registers.eq_of_get fun name => by
        have register := cells (.register i name)
        simpa [cell?, found, found'] using register
      have same : a' = a := by
        cases a
        cases a'
        simp_all
      rw [found', same]
  cases m
  cases m'
  simp_all

/-! ## Mailboxes in which cells have been written -/

/-- One mailbox is another one in which some cells have been written. The first entry for a cell is
the one that counts. -/
structure Updated (m : Mailbox) (writes : List (Cell × UInt32)) (m' : Mailbox) : Prop where
  layout : m'.layout = m.layout
  cells : ∀ cell, m'.cell? cell = (writes.lookup cell).or (m.cell? cell)

namespace Updated

variable {m m' m'' : Mailbox} {writes later : List (Cell × UInt32)}

theorem refl (m : Mailbox) : m.Updated [] m where
  layout := rfl
  cells _ := rfl

/-- What is written later comes first. -/
theorem trans (first : m.Updated writes m') (second : m'.Updated later m'') :
    m.Updated (later ++ writes) m'' where
  layout := second.layout.trans first.layout
  cells cell := by rw [second.cells, first.cells, List.lookup_append, Option.or_assoc]

/-- The cells that are written determine the mailbox. -/
theorem unique (first : m.Updated writes m') (second : m.Updated writes m'') : m'' = m' := by
  apply eq_of_cells
  · rw [second.layout, first.layout]
  · intro cell
    rw [second.cells, first.cells]

/-- A cell that is not written keeps its word. -/
theorem kept (h : m.Updated writes m') {cell : Cell} (other : writes.lookup cell = none) :
    m'.cell? cell = m.cell? cell := by
  rw [h.cells, other, Option.none_or]

end Updated

theorem updated_setRegister {m : Mailbox} {agent : Nat} {a : Agent}
    (found : m.agents[agent]? = some a) (name : RegisterName) (value : UInt32) :
    m.Updated [(.register agent name, value)] (m.setRegister agent name value) := by
  refine ⟨layout_setRegister agent name value m, fun cell => ?_⟩
  cases cell with
  | word index => rfl
  | register agent' name' =>
    rw [lookup_single]
    simp only [cell?, setRegister, List.getElem?_modify, Cell.register.injEq]
    by_cases here : agent = agent'
    · subst here
      by_cases same : name' = name
      · simp [found, same]
      · simp [found, same]
    · simp [here, Ne.symm here]

theorem updated_setWords {m : Mailbox} {start : Nat} {words : List UInt32}
    (inside : start + words.length ≤ m.memory.size) :
    m.Updated (wordCells start words) (m.setWords start words) := by
  refine ⟨layout_setWords start words m, fun cell => ?_⟩
  cases cell with
  | word index => exact getElem?_storeWords_eq m.memory start words inside index
  | register agent name =>
    rw [lookup_wordCells_register]
    rfl

end Mailbox

end PowerBridge.Link
