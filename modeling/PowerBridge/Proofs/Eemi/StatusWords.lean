import Mathlib.Logic.Equiv.Defs
import PowerBridge.Eemi.Reply

/-!
# Status words and failures

A status word is read as success or as a failure, and a failure is written as its code. No status is
lost by this: what is read is written back. The other way round, a failure that keeps the status of
success, or of a failure with a name, is not read back as itself. But it is never read either, so
that the status words other than success and the failures that can be read correspond to each other.

Main statements: `code_ofCode` (a status is written back), `check_code_iff` (which failures are read
back), `status_words_correspond`.
-/

namespace PowerBridge.Eemi.Failure

/-! ## Failures with a name -/

/-- Whether a failure has a name, and is not just a status that is kept. -/
def IsNamed : Failure → Prop
  | other _ => False
  | _ => True

theorem mem_named_iff (e : Failure) : e ∈ named ↔ e.IsNamed := by
  cases e <;> simp [named, IsNamed]

theorem code_injective_of_named {e e' : Failure} (h : e.IsNamed) (h' : e'.IsNamed)
    (same : e.code = e'.code) : e = e' := by
  have distinct : ∀ f ∈ named, ∀ f' ∈ named, f.code = f'.code → f = f' := by decide
  exact distinct e ((mem_named_iff e).2 h) e' ((mem_named_iff e').2 h') same

theorem code_ne_zero_of_named {e : Failure} (h : e.IsNamed) : e.code ≠ 0 := by
  have nonzero : ∀ f ∈ named, f.code ≠ 0 := by decide
  exact nonzero e ((mem_named_iff e).2 h)

/-- A failure that is what its code is read as: it has a name, or it keeps a status that is neither
success nor the code of a failure with a name. -/
def Canonical : Failure → Prop
  | other status => status ≠ 0 ∧ ∀ e : Failure, e.IsNamed → e.code ≠ status
  | _ => True

theorem IsNamed.canonical {e : Failure} (h : e.IsNamed) : e.Canonical := by
  cases e with
  | other status => exact h.elim
  | _ => trivial

theorem Canonical.code_ne_zero {e : Failure} (h : e.Canonical) : e.code ≠ 0 := by
  cases e with
  | other status => exact h.1
  | _ => exact code_ne_zero_of_named trivial

/-! ## Reading a code -/

/-- A code is read as a failure with a name that carries it, or else it is kept. -/
theorem ofCode_cases (status : UInt32) :
    (ofCode status).IsNamed ∧ (ofCode status).code = status ∨
      ofCode status = other status ∧ ∀ e : Failure, e.IsNamed → e.code ≠ status := by
  unfold ofCode
  cases found : named.find? fun f => f.code == status with
  | none =>
    refine .inr ⟨rfl, fun e h carried => ?_⟩
    have missed := List.find?_eq_none.1 found e ((mem_named_iff e).2 h)
    exact missed (beq_iff_eq.2 carried)
  | some f =>
    have carried := List.find?_some found
    exact .inl ⟨(mem_named_iff f).1 (List.mem_of_find?_eq_some found), beq_iff_eq.1 carried⟩

/-- No status is lost by being read as a failure. -/
theorem code_ofCode (status : UInt32) : (ofCode status).code = status := by
  rcases ofCode_cases status with ⟨-, carried⟩ | ⟨kept, -⟩
  · exact carried
  · rw [kept]
    rfl

theorem canonical_ofCode {status : UInt32} (failed : status ≠ 0) : (ofCode status).Canonical := by
  rcases ofCode_cases status with ⟨named, -⟩ | ⟨kept, unnamed⟩
  · exact named.canonical
  · rw [kept]
    exact ⟨failed, unnamed⟩

theorem ofCode_code {e : Failure} (h : e.Canonical) : ofCode e.code = e := by
  rcases ofCode_cases e.code with ⟨named, carried⟩ | ⟨kept, unnamed⟩
  · cases e with
    -- a status that is kept is not the code of a name
    | other status => exact absurd carried (h.2 _ named)
    | _ => exact code_injective_of_named named trivial carried
  · cases e with
    | other status => exact kept
    -- the code of a name is not kept
    | _ => exact absurd rfl (unnamed _ trivial)

/-! ## Reading a status word -/

theorem check_eq_ok_iff (status : UInt32) : check status = .ok () ↔ status = 0 := by
  by_cases success : status = 0
  · simp [check, success]
  · simp [check, success]

theorem check_of_ne_zero {status : UInt32} (failed : status ≠ 0) :
    check status = .error (ofCode status) :=
  if_neg failed

theorem canonical_of_check {status : UInt32} {e : Failure} (read : check status = .error e) :
    e.Canonical := by
  by_cases success : status = 0
  · rw [check, if_pos success] at read
    cases read
  · rw [check_of_ne_zero success] at read
    cases read
    exact canonical_ofCode success

/-- The failures that are read back from their code. -/
theorem check_code_iff (e : Failure) : check e.code = .error e ↔ e.Canonical := by
  constructor
  · exact canonical_of_check
  · intro canonical
    rw [check_of_ne_zero canonical.code_ne_zero, ofCode_code canonical]

/-! ## The table of status words -/

/-- What every status word means, word by word. -/
def meaning : UInt32 → Except Failure Unit
  | 0 => .ok ()
  | 1 => .error args
  | 4 => .error notSupported
  | 301 => .error invalidCrc
  | 2000 => .error internal
  | 2001 => .error conflict
  | 2002 => .error access
  | 2003 => .error invalidNode
  | 2004 => .error doubleRequest
  | 2005 => .error abortSuspend
  | 2006 => .error timeout
  | 2007 => .error nodeUsed
  | 2008 => .error noFeature
  | status => .error (other status)

theorem meaning_code_of_named {e : Failure} (h : e.IsNamed) : meaning e.code = .error e := by
  cases e with
  | other status => exact h.elim
  | _ => rfl

theorem meaning_of_unnamed {status : UInt32} (failed : status ≠ 0)
    (unnamed : ∀ e : Failure, e.IsNamed → e.code ≠ status) :
    meaning status = .error (other status) := by
  have foreign : ∀ e ∈ named, e.code ≠ status := fun e mem => unnamed e ((mem_named_iff e).1 mem)
  unfold meaning
  split
  case h_1 => exact absurd rfl failed
  case h_14 => rfl
  -- every other line of the table is for the code of a name
  all_goals exact absurd foreign (by decide)

/-- The search for a code comes to the same as the table. -/
theorem check_eq_meaning (status : UInt32) : check status = meaning status := by
  by_cases success : status = 0
  · rw [check, if_pos success, success]
    rfl
  · rw [check_of_ne_zero success]
    rcases ofCode_cases status with ⟨named, carried⟩ | ⟨kept, unnamed⟩
    · rw [← meaning_code_of_named named, carried]
    · rw [kept, meaning_of_unnamed success unnamed]

/-- The status words other than success, and the failures that they are read as. -/
def readings : {status : UInt32 // status ≠ 0} ≃ {e : Failure // e.Canonical} where
  toFun status := ⟨ofCode status.1, canonical_ofCode status.2⟩
  invFun e := ⟨e.1.code, e.2.code_ne_zero⟩
  left_inv status := Subtype.ext (code_ofCode status.1)
  right_inv e := Subtype.ext (ofCode_code e.2)

/-! ## Both directions -/

/-- **Status words survive being read.** A status word is read as the table says: as success exactly
if it is zero, and otherwise as a failure whose code it is. A failure is read back from its code
exactly if it is canonical, and no other is ever read. So reading is a bijection between the status
words other than success and the canonical failures, and `code` is its inverse. -/
theorem status_words_correspond :
    (∀ status : UInt32, check status = meaning status) ∧
    (∀ status : UInt32, check status = .ok () ↔ status = 0) ∧
    (∀ status : UInt32, status ≠ 0 → ∃ e : Failure, check status = .error e ∧ e.code = status) ∧
    (∀ e : Failure, check e.code = .error e ↔ e.Canonical) ∧
    (∀ (status : UInt32) (e : Failure), check status = .error e → e.Canonical) ∧
    (∀ status, check status.1 = .error (readings status).1) ∧
    ∀ e, (readings.symm e).1 = e.1.code := by
  refine ⟨check_eq_meaning, check_eq_ok_iff, ?failed, check_code_iff,
    fun _ _ read => canonical_of_check read, ?reads, fun _ => rfl⟩
  case failed =>
    intro status failed
    exact ⟨ofCode status, check_of_ne_zero failed, code_ofCode status⟩
  case reads =>
    intro status
    exact check_of_ne_zero status.2

/-- A status without a name is read as itself and written back; a failure that keeps the code of a
timeout is none that is ever read. -/
theorem status_words_correspond_seventeen :
    (∃ e : Failure, check 17 = .error e ∧ e.code = 17) ∧ (other 17).Canonical ∧
      check (other 2006).code ≠ .error (other 2006) := by
  obtain ⟨-, -, failed, codes, canonical, -⟩ := status_words_correspond
  refine ⟨failed 17 (by decide), canonical 17 (other 17) rfl, fun read => ?_⟩
  exact ((codes (other 2006)).1 read).2 timeout trivial rfl

end PowerBridge.Eemi.Failure
