import Mathlib.Data.List.DropRight
import PowerBridge.Interrupt

/-!
# Registrations one after the other

A history of attempts to register an interrupt, and of resets, leaves what is held at its end. Only
what comes after the last reset counts: there the first number below the limit is the one that is
held, and it is refused to all later ones. If there is no reset, a registration that was held from
the start is held to the end.

Main statements: `after_eq` (what is held at the end), `result_eq` (what an attempt gives), and
`registrations_exact`.
-/

namespace PowerBridge.SgiRegistration

/-- An attempt to register an interrupt, or a reset. -/
structure Attempt where
  sgi : UInt32
  /-- The registration is cleared, whatever the number is. -/
  reset : Bool
  deriving DecidableEq, Repr

variable {limit : UInt32}

/-! ## One attempt -/

theorem register_reset (sgi limit : UInt32) (r : SgiRegistration) :
    r.register sgi true limit = (.ok (), .unregistered) := rfl

/-- While an interrupt is held every other one is refused, whatever its number is. -/
theorem register_of_held (held sgi limit : UInt32) :
    (registered held).register sgi false limit = (.error .busy, .registered held) := rfl

theorem register_of_lt {sgi : UInt32} (below : sgi < limit) :
    unregistered.register sgi false limit = (.ok (), .registered sgi) := by
  simp only [register, Bool.false_eq_true, if_false, if_pos below]

theorem register_of_not_lt {sgi : UInt32} (outside : ¬ sgi < limit) :
    unregistered.register sgi false limit = (.error (.invalidSgi sgi), .unregistered) := by
  simp only [register, Bool.false_eq_true, if_false, if_neg outside]

/-- An attempt that fails changes nothing. -/
theorem register_of_error {sgi limit : UInt32} {reset : Bool} {r : SgiRegistration} {e : SgiError}
    (failed : (r.register sgi reset limit).1 = .error e) :
    (r.register sgi reset limit).2 = r := by
  cases reset with
  -- a reset does not fail
  | true => cases failed
  | false =>
    cases r with
    | registered held => rfl
    | unregistered =>
      by_cases below : sgi < limit
      · rw [register_of_lt below] at failed
        cases failed
      · rw [register_of_not_lt below]

/-- A registration never holds a number from the limit on. -/
theorem lt_of_register {r : SgiRegistration} (below : ∀ n, r = .registered n → n < limit)
    (sgi : UInt32) (reset : Bool) :
    ∀ n, (r.register sgi reset limit).2 = .registered n → n < limit := by
  intro n held
  cases reset with
  | true => cases held
  | false =>
    cases r with
    | registered _ => exact below n held
    | unregistered =>
      by_cases inRange : sgi < limit
      · rw [register_of_lt inRange] at held
        cases held
        exact inRange
      · rw [register_of_not_lt inRange] at held
        cases held

/-- What an attempt gives, where something is held or not. A registration that is held is reported
before a number out of range. -/
theorem result_eq (r : SgiRegistration) (a : Attempt) (limit : UInt32) :
    (r.register a.sgi a.reset limit).1 =
      if a.reset = true then .ok ()
      else if r ≠ .unregistered then .error .busy
      else if limit ≤ a.sgi then .error (.invalidSgi a.sgi)
      else .ok () := by
  cases a.reset with
  | true => rfl
  | false =>
    cases r with
    | registered held => rfl
    | unregistered =>
      by_cases below : a.sgi < limit
      · simp [register_of_lt below, UInt32.not_le.2 below]
      · simp [register_of_not_lt below, UInt32.not_lt.1 below]

/-! ## Histories -/

/-- What is held after some attempts. -/
def after (limit : UInt32) (held : SgiRegistration) (attempts : List Attempt) : SgiRegistration :=
  attempts.foldl (fun held a => (held.register a.sgi a.reset limit).2) held

theorem after_concat (limit : UInt32) (held : SgiRegistration) (attempts : List Attempt)
    (a : Attempt) :
    after limit held (attempts ++ [a]) =
      ((after limit held attempts).register a.sgi a.reset limit).2 := by
  rw [after, List.foldl_append]
  rfl

/-- What the first of some attempts with a number below the limit leaves, if nothing is held. -/
def firstBelow (limit : UInt32) (attempts : List Attempt) : SgiRegistration :=
  match attempts.find? fun a => a.sgi < limit with
  | some a => .registered a.sgi
  | none => .unregistered

theorem firstBelow_concat (limit : UInt32) (attempts : List Attempt) (a : Attempt) :
    firstBelow limit (attempts ++ [a]) =
      ((firstBelow limit attempts).register a.sgi false limit).2 := by
  unfold firstBelow
  rw [List.find?_append]
  cases attempts.find? fun a => a.sgi < limit with
  -- the first one is held to the end
  | some first => rfl
  | none =>
    by_cases below : a.sgi < limit
    · simp [below, register_of_lt below]
    · simp [below, register_of_not_lt below]

/-- **What is held at the end of a history**: what was held at its start, if there was no reset;
otherwise what the attempts after the last reset leave, the first one below the limit being the one
that counts. -/
theorem after_eq (limit : UInt32) (start : SgiRegistration) (attempts : List Attempt) :
    after limit start attempts =
      if start ≠ .unregistered ∧ ∀ a ∈ attempts, a.reset = false then start
      else firstBelow limit (attempts.rtakeWhile fun a => !a.reset) := by
  -- from the end of the history, where the last reset is met first
  induction attempts using List.reverseRecOn with
  | nil => cases start <;> simp [after, firstBelow]
  | append_singleton attempts a ih =>
    rw [after_concat, ih]
    cases reset : a.reset with
    | true =>
      have cleared : ¬ ∀ b ∈ attempts ++ [a], b.reset = false := by
        intro none
        have kept := none a List.mem_concat_self
        rw [reset] at kept
        cases kept
      rw [register_reset, if_neg fun kept => cleared kept.2,
        List.rtakeWhile_concat_neg _ _ a (by simp [reset])]
      rfl
    | false =>
      have same : (∀ b ∈ attempts ++ [a], b.reset = false) ↔ ∀ b ∈ attempts, b.reset = false := by
        simp [or_imp, forall_and, reset]
      rw [List.rtakeWhile_concat_pos _ _ a (by simp [reset])]
      by_cases kept : start ≠ .unregistered ∧ ∀ b ∈ attempts, b.reset = false
      · obtain ⟨held, rfl⟩ : ∃ held, start = .registered held := by
          cases start with
          | unregistered => exact absurd rfl kept.1
          | registered held => exact ⟨held, rfl⟩
        rw [if_pos kept, if_pos ⟨kept.1, same.2 kept.2⟩, register_of_held]
      · rw [if_neg kept, if_neg fun kept' => kept ⟨kept'.1, same.1 kept'.2⟩, firstBelow_concat]

theorem lt_of_after {start : SgiRegistration} (below : ∀ n, start = .registered n → n < limit)
    (attempts : List Attempt) : ∀ n, after limit start attempts = .registered n → n < limit := by
  induction attempts using List.reverseRecOn with
  | nil => exact below
  | append_singleton attempts a ih =>
    rw [after_concat]
    exact lt_of_register ih a.sgi a.reset

/-- **Registrations over whole histories.** What is held at the end is what was held at the start if
there was no reset, and otherwise the first number below the limit after the last reset, or nothing
if there is none. At every point of the history a reset succeeds; any other attempt is refused as
busy if something is held then, otherwise as invalid if its number is not below the limit, and
otherwise succeeds. An attempt that fails changes nothing, and if the start is below the limit,
whatever is held later is, too. -/
theorem registrations_exact (limit : UInt32) (start : SgiRegistration) (attempts : List Attempt) :
    after limit start attempts =
      (if start ≠ .unregistered ∧ ∀ a ∈ attempts, a.reset = false then start
      else
        match (attempts.rtakeWhile fun a => !a.reset).find? fun a => a.sgi < limit with
        | some a => .registered a.sgi
        | none => .unregistered) ∧
    ∀ (earlier : List Attempt) (a : Attempt) (later : List Attempt),
      attempts = earlier ++ a :: later →
        let held := after limit start earlier
        let result := (held.register a.sgi a.reset limit).1
        let next := (held.register a.sgi a.reset limit).2
        (a.reset = true → result = .ok ()) ∧
        (a.reset = false →
          (result = .error .busy ↔ held ≠ .unregistered) ∧
          (result = .error (.invalidSgi a.sgi) ↔ held = .unregistered ∧ limit ≤ a.sgi) ∧
          (result = .ok () ↔ held = .unregistered ∧ a.sgi < limit)) ∧
        (result ≠ .ok () → next = held) ∧
        next = after limit start (earlier ++ [a]) ∧
        ((∀ n, start = .registered n → n < limit) → ∀ n, next = .registered n → n < limit) := by
  refine ⟨after_eq limit start attempts, fun earlier a later _ => ?_⟩
  intro held result next
  have given : result = _ := result_eq held a limit
  refine ⟨?reset, ?attempt, ?failed, (after_concat limit start earlier a).symm, ?below⟩
  case reset =>
    intro reset
    rw [given, if_pos reset]
  case attempt =>
    intro attempt
    rw [given, attempt]
    by_cases free : held = .unregistered
    · by_cases outside : limit ≤ a.sgi
      · simp [free, outside, UInt32.not_lt.2 outside]
      · simp [free, outside, UInt32.not_le.1 outside]
    · simp [free]
  case failed =>
    intro failed
    cases error : result with
    | ok _ => exact absurd error failed
    | error e => exact register_of_error error
  case below => exact fun below => lt_of_register (lt_of_after below earlier) a.sgi a.reset

/-- Interrupt 3 is held up to the reset. Then 16 is out of range, 7 is registered, and 2 is
refused. -/
theorem registrations_exact_sixteen :
    let attempts : List Attempt := [⟨5, false⟩, ⟨0, true⟩, ⟨16, false⟩, ⟨7, false⟩, ⟨2, false⟩]
    after 16 (.registered 3) attempts = .registered 7 ∧
      ((after 16 (.registered 3) (attempts.take 4)).register 2 false 16).1 = .error .busy ∧
      ∀ n, ((after 16 (.registered 3) (attempts.take 4)).register 2 false 16).2 = .registered n →
        n < 16 := by
  intro attempts
  obtain ⟨held, points⟩ := registrations_exact 16 (.registered 3) attempts
  obtain ⟨-, attempt, -, -, below⟩ := points (attempts.take 4) ⟨2, false⟩ [] rfl
  refine ⟨held.trans rfl, (attempt rfl).1.2 (by decide), below fun n start => ?_⟩
  cases start
  decide

end PowerBridge.SgiRegistration
