import PowerBridge.Proofs.Link.Footprint

/-!
# The two ends of a channel

Seen from its other end a channel has its agents in each other's places: what one end writes as a
request the other one reads as a callback. So a request that is written at one end is found as a
callback at the other, whatever happens to the mailbox in between, as long as no request is written.

Main statements: `Mailbox.memory_of_after`, `Mailbox.callback_reads_request`.
-/

namespace PowerBridge.Link

open Eemi (Callback frameWords)

namespace Mailbox

variable {channel : Channel} {m m' : Mailbox}

/-! ## Steps that write no request -/

/-- A step that leaves the memory as it is. -/
def KeepsMemory : Step Mailbox → Prop
  | .outside change => ∀ m : Mailbox, (change m).layout = m.layout ∧ (change m).memory = m.memory
  | .operate op _ => ∀ words, op ≠ .writeRequest words

theorem KeepsMemory.keepsLayout {step : Step Mailbox} (keeps : KeepsMemory step) :
    KeepsLayout step := by
  cases step with
  | outside change => exact fun m => (keeps m).1
  | operate op channel => trivial

theorem memory_of_take {step : Step Mailbox} (keeps : KeepsMemory step) {answer : Answer}
    (taken : step.take m = .ok (answer, m')) : m'.memory = m.memory := by
  cases step with
  | outside change =>
    cases taken
    exact (keeps m).2
  | operate op channel =>
    obtain ⟨_, _, done, updated⟩ := perform_updates (inRange_of_perform taken) op
    cases done.symm.trans taken
    exact Array.ext_getElem? fun i => updated.kept (lookup_footprint_word keeps i)

theorem memory_of_after {steps : List (Step Mailbox)} (keep : ∀ step ∈ steps, KeepsMemory step)
    (done : after m steps = .ok m') : m'.memory = m.memory :=
  after_invariant (I := fun later => later.memory = m.memory)
    (fun step mem _ _ _ same taken => (memory_of_take (keep step mem) taken).trans same) rfl done

/-! ## Requests as callbacks -/

/-- What has been written as a request is read where it starts. -/
theorem callbackAt_of_writeRequest {words : Vector UInt32 frameWords} {written : Mailbox}
    (wrote : m.writeRequest channel words = .ok written) {r : Route}
    (found : written.route channel = .ok (.ok r)) (inside : r.request + 6 ≤ written.memory.size)
    (values : Callback) :
    callbackAt written.memory r.request values = ⟨words[0], words[1], words[2], words[3]⟩ := by
  obtain ⟨read, window, lookup⟩ := window?_of_inside (n := frameWords) inside
  cases window.symm.trans ((window?_of_writeRequest wrote found).2 inside)
  have fits : r.request + 4 ≤ written.memory.size := by omega
  rw [callbackAt, dif_pos fits, Callback.mk.injEq]
  exact ⟨(lookup 0 (by decide)).symm, (lookup 1 (by decide)).symm, (lookup 2 (by decide)).symm,
    (lookup 3 (by decide)).symm⟩

/-- **The two ends of a channel agree on where messages lie.** The callbacks of a channel start
where the requests of the channel from its other end do. A request that is written there, if it fits
into the memory, is read as a callback, four words of it, after any steps that write no other
request. -/
theorem callback_reads_request {a b : Nat} {first second : Agent}
    (foundFirst : m.agents[a]? = some first) (foundSecond : m.agents[b]? = some second)
    (inRange : m.InRange ⟨a, b⟩) :
    ∃ r r', m.route ⟨a, b⟩ = .ok (.ok r) ∧ m.route ⟨b, a⟩ = .ok (.ok r') ∧
      r.callback = r'.request ∧
      (r'.request + 6 ≤ m.memory.size → ∀ words : Vector UInt32 frameWords,
        ∃ written, m.writeRequest ⟨b, a⟩ words = .ok written ∧
          ∀ (steps : List (Step Mailbox)) later, (∀ step ∈ steps, KeepsMemory step) →
            after written steps = .ok later → ∀ values,
              later.readCallback ⟨a, b⟩ values = .ok ⟨words[0], words[1], words[2], words[3]⟩) := by
  have route := inRange.route_eq foundFirst foundSecond
  have inRange' : m.InRange ⟨b, a⟩ := fun found found' => (inRange found' found).symm
  have route' := inRange'.route_eq foundSecond foundFirst
  refine ⟨_, _, route, route', rfl, fun inside words => ?_⟩
  obtain ⟨written, wrote, -⟩ := updated_writeRequest route' words
  refine ⟨written, wrote, fun steps later keep ran values => ?_⟩
  have agents := agents_of_writeRequest wrote
  have layout := layout_of_writeRequest wrote
  -- neither the buffers nor their words have changed since the request was written
  have layout' := layout_of_after (fun step mem => (keep step mem).keepsLayout) ran
  obtain ⟨r, found, -, callback⟩ := route_of_layout (layout'.trans layout) route
  have inside' : placeOf second first + 6 ≤ written.memory.size := by
    rw [show written.memory.size = m.memory.size from congrArg Prod.fst layout]
    exact inside
  rw [readCallback_of_route found, memory_of_after keep ran, callback]
  exact congrArg Except.ok
    (callbackAt_of_writeRequest wrote ((route_of_agents agents _).trans route') inside' values)

/-- A request that fills the memory up to its end is read at the other end after a trigger, an
attempt to open that fails, and an operation on a channel that lacks an agent. -/
theorem callback_reads_request_uneven :
    let m := uneven (Array.replicate 8 0)
    let steps : List (Step Mailbox) :=
      [.operate .trigger ⟨1, 0⟩, .operate .openChannel ⟨0, 1⟩, .operate .clearPending ⟨0, 7⟩]
    ∃ written later, m.writeRequest ⟨1, 0⟩ #v[30, 1, 2, 3, 4, 5] = .ok written ∧
      after written steps = .ok later ∧
      later.readCallback ⟨0, 1⟩ .zero = .ok ⟨30, 1, 2, 3⟩ := by
  intro m steps
  obtain ⟨r, r', -, route', -, delivered⟩ :=
    @callback_reads_request m 0 1 _ _ rfl rfl (inRange_uneven _)
  cases route'
  obtain ⟨written, wrote, read⟩ := delivered (by decide) #v[30, 1, 2, 3, 4, 5]
  have keep : ∀ step ∈ steps, KeepsMemory step := by simp [steps, KeepsMemory]
  obtain ⟨later, ran⟩ : ∃ later, after written steps = .ok later := by
    cases wrote
    exact ⟨_, rfl⟩
  exact ⟨written, later, wrote, ran, read steps later keep ran .zero⟩

end Mailbox

end PowerBridge.Link
