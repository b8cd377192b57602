import PowerBridge.Proofs.Link.Cells
import PowerBridge.Proofs.Link.Opened

/-!
# What operations write

The footprint of an operation on a mailbox channel is the list of cells that it writes. A request
takes up six words of the memory, or none if it does not fit there. The other operations that write
at all put the bit of the remote agent into one or two registers of the local one. So no operation
touches the registers of another agent, and a request ends before the response behind it begins.

On a channel that lacks an agent nothing is written, and nothing is read: what is answered does not
depend on the mailbox. Operations fault only on channels whose offsets leave the address range.

Main statements: `Mailbox.perform_updates`, `Mailbox.inRange_of_perform`, `Mailbox.footprint_exact`.
-/

namespace PowerBridge.Link

open Eemi (frameWords)

namespace Mailbox

variable {channel : Channel} {m : Mailbox} {r : Route}

/-! ## Routes of channels in range -/

/-- Where the messages of a channel lie, if its agents exist. -/
def route? (channel : Channel) (m : Mailbox) : Option Route :=
  match m.agents[channel.localId]?, m.agents[channel.remoteId]? with
  | some here, some there =>
    some { here, there, request := placeOf here there, callback := placeOf there here }
  | _, _ => none

theorem route?_eq_none_iff :
    m.route? channel = none ↔
      m.agents[channel.localId]? = none ∨ m.agents[channel.remoteId]? = none := by
  unfold route?
  cases m.agents[channel.localId]? <;> cases m.agents[channel.remoteId]? <;> simp

theorem InRange.route_of_route? (inRange : m.InRange channel) (found : m.route? channel = some r) :
    m.route channel = .ok (.ok r) := by
  unfold route? at found
  split at found
  · rename_i here there foundHere foundThere
    cases found
    exact inRange.route_eq foundHere foundThere
  · cases found

/-! ## Channels that lack an agent -/

theorem withRoute_of_missing {α : Type} (missing : m.route? channel = none) (other : α)
    (action : Route → α) : m.withRoute channel other action = .ok other := by
  unfold withRoute route
  rcases route?_eq_none_iff.1 missing with none | none
  · rw [none]
    rfl
  · rw [none]
    cases m.agents[channel.localId]? <;> rfl

theorem openChannel_of_missing (missing : m.route? channel = none) :
    m.openChannel channel = .ok (m.verdict channel, m) := by
  unfold openChannel route verdict
  rcases route?_eq_none_iff.1 missing with none | none
  · rw [none]
    rfl
  · rw [none]
    cases m.agents[channel.localId]? <;> rfl

/-- What is answered on a channel that lacks an agent. -/
def defaultAnswer (channel : Channel) (m : Mailbox) : Operation → Answer
  | .openChannel => .opened (m.verdict channel)
  | .isBusy | .isPending => .flag false
  | .readResponse values => .response 2000 values
  | .readCallback values => .callback values
  | .writeRequest _ | .trigger | .clearPending | .enableInterrupt => .done

/-- Where there is no route, for want of an agent or because of a fault, no operation does
anything. -/
theorem perform_of_no_route {result : Except Fault Unit}
    (opens : m.openChannel channel = result.map fun _ => (m.verdict channel, m))
    (route : ∀ {α : Type} (other : α) (action : Route → α),
      m.withRoute channel other action = result.map fun _ => other) (op : Operation) :
    op.perform channel m = result.map fun _ => (m.defaultAnswer channel op, m) := by
  cases op with
  | openChannel =>
    simp only [Operation.perform, Transport.openChannel, opens]
    cases result <;> rfl
  | writeRequest words =>
    simp only [Operation.perform, Transport.writeRequest, writeRequest, route]
    cases result <;> rfl
  | trigger | clearPending | enableInterrupt =>
    simp only [Operation.perform, Transport.trigger, Transport.clearPending,
      Transport.enableInterrupt, writeBit, route]
    cases result <;> rfl
  | isBusy | isPending =>
    simp only [Operation.perform, Transport.isBusy, Transport.isPending, testBit, route]
    cases result <;> rfl
  | readResponse values =>
    simp only [Operation.perform, Transport.readResponse, readResponse, route]
    cases result <;> rfl
  | readCallback values =>
    simp only [Operation.perform, Transport.readCallback, readCallback, route]
    cases result <;> rfl

/-- Operations on a channel that lacks an agent do nothing. -/
theorem perform_of_missing (missing : m.route? channel = none) (op : Operation) :
    op.perform channel m = .ok (m.defaultAnswer channel op, m) :=
  @perform_of_no_route channel m (.ok ()) (openChannel_of_missing missing)
    (withRoute_of_missing missing) op

/-! ## Channels that are out of range -/

theorem perform_of_fault {why : Fault} (faulted : m.route channel = .error why) (op : Operation) :
    op.perform channel m = .error why := by
  have opens : m.openChannel channel = .error why := by
    rw [openChannel, faulted]
    rfl
  have route {α : Type} (other : α) (action : Route → α) :
      m.withRoute channel other action = .error why := by
    rw [withRoute, faulted]
    rfl
  exact @perform_of_no_route channel m (.error why) opens route op

/-- Only on a channel in range does an operation end without a fault. -/
theorem inRange_of_perform {op : Operation} {result : Answer × Mailbox}
    (done : op.perform channel m = .ok result) : m.InRange channel := by
  intro here there foundHere foundThere
  cases routed : m.route channel with
  | error why =>
    rw [perform_of_fault routed] at done
    cases done
  | ok found =>
    rw [route, foundHere, foundThere] at routed
    obtain ⟨request, first, rest⟩ := exists_of_bind routed
    obtain ⟨callback, second, -⟩ := exists_of_bind rest
    exact ⟨(addressSum_eq_ok_iff.1 first).1, (addressSum_eq_ok_iff.1 second).1⟩

/-! ## Footprints -/

/-- The cells that an operation writes, with the words that it writes to them. -/
def footprint (op : Operation) (channel : Channel) (m : Mailbox) : List (Cell × UInt32) :=
  match m.route? channel with
  | none => []
  | some r =>
    match op with
    | .openChannel =>
      match m.verdict channel with
      | .ok () =>
        [(.register channel.localId .status, r.there.bit),
          (.register channel.localId .disable, r.there.bit)]
      | .error _ => []
    | .writeRequest words =>
      -- a request is written as a whole or not at all
      if r.request + 6 ≤ m.memory.size then wordCells r.request words.toList else []
    | .trigger => [(.register channel.localId .trigger, r.there.bit)]
    | .clearPending => [(.register channel.localId .status, r.there.bit)]
    | .enableInterrupt => [(.register channel.localId .enable, r.there.bit)]
    | .isBusy | .readResponse _ | .readCallback _ | .isPending => []

theorem updated_writeBit (found : m.route channel = .ok (.ok r)) (name : RegisterName) :
    ∃ m', m.writeBit name channel = .ok m' ∧
      m.Updated [(.register channel.localId name, r.there.bit)] m' := by
  obtain ⟨⟨here, -⟩, -⟩ := route_eq_ok_iff.1 found
  exact ⟨_, withRoute_of_route found _ _, updated_setRegister here name r.there.bit⟩

theorem updated_writeRequest (found : m.route channel = .ok (.ok r))
    (words : Vector UInt32 frameWords) :
    ∃ m', m.writeRequest channel words = .ok m' ∧
      m.Updated (if r.request + 6 ≤ m.memory.size then wordCells r.request words.toList else [])
        m' := by
  refine ⟨_, withRoute_of_route found _ _, ?_⟩
  by_cases inside : r.request + 6 ≤ m.memory.size
  · have fit : fits m.memory r.request frameWords = true := decide_eq_true inside
    rw [if_pos fit, if_pos inside]
    exact updated_setWords (words.length_toList.symm ▸ inside)
  · have unfit : ¬ fits m.memory r.request frameWords = true :=
      fun fit => inside (of_decide_eq_true fit)
    rw [if_neg unfit, if_neg inside]
    exact .refl m

theorem updated_of_openChannel (found : m.route channel = .ok (.ok r)) {m' : Mailbox}
    (opened : m.openChannel channel = .ok (.ok (), m')) :
    m.Updated
      [(.register channel.localId .status, r.there.bit),
        (.register channel.localId .disable, r.there.bit)] m' := by
  obtain ⟨⟨here, -⟩, -⟩ := route_eq_ok_iff.1 found
  unfold openChannel at opened
  rw [found] at opened
  simp only [bind, Except.bind] at opened
  split at opened
  · cases opened
    -- interrupts are masked first, and the agent is still there after that
    have masked := layout_setRegister channel.localId .disable r.there.bit m
    obtain ⟨_, here', -⟩ := exists_agent_of_layout masked here
    exact (updated_setRegister here .disable r.there.bit).trans
      (updated_setRegister here' .status r.there.bit)
  · cases opened

/-- **An operation writes its footprint**, and nothing else. -/
theorem perform_updates (inRange : m.InRange channel) (op : Operation) :
    ∃ answer m', op.perform channel m = .ok (answer, m') ∧
      m.Updated (m.footprint op channel) m' := by
  unfold footprint
  cases found : m.route? channel with
  | none => exact ⟨_, m, perform_of_missing found op, .refl m⟩
  | some r =>
    have routed := inRange.route_of_route? found
    -- an operation that gives nothing but another mailbox
    have done {x : Except Fault Mailbox} {writes : List (Cell × UInt32)}
        (wrote : ∃ m', x = .ok m' ∧ m.Updated writes m') :
        ∃ answer m', (do return (Answer.done, ← x)) = Except.ok (answer, m') ∧
          m.Updated writes m' := by
      obtain ⟨m', rfl, updated⟩ := wrote
      exact ⟨.done, m', rfl, updated⟩
    cases op with
    | openChannel =>
      obtain ⟨m', opened, unchanged⟩ := openChannel_eq_verdict inRange
      refine ⟨.opened (m.verdict channel), m', ?_, ?_⟩
      · simp only [Operation.perform, Transport.openChannel, opened]
        rfl
      · dsimp only
        cases verdict : m.verdict channel with
        | ok =>
          rw [verdict] at opened
          exact updated_of_openChannel routed opened
        | error why =>
          rw [unchanged (by simp [verdict])]
          exact .refl m
    | writeRequest words => exact done (updated_writeRequest routed words)
    | trigger => exact done (updated_writeBit routed .trigger)
    | clearPending => exact done (updated_writeBit routed .status)
    | enableInterrupt => exact done (updated_writeBit routed .enable)
    | isBusy | isPending =>
      have tested (register : Registers → UInt32) :
          ∃ flag, m.testBit register channel = .ok flag := ⟨_, withRoute_of_route routed _ _⟩
      obtain ⟨busy, polled⟩ := tested Registers.observation
      obtain ⟨pending, looked⟩ := tested Registers.status
      simp only [Operation.perform, Transport.isBusy, Transport.isPending, polled, looked]
      exact ⟨_, m, rfl, .refl m⟩
    | readResponse values =>
      simp only [Operation.perform, Transport.readResponse, readResponse_of_route routed]
      exact ⟨_, m, rfl, .refl m⟩
    | readCallback values =>
      simp only [Operation.perform, Transport.readCallback, readCallback_of_route routed]
      exact ⟨_, m, rfl, .refl m⟩

/-- Operations fault on channels out of range, and only there. -/
theorem perform_faults_iff {op : Operation} :
    (∃ why, op.perform channel m = .error why) ↔ ¬ m.InRange channel := by
  constructor
  · rintro ⟨why, faulted⟩ inRange
    obtain ⟨answer, m', done, -⟩ := perform_updates inRange op
    rw [done] at faulted
    cases faulted
  · intro outside
    cases done : op.perform channel m with
    | error why => exact ⟨why, rfl⟩
    | ok result => exact (outside fun {_ _} => inRange_of_perform done).elim

/-! ## What is left alone -/

/-- Of all registers only those of the local agent are written. -/
theorem lookup_footprint_register (op : Operation) {agent : Nat} (other : agent ≠ channel.localId)
    (name : RegisterName) : (m.footprint op channel).lookup (.register agent name) = none := by
  have single (name' : RegisterName) (value : UInt32) :
      [(Cell.register channel.localId name', value)].lookup (.register agent name) = none := by
    rw [lookup_single, if_neg (by simp [other])]
  unfold footprint
  split
  · rfl
  · cases op with
    | openChannel =>
      dsimp only
      split
      · rw [lookup_cons_of_ne (by simp [other])]
        exact single _ _
      · rfl
    | writeRequest words =>
      dsimp only
      split
      · exact lookup_wordCells_register _ _ _ _
      · rfl
    | trigger | clearPending | enableInterrupt => exact single _ _
    | isBusy | readResponse | readCallback | isPending => rfl

/-- The memory is written by requests only. -/
theorem lookup_footprint_word {op : Operation} (other : ∀ words, op ≠ .writeRequest words)
    (i : Nat) : (m.footprint op channel).lookup (.word i) = none := by
  unfold footprint
  split
  · rfl
  · cases op with
    | openChannel =>
      dsimp only
      split <;> rfl
    | writeRequest words => exact absurd rfl (other words)
    | trigger | clearPending | enableInterrupt => rfl
    | isBusy | readResponse | readCallback | isPending => rfl

/-- A request ends before the response behind it begins. -/
theorem lookup_wordCells_of_behind {start i : Nat} (behind : start + 8 ≤ i)
    (words : Vector UInt32 frameWords) :
    (wordCells start words.toList).lookup (.word i) = none := by
  have length : words.toList.length = 6 := words.length_toList
  rw [lookup_wordCells, if_pos (by omega), List.getElem?_eq_none (by omega)]

/-- A response is read as before if its words are not written. -/
theorem readResponse_of_updated {writes : List (Cell × UInt32)} {m' : Mailbox}
    (updated : m.Updated writes m') (found : m.route channel = .ok (.ok r))
    (unwritten : ∀ i, r.request + 8 ≤ i → writes.lookup (.word i) = none) {n : Nat}
    (values : Vector UInt32 n) :
    m'.readResponse channel values = m.readResponse channel values := by
  obtain ⟨r', found', request, -⟩ := route_of_layout updated.layout found
  rw [readResponse_of_route found, readResponse_of_route found', request]
  exact congrArg Except.ok (responseAt_congr (congrArg Prod.fst updated.layout)
    (fun i behind => updated.kept (unwritten i behind)) values)

theorem readResponse_of_writeRequest {words : Vector UInt32 frameWords} {written : Mailbox}
    (wrote : m.writeRequest channel words = .ok written) {n : Nat} (values : Vector UInt32 n) :
    written.readResponse channel values = m.readResponse channel values := by
  rcases withRoute_eq_ok wrote with rfl | ⟨r, found, -⟩
  · rfl
  obtain ⟨m', wrote', updated⟩ := updated_writeRequest found words
  cases wrote.symm.trans wrote'
  refine readResponse_of_updated updated found (fun i behind => ?_) values
  split
  · exact lookup_wordCells_of_behind behind words
  · rfl

/-- A register is tested as before if it is not written. -/
theorem testBit_of_updated {writes : List (Cell × UInt32)} {m' : Mailbox}
    (updated : m.Updated writes m') (found : m.route channel = .ok (.ok r)) {name : RegisterName}
    (unwritten : writes.lookup (.register channel.localId name) = none) :
    m'.testBit (Registers.get name) channel = m.testBit (Registers.get name) channel := by
  obtain ⟨⟨foundHere, foundThere⟩, -⟩ := route_eq_ok_iff.1 found
  obtain ⟨r', found', -⟩ := route_of_layout updated.layout found
  obtain ⟨⟨foundHere', foundThere'⟩, -⟩ := route_eq_ok_iff.1 found'
  -- the bit of the remote agent belongs to the layout
  have bit : r'.there.bit = r.there.bit := by
    obtain ⟨there, again, same, -⟩ := exists_agent_of_layout updated.layout foundThere
    cases foundThere'.symm.trans again
    exact same
  have register : r'.here.registers.get name = r.here.registers.get name := by
    have kept := updated.kept unwritten
    simpa only [cell?, foundHere, foundHere', Option.map_some, Option.some.injEq] using kept
  unfold testBit
  rw [withRoute_of_route found, withRoute_of_route found']
  simp only [register, bit]

/-- **Footprints are exact.** On a channel whose offsets add up within the address range every
operation ends, and writes its footprint. With an empty one it changes nothing, such as an attempt
to open that fails, a poll or a read. The registers of the remote agent, if it is not the local one,
are never written. If an agent does not exist nothing changes, and the answers are default ones. A
response is read as before a request is written on the same channel. -/
theorem footprint_exact (inRange : m.InRange channel) :
    (∀ op : Operation, ∃ answer m', op.perform channel m = .ok (answer, m') ∧
      m.Updated (m.footprint op channel) m' ∧
      (m.footprint op channel = [] → m' = m) ∧
      (channel.localId ≠ channel.remoteId → ∀ name,
        m'.cell? (.register channel.remoteId name) = m.cell? (.register channel.remoteId name)) ∧
      (op = .openChannel → answer = .opened (m.verdict channel)) ∧
      (m.agents[channel.localId]? = none ∨ m.agents[channel.remoteId]? = none →
        m' = m ∧ (op = .isBusy ∨ op = .isPending → answer = .flag false) ∧
          ∀ values, op = .readResponse values → answer = .response 2000 values)) ∧
    ∀ (words : Vector UInt32 frameWords) (written : Mailbox),
      m.writeRequest channel words = .ok written → ∀ {n : Nat} (values : Vector UInt32 n),
        written.readResponse channel values = m.readResponse channel values := by
  refine ⟨fun op => ?_, fun words written wrote n => readResponse_of_writeRequest wrote⟩
  obtain ⟨answer, m', done, updated⟩ := perform_updates inRange op
  refine ⟨answer, m', done, updated, ?empty, ?remote, ?opens, ?missing⟩
  case empty =>
    intro empty
    rw [empty] at updated
    exact (Updated.refl m).unique updated
  case remote => exact fun other name => updated.kept (lookup_footprint_register op other.symm name)
  case opens =>
    rintro rfl
    obtain ⟨opened, answered, -⟩ := openChannel_eq_verdict inRange
    simp only [Operation.perform, Transport.openChannel, answered] at done
    cases done
    rfl
  case missing =>
    intro missing
    cases done.symm.trans (perform_of_missing (route?_eq_none_iff.2 missing) op)
    refine ⟨rfl, ?_, ?_⟩
    · rintro (rfl | rfl) <;> rfl
    · rintro values rfl
      rfl

/-- A request is written up to the last word of the memory. If the memory is one word shorter, none
of it is. -/
theorem footprint_to_the_end :
    let m (words : Nat) := uneven (Array.replicate words 0)
    let request := #v[1, 2, 3, 4, 5, 6]
    (∃ answer m', (Operation.writeRequest request).perform ⟨0, 1⟩ (m 22) = .ok (answer, m') ∧
      (m 22).Updated
        [(.word 16, 1), (.word 17, 2), (.word 18, 3), (.word 19, 4), (.word 20, 5), (.word 21, 6)]
        m') ∧
    ∃ answer, (Operation.writeRequest request).perform ⟨0, 1⟩ (m 21) = .ok (answer, m 21) := by
  intro m request
  constructor
  · obtain ⟨answer, m', done, updated, -⟩ :=
      (footprint_exact (inRange_uneven (Array.replicate 22 0))).1 (.writeRequest request)
    exact ⟨answer, m', done, updated⟩
  · obtain ⟨answer, m', done, -, unchanged, -⟩ :=
      (footprint_exact (inRange_uneven (Array.replicate 21 0))).1 (.writeRequest request)
    rw [unchanged rfl] at done
    exact ⟨answer, done⟩

end Mailbox

end PowerBridge.Link
