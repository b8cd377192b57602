import PowerBridge.Proofs.Link.Reads

/-!
# Channels that have been opened

To open a mailbox channel is to check it: that its agents exist, and that the messages in both
directions lie in the memory. The memory needs room for a whole message, 17 words from where
requests lie, and for the four words of a callback. What is checked once stays so, since no
operation moves a buffer. So every later operation on the channel reads and writes words of the
memory, and none of them falls back on what is given for messages outside of it.

Main statements: `openChannel_eq_verdict`, `Placed.accessible`, `placed_of_openChannel`.
-/

namespace PowerBridge.Link

open Eemi (Callback frameWords)

/-! ## Histories -/

/-- The transport after some steps, if none of them faults. -/
def after {T : Type} [Transport T] (t : T) (steps : List (Step T)) : Except Fault T :=
  steps.foldlM (fun t step => (step.take t).map Prod.snd) t

/-- What every step keeps is kept by all of them. -/
theorem after_invariant {T : Type} [Transport T] {I : T → Prop} {steps : List (Step T)}
    (keep : ∀ step ∈ steps, ∀ {t answer t'}, I t → step.take t = .ok (answer, t') → I t') {t t' : T}
    (start : I t) (done : after t steps = .ok t') : I t' := by
  induction steps generalizing t with
  | nil =>
    cases done
    exact start
  | cons step rest ih =>
    rw [after, List.foldlM_cons] at done
    cases taken : step.take t with
    | error why =>
      rw [taken] at done
      cases done
    | ok next =>
      rw [taken] at done
      have kept := keep step List.mem_cons_self start taken
      exact ih (fun step mem => keep step (List.mem_cons_of_mem _ mem)) kept done

namespace Mailbox

/-- A step that leaves the buffers of the agents where they are, and the memory its size. -/
def KeepsLayout : Step Mailbox → Prop
  | .outside change => ∀ m : Mailbox, (change m).layout = m.layout
  | .operate _ _ => True

theorem exists_of_bind {α β : Type} {x : Except Fault α} {f : α → Except Fault β} {b : β}
    (done : (x >>= f) = .ok b) : ∃ a, x = .ok a ∧ f a = .ok b := by
  cases x with
  | error why => cases done
  | ok a => exact ⟨a, rfl, done⟩

/-- No operation moves a buffer. -/
theorem layout_of_perform {op : Operation} {channel : Channel} {m m' : Mailbox} {answer : Answer}
    (done : op.perform channel m = .ok (answer, m')) : m'.layout = m.layout := by
  cases op with
  | openChannel =>
    obtain ⟨_, opened, last⟩ := exists_of_bind done
    cases last
    exact (layout_of_openChannel opened).1
  | writeRequest words =>
    obtain ⟨_, wrote, last⟩ := exists_of_bind done
    cases last
    exact layout_of_writeRequest wrote
  | trigger | clearPending | enableInterrupt =>
    obtain ⟨_, wrote, last⟩ := exists_of_bind done
    cases last
    exact layout_of_writeBit wrote
  | isPending | readCallback values =>
    obtain ⟨_, -, last⟩ := exists_of_bind done
    cases last
    rfl
  | isBusy | readResponse values =>
    -- the mailbox is given back as it was
    obtain ⟨_, looked, last⟩ := exists_of_bind done
    obtain ⟨_, -, same⟩ := exists_of_bind looked
    cases same
    cases last
    rfl

theorem layout_of_take {step : Step Mailbox} (keeps : KeepsLayout step) {m m' : Mailbox}
    {answer : Answer} (taken : step.take m = .ok (answer, m')) : m'.layout = m.layout := by
  cases step with
  | outside change =>
    cases taken
    exact keeps m
  | operate op channel => exact layout_of_perform taken

theorem layout_of_after {m m' : Mailbox} {steps : List (Step Mailbox)}
    (keep : ∀ step ∈ steps, KeepsLayout step) (done : after m steps = .ok m') :
    m'.layout = m.layout :=
  after_invariant (I := fun later => later.layout = m.layout)
    (fun step mem _ _ _ same taken => (layout_of_take (keep step mem) taken).trans same) rfl done

/-! ## The verdict -/

/-- Where the messages of an agent to another one lie, in words. -/
def placeOf (sender receiver : Agent) : Nat :=
  (sender.bufferOffset.toNat + receiver.targetOffset.toNat) / 4

/-- What becomes of an attempt to open a channel. -/
def verdict (channel : Channel) (m : Mailbox) : Except OpenError Unit :=
  match m.agents[channel.localId]?, m.agents[channel.remoteId]? with
  | none, _ => .error (.invalidAgent channel.localId)
  | some _, none => .error (.invalidAgent channel.remoteId)
  | some here, some there =>
    if placeOf here there + 17 ≤ m.memory.size ∧ placeOf there here + 4 ≤ m.memory.size then .ok ()
    else .error (.bufferOutOfRange channel.remoteId)

theorem InRange.route_eq {channel : Channel} {m : Mailbox} (inRange : m.InRange channel)
    {here there : Agent} (foundHere : m.agents[channel.localId]? = some here)
    (foundThere : m.agents[channel.remoteId]? = some there) :
    m.route channel = .ok (.ok
      { here, there
        request := placeOf here there
        callback := placeOf there here }) :=
  route_eq_ok_iff.2 ⟨⟨foundHere, foundThere⟩, inRange foundHere foundThere, rfl, rfl⟩

/-- **A channel is opened exactly if its messages lie in the memory.** An attempt that fails changes
nothing. -/
theorem openChannel_eq_verdict {channel : Channel} {m : Mailbox} (inRange : m.InRange channel) :
    ∃ m', m.openChannel channel = .ok (m.verdict channel, m') ∧
      (m.verdict channel ≠ .ok () → m' = m) := by
  unfold openChannel verdict
  cases here : m.agents[channel.localId]? with
  | none =>
    have missing : m.route channel = .ok (.error (.invalidAgent channel.localId)) := by
      rw [route, here]
    rw [missing]
    exact ⟨m, rfl, fun _ => rfl⟩
  | some a =>
    cases there : m.agents[channel.remoteId]? with
    | none =>
      have missing : m.route channel = .ok (.error (.invalidAgent channel.remoteId)) := by
        rw [route, here, there]
      rw [missing]
      exact ⟨m, rfl, fun _ => rfl⟩
    | some b =>
      rw [inRange.route_eq here there]
      simp only [bind, Except.bind, fits, Bool.and_eq_true, decide_eq_true_eq]
      by_cases fit : placeOf a b + 17 ≤ m.memory.size ∧ placeOf b a + 4 ≤ m.memory.size
      · have fit' : placeOf a b + messageWords ≤ m.memory.size ∧
          placeOf b a + callbackWords ≤ m.memory.size := fit
        rw [if_pos fit, if_pos fit']
        exact ⟨_, rfl, fun failed => absurd rfl failed⟩
      · have fit' : ¬ (placeOf a b + messageWords ≤ m.memory.size ∧
          placeOf b a + callbackWords ≤ m.memory.size) := fit
        rw [if_neg fit, if_neg fit']
        exact ⟨m, rfl, fun _ => rfl⟩

/-! ## Messages that lie in the memory -/

/-- A channel has its messages at some places, and they lie in the memory. -/
structure Placed (channel : Channel) (request callback : Nat) (m : Mailbox) : Prop where
  routed : ∃ r, m.route channel = .ok (.ok r) ∧ r.request = request ∧ r.callback = callback
  requestFits : request + messageWords ≤ m.memory.size
  callbackFits : callback + callbackWords ≤ m.memory.size

/-- Operations on a channel work on the memory: a request is stored as a whole, and of a response or
callback the words are read that are there. -/
structure Accessible (channel : Channel) (request callback : Nat) (m : Mailbox) : Prop where
  writes : ∀ words : Vector UInt32 frameWords, ∃ m', m.writeRequest channel words = .ok m' ∧
    window? m'.memory request frameWords = some words
  /-- Eight places at most are filled, the others keep what they had. -/
  reads : ∀ {n : Nat} (values : Vector UInt32 n), ∃ status read,
    m.readResponse channel values = .ok (status, read) ∧
      m.memory[request + 8]? = some status ∧
      ∀ i (place : i < n),
        (i < 8 → m.memory[request + 9 + i]? = some read[i]) ∧ (8 ≤ i → read[i] = values[i])
  calls : ∀ values : Callback, ∃ c, m.readCallback channel values = .ok c ∧
    m.memory[callback]? = some c.kind ∧ m.memory[callback + 1]? = some c.target ∧
      m.memory[callback + 2]? = some c.event ∧ m.memory[callback + 3]? = some c.detail

namespace Placed

variable {channel : Channel} {request callback : Nat} {m m' : Mailbox}

theorem of_layout (same : m'.layout = m.layout) (placed : m.Placed channel request callback) :
    m'.Placed channel request callback := by
  obtain ⟨⟨r, found, rfl, rfl⟩, requestFits, callbackFits⟩ := placed
  obtain ⟨r', found', request, callback⟩ := route_of_layout same found
  have size : m'.memory.size = m.memory.size := congrArg Prod.fst same
  rw [← size] at requestFits callbackFits
  exact ⟨⟨r', found', request, callback⟩, requestFits, callbackFits⟩

theorem writes (placed : m.Placed channel request callback) (words : Vector UInt32 frameWords) :
    ∃ m', m.writeRequest channel words = .ok m' ∧
      window? m'.memory request frameWords = some words := by
  obtain ⟨⟨r, found, rfl, rfl⟩, requestFits, -⟩ := placed
  have inside : r.request + frameWords ≤ m.memory.size :=
    Nat.le_trans (Nat.add_le_add_left (by decide) _) requestFits
  have fit : fits m.memory r.request frameWords = true := decide_eq_true inside
  refine ⟨m.setWords r.request words.toList, ?_, window?_storeWords _ _ _ inside⟩
  rw [writeRequest, withRoute_of_route found, if_pos fit]

theorem reads (placed : m.Placed channel request callback) {n : Nat} (values : Vector UInt32 n) :
    ∃ status read, m.readResponse channel values = .ok (status, read) ∧
      m.memory[request + 8]? = some status ∧
      ∀ i (place : i < n),
        (i < 8 → m.memory[request + 9 + i]? = some read[i]) ∧ (8 ≤ i → read[i] = values[i]) := by
  obtain ⟨⟨r, found, rfl, rfl⟩, requestFits, -⟩ := placed
  have inside : r.request + 8 + 1 + min n 8 ≤ m.memory.size := by
    simp only [messageWords, responseOffset, maxResponseWords] at requestFits
    omega
  rw [readResponse_of_route found, responseAt, dif_pos inside]
  refine ⟨_, _, rfl, Array.getElem?_eq_getElem _, fun i place => ⟨fun filled => ?_, fun kept => ?_⟩⟩
  · have read : i < min n 8 := Nat.lt_min.2 ⟨place, filled⟩
    rw [Vector.getElem_ofFn, dif_pos read]
    exact Array.getElem?_eq_getElem _
  · have unread : ¬ i < min n 8 := fun read => Nat.not_lt.2 kept (Nat.lt_min.1 read).2
    rw [Vector.getElem_ofFn, dif_neg unread]
    rfl

theorem calls (placed : m.Placed channel request callback) (values : Callback) :
    ∃ c, m.readCallback channel values = .ok c ∧
      m.memory[callback]? = some c.kind ∧ m.memory[callback + 1]? = some c.target ∧
        m.memory[callback + 2]? = some c.event ∧ m.memory[callback + 3]? = some c.detail := by
  obtain ⟨⟨r, found, rfl, rfl⟩, -, callbackFits⟩ := placed
  have inside : r.callback + 4 ≤ m.memory.size := callbackFits
  rw [readCallback_of_route found, callbackAt, dif_pos inside]
  exact ⟨_, rfl, Array.getElem?_eq_getElem _, Array.getElem?_eq_getElem _,
    Array.getElem?_eq_getElem _, Array.getElem?_eq_getElem _⟩

/-- **No operation on such a channel falls back** on what is given for messages outside the
memory. -/
theorem accessible (placed : m.Placed channel request callback) :
    m.Accessible channel request callback :=
  ⟨placed.writes, placed.reads, placed.calls⟩

end Placed

/-! ## After a channel has been opened -/

/-- The messages of a channel that has been opened lie in the memory. -/
theorem placed_of_openChannel {channel : Channel} {m m' : Mailbox}
    (opened : m.openChannel channel = .ok (.ok (), m')) :
    ∃ request callback, m.Placed channel request callback := by
  obtain ⟨found, routed, checked⟩ := exists_of_bind opened
  cases found with
  | error missing => cases checked
  | ok r =>
    dsimp only at checked
    split at checked
    · rename_i fit
      simp only [fits, Bool.and_eq_true, decide_eq_true_eq] at fit
      exact ⟨r.request, r.callback, ⟨r, routed, rfl, rfl⟩, fit.1, fit.2⟩
    · cases checked

/-- An attempt that fails changes nothing. -/
theorem eq_of_openChannel_error {channel : Channel} {m m' : Mailbox} {e : OpenError}
    (refused : m.openChannel channel = .ok (.error e, m')) : m' = m := by
  obtain ⟨found, -, checked⟩ := exists_of_bind refused
  cases found with
  | error missing =>
    cases checked
    rfl
  | ok r =>
    dsimp only at checked
    split at checked
    · cases checked
    · cases checked
      rfl

theorem placed_of_verdict {channel : Channel} {m : Mailbox} (inRange : m.InRange channel)
    (ok : m.verdict channel = .ok ()) :
    ∃ here there, m.agents[channel.localId]? = some here ∧
      m.agents[channel.remoteId]? = some there ∧
        m.Placed channel (placeOf here there) (placeOf there here) := by
  unfold verdict at ok
  split at ok
  · cases ok
  · cases ok
  · rename_i here there foundHere foundThere
    split at ok
    · rename_i fit
      exact ⟨here, there, foundHere, foundThere,
        ⟨_, inRange.route_eq foundHere foundThere, rfl, rfl⟩, fit.1, fit.2⟩
    · cases ok

end Mailbox

end PowerBridge.Link
