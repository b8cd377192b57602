import PowerBridge.Link.Mailbox

/-!
# Where the messages of a mailbox lie

Agents and memory are laid out once and for all: no operation of a mailbox moves a buffer, or
changes the size of the memory. So a channel whose messages lie in the memory once lies there for
ever.

A request that is written is read back from its window, if the window lies in the memory. Otherwise
nothing is written.

Main statements: `window?_storeWords` (words that are stored are read back),
`MessagesFit.of_layout`, `window?_of_writeRequest`.
-/

namespace PowerBridge.Link

open Eemi (frameWords)

/-! ## Stored words -/

theorem size_storeWords (memory : Array UInt32) (start : Nat) (words : List UInt32) :
    (storeWords memory start words).size = memory.size := by
  induction words generalizing memory start with
  | nil => rfl
  | cons word rest ih => rw [storeWords, ih, Array.size_setIfInBounds]

/-- What lies before the stored words stays. -/
theorem getElem?_storeWords_of_lt (memory : Array UInt32) {start i : Nat} (before : i < start)
    (words : List UInt32) : (storeWords memory start words)[i]? = memory[i]? := by
  induction words generalizing memory start with
  | nil => rfl
  | cons word rest ih =>
    rw [storeWords, ih _ (Nat.lt_succ_of_lt before),
      Array.getElem?_setIfInBounds_ne (Nat.ne_of_gt before)]

theorem getElem?_storeWords (memory : Array UInt32) (start : Nat) (words : List UInt32)
    (inside : start + words.length ≤ memory.size) {i : Nat} (stored : i < words.length) :
    (storeWords memory start words)[start + i]? = some words[i] := by
  induction words generalizing memory start i with
  | nil => cases stored
  | cons word rest ih =>
    rw [List.length_cons] at inside stored
    rw [storeWords]
    cases i with
    | zero =>
      -- the rest is stored behind the first word
      change (storeWords _ (start + 1) rest)[start]? = some word
      rw [getElem?_storeWords_of_lt _ (Nat.lt_add_one start),
        Array.getElem?_setIfInBounds_self_of_lt (by omega)]
    | succ i =>
      have fits : start + 1 + rest.length ≤ (memory.setIfInBounds start word).size := by
        rw [Array.size_setIfInBounds]
        omega
      rw [show start + (i + 1) = start + 1 + i by omega, List.getElem_cons_succ]
      exact ih _ _ fits (by omega)

/-- Words that are stored in the memory are read back. -/
theorem window?_storeWords {n : Nat} (memory : Array UInt32) (start : Nat)
    (words : Vector UInt32 n) (inside : start + n ≤ memory.size) :
    window? (storeWords memory start words.toList) start n = some words := by
  have length : words.toList.length = n := words.length_toList
  rw [window?, dif_pos (by rw [size_storeWords]; exact inside)]
  refine congrArg some (Vector.ext fun i below => ?_)
  have stored := getElem?_storeWords memory start words.toList (by omega) (i := i) (by omega)
  obtain ⟨_, read⟩ := Array.getElem?_eq_some_iff.1 stored
  rw [Vector.getElem_mk, Array.getElem_extract, read, Vector.getElem_toList]

/-- A window that lies in the memory is read word by word. -/
theorem window?_of_inside {memory : Array UInt32} {start n : Nat}
    (inside : start + n ≤ memory.size) :
    ∃ words, window? memory start n = some words ∧
      ∀ i (below : i < n), words[i] = memory[start + i] := by
  rw [window?, dif_pos inside]
  refine ⟨_, rfl, fun i below => ?_⟩
  rw [Vector.getElem_mk, Array.getElem_extract]

/-- A window that reaches behind the memory cannot be read. -/
theorem window?_eq_none {memory : Array UInt32} {start n : Nat}
    (outside : ¬ start + n ≤ memory.size) : window? memory start n = none := by
  rw [window?, dif_neg outside]

namespace Mailbox

/-! ## Layouts -/

/-- What is fixed of a mailbox: the size of its memory, and of each agent its bit and where its
buffers are. -/
def layout (m : Mailbox) : Nat × List (UInt32 × UInt64 × UInt64) :=
  (m.memory.size, m.agents.map fun a => (a.bit, a.bufferOffset, a.targetOffset))

theorem layout_setRegister (agent : Nat) (name : RegisterName) (value : UInt32) (m : Mailbox) :
    (m.setRegister agent name value).layout = m.layout := by
  unfold layout setRegister
  refine congrArg _ (List.ext_getElem? fun i => ?_)
  rw [List.getElem?_map, List.getElem?_map, List.getElem?_modify]
  -- a register is no part of the layout
  cases m.agents[i]? with
  | none => rfl
  | some a => by_cases same : agent = i <;> simp [same]

theorem layout_setWords (start : Nat) (words : List UInt32) (m : Mailbox) :
    (m.setWords start words).layout = m.layout := by
  rw [layout, setWords, size_storeWords, layout]

/-! ## Routes -/

theorem addressSum_eq_ok_iff {a b n : Nat} :
    addressSum a b = .ok n ↔ a + b < UInt64.size ∧ a + b = n := by
  unfold addressSum
  by_cases inRange : a + b < UInt64.size
  · simp [inRange]
  · simp [inRange]

/-- A channel has a route if its agents exist and no sum of their offsets leaves the address
range. -/
theorem route_eq_ok_iff {channel : Channel} {m : Mailbox} {r : Route} :
    m.route channel = .ok (.ok r) ↔
      (m.agents[channel.localId]? = some r.here ∧ m.agents[channel.remoteId]? = some r.there) ∧
        (r.here.bufferOffset.toNat + r.there.targetOffset.toNat < UInt64.size ∧
          r.there.bufferOffset.toNat + r.here.targetOffset.toNat < UInt64.size) ∧
        r.request = (r.here.bufferOffset.toNat + r.there.targetOffset.toNat) / wordBytes ∧
        r.callback = (r.there.bufferOffset.toNat + r.here.targetOffset.toNat) / wordBytes := by
  unfold route
  rcases r with ⟨here, there, request, callback⟩
  cases m.agents[channel.localId]? with
  | none => simp
  | some here' =>
    cases m.agents[channel.remoteId]? with
    | none => simp
    | some there' =>
      dsimp only
      constructor
      · intro h
        cases first : addressSum here'.bufferOffset.toNat there'.targetOffset.toNat with
        | error why =>
          rw [first] at h
          cases h
        | ok a =>
          cases second : addressSum there'.bufferOffset.toNat here'.targetOffset.toNat with
          | error why =>
            rw [first, second] at h
            cases h
          | ok b =>
            rw [first, second] at h
            cases h
            obtain ⟨inRange, rfl⟩ := addressSum_eq_ok_iff.1 first
            obtain ⟨inRange', rfl⟩ := addressSum_eq_ok_iff.1 second
            exact ⟨⟨rfl, rfl⟩, ⟨inRange, inRange'⟩, rfl, rfl⟩
      · rintro ⟨⟨⟨⟩, ⟨⟩⟩, ⟨inRange, inRange'⟩, rfl, rfl⟩
        rw [addressSum_eq_ok_iff.2 ⟨inRange, rfl⟩, addressSum_eq_ok_iff.2 ⟨inRange', rfl⟩]
        rfl

theorem withRoute_eq_ok {α : Type} {channel : Channel} {m : Mailbox} {other a : α}
    {action : Route → α} (done : m.withRoute channel other action = .ok a) :
    a = other ∨ ∃ r, m.route channel = .ok (.ok r) ∧ a = action r := by
  unfold withRoute at done
  rcases found : m.route channel with why | missing | r
  · rw [found] at done
    cases done
  · rw [found] at done
    cases done
    exact .inl rfl
  · rw [found] at done
    cases done
    exact .inr ⟨r, rfl, rfl⟩

theorem withRoute_of_route {α : Type} {channel : Channel} {m : Mailbox} {r : Route}
    (found : m.route channel = .ok (.ok r)) (other : α) (action : Route → α) :
    m.withRoute channel other action = .ok (action r) := by
  unfold withRoute
  rw [found]
  rfl

/-- The offsets of a channel's agents, if both exist, add up without leaving the address range. -/
def InRange (channel : Channel) (m : Mailbox) : Prop :=
  ∀ {here there}, m.agents[channel.localId]? = some here →
    m.agents[channel.remoteId]? = some there →
      here.bufferOffset.toNat + there.targetOffset.toNat < UInt64.size ∧
        there.bufferOffset.toNat + here.targetOffset.toNat < UInt64.size

/-- A channel is out of range if its agents exist and a sum of their offsets is too wide. -/
theorem not_inRange_iff {channel : Channel} {m : Mailbox} :
    ¬ m.InRange channel ↔
      ∃ here there, m.agents[channel.localId]? = some here ∧
        m.agents[channel.remoteId]? = some there ∧
        (UInt64.size ≤ here.bufferOffset.toNat + there.targetOffset.toNat ∨
          UInt64.size ≤ there.bufferOffset.toNat + here.targetOffset.toNat) := by
  constructor
  · intro outside
    refine Classical.byContradiction fun none => outside fun {here there} foundHere foundThere => ?_
    have narrow : ¬ (UInt64.size ≤ here.bufferOffset.toNat + there.targetOffset.toNat ∨
        UInt64.size ≤ there.bufferOffset.toNat + here.targetOffset.toNat) :=
      fun wide => none ⟨here, there, foundHere, foundThere, wide⟩
    omega
  · rintro ⟨here, there, foundHere, foundThere, wide⟩ inRange
    have narrow := inRange foundHere foundThere
    omega

/-! ## What operations keep -/

theorem layout_of_writeBit {name : RegisterName} {channel : Channel} {m m' : Mailbox}
    (written : m.writeBit name channel = .ok m') : m'.layout = m.layout := by
  rcases withRoute_eq_ok written with rfl | ⟨r, -, rfl⟩
  · rfl
  · exact layout_setRegister _ _ _ m

theorem layout_of_writeRequest {channel : Channel} {words : Vector UInt32 frameWords}
    {m m' : Mailbox} (written : m.writeRequest channel words = .ok m') :
    m'.layout = m.layout := by
  rcases withRoute_eq_ok written with rfl | ⟨r, -, rfl⟩
  · rfl
  · split
    · exact layout_setWords _ _ m
    · rfl

/-! ## Channels that are open -/

/-- The messages of a channel lie in the memory. -/
def MessagesFit (channel : Channel) (m : Mailbox) : Prop :=
  ∃ r, m.route channel = .ok (.ok r) ∧ r.request + messageWords ≤ m.memory.size

/-- A channel that has been opened has its messages in the memory. -/
theorem layout_of_openChannel {channel : Channel} {m m' : Mailbox}
    {result : Except OpenError Unit} (opened : m.openChannel channel = .ok (result, m')) :
    m'.layout = m.layout ∧ (result = .ok () → MessagesFit channel m) := by
  unfold openChannel at opened
  rcases found : m.route channel with why | missing | r
  · rw [found] at opened
    cases opened
  · rw [found] at opened
    cases opened
    exact ⟨rfl, fun ok => by cases ok⟩
  · rw [found] at opened
    simp only [bind, Except.bind] at opened
    split at opened
    · rename_i fit
      simp only [fits, Bool.and_eq_true, decide_eq_true_eq] at fit
      cases opened
      rw [layout_setRegister, layout_setRegister]
      exact ⟨rfl, fun _ => ⟨r, found, fit.1⟩⟩
    · cases opened
      exact ⟨rfl, fun ok => by cases ok⟩

/-- An agent is found at the same place of every mailbox with the same layout. -/
theorem exists_agent_of_layout {m m' : Mailbox} (same : m'.layout = m.layout) {i : Nat} {a : Agent}
    (found : m.agents[i]? = some a) :
    ∃ a', m'.agents[i]? = some a' ∧ a'.bit = a.bit ∧ a'.bufferOffset = a.bufferOffset ∧
      a'.targetOffset = a.targetOffset := by
  have agents := congrArg (fun layout => layout.2[i]?) same
  simp only [layout, List.getElem?_map, found, Option.map_some] at agents
  obtain ⟨a', found', place⟩ := Option.map_eq_some_iff.1 agents
  obtain ⟨bit, offsets⟩ := Prod.mk.inj place
  obtain ⟨buffer, target⟩ := Prod.mk.inj offsets
  exact ⟨a', found', bit, buffer, target⟩

/-- A channel has its messages at the same places in every mailbox with the same layout. -/
theorem route_of_layout {channel : Channel} {m m' : Mailbox} (same : m'.layout = m.layout)
    {r : Route} (found : m.route channel = .ok (.ok r)) :
    ∃ r', m'.route channel = .ok (.ok r') ∧ r'.request = r.request ∧
      r'.callback = r.callback := by
  obtain ⟨⟨here, there⟩, inRange, request, callback⟩ := route_eq_ok_iff.1 found
  obtain ⟨here', foundHere, -, buffer, target⟩ := exists_agent_of_layout same here
  obtain ⟨there', foundThere, -, buffer', target'⟩ := exists_agent_of_layout same there
  rw [← buffer, ← target, ← buffer', ← target'] at inRange
  rw [← buffer, ← target'] at request
  rw [← target, ← buffer'] at callback
  -- the same sums of offsets give a route to the same place
  have found' : m'.route channel = .ok (.ok
      { here := here'
        there := there'
        request := (here'.bufferOffset.toNat + there'.targetOffset.toNat) / wordBytes
        callback := (there'.bufferOffset.toNat + here'.targetOffset.toNat) / wordBytes }) :=
    route_eq_ok_iff.2 ⟨⟨foundHere, foundThere⟩, inRange, rfl, rfl⟩
  exact ⟨_, found', request.symm, callback.symm⟩

theorem MessagesFit.of_layout {channel : Channel} {m m' : Mailbox} (same : m'.layout = m.layout)
    (fit : MessagesFit channel m) : MessagesFit channel m' := by
  obtain ⟨r, found, inside⟩ := fit
  obtain ⟨r', found', request, -⟩ := route_of_layout same found
  have size : m'.memory.size = m.memory.size := congrArg Prod.fst same
  rw [← request, ← size] at inside
  exact ⟨r', found', inside⟩

/-! ## Requests that are written -/

theorem agents_of_writeRequest {channel : Channel} {words : Vector UInt32 frameWords}
    {m written : Mailbox} (wrote : m.writeRequest channel words = .ok written) :
    written.agents = m.agents := by
  rcases withRoute_eq_ok wrote with rfl | ⟨r, -, rfl⟩
  · rfl
  · split <;> rfl

theorem route_of_agents {m m' : Mailbox} (same : m'.agents = m.agents) (channel : Channel) :
    m'.route channel = m.route channel := by
  unfold route
  rw [same]

/-- A request is read back from its window exactly if the window lies in the memory. -/
theorem window?_of_writeRequest {channel : Channel} {words : Vector UInt32 frameWords}
    {m written : Mailbox} (wrote : m.writeRequest channel words = .ok written) {r : Route}
    (found : written.route channel = .ok (.ok r)) :
    window? written.memory r.request frameWords = some words ↔
      r.request + frameWords ≤ written.memory.size := by
  -- writing a request changes no agent, so that the route was the same before
  rw [route_of_agents (agents_of_writeRequest wrote)] at found
  unfold writeRequest withRoute at wrote
  rw [found] at wrote
  by_cases inside : r.request + frameWords ≤ m.memory.size
  · have fit : fits m.memory r.request frameWords = true := decide_eq_true inside
    simp only [bind, Except.bind, fit, if_true] at wrote
    cases wrote
    have size : (m.setWords r.request words.toList).memory.size = m.memory.size :=
      size_storeWords _ _ _
    exact iff_of_true (window?_storeWords _ _ _ inside) (size ▸ inside)
  · -- a request that does not fit is dropped
    have unfit : fits m.memory r.request frameWords = false := decide_eq_false inside
    simp only [bind, Except.bind, unfit, Bool.false_eq_true, if_false] at wrote
    cases wrote
    rw [window?_eq_none inside]
    exact iff_of_false (fun read => by cases read) inside

end Mailbox

end PowerBridge.Link
