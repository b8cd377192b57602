import PowerBridge.Proofs.Link.Footprint

/-!
# Mailbox arithmetic in machine words

To a mailbox, places in the memory are natural numbers, and of all sums only those of the offsets
are checked. On a machine places are numbers of 64 bits. There every sum traps that does not fit,
and so does every use of an agent that does not exist, or of a word that does not lie in the memory.

Here the operations are given once more, with all of these checks. They come to the same, since of
all checks only those of the offsets ever fail. Offsets count bytes and places count words, so that
a place is below a quarter of the range, and leaves room for the few words that are added to it. And
no word is used that does not lie in the memory, since messages are looked up as a whole.

Main statements: `route_agrees`, `perform_agrees`, and `traps_iff_offsets_overflow`.
-/

namespace PowerBridge.Link.Checked

open Eemi (Callback frameWords)
open Mailbox (callbackWords messageWords unreadableStatus)

/-! ## Checks -/

/-- Why an operation traps. -/
inductive Trap where
  /-- A sum is more than 64 bits wide. -/
  | overflow
  /-- An agent or a word is used that does not exist. -/
  | outOfBounds
  deriving DecidableEq, Repr

def add (a b : UInt64) : Except Trap UInt64 :=
  if a.toNat + b.toNat < UInt64.size then .ok (a + b) else .error .overflow

def load (memory : Array UInt32) (place : Nat) : Except Trap UInt32 :=
  match memory[place]? with
  | some word => .ok word
  | none => .error .outOfBounds

def store (memory : Array UInt32) (place : Nat) (word : UInt32) : Except Trap (Array UInt32) :=
  if place < memory.size then .ok (memory.setIfInBounds place word) else .error .outOfBounds

/-- Stores words one by one, each at its place. -/
def storeAll (memory : Array UInt32) : List (Nat × UInt32) → Except Trap (Array UInt32)
  | [] => .ok memory
  | (place, word) :: rest => do storeAll (← store memory place word) rest

/-- Loads words over the given values, until values or places run out. -/
def loadOver (memory : Array UInt32) : List UInt32 → List Nat → Except Trap (List UInt32)
  | _ :: values, place :: places =>
    return (← load memory place) :: (← loadOver memory values places)
  | values, _ => .ok values

def registersOf (agent : Nat) (m : Mailbox) : Except Trap Registers :=
  match m.agents[agent]? with
  | some a => .ok a.registers
  | none => .error .outOfBounds

def writeRegister (name : RegisterName) (agent : Nat) (value : UInt32) (m : Mailbox) :
    Except Trap Mailbox :=
  if agent < m.agents.length then .ok (m.setRegister agent name value) else .error .outOfBounds

/-! ## Operations -/

/-- Where the messages of a channel lie, in words from the start of the memory. -/
structure WordRoute where
  /-- The bit of the remote agent. -/
  bit : UInt32
  request : UInt64
  callback : UInt64

def route (channel : Channel) (m : Mailbox) : Except Trap (Except OpenError WordRoute) :=
  match m.agents[channel.localId]?, m.agents[channel.remoteId]? with
  | none, _ => .ok (.error (.invalidAgent channel.localId))
  | some _, none => .ok (.error (.invalidAgent channel.remoteId))
  | some here, some there => do
    let request ← add here.bufferOffset there.targetOffset
    let callback ← add there.bufferOffset here.targetOffset
    return .ok { bit := there.bit, request := request / 4, callback := callback / 4 }

def withRoute {α : Type} (channel : Channel) (m : Mailbox) (other : α)
    (action : WordRoute → Except Trap α) : Except Trap α := do
  match ← route channel m with
  | .error _ => return other
  | .ok w => action w

def fits (memory : Array UInt32) (start count : UInt64) : Except Trap Bool :=
  return (← add start count).toNat ≤ memory.size

/-- The places of `count` words from one on: none of them, unless all lie in the memory. -/
def window (memory : Array UInt32) (start count : UInt64) : Except Trap (List Nat) := do
  let stop ← add start count
  return if stop.toNat ≤ memory.size then List.range' start.toNat count.toNat else []

def openChannel (channel : Channel) (m : Mailbox) :
    Except Trap (Except OpenError Unit × Mailbox) := do
  match ← route channel m with
  | .error error => return (.error error, m)
  | .ok w =>
    -- the callback is looked at only if there is room for a message
    if ← fits m.memory w.request 17 then
      if ← fits m.memory w.callback 4 then
        let masked ← writeRegister .disable channel.localId w.bit m
        return (.ok (), ← writeRegister .status channel.localId w.bit masked)
      else return (.error (.bufferOutOfRange channel.remoteId), m)
    else return (.error (.bufferOutOfRange channel.remoteId), m)

def writeRequest (channel : Channel) (words : Vector UInt32 frameWords) (m : Mailbox) :
    Except Trap Mailbox :=
  withRoute channel m m fun w => do
    let places ← window m.memory w.request 6
    return { m with memory := ← storeAll m.memory (places.zip words.toList) }

def writeBit (name : RegisterName) (channel : Channel) (m : Mailbox) : Except Trap Mailbox :=
  withRoute channel m m fun w => writeRegister name channel.localId w.bit m

def testBit (register : Registers → UInt32) (channel : Channel) (m : Mailbox) :
    Except Trap Bool :=
  withRoute channel m false fun w =>
    return register (← registersOf channel.localId m) &&& w.bit ≠ 0

def readResponse {n : Nat} (channel : Channel) (values : Vector UInt32 n) (m : Mailbox) :
    Except Trap (UInt32 × List UInt32) :=
  withRoute channel m (2000, values.toList) fun w => do
    let start ← add w.request 8
    let count ← add 1 (UInt64.ofNat (min n 8))
    match ← window m.memory start count with
    | [] => return (2000, values.toList)
    | status :: places =>
      return (← load m.memory status, ← loadOver m.memory values.toList places)

def readCallback (channel : Channel) (values : Callback) (m : Mailbox) : Except Trap Callback :=
  withRoute channel m values fun w => do
    match ← window m.memory w.callback 4 with
    | [kind, target, event, detail] =>
      return ⟨← load m.memory kind, ← load m.memory target, ← load m.memory event,
        ← load m.memory detail⟩
    | _ => return values

def perform (op : Operation) (channel : Channel) (m : Mailbox) : Except Trap (Answer × Mailbox) :=
  match op with
  | .openChannel => do
    let (result, m) ← openChannel channel m
    return (.opened result, m)
  | .writeRequest words => return (.done, ← writeRequest channel words m)
  | .trigger => return (.done, ← writeBit .trigger channel m)
  | .isBusy => return (.flag (← testBit Registers.observation channel m), m)
  | .readResponse values => do
    let (status, read) ← readResponse channel values.toArray.toVector m
    return (.response status read, m)
  | .readCallback values => return (.callback (← readCallback channel values m), m)
  | .isPending => return (.flag (← testBit Registers.status channel m), m)
  | .clearPending => return (.done, ← writeBit .status channel m)
  | .enableInterrupt => return (.done, ← writeBit .enable channel m)

/-! ## Checks that do not fail -/

/-- Numbers that leave room for each other are added as they are. -/
theorem add_of_room {a b : UInt64} {x y : Nat} (first : a.toNat = x) (second : b.toNat = y)
    (room : x + y < UInt64.size) : ∃ sum, add a b = .ok sum ∧ sum.toNat = x + y := by
  subst first second
  refine ⟨a + b, if_pos room, ?_⟩
  rw [UInt64.toNat_add]
  exact Nat.mod_eq_of_lt room

theorem load_of_lt {memory : Array UInt32} {place : Nat} (inside : place < memory.size) :
    load memory place = .ok memory[place] := by
  simp [load, inside]

/-- Places that lie in the memory are stored to as if they were not checked. -/
theorem storeAll_of_inside {memory : Array UInt32} {start : Nat} {words : List UInt32}
    (inside : start + words.length ≤ memory.size) :
    storeAll memory ((List.range' start words.length).zip words) =
      .ok (storeWords memory start words) := by
  induction words generalizing memory start with
  | nil => rfl
  | cons word rest ih =>
    rw [List.length_cons] at inside
    have stored : store memory start word = .ok (memory.setIfInBounds start word) :=
      if_pos (by omega)
    have later := @ih (memory.setIfInBounds start word) (start + 1)
      (by rw [Array.size_setIfInBounds]; omega)
    rw [List.length_cons, List.range'_succ, List.zip_cons_cons, storeAll, stored]
    exact later

/-- Places that lie in the memory are loaded over the first values, and the others stay. -/
theorem loadOver_of_inside {memory : Array UInt32} {start count : Nat} (values : List UInt32)
    (inside : start + count ≤ memory.size) :
    ∃ read, loadOver memory values (List.range' start count) = .ok read ∧
      ∀ i : Nat, read[i]? =
        if i < count ∧ i < values.length then memory[start + i]? else values[i]? := by
  induction values generalizing start count with
  | nil => exact ⟨[], by cases count <;> rfl, by simp⟩
  | cons value values ih =>
    cases count with
    | zero => exact ⟨value :: values, rfl, by simp⟩
    | succ count =>
      obtain ⟨read, loaded, words⟩ := @ih (start + 1) count (by omega)
      refine ⟨memory[start] :: read, ?_, fun i => ?_⟩
      · rw [List.range'_succ, loadOver, load_of_lt (by omega), loaded]
        rfl
      · cases i with
        | zero => simp
        | succ i =>
          rw [List.getElem?_cons_succ, words]
          simp [Nat.add_right_comm start 1 i, Nat.add_assoc]

/-! ## Routes -/

/-- A route in machine words stands for a route: same numbers, which leave room for more. -/
structure WordRoute.StandsFor (w : WordRoute) (r : Route) : Prop where
  bit : w.bit = r.there.bit
  request : w.request.toNat = r.request
  callback : w.callback.toNat = r.callback
  request_lt : r.request < UInt64.size / 4
  callback_lt : r.callback < UInt64.size / 4

/-- What becomes of a search for a route, and of the same search with all checks. -/
inductive Agree :
    Except Fault (Except OpenError Route) → Except Trap (Except OpenError WordRoute) → Prop where
  | found {r : Route} {w : WordRoute} (stands : w.StandsFor r) : Agree (.ok (.ok r)) (.ok (.ok w))
  | missing (error : OpenError) : Agree (.ok (.error error)) (.ok (.error error))
  | overflow (why : Fault) : Agree (.error why) (.error .overflow)

/-- A sum of offsets is checked in both. -/
theorem add_agrees (a b : UInt64) :
    (∃ sum, add a b = .ok sum ∧ addressSum a.toNat b.toNat = .ok sum.toNat) ∨
      add a b = .error .overflow ∧ addressSum a.toNat b.toNat = .error .addressOverflow := by
  by_cases inRange : a.toNat + b.toNat < UInt64.size
  · obtain ⟨sum, added, same⟩ := add_of_room (a := a) (b := b) rfl rfl inRange
    exact .inl ⟨sum, added, by rw [addressSum, if_pos inRange, same]⟩
  · exact .inr ⟨if_neg inRange, if_neg inRange⟩

/-- A place counts words, so that it is below a quarter of the range. -/
theorem toNat_quarter (offset : UInt64) :
    (offset / 4).toNat = offset.toNat / 4 ∧ offset.toNat / 4 < UInt64.size / 4 := by
  have size : UInt64.size = 2 ^ 64 := rfl
  have bound : offset.toNat < 2 ^ 64 := offset.toNat_lt
  exact ⟨UInt64.toNat_div offset 4, by omega⟩

theorem route_agrees (channel : Channel) (m : Mailbox) :
    Agree (m.route channel) (route channel m) := by
  unfold Mailbox.route route
  cases m.agents[channel.localId]? with
  | none => exact .missing _
  | some here =>
    cases m.agents[channel.remoteId]? with
    | none => exact .missing _
    | some there =>
      dsimp only
      rcases add_agrees here.bufferOffset there.targetOffset with
        ⟨request, added, same⟩ | ⟨trapped, faulted⟩
      · rcases add_agrees there.bufferOffset here.targetOffset with
          ⟨callback, added', same'⟩ | ⟨trapped, faulted⟩
        · rw [added, same, added', same']
          obtain ⟨words, room⟩ := toNat_quarter request
          obtain ⟨words', room'⟩ := toNat_quarter callback
          exact .found ⟨rfl, words, words', room, room'⟩
        · rw [added, same, trapped, faulted]
          exact .overflow _
      · rw [trapped, faulted]
        exact .overflow _

/-- A fault of the mailbox, as a trap. -/
def trapped {α : Type} (x : Except Fault α) : Except Trap α :=
  x.mapError fun _ => .overflow

@[simp] theorem trapped_ok {α : Type} (a : α) : trapped (.ok a) = .ok a := rfl

@[simp] theorem trapped_error {α : Type} (why : Fault) :
    trapped (.error why : Except Fault α) = .error .overflow := rfl

/-- What is done on the route of a channel comes to the same with all checks, if it does so wherever
there is a route. -/
theorem withRoute_map_agrees {α β : Type} {channel : Channel} {m : Mailbox} (f : α → β) (other : α)
    {action : Route → α} {checked : WordRoute → Except Trap β}
    (same : ∀ {r w}, m.route channel = .ok (.ok r) → w.StandsFor r →
      checked w = .ok (f (action r))) :
    withRoute channel m (f other) checked =
      trapped ((m.withRoute channel other action).map f) := by
  have agree := route_agrees channel m
  unfold withRoute Mailbox.withRoute
  generalize m.route channel = found at agree same
  generalize route channel m = looked at agree
  cases agree with
  | found stands => exact same rfl stands
  | missing error => rfl
  | overflow why => rfl

theorem withRoute_agrees {α : Type} {channel : Channel} {m : Mailbox} {other : α}
    {action : Route → α} {checked : WordRoute → Except Trap α}
    (same : ∀ {r w}, m.route channel = .ok (.ok r) → w.StandsFor r → checked w = .ok (action r)) :
    withRoute channel m other checked = trapped (m.withRoute channel other action) := by
  have agrees := withRoute_map_agrees id other same
  cases done : m.withRoute channel other action with
  | error why =>
    rw [done] at agrees
    exact agrees
  | ok a =>
    rw [done] at agrees
    exact agrees

/-! ## Windows -/

section

variable (memory : Array UInt32) {start count : UInt64} {place n : Nat}
  (first : start.toNat = place) (words : count.toNat = n) (room : place + n < UInt64.size)

include first words room

theorem fits_of_room : fits memory start count = .ok (Link.fits memory place n) := by
  obtain ⟨stop, added, sum⟩ := add_of_room first words room
  rw [fits, added, Link.fits, ← sum]
  rfl

theorem window_of_room :
    window memory start count =
      .ok (if place + n ≤ memory.size then List.range' place n else []) := by
  obtain ⟨stop, added, sum⟩ := add_of_room first words room
  rw [window, added, first, words, ← sum]
  rfl

end

/-! ## Operations agree -/

section

variable (channel : Channel) (m : Mailbox)

theorem writeRegister_of_found {agent : Nat} {a : Agent} (found : m.agents[agent]? = some a)
    (name : RegisterName) (value : UInt32) :
    writeRegister name agent value m = .ok (m.setRegister agent name value) :=
  if_pos (List.getElem?_eq_some_iff.1 found).1

theorem writeBit_agrees (name : RegisterName) :
    writeBit name channel m = trapped (m.writeBit name channel) := by
  refine withRoute_agrees fun found stands => ?_
  obtain ⟨⟨here, -⟩, -⟩ := Mailbox.route_eq_ok_iff.1 found
  rw [writeRegister_of_found m here, stands.bit]

theorem testBit_agrees (register : Registers → UInt32) :
    testBit register channel m = trapped (m.testBit register channel) := by
  refine withRoute_agrees fun found stands => ?_
  obtain ⟨⟨here, -⟩, -⟩ := Mailbox.route_eq_ok_iff.1 found
  rw [registersOf, here, stands.bit]
  rfl

theorem openChannel_agrees : openChannel channel m = trapped (m.openChannel channel) := by
  have agree := route_agrees channel m
  have routed := @Mailbox.route_eq_ok_iff channel m
  unfold openChannel Mailbox.openChannel
  generalize m.route channel = found at agree routed
  generalize route channel m = looked at agree
  cases agree with
  | missing error => rfl
  | overflow why => rfl
  | @found r w stands =>
    obtain ⟨⟨here, -⟩, -⟩ := routed.1 rfl
    -- the agent is still there after the first register is written
    obtain ⟨_, here', -⟩ := Mailbox.exists_agent_of_layout
      (Mailbox.layout_setRegister channel.localId .disable r.there.bit m) here
    have masked := writeRegister_of_found m here .disable r.there.bit
    have cleared := writeRegister_of_found _ here' .status r.there.bit
    have size : UInt64.size = 2 ^ 64 := rfl
    have room := stands.request_lt
    have room' := stands.callback_lt
    have message : fits m.memory w.request 17 = .ok (Link.fits m.memory r.request messageWords) :=
      fits_of_room m.memory stands.request (n := 17) rfl (by omega)
    have call : fits m.memory w.callback 4 = .ok (Link.fits m.memory r.callback callbackWords) :=
      fits_of_room m.memory stands.callback (n := 4) rfl (by omega)
    simp only [bind, Except.bind, message, call, stands.bit, masked, cleared]
    cases Link.fits m.memory r.request messageWords with
    | false => rfl
    | true => cases Link.fits m.memory r.callback callbackWords <;> rfl

theorem writeRequest_agrees (words : Vector UInt32 frameWords) :
    writeRequest channel words m = trapped (m.writeRequest channel words) := by
  refine withRoute_agrees @fun r w found stands => ?_
  have size : UInt64.size = 2 ^ 64 := rfl
  have length : words.toList.length = 6 := words.length_toList
  have room := stands.request_lt
  rw [window_of_room m.memory stands.request (n := 6) rfl (by omega)]
  by_cases inside : r.request + 6 ≤ m.memory.size
  · have fit : Link.fits m.memory r.request frameWords = true := decide_eq_true inside
    have stored := storeAll_of_inside (length.symm ▸ inside)
    rw [length] at stored
    rw [if_pos inside, if_pos fit]
    simp only [bind, Except.bind, stored]
    rfl
  · have unfit : ¬ Link.fits m.memory r.request frameWords = true :=
      fun fit => inside (of_decide_eq_true fit)
    rw [if_neg inside, if_neg unfit]
    rfl

theorem readCallback_agrees (values : Callback) :
    readCallback channel values m = trapped (m.readCallback channel values) := by
  refine withRoute_agrees @fun r w found stands => ?_
  have size : UInt64.size = 2 ^ 64 := rfl
  have room := stands.callback_lt
  have read := Mailbox.readCallback_of_route found values
  rw [Mailbox.readCallback, Mailbox.withRoute_of_route found] at read
  rw [Except.ok.inj read, window_of_room m.memory stands.callback (n := 4) rfl (by omega),
    callbackAt]
  by_cases inside : r.callback + 4 ≤ m.memory.size
  · have places : List.range' r.callback 4 =
        [r.callback, r.callback + 1, r.callback + 2, r.callback + 3] := rfl
    rw [if_pos inside, dif_pos inside, places]
    simp only [bind, Except.bind]
    rw [load_of_lt (by omega), load_of_lt (by omega), load_of_lt (by omega), load_of_lt (by omega)]
    rfl
  · rw [if_neg inside, dif_neg inside]
    rfl

/-- The words that are loaded are those that are read all at once. -/
theorem loadOver_response {request n : Nat} {values : Vector UInt32 n}
    (inside : request + 8 + 1 + min n 8 ≤ m.memory.size) :
    loadOver m.memory values.toList (List.range' (request + 9) (min n 8)) =
      .ok (responseAt m.memory request values).2.toList := by
  have places : request + 9 + min n 8 ≤ m.memory.size := by omega
  obtain ⟨read, loaded, words⟩ := loadOver_of_inside values.toList places
  rw [loaded, responseAt, dif_pos inside]
  refine congrArg Except.ok (List.ext_getElem? fun i => ?_)
  rw [words, Vector.getElem?_toList, Vector.getElem?_toList, Vector.length_toList]
  by_cases below : i < n
  · rw [Vector.getElem?_eq_getElem below, Vector.getElem?_eq_getElem below, Vector.getElem_ofFn]
    by_cases first : i < min n 8
    · rw [if_pos ⟨first, below⟩, dif_pos first]
      exact Array.getElem?_eq_getElem (by omega)
    · rw [if_neg fun both => first both.1, dif_neg first]
      rfl
  · have behind : n ≤ i := Nat.le_of_not_lt below
    rw [if_neg fun both => below both.2, Vector.getElem?_eq_none behind,
      Vector.getElem?_eq_none behind]

theorem readResponse_agrees {n : Nat} (values : Vector UInt32 n) :
    readResponse channel values m =
      trapped ((m.readResponse channel values).map fun response =>
        (response.1, response.2.toList)) := by
  refine withRoute_map_agrees (fun response => (response.1, response.2.toList))
    (unreadableStatus, values) @fun r w found stands => ?_
  have read := Mailbox.readResponse_of_route found values
  rw [Mailbox.readResponse, Mailbox.withRoute_of_route found] at read
  rw [Except.ok.inj read]
  have size : UInt64.size = 2 ^ 64 := rfl
  have room := stands.request_lt
  have few : min n 8 ≤ 8 := Nat.min_le_right _ _
  have words : (UInt64.ofNat (min n 8)).toNat = min n 8 :=
    UInt64.toNat_ofNat_of_lt (Nat.lt_of_le_of_lt few (by decide))
  obtain ⟨start, behind, first⟩ := add_of_room stands.request (b := 8) (y := 8) rfl (by omega)
  obtain ⟨count, counted, length⟩ := add_of_room (a := 1) (x := 1) rfl words (by omega)
  have lookup := window_of_room m.memory first length (by omega)
  by_cases inside : r.request + 8 + 1 + min n 8 ≤ m.memory.size
  · rw [if_pos (by omega), Nat.add_comm 1, List.range'_succ] at lookup
    have status := load_of_lt (show r.request + 8 < m.memory.size by omega)
    simp only [bind, Except.bind, behind, counted, lookup, status, loadOver_response m inside]
    rw [responseAt, dif_pos inside]
    rfl
  · rw [if_neg (by omega)] at lookup
    simp only [bind, Except.bind, behind, counted, lookup]
    rw [responseAt, dif_neg inside]
    rfl

theorem perform_agrees (op : Operation) :
    perform op channel m = trapped (op.perform channel m) := by
  cases op with
  | openChannel =>
    simp only [perform, Operation.perform, Transport.openChannel, openChannel_agrees]
    cases m.openChannel channel <;> rfl
  | writeRequest words =>
    simp only [perform, Operation.perform, Transport.writeRequest, writeRequest_agrees]
    cases m.writeRequest channel words <;> rfl
  | trigger | clearPending | enableInterrupt =>
    simp only [perform, Operation.perform, Transport.trigger, Transport.clearPending,
      Transport.enableInterrupt, writeBit_agrees]
    cases m.writeBit _ channel <;> rfl
  | isBusy | isPending =>
    simp only [perform, Operation.perform, Transport.isBusy, Transport.isPending, testBit_agrees]
    cases m.testBit _ channel <;> rfl
  | readResponse values =>
    simp only [perform, Operation.perform, Transport.readResponse, readResponse_agrees]
    cases m.readResponse channel values.toArray.toVector <;> rfl
  | readCallback values =>
    simp only [perform, Operation.perform, Transport.readCallback, readCallback_agrees]
    cases m.readCallback channel values <;> rfl

end

/-! ## What traps -/

/-- **An operation traps exactly if a sum of its agents' offsets is too wide.** With every sum and
every access checked, an operation comes to the same as without: it traps where the mailbox faults,
and answers and leaves behind the same where it does not. That is so exactly if both agents exist
and the offsets of either direction add up to more than 64 bits. So no other sum overflows, and no
access is out of bounds, whatever the agents, their offsets and the size of the memory, on every
channel, and for responses of every length. -/
theorem traps_iff_offsets_overflow (op : Operation) (channel : Channel) (m : Mailbox) :
    perform op channel m = trapped (op.perform channel m) ∧
      perform op channel m ≠ .error .outOfBounds ∧
      ((∃ why, op.perform channel m = .error why) ↔ perform op channel m = .error .overflow) ∧
      (perform op channel m = .error .overflow ↔
        ∃ here there, m.agents[channel.localId]? = some here ∧
          m.agents[channel.remoteId]? = some there ∧
          (UInt64.size ≤ here.bufferOffset.toNat + there.targetOffset.toNat ∨
            UInt64.size ≤ there.bufferOffset.toNat + here.targetOffset.toNat)) := by
  have faults : (∃ why, op.perform channel m = .error why) ↔
      trapped (op.perform channel m) = .error .overflow := by
    cases op.perform channel m <;> simp
  rw [perform_agrees channel m op, ← Mailbox.not_inRange_iff, ← faults]
  refine ⟨rfl, ?inBounds, .rfl, Mailbox.perform_faults_iff⟩
  cases op.perform channel m <;> simp

/-- At the end of the address range: the remote agent's offset decides whether a poll traps, and the
channel is refused for the want of memory only. -/
example :
    let m (target : UInt64) : Mailbox :=
      { agents := [⟨4, 0xffffffffffffffff, 0, {}⟩, ⟨2, 0, target, {}⟩], memory := #[] }
    perform .isBusy ⟨0, 1⟩ (m 1) = .error .overflow ∧
      perform .isBusy ⟨0, 1⟩ (m 0) = .ok (.flag false, m 0) ∧
      perform .openChannel ⟨0, 1⟩ (m 0) = .ok (.opened (.error (.bufferOutOfRange 1)), m 0) :=
  ⟨rfl, rfl, rfl⟩

end PowerBridge.Link.Checked
