import PowerBridge.Proofs.Link.Mailbox

/-!
# Reading messages

A response is read word by word from the window behind the request, and a callback from the window
of callbacks. Each is read as a whole, or not at all: if the last word that is wanted lies behind
the memory, nothing is read, and the caller's values stand. How many words of a response are wanted
depends on the number of places for them, and is eight at most.

Main statement: `Mailbox.reads_all_or_nothing`.
-/

namespace PowerBridge.Link

open Eemi (Callback)

/-! ## What is read -/

/-- What is read of the response in a message, the request of which starts at a word of the memory:
the status word, and the words after it for the first eight of the caller's values. -/
def responseAt (memory : Array UInt32) (request : Nat) {n : Nat} (values : Vector UInt32 n) :
    UInt32 × Vector UInt32 n :=
  if inside : request + 8 + 1 + min n 8 ≤ memory.size then
    (memory[request + 8],
      Vector.ofFn fun i => if read : i.val < min n 8 then memory[request + 9 + i] else values[i])
  else (2000, values)

/-- What is read of a callback that starts at a word of the memory. -/
def callbackAt (memory : Array UInt32) (start : Nat) (values : Callback) : Callback :=
  if inside : start + 4 ≤ memory.size then
    ⟨memory[start], memory[start + 1], memory[start + 2], memory[start + 3]⟩
  else values

/-- Responses are the same in memories of one size that agree from the status word on. -/
theorem responseAt_congr {memory memory' : Array UInt32} {request : Nat}
    (size : memory'.size = memory.size)
    (agree : ∀ i, request + 8 ≤ i → memory'[i]? = memory[i]?) {n : Nat} (values : Vector UInt32 n) :
    responseAt memory' request values = responseAt memory request values := by
  have same {i : Nat} (behind : request + 8 ≤ i) (inside : i < memory.size)
      (inside' : i < memory'.size) : memory'[i] = memory[i] := by
    have word := agree i behind
    rw [Array.getElem?_eq_getElem inside, Array.getElem?_eq_getElem inside'] at word
    exact Option.some.inj word
  unfold responseAt
  by_cases inside : request + 8 + 1 + min n 8 ≤ memory.size
  · have inside' : request + 8 + 1 + min n 8 ≤ memory'.size := size ▸ inside
    rw [dif_pos inside, dif_pos inside']
    apply Prod.ext
    · exact same (Nat.le_refl _) _ _
    · exact congrArg Vector.ofFn
        (funext fun i => dite_congr rfl (fun _ => same (by omega) _ _) fun _ => rfl)
  · rw [dif_neg inside, dif_neg (size ▸ inside)]

namespace Mailbox

variable {channel : Channel} {m : Mailbox} {r : Route}

/-! ## Reading on a route -/

theorem readResponse_of_route (found : m.route channel = .ok (.ok r)) {n : Nat}
    (values : Vector UInt32 n) :
    m.readResponse channel values = .ok (responseAt m.memory r.request values) := by
  have offset : responseOffset = 8 := rfl
  have limit : maxResponseWords = 8 := rfl
  unfold readResponse responseAt
  rw [withRoute_of_route found]
  apply congrArg Except.ok
  by_cases inside : r.request + 8 + 1 + min n 8 ≤ m.memory.size
  · have window : r.request + responseOffset + (1 + min n maxResponseWords) ≤ m.memory.size := by
      omega
    obtain ⟨words, read, lookup⟩ := window?_of_inside window
    -- the status word is the first one of the window, so that the others are one further
    have word (i : Nat) (below : i < min n maxResponseWords) :
        words[1 + i] = m.memory[r.request + 9 + i] := by
      rw [lookup]
      congr 1
      omega
    simp only [read, dif_pos inside]
    apply Prod.ext
    · exact lookup 0 (by omega)
    · exact congrArg Vector.ofFn (funext fun i => dite_congr rfl (word i) fun _ => rfl)
  · have window : ¬ r.request + responseOffset + (1 + min n maxResponseWords) ≤ m.memory.size := by
      omega
    simp only [window?_eq_none window, dif_neg inside]
    rfl

theorem readCallback_of_route (found : m.route channel = .ok (.ok r)) (values : Callback) :
    m.readCallback channel values = .ok (callbackAt m.memory r.callback values) := by
  unfold readCallback callbackAt
  rw [withRoute_of_route found]
  apply congrArg Except.ok
  by_cases inside : r.callback + 4 ≤ m.memory.size
  · have window : r.callback + callbackWords ≤ m.memory.size := inside
    obtain ⟨words, read, lookup⟩ := window?_of_inside window
    simp only [read, dif_pos inside, Callback.mk.injEq]
    exact ⟨lookup 0 (by decide), lookup 1 (by decide), lookup 2 (by decide), lookup 3 (by decide)⟩
  · have window : ¬ r.callback + callbackWords ≤ m.memory.size := inside
    simp only [window?_eq_none window, dif_neg inside]

/-- **Reads are all or nothing.** On a channel with existing agents, the offsets of which add up
within the address range, a response and a callback are what the memory holds at their places, or if
they do not lie in the memory the caller's values and the status of a response that cannot be
read. -/
theorem reads_all_or_nothing {here there : Agent}
    (foundHere : m.agents[channel.localId]? = some here)
    (foundThere : m.agents[channel.remoteId]? = some there) (inRange : m.InRange channel) :
    let request := (here.bufferOffset.toNat + there.targetOffset.toNat) / 4
    let callback := (there.bufferOffset.toNat + here.targetOffset.toNat) / 4
    (∀ {n : Nat} (values : Vector UInt32 n),
      m.readResponse channel values = .ok (responseAt m.memory request values)) ∧
    ∀ values : Callback,
      m.readCallback channel values = .ok (callbackAt m.memory callback values) := by
  intro request callback
  have found : m.route channel = .ok (.ok { here, there, request, callback }) :=
    route_eq_ok_iff.2 ⟨⟨foundHere, foundThere⟩, inRange foundHere foundThere, rfl, rfl⟩
  exact ⟨readResponse_of_route found, readCallback_of_route found⟩

/-- Two agents with offsets that are no multiples of a word. Requests of the first one start at
word 16, those of the second one at word 2. -/
def uneven (memory : Array UInt32) : Mailbox :=
  { agents := [⟨4, 0x23, 3, {}⟩, ⟨2, 6, 0x1f, {}⟩], memory }

theorem inRange_uneven (memory : Array UInt32) : (uneven memory).InRange ⟨0, 1⟩ := by
  rintro here there ⟨⟩ ⟨⟩
  decide

/-- In a memory that ends with the third word after a status word three values are filled, and of
four none is. -/
theorem reads_to_the_end :
    let m := uneven ((List.range 28).map UInt32.ofNat).toArray
    m.readResponse ⟨0, 1⟩ #v[7, 7, 7] = .ok (24, #v[25, 26, 27]) ∧
      m.readResponse ⟨0, 1⟩ #v[7, 7, 7, 7] = .ok (2000, #v[7, 7, 7, 7]) ∧
      m.readCallback ⟨0, 1⟩ .zero = .ok ⟨2, 3, 4, 5⟩ := by
  intro m
  obtain ⟨reads, calls⟩ := @reads_all_or_nothing ⟨0, 1⟩ m _ _ rfl rfl (inRange_uneven _)
  exact ⟨(reads _).trans rfl, (reads _).trans rfl, (calls _).trans rfl⟩

end Mailbox

end PowerBridge.Link
