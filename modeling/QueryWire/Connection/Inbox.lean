import QueryWire.Wire.Frame

/-!
# Receiving

What the server sends arrives in pieces that have nothing to do with its messages.  The pieces
are gathered until a frame is there whole.

* `Arrival` — what one read yields.
* `Inbox` — what has arrived, and what will.
* `Inbox.nextFrame` — the next frame.
* **`Inbox.unread_nextFrame`** — a frame uses up bytes, so only so many can follow.
-/

namespace QueryWire

/-- Why an action ended early. -/
inductive Halt where
  | failed (e : Error)
  /-- The action waits for something that does not come, until it is dropped. -/
  | suspended
deriving DecidableEq, Repr

/-- What one read yields. -/
inductive Arrival where
  /-- Some bytes; none at the end of the stream. -/
  | bytes (piece : Bytes)
  /-- Nothing, now or later. -/
  | silence
  /-- A failure of the stream. -/
  | fault (text : String)
deriving DecidableEq, Repr

namespace Arrival

/-- How many bytes a read yields. -/
def size : Arrival → Nat
  | .bytes piece => piece.length
  | .silence | .fault _ => 0

/-- How many bytes a sequence of reads yields. -/
def sizes : List Arrival → Nat
  | [] => 0
  | arrival :: rest => arrival.size + sizes rest

end Arrival

/-- What has arrived and is not used yet, and what reads will yield; after that the stream is at
its end. -/
structure Inbox where
  buffer : Bytes := []
  arrivals : List Arrival := []
deriving DecidableEq, Repr

namespace Inbox

/-- Nothing has arrived and nothing will. -/
def empty : Inbox := {}

instance : Inhabited Inbox := ⟨empty⟩

/-- How many bytes are not used yet. -/
def unread (inbox : Inbox) : Nat :=
  inbox.buffer.length + Arrival.sizes inbox.arrivals

/-- Reads will yield `arrivals` after what they would have yielded. -/
def deliver (inbox : Inbox) (arrivals : List Arrival) : Inbox :=
  { inbox with arrivals := inbox.arrivals ++ arrivals }

/-- The end of the wait for a silent server: the timeout, if there is one. -/
def silenceHalt : (timeout : Option UInt64) → Halt
  | some milliseconds => .failed (.transport (.timedOut milliseconds))
  | none => .suspended

/-- The next frame, `buffer` being what has arrived. -/
def nextFrameFrom (limit : Nat) (timeout : Option UInt64) :
    (arrivals : List Arrival) → (buffer : Bytes) → Except Halt Frame × Inbox
  | arrivals, buffer =>
    match Frame.length? limit buffer with
    | .error e => (.error (.failed e), ⟨buffer, arrivals⟩)
    | .ok (some size) => (.ok (Frame.ofBytes size buffer), ⟨buffer.drop size, arrivals⟩)
    | .ok none =>
      match arrivals with
      | [] => (.error (.failed (.transport .closed)), ⟨buffer, []⟩)
      | .bytes [] :: rest => (.error (.failed (.transport .closed)), ⟨buffer, .bytes [] :: rest⟩)
      | .bytes (b :: bytes) :: rest => nextFrameFrom limit timeout rest (buffer ++ b :: bytes)
      | .silence :: rest => (.error (silenceHalt timeout), ⟨buffer, .silence :: rest⟩)
      | .fault text :: rest => (.error (.failed (.transport (.failed text))), ⟨buffer, rest⟩)

/-- The next frame, of at most `limit` bytes. -/
def nextFrame (inbox : Inbox) (limit : Nat) (timeout : Option UInt64) : Except Halt Frame × Inbox :=
  nextFrameFrom limit timeout inbox.arrivals inbox.buffer

/-- A whole frame at the front of a buffer takes some of it. -/
theorem length_drop_of_length? {limit size : Nat} {buffer : Bytes}
    (h : Frame.length? limit buffer = .ok (some size)) :
    (buffer.drop size).length < buffer.length := by
  unfold Frame.length? at h
  split at h
  · simp at h
  · rename_i kind declared hdeclared
    split at h
    · simp at h
    · split at h
      · simp at h
      · split at h
        · rename_i hwhole
          simp only [Except.ok.injEq, Option.some.injEq] at h
          have hle : declared + 1 ≤ buffer.length := by
            simp only [List.length_take] at hwhole
            omega
          rw [List.length_drop, ← h]
          omega
        · simp at h

/-- A frame uses up bytes. -/
theorem unread_nextFrameFrom {limit : Nat} {timeout : Option UInt64} {frame : Frame}
    {inbox : Inbox} (arrivals : List Arrival) (buffer : Bytes)
    (h : nextFrameFrom limit timeout arrivals buffer = (.ok frame, inbox)) :
    inbox.unread < unread ⟨buffer, arrivals⟩ := by
  induction arrivals generalizing buffer with
  | nil =>
    unfold nextFrameFrom at h
    split at h
    · simp at h
    · rename_i size hsize
      have hlt := length_drop_of_length? hsize
      simp only [Prod.mk.injEq, Except.ok.injEq] at h
      rw [← h.2]
      simpa [unread] using hlt
    · simp at h
  | cons arrival rest ih =>
    unfold nextFrameFrom at h
    split at h
    · simp at h
    · rename_i size hsize
      have hlt := length_drop_of_length? hsize
      simp only [Prod.mk.injEq, Except.ok.injEq] at h
      rw [← h.2]
      simpa [unread] using hlt
    · split at h
      · simp at h
      · simp at h
      · rename_i b bytes others hcons
        obtain ⟨rfl, rfl⟩ := List.cons.inj hcons
        have := ih _ h
        simp only [unread, Arrival.sizes, Arrival.size, List.length_append] at this ⊢
        omega
      · simp at h
      · simp at h

/-- A frame uses up bytes. -/
theorem unread_nextFrame {inbox inbox' : Inbox} {limit : Nat} {timeout : Option UInt64}
    {frame : Frame} (h : inbox.nextFrame limit timeout = (.ok frame, inbox')) :
    inbox'.unread < inbox.unread :=
  unread_nextFrameFrom inbox.arrivals inbox.buffer h

end Inbox

end QueryWire
