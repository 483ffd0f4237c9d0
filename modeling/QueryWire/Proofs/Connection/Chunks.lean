import QueryWire.Proofs.Connection.Answer
import QueryWire.Proofs.Connection.Simulation

/-!
# The stream behind the pieces

What a server sends is one stream of bytes, and where it is cut into reads is nobody's decision.
Everything that a connection does is a function of the stream: a frame is complete, or its length
is bad, no later than all bytes in front of the next event have arrived.

* `Signal`, `Inbox.stream` — what an inbox holds and will hold, byte by byte.
* `Signal.nextFrame` — the next frame of a stream.
* **`Inbox.map_stream_nextFrame`** — reading piece by piece finds this frame and leaves the rest of
  the stream.
* `Connection.Alike` — two connections that differ in nothing but the pieces.
* **`Connection.simulation_alike`** — every piece of a call keeps them so.
-/

namespace QueryWire

variable {σ τ α : Type}

/-! ## Streams -/

/-- What a stream yields next. -/
inductive Signal where
  | byte (b : UInt8)
  /-- The end of the stream. -/
  | ended
  /-- Nothing, now or later. -/
  | silence
  /-- A failure of the stream. -/
  | fault (text : String)
deriving DecidableEq, Repr

namespace Arrival

/-- What a read yields, byte by byte. -/
def signals : Arrival → List Signal
  | .bytes [] => [.ended]
  | .bytes (b :: piece) => .byte b :: piece.map .byte
  | .silence => [.silence]
  | .fault text => [.fault text]

/-- What reads yield one after the other. -/
def stream (arrivals : List Arrival) : List Signal := arrivals.flatMap signals

@[simp] lemma stream_nil : stream [] = [] := rfl

@[simp] lemma stream_cons (arrival : Arrival) (rest : List Arrival) :
    stream (arrival :: rest) = arrival.signals ++ stream rest := rfl

@[simp] lemma stream_append (arrivals more : List Arrival) :
    stream (arrivals ++ more) = stream arrivals ++ stream more := List.flatMap_append

/-- Bytes are the same stream however they are cut into reads that are not empty. -/
lemma stream_pieces {pieces : List Bytes} (h : ∀ piece ∈ pieces, piece ≠ []) :
    stream (pieces.map .bytes) = pieces.flatten.map .byte := by
  induction pieces with
  | nil => rfl
  | cons piece pieces ih =>
    obtain ⟨hpiece, hpieces⟩ := List.forall_mem_cons.1 h
    cases piece with
    | nil => exact absurd rfl hpiece
    | cons b piece => simp [signals, ih hpieces]

end Arrival

/-- What has arrived and what will arrive, byte by byte. -/
def Inbox.stream (inbox : Inbox) : List Signal :=
  inbox.buffer.map .byte ++ Arrival.stream inbox.arrivals

namespace Signal

/-- The bytes in front of the first other event. -/
def front : List Signal → Bytes
  | .byte b :: rest => b :: front rest
  | _ => []

/-- The stream from the first other event on. -/
def back : List Signal → List Signal
  | .byte _ :: rest => back rest
  | rest => rest

@[simp] lemma front_append (bytes : Bytes) (stream : List Signal) :
    front (bytes.map .byte ++ stream) = bytes ++ front stream := by
  induction bytes with
  | nil => rfl
  | cons b bytes ih => exact congrArg (b :: ·) ih

@[simp] lemma back_append (bytes : Bytes) (stream : List Signal) :
    back (bytes.map .byte ++ stream) = back stream := by
  induction bytes with
  | nil => rfl
  | cons b bytes ih => exact ih

@[simp] lemma front_map (bytes : Bytes) : front (bytes.map .byte) = bytes := by
  simpa [front] using front_append bytes []

@[simp] lemma back_map (bytes : Bytes) : back (bytes.map .byte) = [] := by
  simpa [back] using back_append bytes []

/-- The next frame of a stream. -/
def nextFrame (limit : Nat) (timeout : Option UInt64) (stream : List Signal) :
    Except Halt Frame × List Signal :=
  match Frame.length? limit (front stream) with
  | .error e => (.error (.failed e), stream)
  | .ok (some size) => (.ok (Frame.ofBytes size (front stream)), stream.drop size)
  | .ok none =>
    match back stream with
    | .silence :: _ => (.error (Inbox.silenceHalt timeout), stream)
    | .fault text :: rest =>
      (.error (.failed (.transport (.failed text))), (front stream).map .byte ++ rest)
    | _ => (.error (.failed (.transport .closed)), stream)

end Signal

/-! ## Frames at the front of a stream -/

namespace Frame

/-- What is said of the first frame once enough of it is there stays true when more arrives. -/
lemma length?_append {limit : Nat} {buffer : Bytes} (more : Bytes)
    (h : length? limit buffer ≠ .ok none) :
    length? limit (buffer ++ more) = length? limit buffer := by
  have hheader : headerSize ≤ buffer.length := by
    by_contra hshort
    exact h (by rw [length?, declared?_of_lt (Nat.lt_of_not_le hshort)])
  simp only [length?, declared?_of_le more hheader] at h ⊢
  split
  · rfl
  · rename_i kind declared hdeclared
    simp only [hdeclared] at h
    split
    · rfl
    · split
      · rfl
      · rename_i hfour hlimit
        rw [if_neg hfour, if_neg hlimit] at h
        have hwhole : (buffer.take (declared + 1)).length = declared + 1 :=
          not_not.1 fun hpart => h (if_neg hpart)
        have hle : declared + 1 ≤ buffer.length := by
          rw [List.length_take] at hwhole
          omega
        rw [List.take_append_of_le_length hle]

/-- A frame that is there whole has bytes, and no more than are there. -/
lemma size_of_length? {limit size : Nat} {buffer : Bytes}
    (h : length? limit buffer = .ok (some size)) : 0 < size ∧ size ≤ buffer.length := by
  simp only [length?] at h
  split at h
  · cases h
  · split at h
    · cases h
    · split at h
      · cases h
      · split at h
        · rename_i hwhole
          cases h
          rw [List.length_take] at hwhole
          omega
        · cases h

/-- A frame that is there whole stays what it is when more arrives. -/
lemma ofBytes_of_le {size : Nat} {buffer : Bytes} (hpos : 0 < size) (hsize : size ≤ buffer.length)
    (more : Bytes) : ofBytes size (buffer ++ more) = ofBytes size buffer := by
  cases buffer with
  | nil => exact absurd hsize (Nat.not_le_of_lt hpos)
  | cons b buffer => rw [ofBytes, ofBytes, List.take_append_of_le_length hsize]; rfl

end Frame

/-! ## Reading piece by piece -/

namespace Inbox

variable {limit : Nat} {timeout : Option UInt64}

/-- A length that is bad is so whatever else will arrive. -/
lemma signal_nextFrame_of_error {buffer : Bytes} {e : Error}
    (h : Frame.length? limit buffer = .error e) (more : List Signal) :
    Signal.nextFrame limit timeout (buffer.map .byte ++ more)
      = (.error (.failed e), buffer.map .byte ++ more) := by
  have hlength : Frame.length? limit (buffer ++ Signal.front more) = .error e := by
    rw [Frame.length?_append _ (by simp [h]), h]
  simp only [Signal.nextFrame, Signal.front_append, hlength]

/-- A frame that is there whole is the next one whatever else will arrive. -/
lemma signal_nextFrame_of_whole {buffer : Bytes} {size : Nat}
    (h : Frame.length? limit buffer = .ok (some size)) (more : List Signal) :
    Signal.nextFrame limit timeout (buffer.map .byte ++ more)
      = (.ok (Frame.ofBytes size buffer), (buffer.drop size).map .byte ++ more) := by
  obtain ⟨hpos, hsize⟩ := Frame.size_of_length? h
  have hlength : Frame.length? limit (buffer ++ Signal.front more) = .ok (some size) := by
    rw [Frame.length?_append _ (by simp [h]), h]
  have hdrop : (buffer.map Signal.byte ++ more).drop size
      = (buffer.drop size).map .byte ++ more := by
    rw [List.drop_append_of_le_length (by simpa using hsize), List.map_drop]
  simp only [Signal.nextFrame, Signal.front_append, hlength, Frame.ofBytes_of_le hpos hsize, hdrop]

/-- Reading piece by piece finds the next frame of the stream, and leaves the rest of it. -/
lemma map_stream_nextFrameFrom (arrivals : List Arrival) (buffer : Bytes) :
    (nextFrameFrom limit timeout arrivals buffer).map id stream
      = Signal.nextFrame limit timeout (stream ⟨buffer, arrivals⟩) := by
  induction arrivals generalizing buffer with
  | nil =>
    unfold nextFrameFrom
    cases hlength : Frame.length? limit buffer with
    | error e => exact (signal_nextFrame_of_error hlength _).symm
    | ok size =>
      cases size with
      | some size => exact (signal_nextFrame_of_whole hlength _).symm
      | none => simp [stream, Signal.nextFrame, hlength]
  | cons arrival rest ih =>
    unfold nextFrameFrom
    cases hlength : Frame.length? limit buffer with
    | error e => exact (signal_nextFrame_of_error hlength _).symm
    | ok size =>
      cases size with
      | some size => exact (signal_nextFrame_of_whole hlength _).symm
      | none =>
        -- the bytes so far are no frame, so what comes next decides
        cases arrival with
        | bytes piece =>
          cases piece with
          | nil =>
            simp [stream, Signal.nextFrame, hlength, Arrival.signals, Signal.front, Signal.back]
          | cons b piece =>
            have hstream : stream ⟨buffer, .bytes (b :: piece) :: rest⟩
                = stream ⟨buffer ++ b :: piece, rest⟩ := by
              simp [stream, Arrival.signals]
            rw [hstream]
            exact ih (buffer ++ b :: piece)
        | silence =>
          simp [stream, Signal.nextFrame, hlength, Arrival.signals, Signal.front, Signal.back]
        | fault text =>
          simp [stream, Signal.nextFrame, hlength, Arrival.signals, Signal.front, Signal.back]

/-- **Reading piece by piece** finds the next frame of the stream, and leaves the rest of it. -/
theorem map_stream_nextFrame (inbox : Inbox) (limit : Nat) (timeout : Option UInt64) :
    (inbox.nextFrame limit timeout).map id stream = Signal.nextFrame limit timeout inbox.stream :=
  map_stream_nextFrameFrom inbox.arrivals inbox.buffer

/-- Inboxes with the same stream have the same next frame, and the same stream after it. -/
lemma nextFrame_of_stream_eq {inbox inbox' : Inbox} (h : inbox'.stream = inbox.stream) (limit : Nat)
    (timeout : Option UInt64) :
    (inbox'.nextFrame limit timeout).1 = (inbox.nextFrame limit timeout).1
      ∧ (inbox'.nextFrame limit timeout).2.stream = (inbox.nextFrame limit timeout).2.stream := by
  have hframe := map_stream_nextFrame inbox limit timeout
  rw [← h, ← map_stream_nextFrame inbox' limit timeout] at hframe
  exact ⟨(congrArg Prod.fst hframe).symm, (congrArg Prod.snd hframe).symm⟩

lemma stream_deliver (inbox : Inbox) (arrivals : List Arrival) :
    (inbox.deliver arrivals).stream = inbox.stream ++ Arrival.stream arrivals := by
  simp [stream, deliver]

end Inbox

/-! ## Connections that differ in the pieces -/

/-- Two replies that differ in nothing but the pieces. -/
inductive Reply.Alike : Reply → Reply → Prop where
  | accept {arrivals arrivals' : List Arrival}
    (h : Arrival.stream arrivals' = Arrival.stream arrivals) :
    Alike (.accept arrivals) (.accept arrivals')
  | fault (text : String) : Alike (.fault text) (.fault text)
  | stall : Alike .stall .stall

/-- Two servers that give alike replies in related states, and are in related states afterwards. -/
def Peer.Alike (R : σ → τ → Prop) (peer : Peer σ) (peer' : Peer τ) : Prop :=
  ∀ s t request, R s t → (peer.answer s request).1.Alike (peer'.answer t request).1
    ∧ R (peer.answer s request).2 (peer'.answer t request).2

/-- Lists of alike replies make alike servers. -/
lemma Peer.alike_script : Peer.Alike (List.Forall₂ Reply.Alike) Peer.script Peer.script := by
  intro replies replies' request h
  cases h with
  | nil => exact ⟨.accept rfl, .nil⟩
  | cons hreply hrest => exact ⟨hreply, hrest⟩

namespace Connection

/-- Two connections that differ in nothing but the pieces in which the server sends. -/
structure Alike (R : σ → τ → Prop) (c : Connection σ) (c' : Connection τ) : Prop where
  settings : c'.settings = c.settings
  peer : Peer.Alike R c.peer c'.peer
  server : R c.server c'.server
  stream : c'.inbox.stream = c.inbox.stream
  sent : c'.sent = c.sent
  transaction : c'.transaction = c.transaction
  broken : c'.broken = c.broken
  inFlight : c'.inFlight = c.inFlight
  parameters : c'.parameters = c.parameters
  log : c'.log = c.log

variable {R : σ → τ → Prop} {c : Connection σ} {c' : Connection τ}

lemma Alike.isUsable (h : Alike R c c') : c'.isUsable = c.isUsable := by
  rw [Connection.isUsable, Connection.isUsable, h.broken, h.inFlight]

lemma Alike.record (h : Alike R c c') (entry : LogRecord) :
    Alike R (c.record entry) (c'.record entry) :=
  { h with log := congrArg (·.push entry) h.log }

lemma Alike.markBroken (h : Alike R c c') (reason : String) :
    Alike R (c.markBroken reason) (c'.markBroken reason) :=
  ({ h with broken := rfl } : Alike R { c with broken := some reason }
    { c' with broken := some reason }).record _

lemma Alike.noticeCancelled (h : Alike R c c') :
    Alike R c.noticeCancelled c'.noticeCancelled := by
  simp only [Connection.noticeCancelled, h.inFlight, h.broken]
  split
  · exact h.markBroken _
  · exact h

lemma Alike.begin (h : Alike R c c') :
    c'.begin.1 = c.begin.1 ∧ Alike R c.begin.2 c'.begin.2 := by
  have hnoticed := h.noticeCancelled
  simp only [Connection.begin, hnoticed.broken]
  split
  · exact ⟨rfl, hnoticed⟩
  · exact ⟨rfl, hnoticed⟩

lemma Alike.finish (h : Alike R c c') (outcome : Except Halt Unit) :
    Alike R (c.finish outcome) (c'.finish outcome) := by
  rcases outcome with (e | _) | _
  · simp only [Connection.finish, h.broken]
    split
    · exact h.markBroken _
    · exact h
  · exact h
  · exact h

lemma Alike.send (h : Alike R c c') (request : Request) :
    (c'.send request).1 = (c.send request).1 ∧ Alike R (c.send request).2 (c'.send request).2 := by
  obtain ⟨hreply, hserver⟩ := h.peer c.server c'.server request h.server
  rcases hc : c.peer.answer c.server request with ⟨reply, server⟩
  rcases hc' : c'.peer.answer c'.server request with ⟨reply', server'⟩
  rw [hc, hc'] at hreply hserver
  simp only [Connection.send, hc, hc']
  cases hreply with
  | @accept arrivals arrivals' harrivals =>
    have hsent : c'.sent ++ [request] = c.sent ++ [request] := by rw [h.sent]
    have hstream : (c'.inbox.deliver arrivals').stream = (c.inbox.deliver arrivals).stream := by
      rw [Inbox.stream_deliver, Inbox.stream_deliver, h.stream, harrivals]
    exact ⟨rfl, { h with server := hserver, sent := hsent, inFlight := rfl, stream := hstream }⟩
  | fault text => exact ⟨rfl, { h with server := hserver, inFlight := rfl }⟩
  | stall => exact ⟨rfl, { h with server := hserver, inFlight := rfl }⟩

/-- The next response is the same, however the bytes of it are cut. -/
lemma Alike.receive (h : Alike R c c') :
    c'.receive.1 = c.receive.1 ∧ Alike R c.receive.2 c'.receive.2 := by
  obtain ⟨hframe, hstream⟩ := Inbox.nextFrame_of_stream_eq h.stream
    c.settings.maxMessageSize.toNat c.settings.requestTimeout
  rcases hc : c.inbox.nextFrame c.settings.maxMessageSize.toNat c.settings.requestTimeout
    with ⟨outcome, inbox⟩
  rcases hc' : c'.inbox.nextFrame c.settings.maxMessageSize.toNat c.settings.requestTimeout
    with ⟨outcome', inbox'⟩
  rw [hc, hc'] at hframe hstream
  rw [← h.settings] at hc'
  simp only [Connection.receive, hc, hc']
  obtain rfl : outcome' = outcome := hframe
  cases outcome' with
  | error halt => exact ⟨rfl, { h with stream := hstream }⟩
  | ok frame => exact ⟨rfl, { h with stream := hstream }⟩

lemma Alike.take (h : Alike R c c') (response : Response) :
    Alike R (c.take response) (c'.take response) := by
  cases response with
  | ready state => exact { h with transaction := rfl, inFlight := rfl }
  | log severity code text => exact h.record _
  | parameter name value =>
    exact { h with parameters := congrArg (·.insert (Utf8.decodeLossy name) value) h.parameters }
  | _ => exact h

/-- A cycle is read to the same end from the same stream. -/
theorem Alike.drain (h : Alike R c c') (handle : Handler α) (value : α) (held : Option Error) :
    Cycle.Matches (Alike R) (c.drain handle value held) (c'.drain handle value held) := by
  -- what `c` receives `c'` receives too, so both take the same of the three equations
  have received {c d : Connection σ} {c' : Connection τ} {outcome : Except Halt Response}
      (h : Alike R c c') (hreceive : c.receive = (outcome, d)) :
      ∃ d', c'.receive = (outcome, d') ∧ Alike R d d' := by
    obtain ⟨houtcome, hafter⟩ := h.receive
    rw [hreceive] at houtcome hafter
    exact ⟨_, Prod.ext houtcome rfl, hafter⟩
  refine drain_induction (motive := fun c value held done => ∀ c', Alike R c c' →
    Cycle.Matches (Alike R) done (c'.drain handle value held)) ?_ ?_ ?_ ?_ c value held c' h
  · intro c d value held halt hreceive c' h
    obtain ⟨d', hreceive', hafter⟩ := received h hreceive
    rw [drain_halt handle value held hreceive']
    exact ⟨hafter, rfl, rfl⟩
  · intro c d value held state hreceive c' h
    obtain ⟨d', hreceive', hafter⟩ := received h hreceive
    rw [drain_ready handle value held hreceive']
    exact ⟨hafter.take (.ready state), rfl, rfl⟩
  · intro c d value value' held response e hreceive hready hrespond hfatal c' h
    obtain ⟨d', hreceive', hafter⟩ := received h hreceive
    rw [drain_step handle value held hreceive' hready, hrespond]
    simp only [hfatal, if_true]
    exact ⟨hafter.take _, rfl, rfl⟩
  · intro c d value value' held held' response done hreceive hready hvalue herror ih c' h
    obtain ⟨d', hreceive', hafter⟩ := received h hreceive
    have hgo := ih (d'.take response) (hafter.take response)
    rw [drain_step handle value held hreceive' hready]
    rcases hrespond : handle.respond value response with ⟨value'', e⟩
    rw [hrespond] at hvalue herror
    obtain rfl : value'' = value' := hvalue
    rcases herror with ⟨rfl, rfl⟩ | ⟨e, rfl, hfatal, rfl⟩
    · exact hgo
    · simp only [hfatal, Bool.false_eq_true, if_false]
      exact hgo

/-- **Every piece of a call** keeps connections alike. -/
theorem simulation_alike (R : σ → τ → Prop) : Simulation (Alike R) where
  settings := Alike.settings
  begin := Alike.begin
  send := Alike.send
  drain h _ handle value := h.drain handle value none
  finish := Alike.finish

end Connection

end QueryWire
