import QueryWire.Proofs.Connection.Chunks

/-!
# Messages that may come at any point

A server may put records of its log and values of its parameters between any two of its messages.
Here a stream with such messages put in goes along with the one without them: whatever is read next
is either one of them, and then the rest still goes along, or it is the same in both streams.

* `Frame.IsAside` — the bytes of such a message.
* `Weaves` — a stream with such messages put in between its frames.
* `Weaves.nextFrame`, `Weaves.append` — reading a frame of such a stream, and adding to it.
* `Connection.Woven` — two connections that differ only in such messages.
* **`Connection.simulation_woven`** — every piece of a call keeps them so.
-/

namespace QueryWire

variable {σ τ α : Type}

/-- Whether a response may come at any point. -/
def Response.isAside : Response → Bool
  | .log _ _ _ | .parameter _ _ => true
  | _ => false

namespace Frame

/-- Bytes that are one whole frame, which is not too long. -/
def IsWhole (limit : Nat) (bytes : Bytes) : Prop := length? limit bytes = .ok (some bytes.length)

instance (limit : Nat) (bytes : Bytes) : Decidable (IsWhole limit bytes) :=
  inferInstanceAs (Decidable (length? limit bytes = .ok (some bytes.length)))

/-- The bytes of a message that may come at any point: it is not too long, and can be
understood. -/
def IsAside (limit : Nat) (bytes : Bytes) : Prop :=
  IsWhole limit bytes
    ∧ ∃ response, Response.ofFrame (ofBytes bytes.length bytes) = .ok response
      ∧ response.isAside = true

end Frame

/-! ## Streams with messages put in -/

/-- The second stream is the first with messages put in between its frames that may come at any
point.  `pending` are the bytes at the end of both that are no whole frame yet, if reading can get
there; more of the stream may follow. -/
inductive Weaves (limit : Nat) :
    List Signal → List Signal → (pending : Option Bytes) → Prop
  /-- Nothing but part of a frame is there. -/
  | part {bytes : Bytes} : Frame.length? limit bytes = .ok none →
      Weaves limit (bytes.map .byte) (bytes.map .byte) (some bytes)
  /-- Reading never gets past this point. -/
  | stuck {bytes : Bytes} {event : Signal} (stream stream' : List Signal) :
      Frame.length? limit bytes = .ok none → event = .ended ∨ event = .silence →
      Weaves limit (bytes.map .byte ++ event :: stream) (bytes.map .byte ++ event :: stream') none
  /-- The length of the next frame is bad, and reading never gets past it. -/
  | bad {bytes : Bytes} {e : Error} (stream stream' : List Signal) :
      Frame.length? limit bytes = .error e →
      Weaves limit (bytes.map .byte ++ stream) (bytes.map .byte ++ stream') none
  /-- The stream fails for once. -/
  | fault {bytes : Bytes} {text : String} {stream stream' : List Signal}
      {pending : Option Bytes} : Frame.length? limit bytes = .ok none →
      Weaves limit (bytes.map .byte ++ stream) (bytes.map .byte ++ stream') pending →
      Weaves limit (bytes.map .byte ++ .fault text :: stream)
        (bytes.map .byte ++ .fault text :: stream') pending
  | frame {bytes : Bytes} {stream stream' : List Signal} {pending : Option Bytes} :
      Frame.IsWhole limit bytes → Weaves limit stream stream' pending →
      Weaves limit (bytes.map .byte ++ stream) (bytes.map .byte ++ stream') pending
  | aside {bytes : Bytes} {stream stream' : List Signal} {pending : Option Bytes} :
      Frame.IsAside limit bytes → Weaves limit stream stream' pending →
      Weaves limit stream (bytes.map .byte ++ stream') pending

/-- What follows on two streams goes along with each other, too, and leaves `next` at the end. -/
def Continues (limit : Nat) :
    (pending : Option Bytes) → List Signal → List Signal → (next : Option Bytes) → Prop
  | some bytes, more, more', next =>
    Weaves limit (bytes.map .byte ++ more) (bytes.map .byte ++ more') next
  | none, _, _, next => next = none

namespace Weaves

variable {limit : Nat} {stream stream' more more' : List Signal} {pending next : Option Bytes}

/-- Streams that go along with each other still do when what follows on them does. -/
lemma append (h : Weaves limit stream stream' pending)
    (hmore : Continues limit pending more more' next) :
    Weaves limit (stream ++ more) (stream' ++ more') next := by
  induction h with
  | part _ => exact hmore
  | stuck stream stream' hpart hevent =>
    obtain rfl := hmore
    simp only [List.append_assoc, List.cons_append]
    exact .stuck _ _ hpart hevent
  | bad stream stream' hbad =>
    obtain rfl := hmore
    simp only [List.append_assoc]
    exact .bad _ _ hbad
  | fault hpart _ ih =>
    have hrest := ih hmore
    simp only [List.append_assoc, List.cons_append] at hrest ⊢
    exact .fault hpart hrest
  | frame hwhole _ ih =>
    simp only [List.append_assoc]
    exact .frame hwhole (ih hmore)
  | aside haside _ ih =>
    simp only [List.append_assoc]
    exact .aside haside (ih hmore)

/-- A whole frame at the front of a stream is the next one. -/
lemma nextFrame_whole {bytes : Bytes} (h : Frame.IsWhole limit bytes) (timeout : Option UInt64)
    (stream : List Signal) : Signal.nextFrame limit timeout (bytes.map .byte ++ stream)
      = (.ok (Frame.ofBytes bytes.length bytes), stream) := by
  simpa using Inbox.signal_nextFrame_of_whole h stream

/-- What is read next is a message that was put in, or it is the same in both streams. -/
lemma nextFrame (h : Weaves limit stream stream' pending) (timeout : Option UInt64) :
    (∃ frame response rest, Signal.nextFrame limit timeout stream' = (.ok frame, rest)
        ∧ Response.ofFrame frame = .ok response ∧ response.isAside = true
        ∧ Weaves limit stream rest pending)
      ∨ (Signal.nextFrame limit timeout stream').1 = (Signal.nextFrame limit timeout stream).1
        ∧ Weaves limit (Signal.nextFrame limit timeout stream).2
          (Signal.nextFrame limit timeout stream').2 pending := by
  cases h with
  | @part bytes hpart =>
    right
    have hnext : Signal.nextFrame limit timeout (bytes.map .byte)
        = (.error (.failed (.transport .closed)), bytes.map .byte) := by
      simp [Signal.nextFrame, hpart]
    rw [hnext]
    exact ⟨rfl, .part hpart⟩
  | @stuck bytes event stream stream' hpart hevent =>
    right
    have hnext (stream : List Signal) :
        (Signal.nextFrame limit timeout (bytes.map .byte ++ event :: stream)).2
          = bytes.map .byte ++ event :: stream := by
      rcases hevent with rfl | rfl <;>
        simp [Signal.nextFrame, Signal.front, Signal.back, hpart]
    refine ⟨?_, ?_⟩
    · rcases hevent with rfl | rfl <;>
        simp [Signal.nextFrame, Signal.front, Signal.back, hpart]
    · rw [hnext, hnext]
      exact .stuck _ _ hpart hevent
  | bad stream stream' hbad =>
    right
    rw [Inbox.signal_nextFrame_of_error hbad, Inbox.signal_nextFrame_of_error hbad]
    exact ⟨rfl, .bad _ _ hbad⟩
  | @fault bytes text stream stream' _ hpart hrest =>
    right
    have hnext (stream : List Signal) :
        Signal.nextFrame limit timeout (bytes.map .byte ++ .fault text :: stream)
          = (.error (.failed (.transport (.failed text))), bytes.map .byte ++ stream) := by
      simp [Signal.nextFrame, Signal.front, Signal.back, hpart]
    rw [hnext, hnext]
    exact ⟨rfl, hrest⟩
  | frame hwhole hrest =>
    right
    rw [nextFrame_whole hwhole, nextFrame_whole hwhole]
    exact ⟨rfl, hrest⟩
  | aside haside hrest =>
    obtain ⟨hwhole, response, hresponse, hkind⟩ := haside
    exact .inl ⟨_, response, _, nextFrame_whole hwhole timeout _, hresponse, hkind, hrest⟩

end Weaves

/-! ## Servers that put messages in -/

/-- Two replies that differ in such messages only; `pending` is at the end of the streams before
and `next` after them. -/
inductive Reply.Woven (limit : Nat) : (pending next : Option Bytes) → Reply → Reply → Prop where
  | accept {arrivals arrivals' : List Arrival} {pending next : Option Bytes}
    (h : Continues limit pending (Arrival.stream arrivals) (Arrival.stream arrivals') next) :
    Woven limit pending next (.accept arrivals) (.accept arrivals')
  | fault (text : String) (pending : Option Bytes) :
    Woven limit pending pending (.fault text) (.fault text)
  | stall (pending : Option Bytes) : Woven limit pending pending .stall .stall

/-- Two servers whose replies, in related states, differ in such messages only, and that are in
related states afterwards.  How the states are related depends on what is at the end of the streams
so far. -/
def Peer.Woven (limit : Nat) (R : Option Bytes → σ → τ → Prop) (peer : Peer σ) (peer' : Peer τ) :
    Prop :=
  ∀ pending s t request, R pending s t →
    ∃ next, Reply.Woven limit pending next (peer.answer s request).1 (peer'.answer t request).1
      ∧ R next (peer.answer s request).2 (peer'.answer t request).2

/-- Two lists of replies that differ in such messages only. -/
inductive Reply.AllWoven (limit : Nat) : Option Bytes → List Reply → List Reply → Prop where
  | nil {pending : Option Bytes} (h : Continues limit pending [] [] pending) :
    AllWoven limit pending [] []
  | cons {reply reply' : Reply} {rest rest' : List Reply} {pending next : Option Bytes}
    (hreply : reply.Woven limit pending next reply') (hrest : AllWoven limit next rest rest') :
    AllWoven limit pending (reply :: rest) (reply' :: rest')

/-- Such lists of replies make such servers. -/
lemma Peer.woven_script (limit : Nat) :
    Peer.Woven limit (Reply.AllWoven limit) Peer.script Peer.script := by
  intro pending replies replies' request h
  cases h with
  | nil h => exact ⟨pending, .accept h, .nil h⟩
  | cons hreply hrest => exact ⟨_, hreply, hrest⟩

/-! ## Connections with such servers -/

namespace Connection

/-- Two connections that differ in nothing but messages of the server that may come at any point,
and in what such messages leave behind: the parameters and the log. -/
structure Woven (R : Option Bytes → σ → τ → Prop) (c : Connection σ) (c' : Connection τ) :
    Prop where
  settings : c'.settings = c.settings
  peer : Peer.Woven c.limit R c.peer c'.peer
  server : ∃ pending, Weaves c.limit c.inbox.stream c'.inbox.stream pending
    ∧ R pending c.server c'.server
  sent : c'.sent = c.sent
  transaction : c'.transaction = c.transaction
  broken : c'.broken = c.broken
  inFlight : c'.inFlight = c.inFlight

variable {R : Option Bytes → σ → τ → Prop} {c d : Connection σ} {c' : Connection τ}

lemma Woven.isUsable (h : Woven R c c') : c'.isUsable = c.isUsable := by
  rw [Connection.isUsable, Connection.isUsable, h.broken, h.inFlight]

lemma Woven.markBroken (h : Woven R c c') (reason : String) :
    Woven R (c.markBroken reason) (c'.markBroken reason) :=
  { h with broken := rfl }

lemma Woven.noticeCancelled (h : Woven R c c') :
    Woven R c.noticeCancelled c'.noticeCancelled := by
  simp only [Connection.noticeCancelled, h.inFlight, h.broken]
  split
  · exact h.markBroken _
  · exact h

lemma Woven.begin (h : Woven R c c') :
    c'.begin.1 = c.begin.1 ∧ Woven R c.begin.2 c'.begin.2 := by
  have hnoticed := h.noticeCancelled
  simp only [Connection.begin, hnoticed.broken]
  split
  · exact ⟨rfl, hnoticed⟩
  · exact ⟨rfl, hnoticed⟩

lemma Woven.finish (h : Woven R c c') (outcome : Except Halt Unit) :
    Woven R (c.finish outcome) (c'.finish outcome) := by
  rcases outcome with (e | _) | _
  · simp only [Connection.finish, h.broken]
    split
    · exact h.markBroken _
    · exact h
  · exact h
  · exact h

lemma Woven.send (h : Woven R c c') (request : Request) :
    (c'.send request).1 = (c.send request).1 ∧ Woven R (c.send request).2 (c'.send request).2 := by
  obtain ⟨pending, hweaves, hstates⟩ := h.server
  obtain ⟨next, hreply, hserver⟩ := h.peer pending c.server c'.server request hstates
  rcases hc : c.peer.answer c.server request with ⟨reply, server⟩
  rcases hc' : c'.peer.answer c'.server request with ⟨reply', server'⟩
  rw [hc, hc'] at hreply hserver
  simp only [Connection.send, hc, hc']
  cases hreply with
  | @accept arrivals arrivals' _ _ hmore =>
    have hsent : c'.sent ++ [request] = c.sent ++ [request] := by rw [h.sent]
    have hstream : Weaves c.limit (c.inbox.deliver arrivals).stream
        (c'.inbox.deliver arrivals').stream next := by
      rw [Inbox.stream_deliver, Inbox.stream_deliver]
      exact hweaves.append hmore
    exact ⟨rfl, { h with sent := hsent, inFlight := rfl, server := ⟨next, hstream, hserver⟩ }⟩
  | fault text => exact ⟨rfl, { h with inFlight := rfl, server := ⟨pending, hweaves, hserver⟩ }⟩
  | stall => exact ⟨rfl, { h with inFlight := rfl, server := ⟨pending, hweaves, hserver⟩ }⟩

/-- What is received is the response of the next frame. -/
lemma receive_of_nextFrame {next : Except Halt Frame} {inbox : Inbox}
    (h : c.inbox.nextFrame c.limit c.settings.requestTimeout = (next, inbox)) :
    c.receive = (next.bind fun frame => (Response.ofFrame frame).mapError .failed,
      { c with inbox }) := by
  rw [limit] at h
  simp only [Connection.receive, h]
  cases next <;> rfl

/-- What is received next is a message that was put in, or it is the same on both. -/
lemma Woven.receive (h : Woven R c c') {d' : Connection τ} {outcome : Except Halt Response}
    (hreceive : c'.receive = (outcome, d')) :
    (∃ response, outcome = .ok response ∧ response.isAside = true ∧ Woven R c d')
      ∨ ∃ d, c.receive = (outcome, d) ∧ Woven R d d' := by
  obtain ⟨pending, hweaves, hstates⟩ := h.server
  have hnext := hweaves.nextFrame c.settings.requestTimeout
  rw [← Inbox.map_stream_nextFrame, ← Inbox.map_stream_nextFrame] at hnext
  rcases hframe : c.inbox.nextFrame c.limit c.settings.requestTimeout with ⟨next, inbox⟩
  rcases hframe' : c'.inbox.nextFrame c.limit c.settings.requestTimeout with ⟨next', inbox'⟩
  rw [hframe, hframe'] at hnext
  rw [limit, ← h.settings] at hframe'
  rw [receive_of_nextFrame hframe'] at hreceive
  obtain ⟨rfl, rfl⟩ := Prod.mk.inj hreceive
  rcases hnext with ⟨frame, response, rest, hnext', hresponse, haside, hrest⟩ | ⟨hsame, hrest⟩
  · left
    obtain ⟨rfl, rfl⟩ := Prod.mk.inj hnext'
    refine ⟨response, ?_, haside, { h with server := ⟨pending, hrest, hstates⟩ }⟩
    simp only [Except.bind, hresponse]
    rfl
  · right
    obtain rfl : next' = next := hsame
    exact ⟨_, receive_of_nextFrame hframe, { h with server := ⟨pending, hrest, hstates⟩ }⟩

lemma Woven.take (h : Woven R c c') (response : Response) :
    Woven R (c.take response) (c'.take response) := by
  cases response with
  | ready state => exact { h with transaction := rfl, inFlight := rfl }
  | _ => exact { h with }

/-- A message that may come at any point leaves nothing behind but a record or a parameter. -/
lemma Woven.take_aside (h : Woven R c c') {response : Response} (haside : response.isAside = true) :
    Woven R c (c'.take response) := by
  cases response with
  | log severity code text => exact { h with }
  | parameter name value => exact { h with }
  | _ => cases haside

/-- No handler sees a message that may come at any point. -/
lemma respond_of_isAside (handle : Handler α) (value : α) {response : Response}
    (haside : response.isAside = true) : handle.respond value response = (value, none) := by
  cases response with
  | log severity code text => rfl
  | parameter name content => rfl
  | _ => cases haside

/-- A cycle comes to the same end with such messages in it. -/
theorem Woven.drain (h : Woven R c c') (handle : Handler α) (value : α) (held : Option Error) :
    Cycle.Matches (Woven R) (c.drain handle value held) (c'.drain handle value held) := by
  -- the induction follows the connection that receives more
  refine drain_induction (motive := fun c' value held done' => ∀ c, Woven R c c' →
    Cycle.Matches (Woven R) (c.drain handle value held) done') ?_ ?_ ?_ ?_ c' value held c h
  · intro c' d' value held halt hreceive c h
    rcases h.receive hreceive with ⟨response, hok, _⟩ | ⟨d, hreceive, hafter⟩
    · cases hok
    · rw [drain_halt handle value held hreceive]
      exact ⟨hafter, rfl, rfl⟩
  · intro c' d' value held state hreceive c h
    rcases h.receive hreceive with ⟨response, hok, haside, _⟩ | ⟨d, hreceive, hafter⟩
    · cases hok
      cases haside
    · rw [drain_ready handle value held hreceive]
      exact ⟨hafter.take (.ready state), rfl, rfl⟩
  · intro c' d' value value' held response e hreceive hready hrespond hfatal c h
    rcases h.receive hreceive with ⟨response', hok, haside, _⟩ | ⟨d, hreceive, hafter⟩
    · cases hok
      rw [respond_of_isAside handle value haside] at hrespond
      cases hrespond
    · rw [drain_step handle value held hreceive hready, hrespond]
      simp only [hfatal, if_true]
      exact ⟨hafter.take _, rfl, rfl⟩
  · intro c' d' value value' held held' response done' hreceive hready hvalue herror ih c h
    rcases h.receive hreceive with ⟨response', hok, haside, hafter⟩ | ⟨d, hreceive, hafter⟩
    · -- a message that was put in: the other connection stays where it is
      cases hok
      rw [respond_of_isAside handle value haside] at hvalue herror
      obtain rfl : value = value' := hvalue
      rcases herror with ⟨_, rfl⟩ | ⟨e, hsome, _⟩
      · exact ih c (hafter.take_aside haside)
      · cases hsome
    · have hgo := ih (d.take response) (hafter.take response)
      rw [drain_step handle value held hreceive hready]
      rcases hrespond : handle.respond value response with ⟨value'', e⟩
      rw [hrespond] at hvalue herror
      obtain rfl : value'' = value' := hvalue
      rcases herror with ⟨rfl, rfl⟩ | ⟨e, rfl, hfatal, rfl⟩
      · exact hgo
      · simp only [hfatal, Bool.false_eq_true, if_false]
        exact hgo

/-- **Every piece of a call** keeps connections apart only by such messages. -/
theorem simulation_woven (R : Option Bytes → σ → τ → Prop) : Simulation (Woven R) where
  settings := Woven.settings
  begin := Woven.begin
  send := Woven.send
  drain h _ handle value := h.drain handle value none
  finish := Woven.finish

end Connection

end QueryWire
