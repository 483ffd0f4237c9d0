import QueryWire.Proofs.Connection.Drain
import QueryWire.Proofs.Wire.Reader

/-!
# What passes over a connection

A trace lists the requests that were sent and the responses that were read between two states of
a connection.  It can only be extended in the order that the exchange prescribes: a request is
sent when no cycle is open, and a response is read while one is.

* `Connection.Trace` — the states that a connection passes through.
* `Error.IsOfStream` — the errors of the stream of messages, all of them fatal.
* `Frame.HasUnknownCardinality` — the one malformed message whose error is not fatal.
* `Connection.Ends` — how an action on a connection may end early.
* **`Connection.completes_drain`** — reading a cycle comes to its end, or ends in one of these ways.
-/

namespace QueryWire

variable {σ α : Type}

/-- What passes over a connection. -/
inductive Event where
  | sent (request : Request)
  | received (response : Response)

namespace Connection

/-- The states that a connection passes through, with what passes over it on the way. -/
inductive Trace (start : Connection σ) : List Event → Connection σ → Prop
  | nil : Trace start [] start
  | sent {events : List Event} {c c' : Connection σ} {request : Request} :
      Trace start events c → c.inFlight = false → c.send request = (.ok (), c') →
      Trace start (events ++ [.sent request]) c'
  | received {events : List Event} {c c' : Connection σ} {response : Response} :
      Trace start events c → c.inFlight = true → c.receive = (.ok response, c') →
      Trace start (events ++ [.received response]) (c'.take response)

lemma broken_send (c : Connection σ) (request : Request) :
    (c.send request).2.broken = c.broken := by
  unfold send
  dsimp only
  split <;> rfl

lemma inFlight_send (c : Connection σ) (request : Request) :
    (c.send request).2.inFlight = true := by
  unfold send
  dsimp only
  split <;> rfl

/-- A request that is sent comes after those before it. -/
lemma sent_of_send {c c' : Connection σ} {request : Request}
    (h : c.send request = (.ok (), c')) : c'.sent = c.sent ++ [request] := by
  simp only [send] at h
  split at h <;> cases h
  rfl

lemma sent_of_send_eq_error {c c' : Connection σ} {request : Request} {halt : Halt}
    (h : c.send request = (.error halt, c')) : c'.sent = c.sent := by
  simp only [send] at h
  split at h <;> cases h <;> rfl

/-- Sending and reading leave it at that whether the connection is broken. -/
lemma Trace.broken_eq {start c : Connection σ} {events : List Event} (h : Trace start events c) :
    c.broken = start.broken := by
  induction h with
  | nil => rfl
  | @sent events c c' request _ _ hsend ih =>
    have := broken_send c request
    rw [hsend] at this
    exact this.trans ih
  | @received events c c' response _ _ hreceive ih =>
    exact (agrees_take c' response).broken.trans ((agrees_of_receive hreceive).broken.trans ih)

end Connection

/-! ## Errors of the stream -/

/-- An error of the stream of messages: it failed, or what it holds is no message. -/
def Error.IsOfStream : Error → Prop
  | .transport _ | .framing _ | .protocolViolation _ => True
  | _ => False

lemma Error.IsOfStream.isFatal {e : Error} (h : e.IsOfStream) : e.isFatal = true := by
  cases e <;> first | rfl | exact h.elim

lemma Reader.IsFraming.isOfStream {e : Error} (h : Reader.IsFraming e) : e.IsOfStream := by
  cases e <;> first | exact h.elim | trivial

/-! ## The message that is malformed but not fatally so -/

/-- A message that ought to say how many results a statement has, and has a byte there that is no
cardinality. -/
def Frame.HasUnknownCardinality (frame : Frame) (code : UInt8) : Prop :=
  (frame.kind = ResponseKind.prepareComplete.code
      ∨ frame.kind = ResponseKind.commandDataDescription.code)
    ∧ (∃ rest, Reader.skipHeaders frame.payload = .ok () (code :: rest))
    ∧ Cardinality.ofCode? code = none

/-- The errors about lengths are of the stream. -/
lemma Frame.isOfStream_of_length? {limit : Nat} {buffer : Bytes} {e : Error}
    (h : Frame.length? limit buffer = .error e) : e.IsOfStream := by
  simp only [Frame.length?] at h
  split at h
  · cases h
  · split at h
    · cases h
      trivial
    · split at h
      · cases h
        trivial
      · split at h <;> cases h

namespace Response

open Reader

/-- A byte is there or the error is one of framing. -/
lemma cardinality_eq_error {bytes rest : Bytes} {e : Error}
    (h : Descriptor.cardinality bytes = .error e rest) :
    e.IsOfStream ∨ ∃ code rest, bytes = code :: rest ∧ Cardinality.ofCode? code = none
      ∧ e = .descriptor (.unknownCardinality code) := by
  rcases bind_eq_error.1 h with hshort | ⟨code, middle, hcode, hmatch⟩
  · exact .inl (failsWith_framing_u8 _ _ _ hshort).isOfStream
  · right
    cases bytes with
    | nil => cases hcode
    | cons b tail =>
      rw [u8_cons] at hcode
      cases hcode
      refine ⟨code, middle, rfl, ?_⟩
      cases hcardinality : Cardinality.ofCode? code with
      | some c => rw [hcardinality] at hmatch; cases hmatch
      | none => rw [hcardinality] at hmatch; cases hmatch; exact ⟨rfl, rfl⟩

/-- A message that begins with headers and a cardinality is no message, or fails at the cardinality. -/
lemma eq_error_of_cardinality {f : Cardinality → Reader Response} {payload rest : Bytes}
    {e : Error} (hf : ∀ c, FailsWith IsFraming (f c))
    (h : (do skipHeaders; f (← Descriptor.cardinality) : Reader Response) payload = .error e rest) :
    e.IsOfStream ∨ ∃ code, (∃ rest, skipHeaders payload = .ok () (code :: rest))
      ∧ Cardinality.ofCode? code = none ∧ e = .descriptor (.unknownCardinality code) := by
  rcases bind_eq_error.1 h with h | ⟨⟨⟩, middle, hskip, h⟩
  · exact .inl (failsWith_framing_skipHeaders _ _ _ h).isOfStream
  · rcases bind_eq_error.1 h with h | ⟨cardinality, middle', _, h⟩
    · rcases cardinality_eq_error h with h | ⟨code, tail, rfl, hcode, he⟩
      · exact .inl h
      · exact .inr ⟨code, ⟨tail, hskip⟩, hcode, he⟩
    · exact .inl (hf cardinality _ _ _ h).isOfStream

lemma kind_of_kindOfCode {code : UInt8} {kind : ResponseKind} (h : kindOfCode code = .ok kind) :
    code = kind.code := by
  simp only [kindOfCode] at h
  split at h
  · rename_i k hk
    cases h
    have := List.find?_some hk
    exact (beq_iff_eq.1 this).symm
  · cases h

/-- What is no message of a known kind has an error of the stream, or fails at the cardinality that
it ought to have. -/
lemma eq_error_of_read {kind : ResponseKind} {payload rest : Bytes} {e : Error}
    (h : read kind payload = .error e rest) :
    e.IsOfStream ∨ ∃ code, (⟨kind.code, payload⟩ : Frame).HasUnknownCardinality code
      ∧ e = .descriptor (.unknownCardinality code) := by
  have framing {α : Type} {reader : Reader α} (hreader : FailsWith IsFraming reader) :
      FailsWith Error.IsOfStream reader :=
    fun bytes e rest h => (hreader bytes e rest h).isOfStream
  cases kind with
  | prepareComplete =>
    refine (eq_error_of_cardinality (fun c => ?_) h).imp_right ?_
    · exact failsWith_framing_uuid.bind fun _ => failsWith_framing_uuid.bind fun _ =>
        failsWith_pure _
    · rintro ⟨code, hskip, hcode, rfl⟩
      exact ⟨code, ⟨.inl rfl, hskip, hcode⟩, rfl⟩
  | commandDataDescription =>
    refine (eq_error_of_cardinality (fun c => ?_) h).imp_right ?_
    · exact failsWith_framing_uuid.bind fun _ => failsWith_framing_bytes.bind fun _ =>
        failsWith_framing_uuid.bind fun _ => failsWith_framing_bytes.bind fun _ =>
        failsWith_pure _
    · rintro ⟨code, hskip, hcode, rfl⟩
      exact ⟨code, ⟨.inr rfl, hskip, hcode⟩, rfl⟩
  | data =>
    left
    refine FailsWith.bind (P := Error.IsOfStream) ?_ (fun _ => ?_) _ _ _ h
    · refine (framing (failsWith_framing_nat 2)).bind fun count => ?_
      split
      · exact failsWith_throw trivial
      · exact failsWith_pure _
    · exact (framing failsWith_framing_bytes).bind fun _ => failsWith_pure _
  | commandComplete =>
    left
    exact framing (failsWith_framing_skipHeaders.bind fun _ => failsWith_framing_text.bind fun _ =>
      failsWith_pure _) _ _ _ h
  | readyForCommand =>
    left
    refine FailsWith.bind (P := Error.IsOfStream) (framing failsWith_framing_skipHeaders)
      (fun _ => ?_) _ _ _ h
    refine FailsWith.bind ?_ fun _ => failsWith_pure _
    refine (framing failsWith_framing_u8).bind fun code => ?_
    split
    · exact failsWith_pure _
    · exact failsWith_throw trivial
  | errorResponse =>
    left
    exact framing (failsWith_framing_u8.bind fun _ => failsWith_framing_u32.bind fun _ =>
      failsWith_framing_text.bind fun _ => failsWith_framing_headers.bind fun _ =>
      failsWith_pure _) _ _ _ h
  | logMessage =>
    left
    exact framing (failsWith_framing_u8.bind fun _ => failsWith_framing_u32.bind fun _ =>
      failsWith_framing_text.bind fun _ => failsWith_framing_skipHeaders.bind fun _ =>
      failsWith_pure _) _ _ _ h
  | parameterStatus =>
    left
    exact framing (failsWith_framing_bytes.bind fun _ => failsWith_framing_bytes.bind fun _ =>
      failsWith_pure _) _ _ _ h

/-- A message that cannot be understood is an error of the stream, but for the one exception. -/
lemma ofFrame_eq_error {frame : Frame} {e : Error} (h : ofFrame frame = .error e) :
    e.IsOfStream ∨ ∃ code, frame.HasUnknownCardinality code
      ∧ e = .descriptor (.unknownCardinality code) := by
  obtain ⟨code, payload⟩ := frame
  simp only [ofFrame] at h
  cases hkind : kindOfCode code with
  | error e' =>
    rw [hkind] at h
    cases h
    simp only [kindOfCode] at hkind
    split at hkind
    · cases hkind
    · cases hkind
      exact .inl trivial
  | ok kind =>
    rw [hkind] at h
    rw [kind_of_kindOfCode hkind]
    change (run' (read kind) payload).1 = .error e at h
    simp only [run'] at h
    split at h
    · cases h
    · rename_i hread
      cases h
      exact eq_error_of_read hread

end Response

namespace Connection

/-! ## How reading ends -/

/-- Reading stopped inside a cycle, at a message with an unknown cardinality. -/
def StopsAtUnknownCardinality (start c : Connection σ) : Prop :=
  ∃ events c₁ frame inbox code, Trace start events c₁ ∧ c₁.inFlight = true
    ∧ c₁.inbox.nextFrame c₁.settings.maxMessageSize.toNat c₁.settings.requestTimeout
        = (.ok frame, inbox)
    ∧ frame.HasUnknownCardinality code ∧ c = { c₁ with inbox }

/-- A connection on which no cycle is open, after some events. -/
def AtRest (start c : Connection σ) : Prop := ∃ events, Trace start events c ∧ c.inFlight = false

/-- A connection on which a cycle is open, after some events. -/
def InCycle (start c : Connection σ) : Prop := ∃ events, Trace start events c ∧ c.inFlight = true

/-- How an action may end early: with an error that came up between cycles or was held back to the
end of one, with nothing at all within a cycle, with a fatal error, or at an unknown cardinality. -/
inductive Ends (start c : Connection σ) : Halt → Prop
  | atRest {e : Error} : AtRest start c → Ends start c (.failed e)
  | suspended : c.inFlight = true → Ends start c .suspended
  | fatal {e : Error} : e.isFatal = true → Ends start c (.failed e)
  | garbled {e : Error} : StopsAtUnknownCardinality start c → e.isFatal = false →
      Ends start c (.failed e)

/-- Something came to its end between cycles, or ended early. -/
def Completes (start c : Connection σ) : (outcome : Except Halt Unit) → Prop
  | .ok () => AtRest start c
  | .error halt => Ends start c halt

lemma halt_of_nextFrameFrom {limit : Nat} {timeout : Option UInt64} {halt : Halt} {inbox : Inbox}
    (arrivals : List Arrival) (buffer : Bytes)
    (h : Inbox.nextFrameFrom limit timeout arrivals buffer = (.error halt, inbox)) :
    halt = .suspended ∨ ∃ e : Error, halt = .failed e ∧ e.IsOfStream := by
  induction arrivals generalizing buffer with
  | nil =>
    simp only [Inbox.nextFrameFrom] at h
    split at h
    · rename_i hlength
      cases h
      exact .inr ⟨_, rfl, Frame.isOfStream_of_length? hlength⟩
    · cases h
    · cases h
      exact .inr ⟨_, rfl, trivial⟩
  | cons arrival rest ih =>
    unfold Inbox.nextFrameFrom at h
    split at h
    · rename_i hlength
      cases h
      exact .inr ⟨_, rfl, Frame.isOfStream_of_length? hlength⟩
    · cases h
    · split at h
      · rename_i heq
        cases heq
      · cases h
        exact .inr ⟨_, rfl, trivial⟩
      · rename_i hcons
        obtain ⟨rfl, rfl⟩ := List.cons.inj hcons
        exact ih _ h
      · cases h
        cases timeout with
        | none => exact .inl rfl
        | some milliseconds => exact .inr ⟨_, rfl, trivial⟩
      · cases h
        exact .inr ⟨_, rfl, trivial⟩

/-- Reading a response within a cycle fails in one of the ways of `Ends`. -/
lemma ends_of_receive {start c c' : Connection σ} {halt : Halt} (hcycle : InCycle start c)
    (h : c.receive = (.error halt, c')) : Ends start c' halt := by
  obtain ⟨events, htrace, hflight⟩ := hcycle
  have hopen := (inFlight_of_receive h).trans hflight
  simp only [receive] at h
  split at h
  · rename_i hframe
    cases h
    rcases halt_of_nextFrameFrom _ _ hframe with rfl | ⟨e, rfl, he⟩
    · exact .suspended hopen
    · exact .fatal he.isFatal
  · rename_i frame inbox hframe
    cases hresponse : Response.ofFrame frame with
    | ok response => rw [hresponse] at h; cases h
    | error e =>
      rw [hresponse] at h
      cases h
      rcases Response.ofFrame_eq_error hresponse with he | ⟨code, hcode, rfl⟩
      · exact .fatal he.isFatal
      · exact .garbled ⟨events, c, frame, inbox, code, htrace, hflight, hframe, hcode, rfl⟩ rfl

/-- **Reading a cycle** comes to its end, or ends early in one of the ways of `Ends`. -/
theorem completes_drain (handle : Handler α) {start c : Connection σ} (value : α)
    (held : Option Error) (hcycle : InCycle start c) :
    Completes start (c.drain handle value held).connection (c.drain handle value held).outcome := by
  refine drain_induction
    (motive := fun c _ _ done => InCycle start c → Completes start done.connection done.outcome)
    ?halt ?ready ?fatal ?go c value held hcycle
  case halt =>
    intro c c' value held halt h hcycle
    exact ends_of_receive hcycle h
  case ready =>
    rintro c c' value held state h ⟨events, htrace, hflight⟩
    have hrest : AtRest start (c'.take (.ready state)) :=
      ⟨_, .received htrace hflight h, by rw [inFlight_take, Response.isReady]; simp⟩
    cases held with
    | none => exact hrest
    | some e => exact .atRest hrest
  case fatal =>
    intro c c' value value' held response e _ _ _ he _
    exact .fatal he
  case go =>
    rintro c c' value value' held held' response done h hready _ _ ih ⟨events, htrace, hflight⟩
    refine ih ⟨_, .received htrace hflight h, ?_⟩
    rw [inFlight_take, inFlight_of_receive h, hflight, hready]
    rfl

end Connection

end QueryWire
