import QueryWire.Proofs.Connection.Drain

/-!
# Reading a whole answer

A server answers a request with messages, the last of which says that it is ready.  They travel in
pieces of any size, and what comes of a cycle depends on the messages alone.

* `Message` — a frame with the response that it stands for.
* `Answer` — the messages of one cycle.
* `Delivers`, `Inbox.Holds` — bytes that arrive in pieces.
* `Answer.read` — what a handler makes of an answer.
* **`Connection.drain_answer`** — reading a cycle is that, in whatever pieces the answer came.
-/

namespace QueryWire

variable {σ α : Type}

/-! ## Frames as bytes -/

namespace Frame

/-- The length that a frame declares. -/
def size (frame : Frame) : Nat := frame.payload.length + 4

/-- A frame on the wire. -/
def bytes (frame : Frame) : Bytes := frame.kind :: (BigEndian.encode 4 frame.size ++ frame.payload)

lemma length_bytes (frame : Frame) : frame.bytes.length = frame.size + 1 := by
  simp [bytes, size]
  omega

/-- The bytes in front of a payload tell its kind and the length. -/
lemma declared?_bytes {frame : Frame} (hsize : frame.size < BigEndian.size 4) (rest : Bytes) :
    declared? (frame.bytes ++ rest) = some (frame.kind, frame.size) := by
  have hdecode := BigEndian.decode_encode_of_lt hsize
  obtain ⟨a, b, c, d, habcd⟩ : ∃ a b c d, BigEndian.encode 4 frame.size = [a, b, c, d] :=
    ⟨_, _, _, _, rfl⟩
  rw [habcd] at hdecode
  simp [bytes, habcd, declared?, hdecode]

/-- The length is known as soon as the first five bytes are there. -/
lemma declared?_of_le {buffer : Bytes} (more : Bytes) (h : headerSize ≤ buffer.length) :
    declared? (buffer ++ more) = declared? buffer := by
  rcases buffer with _ | ⟨kind, _ | ⟨a, _ | ⟨b, _ | ⟨c, _ | ⟨d, rest⟩⟩⟩⟩⟩
  all_goals first | rfl | (simp only [headerSize, List.length_cons, List.length_nil] at h; omega)

lemma declared?_of_lt {buffer : Bytes} (h : buffer.length < headerSize) :
    declared? buffer = none := by
  rcases buffer with _ | ⟨kind, _ | ⟨a, _ | ⟨b, _ | ⟨c, _ | ⟨d, rest⟩⟩⟩⟩⟩
  all_goals first | rfl | (simp only [headerSize, List.length_cons] at h; omega)

variable {frame : Frame} {buffer more rest : Bytes}

/-- What is known of a frame of which only the beginning has arrived. -/
lemma length?_of_append (limit : Nat) (hsize : frame.size < BigEndian.size 4)
    (h : buffer ++ more = frame.bytes ++ rest) :
    length? limit buffer
      = if buffer.length < headerSize then .ok none
        else if limit < frame.size then .error (.framing (.tooLong frame.size limit))
        else if frame.size + 1 ≤ buffer.length then .ok (some (frame.size + 1))
        else .ok none := by
  simp only [length?]
  by_cases hshort : buffer.length < headerSize
  · rw [declared?_of_lt hshort, if_pos hshort]
  · have hdeclared : declared? buffer = some (frame.kind, frame.size) := by
      rw [← declared?_of_le more (Nat.le_of_not_lt hshort), h, declared?_bytes hsize]
    have hfour : ¬ frame.size < 4 := by simp [size]
    simp only [hdeclared, if_neg hshort, if_neg hfour]
    congr 1
    have htake : (buffer.take (frame.size + 1)).length = frame.size + 1
        ↔ frame.size + 1 ≤ buffer.length := by
      rw [List.length_take]
      omega
    simp only [htake]

/-- The frame at the front is the one that was written. -/
lemma ofBytes_append (frame : Frame) (rest : Bytes) :
    ofBytes (frame.size + 1) (frame.bytes ++ rest) = frame
      ∧ (frame.bytes ++ rest).drop (frame.size + 1) = rest := by
  rw [← length_bytes]
  refine ⟨?_, List.drop_left⟩
  obtain ⟨kind, payload⟩ := frame
  have hdrop : (bytes ⟨kind, payload⟩).drop headerSize = payload := by
    rw [bytes, headerSize, List.drop_succ_cons]
    exact List.drop_left' (BigEndian.length_encode 4 _)
  rw [ofBytes, List.take_left, hdrop]
  rfl

end Frame

/-! ## Bytes in pieces -/

/-- Reads yield these bytes, and never none or an error before the end. -/
inductive Delivers : List Arrival → Bytes → Prop
  | nil : Delivers [] []
  | piece {b : UInt8} {bytes more : Bytes} {arrivals : List Arrival} :
      Delivers arrivals more → Delivers (.bytes (b :: bytes) :: arrivals) (b :: bytes ++ more)

/-- What has arrived and what will are these bytes. -/
def Inbox.Holds (inbox : Inbox) (bytes : Bytes) : Prop :=
  ∃ more, Delivers inbox.arrivals more ∧ inbox.buffer ++ more = bytes

namespace Inbox

/-- Only an empty inbox holds nothing. -/
lemma Holds.eq_empty {inbox : Inbox} (h : inbox.Holds []) : inbox = empty := by
  obtain ⟨buffer, arrivals⟩ := inbox
  obtain ⟨more, hdelivers, happend⟩ := h
  obtain ⟨hbuffer, hmore⟩ := List.append_eq_nil_iff.1 happend
  dsimp only at hbuffer hdelivers
  subst hbuffer hmore
  cases hdelivers
  rfl

lemma holds_deliver {arrivals : List Arrival} {bytes : Bytes} (h : Delivers arrivals bytes) :
    (empty.deliver arrivals).Holds bytes := ⟨bytes, h, rfl⟩

section

variable {frame : Frame} {limit : Nat} (timeout : Option UInt64) {arrivals : List Arrival}
  {buffer more rest : Bytes}

/-- A frame that has arrived whole, and is not too long, is taken off the buffer. -/
lemma nextFrameFrom_whole (hsize : frame.size < BigEndian.size 4) (hlimit : frame.size ≤ limit) :
    nextFrameFrom limit timeout arrivals (frame.bytes ++ rest) = (.ok frame, ⟨rest, arrivals⟩) := by
  have hlength : frame.size + 1 ≤ (frame.bytes ++ rest).length := by
    rw [List.length_append, Frame.length_bytes]
    omega
  have hheader : ¬ (frame.bytes ++ rest).length < Frame.headerSize := by
    simp only [Frame.size] at hlength
    simp only [Frame.headerSize]
    omega
  have hsome := Frame.length?_of_append limit hsize
    (show (frame.bytes ++ rest) ++ [] = frame.bytes ++ rest from List.append_nil _)
  rw [if_neg hheader, if_neg (Nat.not_lt.2 hlimit), if_pos hlength] at hsome
  obtain ⟨hframe, hdrop⟩ := Frame.ofBytes_append frame rest
  rw [nextFrameFrom.eq_def]
  simp only [hsome, hframe, hdrop]

/-- A frame that is not too long is read, in whatever pieces it came. -/
lemma nextFrameFrom_append (hdelivers : Delivers arrivals more)
    (hsize : frame.size < BigEndian.size 4) (hlimit : frame.size ≤ limit)
    (happend : buffer ++ more = frame.bytes ++ rest) :
    ∃ inbox, nextFrameFrom limit timeout arrivals buffer = (.ok frame, inbox)
      ∧ inbox.Holds rest := by
  induction hdelivers generalizing buffer with
  | nil =>
    rw [List.append_nil] at happend
    rw [happend, nextFrameFrom_whole timeout hsize hlimit]
    exact ⟨_, rfl, [], .nil, List.append_nil _⟩
  | @piece b bytes more arrivals hdelivers ih =>
    rcases List.append_eq_append_iff.1 happend with ⟨missing, hframe, _⟩ | ⟨tail, hbuffer, hrest⟩
    · by_cases hnil : missing = []
      · -- The frame ends where the buffer does.
        subst hnil
        rw [List.append_nil] at hframe
        have hbuffer : buffer = frame.bytes ++ [] := by rw [hframe, List.append_nil]
        rw [hbuffer, nextFrameFrom_whole timeout hsize hlimit]
        refine ⟨_, rfl, _, .piece hdelivers, ?_⟩
        rw [hframe] at happend
        exact List.append_cancel_left happend
      · have hnone := Frame.length?_of_append limit hsize happend
        have hshort : ¬ frame.size + 1 ≤ buffer.length := by
          have := congrArg List.length hframe
          rw [Frame.length_bytes, List.length_append] at this
          have := List.length_pos_iff.2 hnil
          omega
        rw [if_neg (Nat.not_lt.2 hlimit), if_neg hshort, ite_self] at hnone
        rw [nextFrameFrom]
        simp only [hnone]
        exact ih (by rw [← happend, List.append_assoc])
    · rw [hbuffer, nextFrameFrom_whole timeout hsize hlimit]
      exact ⟨_, rfl, _, .piece hdelivers, hrest.symm⟩

/-- A frame that is too long is refused, in whatever pieces it came. -/
lemma nextFrameFrom_tooLong (hdelivers : Delivers arrivals more)
    (hsize : frame.size < BigEndian.size 4) (hlimit : limit < frame.size)
    (happend : buffer ++ more = frame.bytes ++ rest) :
    ∃ inbox, nextFrameFrom limit timeout arrivals buffer
      = (.error (.failed (.framing (.tooLong frame.size limit))), inbox) := by
  induction hdelivers generalizing buffer with
  | nil =>
    have hlength := congrArg List.length happend
    have herror := Frame.length?_of_append limit hsize happend
    have hheader : ¬ buffer.length < Frame.headerSize := by
      rw [List.append_nil, List.length_append, Frame.length_bytes] at hlength
      simp only [Frame.size] at hlength
      simp only [Frame.headerSize]
      omega
    rw [if_neg hheader, if_pos hlimit] at herror
    rw [nextFrameFrom]
    simp only [herror]
    exact ⟨_, rfl⟩
  | @piece b bytes more arrivals hdelivers ih =>
    have hlength := Frame.length?_of_append limit hsize happend
    rw [if_pos hlimit] at hlength
    rw [nextFrameFrom]
    split at hlength
    · simp only [hlength]
      exact ih (by rw [← happend, List.append_assoc])
    · simp only [hlength]
      exact ⟨_, rfl⟩

end

end Inbox

/-! ## Answers -/

/-- A frame that stands for a response, and that the length in front of it has room for. -/
structure Message where
  frame : Frame
  response : Response
  means : Response.ofFrame frame = .ok response
  writable : frame.size < BigEndian.size 4

/-- What a server says to a request: messages, then that it is ready. -/
structure Answer where
  body : List Message
  state : TransactionState
  closing : Message
  closing_eq : closing.response = .ready state
  body_open : ∀ message ∈ body, message.response.isReady = false

namespace Answer

/-- The messages of an answer as bytes. -/
def bytesOf (body : List Message) (closing : Message) : Bytes :=
  match body with
  | [] => closing.frame.bytes
  | message :: rest => message.frame.bytes ++ bytesOf rest closing

/-- An answer as bytes. -/
def bytes (answer : Answer) : Bytes := bytesOf answer.body answer.closing

/-- The end of a cycle with a message that is too long. -/
def tooLong (limit : Nat) (message : Message) : Except Halt Unit :=
  .error (.failed (.framing (.tooLong message.frame.size limit)))

/-- What a handler makes of the messages of an answer. -/
def readBody (limit : Nat) (handle : Handler α) (closing : Message) (value : α)
    (held : Option Error) : List Message → α × Except Halt Unit
  | [] =>
    if limit < closing.frame.size then (value, tooLong limit closing) else (value, Connection.ending held)
  | message :: rest =>
    if limit < message.frame.size then (value, tooLong limit message)
    else match handle.respond value message.response with
      | (value, none) => readBody limit handle closing value held rest
      | (value, some e) =>
        if e.isFatal then (value, .error (.failed e))
        else readBody limit handle closing value (held.or (some e)) rest

/-- What a handler makes of an answer: the value that it gathers, and how the cycle ends. -/
def read (answer : Answer) (limit : Nat) (handle : Handler α) (value : α) :
    α × Except Halt Unit :=
  readBody limit handle answer.closing value none answer.body

end Answer

namespace Connection

/-- No cycle is open, and nothing more arrives. -/
def IsQuiet (c : Connection σ) : Prop := c.inFlight = false ∧ c.inbox = .empty

/-- The longest message that a connection accepts. -/
def limit (c : Connection σ) : Nat := c.settings.maxMessageSize.toNat

lemma receive_message {c : Connection σ} {message : Message} {rest : Bytes}
    (hholds : c.inbox.Holds (message.frame.bytes ++ rest))
    (hlimit : message.frame.size ≤ c.limit) :
    ∃ inbox, c.receive = (.ok message.response, { c with inbox }) ∧ inbox.Holds rest := by
  obtain ⟨more, hdelivers, happend⟩ := hholds
  obtain ⟨inbox, hframe, hrest⟩ := Inbox.nextFrameFrom_append
    c.settings.requestTimeout hdelivers message.writable hlimit happend
  refine ⟨inbox, ?_, hrest⟩
  simp only [receive, Inbox.nextFrame]
  rw [show c.settings.maxMessageSize.toNat = c.limit from rfl, hframe]
  simp only [message.means]
  rfl

lemma receive_tooLong {c : Connection σ} {message : Message} {rest : Bytes}
    (hholds : c.inbox.Holds (message.frame.bytes ++ rest))
    (hlimit : c.limit < message.frame.size) :
    ∃ inbox, c.receive
      = (.error (.failed (.framing (.tooLong message.frame.size c.limit))), { c with inbox }) := by
  obtain ⟨more, hdelivers, happend⟩ := hholds
  obtain ⟨inbox, hframe⟩ := Inbox.nextFrameFrom_tooLong
    c.settings.requestTimeout hdelivers message.writable hlimit happend
  refine ⟨inbox, ?_⟩
  simp only [receive, Inbox.nextFrame]
  rw [show c.settings.maxMessageSize.toNat = c.limit from rfl, hframe]

/-- A cycle ended as it should: the connection is quiet, unless the error is fatal. -/
def Settles (c : Connection σ) (outcome : Except Halt Unit) : Prop :=
  (∃ e, outcome = .error (.failed e) ∧ e.isFatal = true) ∨ c.IsQuiet

/-- Reading the messages of an answer. -/
lemma drain_body (handle : Handler α) {closing : Message} {state : TransactionState}
    (hclosing : closing.response = .ready state) (body : List Message)
    (hopen : ∀ message ∈ body, message.response.isReady = false) (c : Connection σ) (value : α)
    (held : Option Error) (hholds : c.inbox.Holds (Answer.bytesOf body closing)) :
    let done := c.drain handle value held
    (done.value, done.outcome) = Answer.readBody c.limit handle closing value held body
      ∧ done.connection.Settles done.outcome := by
  induction body generalizing c value held with
  | nil =>
    rw [show Answer.bytesOf [] closing = closing.frame.bytes ++ [] from (List.append_nil _).symm]
      at hholds
    simp only [Answer.readBody]
    by_cases hlimit : c.limit < closing.frame.size
    · obtain ⟨inbox, hreceive⟩ := receive_tooLong hholds hlimit
      rw [drain_halt handle value held hreceive, if_pos hlimit]
      exact ⟨rfl, .inl ⟨_, rfl, rfl⟩⟩
    · obtain ⟨inbox, hreceive, hrest⟩ := receive_message hholds (Nat.le_of_not_lt hlimit)
      rw [hclosing] at hreceive
      rw [drain_ready handle value held hreceive, if_neg hlimit]
      exact ⟨rfl, .inr ⟨rfl, hrest.eq_empty⟩⟩
  | cons message rest ih =>
    simp only [Answer.readBody]
    by_cases hlimit : c.limit < message.frame.size
    · obtain ⟨inbox, hreceive⟩ := receive_tooLong hholds hlimit
      rw [drain_halt handle value held hreceive, if_pos hlimit]
      exact ⟨rfl, .inl ⟨_, rfl, rfl⟩⟩
    · obtain ⟨inbox, hreceive, hrest⟩ := receive_message hholds (Nat.le_of_not_lt hlimit)
      have hready := hopen message List.mem_cons_self
      have hgo (value : α) (held : Option Error) :=
        ih (fun m hm => hopen m (List.mem_cons_of_mem _ hm))
          (({ c with inbox } : Connection σ).take message.response) value held
          (by rw [inbox_take]; exact hrest)
      have hsame : (({ c with inbox } : Connection σ).take message.response).limit = c.limit := by
        rw [limit, (agrees_take _ _).settings]
        rfl
      rw [hsame] at hgo
      rw [drain_step handle value held hreceive hready, if_neg hlimit]
      rcases handle.respond value message.response with ⟨value', e | e⟩
      · exact hgo value' held
      · by_cases hfatal : e.isFatal = true
        · simp only [if_pos hfatal, true_and]
          exact .inl ⟨e, rfl, hfatal⟩
        · simp only [if_neg hfatal]
          exact hgo value' _

/-- **Reading a cycle** gives what the handler makes of the answer, in whatever pieces it came, and
leaves nothing behind. -/
theorem drain_answer (handle : Handler α) (c : Connection σ) (value : α) (answer : Answer)
    (hholds : c.inbox.Holds answer.bytes) :
    let done := c.drain handle value none
    (done.value, done.outcome) = answer.read c.limit handle value
      ∧ done.connection.Settles done.outcome :=
  drain_body handle answer.closing_eq answer.body answer.body_open c value none hholds

end Connection

end QueryWire
