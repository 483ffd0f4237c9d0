import QueryWire.Proofs.Connection.Answer
import QueryWire.Proofs.Connection.Asides

/-!
# The frames of a cycle

A cycle takes its frames off the stream one by one and stops behind one of them: the one that says
that the server is ready, or the first one with a fatal error.  Where it stops, what the handler has
been given until then and which error counts is a matter of the responses alone.

* `Handler.gather` — what a handler makes of the responses that are its business.
* `Handler.errors` — the errors that come up with responses, in the order in which they arrive.
* `Connection.drain_messages` — as long as no error is fatal the cycle goes on behind the messages.
* **`Connection.drain_of_messages`** — where a cycle stops, and with what.
-/

namespace QueryWire

variable {σ α : Type}

/-! ## What comes of responses -/

/-- Whether a response is the business of a handler: not an error, not the end of the cycle and
nothing that may come at any point. -/
def Response.isReply : Response → Bool
  | .prepareComplete _ _ _ | .description _ _ | .data _ | .commandComplete _ => true
  | .ready _ | .error _ | .log _ _ _ | .parameter _ _ => false

namespace Handler

/-- What a handler makes of the responses that are its business, one after the other. -/
def gather (handle : Handler α) (start : α) (responses : List Response) : α :=
  (responses.filter Response.isReply).foldl (fun value response => (handle value response).1) start

/-- The error that comes up with a response: an error of the server, or one of the handler. -/
def raised (handle : Handler α) (value : α) : Response → Option Error
  | .error cause => some (.server cause)
  | response => if response.isReply then (handle value response).2 else none

/-- The errors that come up with responses, in the order in which they arrive. -/
def errors (handle : Handler α) (start : α) : List Response → List Error
  | [] => []
  | response :: responses =>
    (handle.raised start response).toList ++ handle.errors (handle.gather start [response]) responses

variable (handle : Handler α)

/-- What a cycle does with a response is told by these. -/
lemma respond_eq (value : α) (response : Response) :
    handle.respond value response = (handle.gather value [response], handle.raised value response) := by
  cases response <;> rfl

lemma gather_append (start : α) (responses more : List Response) :
    handle.gather start (responses ++ more) = handle.gather (handle.gather start responses) more := by
  rw [gather, gather, gather, List.filter_append, List.foldl_append]

lemma gather_cons (start : α) (response : Response) (responses : List Response) :
    handle.gather start (response :: responses)
      = handle.gather (handle.gather start [response]) responses :=
  handle.gather_append start [response] responses

lemma head?_errors_cons (start : α) (response : Response) (responses : List Response) :
    (handle.errors start (response :: responses)).head?
      = (handle.raised start response).or
        (handle.errors (handle.gather start [response]) responses).head? := by
  rw [errors, List.head?_append]
  cases handle.raised start response <;> rfl

/-- The first fatal error comes up with one response, after errors that are not fatal. -/
lemma exists_fatal {responses : List Response} {start : α} {e : Error}
    (h : (handle.errors start responses).find? Error.isFatal = some e) :
    ∃ before response after, responses = before ++ response :: after
      ∧ (handle.errors start before).find? Error.isFatal = none
      ∧ handle.raised (handle.gather start before) response = some e := by
  induction responses generalizing start with
  | nil => cases h
  | cons response responses ih =>
    rw [errors, List.find?_append] at h
    cases hfirst : (handle.raised start response).toList.find? Error.isFatal with
    | some first =>
      rw [hfirst, Option.some_or] at h
      have hraised := List.mem_of_find?_eq_some hfirst
      rw [Option.mem_toList] at hraised
      exact ⟨[], response, responses, rfl, rfl, hraised.trans h⟩
    | none =>
      rw [hfirst, Option.none_or] at h
      obtain ⟨before, offending, after, rfl, hmild, hraised⟩ := ih h
      refine ⟨response :: before, offending, after, rfl, ?_, ?_⟩
      · rw [errors, List.find?_append, hfirst, Option.none_or]
        exact hmild
      · rw [gather_cons]
        exact hraised

/-- The same of messages. -/
lemma exists_fatal_message {messages : List Message} {start : α} {e : Error}
    (h : (handle.errors start (messages.map Message.response)).find? Error.isFatal = some e) :
    ∃ before message after, messages = before ++ message :: after
      ∧ (handle.errors start (before.map Message.response)).find? Error.isFatal = none
      ∧ handle.raised (handle.gather start (before.map Message.response)) message.response
        = some e := by
  obtain ⟨before, response, after, hresponses, hmild, hraised⟩ := handle.exists_fatal h
  obtain ⟨before, offending, rfl, rfl, hrest⟩ := List.map_eq_append_iff.1 hresponses
  obtain ⟨message, after, rfl, rfl, -⟩ := List.map_eq_cons_iff.1 hrest
  exact ⟨before, message, after, rfl, hmild, hraised⟩

end Handler

/-! ## Frames at the front of the stream -/

/-- Messages as bytes. -/
def Message.bytesOf (messages : List Message) : Bytes :=
  messages.flatMap fun message => message.frame.bytes

lemma Message.bytesOf_cons (message : Message) (messages : List Message) :
    bytesOf (message :: messages) = message.frame.bytes ++ bytesOf messages := rfl

lemma Message.bytesOf_append (messages more : List Message) :
    bytesOf (messages ++ more) = bytesOf messages ++ bytesOf more :=
  List.flatMap_append

/-- The bytes of a message that is not too long are a whole frame. -/
lemma Message.isWhole (message : Message) {limit : Nat} (hlimit : message.frame.size ≤ limit) :
    Frame.IsWhole limit message.frame.bytes := by
  have hlength := Frame.length?_of_append limit message.writable
    (rfl : message.frame.bytes ++ [] = message.frame.bytes ++ [])
  have hheader : ¬ message.frame.bytes.length < Frame.headerSize := by
    rw [Frame.length_bytes, Frame.size, Frame.headerSize]
    omega
  rw [if_neg hheader, if_neg (Nat.not_lt.2 hlimit), if_pos (Nat.le_of_eq (Frame.length_bytes _).symm)]
    at hlength
  rw [Frame.IsWhole, hlength, Frame.length_bytes]

namespace Connection

/-- A message at the front of the stream is received, and nothing behind it is touched. -/
lemma receive_of_stream {c : Connection σ} {message : Message} {rest : List Signal}
    (hlimit : message.frame.size ≤ c.limit)
    (hstream : c.inbox.stream = message.frame.bytes.map .byte ++ rest) :
    ∃ inbox, c.receive = (.ok message.response, { c with inbox }) ∧ inbox.stream = rest := by
  have hnext := Weaves.nextFrame_whole (message.isWhole hlimit) c.settings.requestTimeout rest
  have hframe : Frame.ofBytes message.frame.bytes.length message.frame.bytes = message.frame := by
    have hofBytes := (Frame.ofBytes_append message.frame []).1
    rwa [List.append_nil, ← Frame.length_bytes] at hofBytes
  rw [← hstream, ← Inbox.map_stream_nextFrame, hframe] at hnext
  rcases hread : c.inbox.nextFrame c.limit c.settings.requestTimeout with ⟨outcome, inbox⟩
  rw [hread] at hnext
  obtain ⟨houtcome, hrest⟩ := Prod.mk.inj hnext
  obtain rfl : outcome = .ok message.frame := houtcome
  refine ⟨inbox, ?_, hrest⟩
  rw [receive_of_nextFrame hread]
  simp only [Except.bind, message.means]
  rfl

variable (handle : Handler α)

lemma transaction_take {response : Response} (hready : response.isReady = false)
    (c : Connection σ) : (c.take response).transaction = c.transaction := by
  cases response with
  | ready state => cases hready
  | _ => rfl

/-- The cycle goes on behind a response unless a fatal error comes up with it. -/
lemma drain_of_mild {c c' : Connection σ} {response : Response} {value : α}
    (held : Option Error) (hreceive : c.receive = (.ok response, c'))
    (hready : response.isReady = false)
    (hmild : ∀ e, handle.raised value response = some e → e.isFatal = false) :
    c.drain handle value held = (c'.take response).drain handle (handle.gather value [response])
      (held.or (handle.raised value response)) := by
  rw [drain_step handle value held hreceive hready, handle.respond_eq]
  cases hraised : handle.raised value response with
  | none => rw [Option.or_none]
  | some e => simp only [hmild e hraised, Bool.false_eq_true, if_false]

/-- With a fatal error it ends. -/
lemma drain_of_fatal {c c' : Connection σ} {response : Response} {value : α} {e : Error}
    (held : Option Error) (hreceive : c.receive = (.ok response, c'))
    (hready : response.isReady = false) (hraised : handle.raised value response = some e)
    (hfatal : e.isFatal = true) :
    c.drain handle value held
      = ⟨c'.take response, handle.gather value [response], .error (.failed e)⟩ := by
  rw [drain_step handle value held hreceive hready, handle.respond_eq, hraised]
  simp only [hfatal, if_true]

/-- As long as no error is fatal the cycle goes on behind the messages, and holds the first error
back. -/
lemma drain_messages {messages : List Message} {rest : List Signal} {c : Connection σ} {value : α}
    (held : Option Error) (hopen : ∀ message ∈ messages, message.response.isReady = false)
    (hfits : ∀ message ∈ messages, message.frame.size ≤ c.limit)
    (hstream : c.inbox.stream = (Message.bytesOf messages).map .byte ++ rest)
    (hmild : (handle.errors value (messages.map Message.response)).find? Error.isFatal = none) :
    ∃ c' : Connection σ, c'.inbox.stream = rest ∧ c'.settings = c.settings
      ∧ c'.transaction = c.transaction ∧ c'.inFlight = c.inFlight
      ∧ c.drain handle value held
        = c'.drain handle (handle.gather value (messages.map Message.response))
          (held.or (handle.errors value (messages.map Message.response)).head?) := by
  induction messages generalizing c value held with
  | nil =>
    refine ⟨c, ?_, rfl, rfl, rfl, ?_⟩
    · simpa [Message.bytesOf] using hstream
    · simp [Handler.gather, Handler.errors]
  | cons message messages ih =>
    obtain ⟨hready, hopen⟩ := List.forall_mem_cons.1 hopen
    obtain ⟨hfit, hfits⟩ := List.forall_mem_cons.1 hfits
    rw [Message.bytesOf_cons, List.map_append, List.append_assoc] at hstream
    obtain ⟨inbox, hreceive, hrest⟩ := receive_of_stream hfit hstream
    rw [List.map_cons, Handler.errors, List.find?_append, Option.or_eq_none_iff,
      List.find?_eq_none] at hmild
    obtain ⟨hfirst, hlater⟩ := hmild
    obtain ⟨c', hstream', hsettings, htransaction, hinFlight, hdrain⟩ :=
      ih (c := ({ c with inbox } : Connection σ).take message.response)
        (held.or (handle.raised value message.response)) hopen
        (by rwa [limit, (agrees_take _ _).settings]) (by rwa [inbox_take]) hlater
    refine ⟨c', hstream', hsettings.trans (agrees_take _ _).settings,
      htransaction.trans (transaction_take hready _), ?_, ?_⟩
    · rw [hinFlight, inFlight_take, hready, Bool.not_false, Bool.and_true]
    · rw [drain_of_mild handle held hreceive hready fun e he => by simpa [he] using hfirst, hdrain,
        List.map_cons, handle.gather_cons value message.response (messages.map _),
        handle.head?_errors_cons, Option.or_assoc]

/-- Behind such messages the word that the server is ready ends the cycle, with the first error. -/
lemma drain_ready_messages {messages : List Message} {closing : Message} {state : TransactionState}
    {later : List Signal} {c : Connection σ} {value : α}
    (hopen : ∀ message ∈ messages, message.response.isReady = false)
    (hfits : ∀ message ∈ messages, message.frame.size ≤ c.limit)
    (hmild : (handle.errors value (messages.map Message.response)).find? Error.isFatal = none)
    (hclosing : closing.response = .ready state) (hfit : closing.frame.size ≤ c.limit)
    (hstream : c.inbox.stream
      = (Message.bytesOf messages).map .byte ++ (closing.frame.bytes.map .byte ++ later)) :
    ∃ c' : Connection σ, c'.inbox.stream = later ∧ c'.transaction = state ∧ c'.inFlight = false
      ∧ c.drain handle value none = ⟨c', handle.gather value (messages.map Message.response),
        ending (handle.errors value (messages.map Message.response)).head?⟩ := by
  obtain ⟨c₁, hstream₁, hsettings, -, -, hdrain⟩ :=
    drain_messages handle none hopen hfits hstream hmild
  obtain ⟨inbox, hreceive, hlater⟩ :=
    receive_of_stream (by rwa [limit, hsettings] : closing.frame.size ≤ c₁.limit) hstream₁
  rw [hclosing] at hreceive
  refine ⟨_, ?_, rfl, rfl, hdrain.trans (drain_ready _ _ _ hreceive)⟩
  rwa [inbox_take]

/-- A fatal error ends the cycle behind the message that it comes up with, whatever was held back. -/
lemma drain_fatal_message {before after : List Message} {message : Message} {e : Error}
    {rest : List Signal} {c : Connection σ} {value : α}
    (hopen : ∀ m ∈ before ++ message :: after, m.response.isReady = false)
    (hfits : ∀ m ∈ before ++ message :: after, m.frame.size ≤ c.limit)
    (hmild : (handle.errors value (before.map Message.response)).find? Error.isFatal = none)
    (hraised : handle.raised (handle.gather value (before.map Message.response)) message.response
      = some e) (hfatal : e.isFatal = true)
    (hstream : c.inbox.stream = (Message.bytesOf (before ++ message :: after)).map .byte ++ rest) :
    ∃ c' : Connection σ, c'.inbox.stream = (Message.bytesOf after).map .byte ++ rest
      ∧ c'.transaction = c.transaction ∧ c'.inFlight = c.inFlight
      ∧ c.drain handle value none
        = ⟨c', handle.gather value ((before ++ [message]).map Message.response),
          .error (.failed e)⟩ := by
  rw [List.forall_mem_append, List.forall_mem_cons] at hopen hfits
  rw [Message.bytesOf_append, Message.bytesOf_cons, List.map_append, List.map_append,
    List.append_assoc, List.append_assoc] at hstream
  obtain ⟨c₁, hstream₁, hsettings, htransaction, hinFlight, hdrain⟩ :=
    drain_messages handle none hopen.1 hfits.1 hstream hmild
  obtain ⟨inbox, hreceive, hafter⟩ :=
    receive_of_stream (by rw [limit, hsettings]; exact hfits.2.1 : message.frame.size ≤ c₁.limit)
      hstream₁
  have hready := hopen.2.1
  refine ⟨({ c₁ with inbox } : Connection σ).take message.response, ?_, ?_, ?_, ?_⟩
  · rwa [inbox_take]
  · rw [transaction_take hready, htransaction]
  · rw [inFlight_take, hready, Bool.not_false, Bool.and_true, hinFlight]
  · rw [hdrain, List.map_append, handle.gather_append]
    exact drain_of_fatal handle _ hreceive hready hraised hfatal

/-- **Where a cycle stops, and with what.**  A cycle is open, and messages arrive that do not end it.
If none of the errors that come up with them is fatal, the cycle ends behind the message that the
server is ready: nothing further is read, the state of the transaction is the one of that message,
no cycle is open, the handler was given all that is its business, and the first error of all counts.
Otherwise the cycle ends behind the message with the first fatal error: nothing further is read, the
cycle stays open, the state of the transaction is as before, and that error counts, whichever came
before it. -/
theorem drain_of_messages (c : Connection σ) (handle : Handler α) (start : α)
    (hinFlight : c.inFlight = true) (messages : List Message)
    (hopen : ∀ message ∈ messages, message.response.isReady = false)
    (hfits : ∀ message ∈ messages, message.frame.size ≤ c.limit) (rest : List Signal)
    (hstream : c.inbox.stream = (Message.bytesOf messages).map .byte ++ rest) :
    let done := c.drain handle start none
    let responses := messages.map Message.response
    let errors := handle.errors start responses
    (errors.find? Error.isFatal = none →
      ∀ (closing : Message) (state : TransactionState) (later : List Signal),
        closing.response = .ready state → closing.frame.size ≤ c.limit →
        rest = closing.frame.bytes.map .byte ++ later →
        done.connection.inbox.stream = later ∧ done.connection.transaction = state
          ∧ done.connection.inFlight = false ∧ done.value = handle.gather start responses
          ∧ done.outcome = ending errors.head?)
      ∧ ∀ e, errors.find? Error.isFatal = some e →
        ∃ before message after, messages = before ++ message :: after
          ∧ (handle.errors start (before.map Message.response)).find? Error.isFatal = none
          ∧ handle.raised (handle.gather start (before.map Message.response)) message.response
            = some e
          ∧ done.connection.inbox.stream = (Message.bytesOf after).map .byte ++ rest
          ∧ done.connection.transaction = c.transaction ∧ done.connection.inFlight = true
          ∧ done.value = handle.gather start ((before ++ [message]).map Message.response)
          ∧ done.outcome = .error (.failed e) := by
  dsimp only
  constructor
  · rintro hmild closing state later hclosing hfit rfl
    obtain ⟨c', hlater, hstate, hclosed, hdrain⟩ :=
      drain_ready_messages handle hopen hfits hmild hclosing hfit hstream
    rw [hdrain]
    exact ⟨hlater, hstate, hclosed, rfl, rfl⟩
  · intro e hfirst
    obtain ⟨before, message, after, rfl, hmild, hraised⟩ := handle.exists_fatal_message hfirst
    obtain ⟨c', hafter, hsame, hstill, hdrain⟩ :=
      drain_fatal_message handle hopen hfits hmild hraised (List.find?_some hfirst) hstream
    rw [hdrain]
    exact ⟨before, message, after, rfl, hmild, hraised, hafter, hsame, hstill.trans hinFlight, rfl,
      rfl⟩

end Connection

namespace Failing

/-- A statement is done. -/
def doneFrame : Frame := ⟨0x43, [0, 0, 0, 0, 0, 2, 0x4F, 0x4B]⟩

/-- A statement fails, or the whole session does, as the severity says. -/
def errorFrame (severity : UInt8) : Frame :=
  ⟨0x45, [severity, 0, 0, 0, 1, 0, 0, 0, 2, 0x68, 0x69, 0, 0]⟩

/-- The error of such a frame. -/
def cause (severity : UInt8) : ServerError := ⟨severity, 1, "hi", .empty⟩

/-- The server is ready, and the transaction has failed. -/
def readyFrame : Frame := ⟨0x5A, [0, 0, 0x45]⟩

lemma means_done : Response.ofFrame doneFrame = .ok (.commandComplete "OK") := by decide +kernel

lemma means_error {severity : UInt8} (h : severity = 120 ∨ severity = 200) :
    Response.ofFrame (errorFrame severity) = .ok (.error (cause severity)) := by
  rcases h with rfl | rfl <;> decide +kernel

lemma means_ready : Response.ofFrame readyFrame = .ok (.ready .inFailedTransaction) := by
  decide +kernel

lemma size_lt (kind : UInt8) {payload : Bytes} (h : payload.length < 100) :
    (Frame.mk kind payload).size < BigEndian.size 4 := by
  have hsize : (Frame.mk kind payload).size < 104 := Nat.add_lt_add_right h 4
  exact Nat.lt_trans hsize (by decide)

/-- The messages with these frames. -/
def done : Message := ⟨doneFrame, .commandComplete "OK", means_done, size_lt _ (by decide)⟩

@[inherit_doc done]
def mild : Message :=
  ⟨errorFrame 120, .error (cause 120), means_error (.inl rfl), size_lt _ (by decide)⟩

@[inherit_doc done]
def fatal : Message :=
  ⟨errorFrame 200, .error (cause 200), means_error (.inr rfl), size_lt _ (by decide)⟩

@[inherit_doc done]
def ready : Message := ⟨readyFrame, .ready .inFailedTransaction, means_ready, size_lt _ (by decide)⟩

/-- A connection on which a script was sent, with messages and one byte more in reply. -/
def connection (messages : List Message) : Connection (List Reply) :=
  (({ settings := .initial
      peer := .script
      server := [.accept [.bytes (Message.bytesOf messages ++ [0x43])]] } :
    Connection (List Reply)).send (.executeScript .empty "create type A; drop type A")).2

/-- Where only a statement fails the script is read to its end, and where the session fails it is
not. -/
theorem drain_of_messages_failing :
    let failed := (connection [done, mild, done, ready]).drain Connection.scriptReply () none
    let lost := (connection [done, mild, fatal, done]).drain Connection.scriptReply () none
    (failed.connection.inbox.stream = [.byte 0x43]
        ∧ failed.connection.transaction = .inFailedTransaction
        ∧ failed.connection.inFlight = false
        ∧ failed.outcome = .error (.failed (.server (cause 120))))
      ∧ lost.connection.inFlight = true ∧ lost.outcome = .error (.failed (.server (cause 200))) := by
  constructor
  · have h := Connection.drain_of_messages (connection [done, mild, done, ready])
      Connection.scriptReply () rfl [done, mild, done] (by decide) (by decide)
      (ready.frame.bytes.map .byte ++ [.byte 0x43]) rfl
    obtain ⟨hstream, hstate, hclosed, -, houtcome⟩ :=
      h.1 rfl ready .inFailedTransaction [.byte 0x43] rfl (by decide) rfl
    exact ⟨hstream, hstate, hclosed, houtcome⟩
  · have h := Connection.drain_of_messages (connection [done, mild, fatal, done])
      Connection.scriptReply () rfl [done, mild, fatal, done] (by decide) (by decide) [.byte 0x43] rfl
    obtain ⟨before, message, after, -, -, -, -, -, hopen, -, houtcome⟩ :=
      h.2 (.server (cause 200)) rfl
    exact ⟨hopen, houtcome⟩

end Failing

end QueryWire
