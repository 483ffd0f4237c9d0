import QueryWire.Connection.Basic

/-!
# One cycle

A cycle is a request and everything up to the server's word that it is ready for the next.  A
cycle is read to its end also after an error, so that the next request finds the stream in step;
only a fatal error ends it early.

* `Connection.send` — the request of a cycle.
* `Connection.receive` — the next response.
* **`Connection.drain`** — the responses of a cycle, given one by one to a handler.
-/

namespace QueryWire

/-- What is done with a response: the value gathered so far goes on, and an error may come up. -/
abbrev Handler (α : Type) := α → Response → α × Option Error

/-- What became of a cycle: the connection and the value after it, and how it ended. -/
structure Cycle (σ α : Type) where
  connection : Connection σ
  value : α
  outcome : Except Halt Unit

namespace Connection

variable {σ α : Type}

/-- Sends a request, which opens a cycle. -/
def send (c : Connection σ) (request : Request) : Except Halt Unit × Connection σ :=
  let (reply, server) := c.peer.answer c.server request
  let c := { c with inFlight := true, server }
  match reply with
  | .accept arrivals =>
    (.ok (), { c with sent := c.sent ++ [request], inbox := c.inbox.deliver arrivals })
  | .fault text => (.error (.failed (.transport (.failed text))), c)
  | .stall => (.error .suspended, c)

/-- The next response. -/
def receive (c : Connection σ) : Except Halt Response × Connection σ :=
  match c.inbox.nextFrame c.settings.maxMessageSize.toNat c.settings.requestTimeout with
  | (.error halt, inbox) => (.error halt, { c with inbox })
  | (.ok frame, inbox) => ((Response.ofFrame frame).mapError .failed, { c with inbox })

/-- A response uses up bytes. -/
theorem unread_receive {c c' : Connection σ} {response : Response}
    (h : c.receive = (.ok response, c')) : c'.inbox.unread < c.inbox.unread := by
  unfold receive at h
  split at h
  · simp at h
  · rename_i frame inbox hframe
    have hlt := Inbox.unread_nextFrame hframe
    simp only [Prod.mk.injEq] at h
    rw [← h.2]
    exact hlt

/-- The connection after a response that may come at any point of a cycle. -/
def note (c : Connection σ) : Response → Connection σ
  | .log severity code text => c.record (.server severity code text)
  | .parameter name value =>
    { c with parameters := c.parameters.insert (Utf8.decodeLossy name) value }
  | _ => c

@[simp] theorem inbox_note (c : Connection σ) (response : Response) :
    (c.note response).inbox = c.inbox := by
  cases response <;> rfl

/-- How a cycle ends that came to its end: with the error held back in it, if there is one. -/
def ending : (held : Option Error) → Except Halt Unit
  | some e => .error (.failed e)
  | none => .ok ()

/-- Reads the rest of a cycle, each response going to the handler or, when it may come at any
point, to the connection.  The first error of the server or the handler is `held` back until the
end; one that is fatal ends the cycle at once. -/
def drain (handle : Handler α) (c : Connection σ) (value : α) (held : Option Error) : Cycle σ α :=
  match _h : c.receive with
  | (.error halt, c) => ⟨c, value, .error halt⟩
  | (.ok response, c) =>
    match response with
    | .ready state => ⟨{ c with transaction := state, inFlight := false }, value, ending held⟩
    | .error cause =>
      if cause.isFatal then ⟨c, value, .error (.failed (.server cause))⟩
      else drain handle c value (held.or (some (.server cause)))
    | .log severity code text => drain handle (c.note (.log severity code text)) value held
    | .parameter name content => drain handle (c.note (.parameter name content)) value held
    | response =>
      match handle value response with
      | (value, none) => drain handle c value held
      | (value, some e) =>
        if e.isFatal then ⟨c, value, .error (.failed e)⟩
        else drain handle c value (held.or (some e))
termination_by c.inbox.unread
decreasing_by all_goals simpa using unread_receive _h

/-- One cycle: a request, and what the server says to it. -/
def cycle (c : Connection σ) (request : Request) (handle : Handler α) (value : α) : Cycle σ α :=
  match c.send request with
  | (.error halt, c) => ⟨c, value, .error halt⟩
  | (.ok (), c) => c.drain handle value none

/-! ## Scripts -/

/-- The responses that a script may have: one at the end of each statement. -/
def scriptReply : Handler Unit
  | (), .commandComplete _ => ((), none)
  | (), response => ((), some (.protocolViolation (.unexpected response.kind)))

/-- Runs statements that have neither arguments nor results. -/
def execute (c : Connection σ) (script : String) : Except Halt Unit × Connection σ :=
  match c.begin with
  | (.error e, c) => (.error (.failed e), c)
  | (.ok (), c) =>
    let done := c.cycle (.executeScript c.settings.headers script) scriptReply ()
    (done.outcome, done.connection.finish done.outcome)

end Connection

end QueryWire
