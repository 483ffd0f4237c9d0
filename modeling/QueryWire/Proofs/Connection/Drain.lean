import Mathlib.Tactic.Common
import QueryWire.Connection.Cycle

/-!
# A cycle, response by response

`Connection.drain` looks at each response three times over: whether it ends the cycle, whether it
is one of those that may come at any point, and what the handler says to it.  Here this is said
once for every response, and the cycle becomes three equations.

* `Handler.respond` — what a response that does not end the cycle does to the value, and the error
  that comes up with it.
* `Connection.take` — what a response does to the connection.
* **`drain_halt`, `drain_ready`, `drain_step`** — the cycle after one more reading.
* **`drain_induction`** — what holds of every cycle because it holds after one more response.
-/

namespace QueryWire

variable {σ α : Type}

/-- Whether a response is the word that ends a cycle. -/
def Response.isReady : Response → Bool
  | .ready _ => true
  | _ => false

/-- What a response inside a cycle does to the value gathered so far, and the error that comes up
with it.  The handler is not asked about errors of the server, nor about what may come at any
point. -/
def Handler.respond (handle : Handler α) (value : α) : Response → α × Option Error
  | .error cause => (value, some (.server cause))
  | .ready _ | .log _ _ _ | .parameter _ _ => (value, none)
  | response => handle value response

namespace Connection

/-- The connection after a response. -/
def take (c : Connection σ) : Response → Connection σ
  | .ready state => { c with transaction := state, inFlight := false }
  | response => c.note response

@[simp] lemma inbox_take (c : Connection σ) (response : Response) :
    (c.take response).inbox = c.inbox := by
  cases response <;> rfl

/-- Only the word that ends a cycle closes it. -/
@[simp] lemma inFlight_take (c : Connection σ) (response : Response) :
    (c.take response).inFlight = (c.inFlight && !response.isReady) := by
  cases response <;> simp [take, note, record, Response.isReady]

/-! ## What reading leaves alone -/

/-- Two connections to the same server in the same state, on which the same was sent and which
are broken for the same reason.  Reading changes nothing of this. -/
structure Agrees (c c' : Connection σ) : Prop where
  settings : c'.settings = c.settings
  peer : c'.peer = c.peer
  server : c'.server = c.server
  sent : c'.sent = c.sent
  broken : c'.broken = c.broken

lemma Agrees.trans {a b c : Connection σ} (hab : Agrees a b) (hbc : Agrees b c) : Agrees a c :=
  ⟨hbc.settings.trans hab.settings, hbc.peer.trans hab.peer, hbc.server.trans hab.server,
    hbc.sent.trans hab.sent, hbc.broken.trans hab.broken⟩

/-- A reading changes nothing but the inbox. -/
lemma exists_inbox_of_receive {c c' : Connection σ} {outcome : Except Halt Response}
    (h : c.receive = (outcome, c')) : ∃ inbox, c' = { c with inbox } := by
  simp only [receive] at h
  split at h <;> cases h <;> exact ⟨_, rfl⟩

lemma inFlight_of_receive {c c' : Connection σ} {outcome : Except Halt Response}
    (h : c.receive = (outcome, c')) : c'.inFlight = c.inFlight := by
  obtain ⟨inbox, rfl⟩ := exists_inbox_of_receive h
  rfl

lemma agrees_of_receive {c c' : Connection σ} {outcome : Except Halt Response}
    (h : c.receive = (outcome, c')) : Agrees c c' := by
  obtain ⟨inbox, rfl⟩ := exists_inbox_of_receive h
  exact ⟨rfl, rfl, rfl, rfl, rfl⟩

lemma agrees_take (c : Connection σ) (response : Response) : Agrees c (c.take response) := by
  cases response <;> exact ⟨rfl, rfl, rfl, rfl, rfl⟩

/-! ## The three equations -/

/-- A cycle ends where nothing can be read. -/
lemma drain_halt (handle : Handler α) {c c' : Connection σ} {halt : Halt} (value : α)
    (held : Option Error) (h : c.receive = (.error halt, c')) :
    c.drain handle value held = ⟨c', value, .error halt⟩ := by
  rw [drain]
  split
  · rename_i heq
    rw [h] at heq
    cases heq
    rfl
  · rename_i heq
    rw [h] at heq
    cases heq

/-- A cycle ends with the word that the server is ready. -/
lemma drain_ready (handle : Handler α) {c c' : Connection σ} {state : TransactionState}
    (value : α) (held : Option Error) (h : c.receive = (.ok (.ready state), c')) :
    c.drain handle value held = ⟨c'.take (.ready state), value, ending held⟩ := by
  rw [drain]
  split
  · rename_i heq
    rw [h] at heq
    cases heq
  · rename_i heq
    rw [h] at heq
    cases heq
    rfl

/-- After any other response the cycle goes on, unless a fatal error came up with it. -/
lemma drain_step (handle : Handler α) {c c' : Connection σ} {response : Response} (value : α)
    (held : Option Error) (h : c.receive = (.ok response, c'))
    (hready : response.isReady = false) :
    c.drain handle value held
      = match handle.respond value response with
        | (value, none) => (c'.take response).drain handle value held
        | (value, some e) =>
          if e.isFatal then ⟨c'.take response, value, .error (.failed e)⟩
          else (c'.take response).drain handle value (held.or (some e)) := by
  rw [drain]
  split
  · rename_i heq
    rw [h] at heq
    cases heq
  · rename_i heq
    rw [h] at heq
    cases heq
    cases response with
    | ready state => cases hready
    | error cause => rfl
    | log severity code text => rfl
    | parameter name content => rfl
    | prepareComplete cardinality inputId outputId => rfl
    | description cardinality types => rfl
    | data payload => rfl
    | commandComplete status => rfl

/-- What holds of every cycle: it holds where nothing can be read, at the end of the cycle and
where a fatal error comes up, and it holds of a cycle if it holds of what follows one response.
The induction is on the bytes that are not used yet. -/
theorem drain_induction {handle : Handler α}
    {motive : Connection σ → α → Option Error → Cycle σ α → Prop}
    (halt : ∀ c c' value held halt, c.receive = (.error halt, c') →
      motive c value held ⟨c', value, .error halt⟩)
    (ready : ∀ c c' value held state, c.receive = (.ok (.ready state), c') →
      motive c value held ⟨c'.take (.ready state), value, ending held⟩)
    (fatal : ∀ c c' value value' held response e, c.receive = (.ok response, c') →
      response.isReady = false → handle.respond value response = (value', some e) →
      e.isFatal = true → motive c value held ⟨c'.take response, value', .error (.failed e)⟩)
    (go : ∀ c c' value value' held held' response done, c.receive = (.ok response, c') →
      response.isReady = false → (handle.respond value response).1 = value' →
      ((handle.respond value response).2 = none ∧ held' = held ∨
        ∃ e, (handle.respond value response).2 = some e ∧ e.isFatal = false
          ∧ held' = held.or (some e)) →
      motive (c'.take response) value' held' done → motive c value held done)
    (c : Connection σ) (value : α) (held : Option Error) :
    motive c value held (c.drain handle value held) := by
  induction hn : c.inbox.unread using Nat.strongRecOn generalizing c value held with
  | _ n ih =>
    subst hn
    rcases hreceive : c.receive with ⟨outcome | response, c'⟩
    · rw [drain_halt handle value held hreceive]
      exact halt c c' value held _ hreceive
    · have hlt : (c'.take response).inbox.unread < c.inbox.unread := by
        rw [inbox_take]
        exact unread_receive hreceive
      cases hready : response.isReady with
      | true =>
        cases response <;> simp only [Response.isReady, Bool.false_eq_true] at hready
        rw [drain_ready handle value held hreceive]
        exact ready c c' value held _ hreceive
      | false =>
        rw [drain_step handle value held hreceive hready]
        rcases hrespond : handle.respond value response with ⟨value', e | e⟩
        · exact go c c' value value' held held response _ hreceive hready (by rw [hrespond])
            (.inl ⟨by rw [hrespond], rfl⟩) (ih _ hlt _ _ _ rfl)
        · cases hfatal : e.isFatal with
          | true =>
            simp only [hfatal, if_true]
            exact fatal c c' value value' held response e hreceive hready hrespond hfatal
          | false =>
            simp only [hfatal, Bool.false_eq_true, if_false]
            exact go c c' value value' held _ response _ hreceive hready (by rw [hrespond])
              (.inr ⟨e, by rw [hrespond], hfatal, rfl⟩) (ih _ hlt _ _ _ rfl)

/-- Reading a cycle changes nothing of what only sending changes. -/
lemma agrees_drain (handle : Handler α) (c : Connection σ) (value : α) (held : Option Error) :
    Agrees c (c.drain handle value held).connection := by
  refine drain_induction (motive := fun c _ _ done => Agrees c done.connection)
    (fun c c' _ _ _ h => agrees_of_receive h)
    (fun c c' _ _ state h => (agrees_of_receive h).trans (agrees_take c' (.ready state)))
    (fun c c' _ _ _ response _ h _ _ _ => (agrees_of_receive h).trans (agrees_take c' response))
    (fun c c' _ _ _ _ _ _ h _ _ _ hgo => (agrees_of_receive h).trans ((agrees_take _ _).trans hgo))
    c value held

end Connection

end QueryWire
