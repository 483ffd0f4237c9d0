import QueryWire.Proofs.Connection.Drain
import QueryWire.Proofs.Connection.Trace

/-!
# Turns

A turn is a request with everything that is read until its cycle ends, in whatever way.  Between
two turns nothing passes over a connection, so the turns between two of its states say all that
happened on the way.

* `Connection.Reads` — the responses that are read of a cycle.
* `Turn` — a request, the responses, and how the cycle ended.
* `Turn.IsClosed` — the word that ends the cycle was read.
* `Turn.Heard` — the turn is one of a handler.
* **`Turn.Heard.isClosed_iff`** — exactly after a closed turn no cycle is open.
* `Turn.Leads` — turns from one state of a connection to another.
-/

namespace QueryWire

variable {σ α : Type}

/-! ## What is read of a cycle -/

namespace Connection

/-- What is read of a cycle: the responses up to where nothing can be read, to the end of the cycle
or to a fatal error. -/
inductive Reads (handle : Handler α) :
    Connection σ → α → Option Error → List Response → Cycle σ α → Prop
  | halt {c c' : Connection σ} {value : α} {held : Option Error} {halt : Halt} :
      c.receive = (.error halt, c') → Reads handle c value held [] ⟨c', value, .error halt⟩
  | ready {c c' : Connection σ} {value : α} {held : Option Error} {state : TransactionState} :
      c.receive = (.ok (.ready state), c') →
      Reads handle c value held [.ready state] ⟨c'.take (.ready state), value, ending held⟩
  | fatal {c c' : Connection σ} {value value' : α} {held : Option Error} {response : Response}
      {e : Error} :
      c.receive = (.ok response, c') → response.isReady = false →
      handle.respond value response = (value', some e) → e.isFatal = true →
      Reads handle c value held [response] ⟨c'.take response, value', .error (.failed e)⟩
  | go {c c' : Connection σ} {value value' : α} {held raised : Option Error} {response : Response}
      {responses : List Response} {done : Cycle σ α} :
      c.receive = (.ok response, c') → response.isReady = false →
      handle.respond value response = (value', raised) →
      (∀ e, raised = some e → e.isFatal = false) →
      Reads handle (c'.take response) value' (held.or raised) responses done →
      Reads handle c value held (response :: responses) done

/-- Of every cycle something is read. -/
lemma exists_reads (handle : Handler α) (c : Connection σ) (value : α) (held : Option Error) :
    ∃ responses, Reads handle c value held responses (c.drain handle value held) := by
  refine drain_induction
    (motive := fun c value held done => ∃ responses, Reads handle c value held responses done)
    ?halt ?ready ?fatal ?go c value held
  case halt =>
    intro c c' value held halt h
    exact ⟨[], .halt h⟩
  case ready =>
    intro c c' value held state h
    exact ⟨[.ready state], .ready h⟩
  case fatal =>
    intro c c' value value' held response e h hready hrespond he
    exact ⟨[response], .fatal h hready hrespond he⟩
  case go =>
    rintro c c' value value' held held' response done h hready hvalue hheld ⟨responses, ih⟩
    rcases hheld with ⟨hnone, rfl⟩ | ⟨e, hsome, hfatal, rfl⟩
    · refine ⟨response :: responses, .go h hready (Prod.ext hvalue hnone) ?_ ?_⟩
      · intro e he
        cases he
      · rw [Option.or_none]
        exact ih
    · refine ⟨response :: responses, .go h hready (Prod.ext hvalue hsome) ?_ ih⟩
      intro e' he
      cases he
      exact hfatal

end Connection

/-- Responses that end with the word that the server is ready. -/
def Response.Closing (responses : List Response) : Prop :=
  ∃ body state, responses = body ++ [.ready state]

namespace Connection

variable {handle : Handler α}

/-- What is read is what a cycle reads. -/
lemma Reads.eq_drain {c : Connection σ} {value : α} {held : Option Error}
    {responses : List Response} {done : Cycle σ α} (h : Reads handle c value held responses done) :
    done = c.drain handle value held := by
  induction h with
  | halt h => exact (drain_halt handle _ _ h).symm
  | ready h => exact (drain_ready handle _ _ h).symm
  | @fatal c c' value value' held response e h hready hrespond he =>
    rw [drain_step handle value held h hready, hrespond]
    simp only [he, if_true]
  | @go c c' value value' held raised response responses done h hready hrespond hraised _ ih =>
    rw [drain_step handle value held h hready, hrespond, ih]
    cases raised with
    | none => rw [Option.or_none]
    | some e => simp only [hraised e rfl, Bool.false_eq_true, if_false]

/-- A cycle is over exactly when the word that ends it was read. -/
lemma Reads.inFlight {c : Connection σ} {value : α} {held : Option Error}
    {responses : List Response} {done : Cycle σ α} (h : Reads handle c value held responses done)
    (hopen : c.inFlight = true) :
    done.connection.inFlight = false ↔ Response.Closing responses := by
  induction h with
  | halt h =>
    have hlast := (inFlight_of_receive h).trans hopen
    constructor
    · intro hclosed
      rw [hlast] at hclosed
      cases hclosed
    · rintro ⟨body, state, hnil⟩
      simp at hnil
  | ready h =>
    refine ⟨fun _ => ⟨[], _, rfl⟩, fun _ => rfl⟩
  | @fatal c c' value value' held response e h hready _ _ =>
    have hlast : (c'.take response).inFlight = true := by
      rw [inFlight_take, inFlight_of_receive h, hopen, hready]
      rfl
    constructor
    · intro hclosed
      rw [hlast] at hclosed
      cases hclosed
    · rintro ⟨body, state, hresponse⟩
      cases body with
      | nil =>
        obtain ⟨rfl, _⟩ := List.cons.inj hresponse
        cases hready
      | cons first body => simp at hresponse
  | @go c c' value value' held raised response responses done h hready _ _ hreads ih =>
    have hnext : (c'.take response).inFlight = true := by
      rw [inFlight_take, inFlight_of_receive h, hopen, hready]
      rfl
    rw [ih hnext]
    constructor
    · rintro ⟨body, state, rfl⟩
      exact ⟨response :: body, state, rfl⟩
    · rintro ⟨body, state, hall⟩
      cases body with
      | nil =>
        obtain ⟨rfl, _⟩ := List.cons.inj hall
        cases hready
      | cons first body =>
        exact ⟨body, state, (List.cons.inj hall).2⟩

/-- A cycle that ends without an error ends with the word that ends it. -/
lemma Reads.closing_of_ok {c : Connection σ} {value : α} {held : Option Error}
    {responses : List Response} {done : Cycle σ α} (h : Reads handle c value held responses done)
    (hok : done.outcome = .ok ()) : Response.Closing responses := by
  induction h with
  | halt h => cases hok
  | ready h => exact ⟨[], _, rfl⟩
  | fatal h hready hrespond he => cases hok
  | @go c c' value value' held raised response responses done h hready _ _ _ ih =>
    obtain ⟨body, state, rfl⟩ := ih hok
    exact ⟨response :: body, state, rfl⟩

/-- A cycle that ends without an error held none back. -/
lemma Reads.held_eq_none {c : Connection σ} {value : α} {held : Option Error}
    {responses : List Response} {done : Cycle σ α} (h : Reads handle c value held responses done)
    (hok : done.outcome = .ok ()) : held = none := by
  induction h with
  | halt h => cases hok
  | @ready c c' value held state h =>
    cases held with
    | none => rfl
    | some e => cases hok
  | fatal h hready hrespond he => cases hok
  | go h hready _ _ _ ih => exact (Option.or_eq_none_iff.1 (ih hok)).1

end Connection

/-! ## Turns -/

/-- A request and what came of it. -/
structure Turn (σ : Type) where
  before : Connection σ
  request : Request
  responses : List Response
  outcome : Except Halt Unit
  after : Connection σ

namespace Turn

/-- The message of the request. -/
def kind (t : Turn σ) : RequestKind := t.request.kind

/-- The word that ends the cycle was read. -/
def IsClosed (t : Turn σ) : Prop := Response.Closing t.responses

/-- The types of a statement were described. -/
def CarriesDescription (t : Turn σ) : Prop :=
  ∃ cardinality types, .description cardinality types ∈ t.responses

/-- The request, unless it could not be sent. -/
def written (t : Turn σ) : List Request :=
  match (t.before.send t.request).1 with
  | .ok () => [t.request]
  | .error _ => []

/-- The turn is one of a handler, which makes `result` of `start`. -/
inductive Heard (handle : Handler α) (start : α) : Turn σ → α → Prop
  | unsent {c c' : Connection σ} {request : Request} {halt : Halt} :
      c.send request = (.error halt, c') →
      Heard handle start ⟨c, request, [], .error halt, c'⟩ start
  | sent {c c' : Connection σ} {request : Request} {responses : List Response}
      {done : Cycle σ α} :
      c.send request = (.ok (), c') → c'.Reads handle start none responses done →
      Heard handle start ⟨c, request, responses, done.outcome, done.connection⟩ done.value

variable {handle : Handler α} {start result : α} {t : Turn σ}

/-- Exactly after a closed turn no cycle is open. -/
theorem Heard.isClosed_iff (h : t.Heard handle start result) :
    t.IsClosed ↔ t.after.inFlight = false := by
  cases h with
  | @unsent c c' request halt hsend =>
    have hopen := Connection.inFlight_send c request
    rw [hsend] at hopen
    constructor
    · rintro ⟨body, state, hnil⟩
      simp at hnil
    · intro hclosed
      rw [hopen] at hclosed
      cases hclosed
  | @sent c c' request responses done hsend hreads =>
    have hopen := Connection.inFlight_send c request
    rw [hsend] at hopen
    exact (hreads.inFlight hopen).symm

lemma Heard.isClosed_of_ok (h : t.Heard handle start result) (hok : t.outcome = .ok ()) :
    t.IsClosed := by
  cases h with
  | unsent hsend => cases hok
  | sent hsend hreads => exact hreads.closing_of_ok hok

/-- What was sent after a turn. -/
lemma Heard.sent_eq (h : t.Heard handle start result) :
    t.after.sent = t.before.sent ++ t.written := by
  cases h with
  | @unsent c c' request halt hsend =>
    have hwritten : (⟨c, request, [], .error halt, c'⟩ : Turn σ).written = [] := by
      simp only [written, hsend]
    rw [hwritten, List.append_nil]
    exact Connection.sent_of_send_eq_error hsend
  | @sent c c' request responses done hsend hreads =>
    have hwritten : (⟨c, request, responses, done.outcome, done.connection⟩ : Turn σ).written
        = [request] := by
      simp only [written, hsend]
    have hread := (Connection.agrees_drain handle c' start none).sent
    rw [← hreads.eq_drain] at hread
    rw [hwritten, hread]
    exact Connection.sent_of_send hsend

/-- A turn breaks nothing. -/
lemma Heard.broken_eq (h : t.Heard handle start result) : t.after.broken = t.before.broken := by
  cases h with
  | @unsent c c' request halt hsend =>
    have hbroken := Connection.broken_send c request
    rwa [hsend] at hbroken
  | @sent c c' request responses done hsend hreads =>
    have hbroken := Connection.broken_send c request
    rw [hsend] at hbroken
    have hread := (Connection.agrees_drain handle c' start none).broken
    rw [← hreads.eq_drain] at hread
    exact hread.trans hbroken

/-- Every cycle is a turn. -/
lemma exists_heard (c : Connection σ) (request : Request) (handle : Handler α) (start : α) :
    ∃ responses, Heard handle start
      ⟨c, request, responses, (c.cycle request handle start).outcome,
        (c.cycle request handle start).connection⟩ (c.cycle request handle start).value := by
  rcases hsend : c.send request with ⟨halt | ⟨⟨⟩⟩, c'⟩
  · simp only [Connection.cycle, hsend]
    exact ⟨[], .unsent hsend⟩
  · obtain ⟨responses, hreads⟩ := c'.exists_reads handle start none
    simp only [Connection.cycle, hsend]
    exact ⟨responses, .sent hsend hreads⟩

/-- A turn is a cycle, and what is read in it is what the cycle reads. -/
lemma Heard.eq_cycle (h : t.Heard handle start result) :
    t.before.cycle t.request handle start = ⟨t.after, result, t.outcome⟩ := by
  cases h with
  | unsent hsend => simp only [Connection.cycle, hsend]
  | sent hsend hreads => simp only [Connection.cycle, hsend, ← hreads.eq_drain]

/-! ## One turn after the other -/

/-- Turns that lead from one state of a connection to another. -/
inductive Leads : Connection σ → List (Turn σ) → Connection σ → Prop
  | nil {c : Connection σ} : Leads c [] c
  | cons {t : Turn σ} {turns : List (Turn σ)} {c : Connection σ} :
      Leads t.after turns c → Leads t.before (t :: turns) c

/-- One turn more. -/
lemma Leads.snoc {c c' : Connection σ} {turns : List (Turn σ)} (h : Leads c turns c')
    (hbefore : t.before = c') : Leads c (turns ++ [t]) t.after := by
  induction h with
  | nil =>
    subst hbefore
    exact .cons .nil
  | cons _ ih => exact .cons (ih hbefore)

lemma Leads.eq_of_nil {c c' : Connection σ} (h : Leads c [] c') : c' = c := by
  cases h
  rfl

lemma Leads.before_eq {c c' : Connection σ} {turns : List (Turn σ)} (h : Leads c (t :: turns) c') :
    t.before = c := by
  cases h
  rfl

/-- Some handler heard the turn. -/
def IsHeard (t : Turn σ) : Prop :=
  ∃ (α : Type) (handle : Handler α) (start result : α), t.Heard handle start result

/-- What was sent after some turns. -/
lemma Leads.sent_eq {c c' : Connection σ} {turns : List (Turn σ)} (h : Leads c turns c')
    (hheard : ∀ t ∈ turns, t.IsHeard) : c'.sent = c.sent ++ turns.flatMap written := by
  induction h with
  | nil => simp
  | @cons t turns c _ ih =>
    obtain ⟨_, _, _, _, ht⟩ := hheard t List.mem_cons_self
    rw [ih fun t' ht' => hheard t' (List.mem_cons_of_mem _ ht'), ht.sent_eq, List.flatMap_cons,
      List.append_assoc]

/-- Turns break nothing. -/
lemma Leads.broken_eq {c c' : Connection σ} {turns : List (Turn σ)} (h : Leads c turns c')
    (hheard : ∀ t ∈ turns, t.IsHeard) : c'.broken = c.broken := by
  induction h with
  | nil => rfl
  | @cons t turns c _ ih =>
    obtain ⟨_, _, _, _, ht⟩ := hheard t List.mem_cons_self
    exact (ih fun t' ht' => hheard t' (List.mem_cons_of_mem _ ht')).trans ht.broken_eq

/-- Turns of which only the last may be open are all closed when they lead to a connection on which
no cycle is open. -/
lemma Leads.isClosed {c c' : Connection σ} {turns : List (Turn σ)} (h : Leads c turns c')
    (hheard : ∀ t ∈ turns, t.IsHeard) (hearlier : turns.Pairwise fun earlier _ => earlier.IsClosed)
    (hclosed : c'.inFlight = false) : ∀ t ∈ turns, t.IsClosed := by
  induction h with
  | nil =>
    intro t ht
    cases ht
  | @cons t turns c hleads ih =>
    obtain ⟨hfirst, hothers⟩ := List.pairwise_cons.1 hearlier
    have hrest := ih (fun t' ht' => hheard t' (List.mem_cons_of_mem _ ht')) hothers hclosed
    refine List.forall_mem_cons.2 ⟨?_, hrest⟩
    cases turns with
    | nil =>
      obtain ⟨_, _, _, _, ht⟩ := hheard t List.mem_cons_self
      rw [hleads.eq_of_nil] at hclosed
      exact ht.isClosed_iff.2 hclosed
    | cons t' rest => exact hfirst t' List.mem_cons_self

end Turn

end QueryWire
