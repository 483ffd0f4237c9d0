import Mathlib.Tactic.Common
import QueryWire.Session.Basic

/-!
# Reasoning about flows

An action of a query either comes to its end or ends early, and leaves a workspace behind in both
cases.  A triple says what holds then, if something held before.

* `Flow.Ensures` — the triple, with one condition for each way to end.
* `Flow.Ensures.bind`, `Flow.ensures_send`, `Flow.ensures_drain` and their like — one rule for each
  way to build an action.
* `Call` — what a program may ask of a session, as data.
-/

namespace QueryWire

/-- A destination is emptied once and for all. -/
@[simp] lemma Destination.cleared_cleared (destination : Destination) :
    destination.cleared.cleared = destination.cleared := by
  cases destination <;> rfl

/-- What reading the results begins with. -/
def Rows.start (destination : Destination) : Rows := ⟨0, none, destination.cleared⟩

/-- Whether there was no result where one was promised. -/
def Rows.isMissing (rows : Rows) (query : Query) : Bool :=
  rows.described.isNone && rows.received = 0 && query.expectsOne

namespace Flow

variable {σ α β : Type}

@[simp] lemma get_bind_apply (f : Workspace σ → Flow σ α) (w : Workspace σ) :
    (get >>= f) w = f w w := rfl

@[simp] lemma set_bind_apply (w' : Workspace σ) (f : PUnit → Flow σ α) (w : Workspace σ) :
    (set w' >>= f) w = f ⟨⟩ w' := rfl

@[simp] lemma pure_apply (a : α) (w : Workspace σ) : (pure a : Flow σ α) w = .ok a w := rfl

@[simp] lemma throw_apply (halt : Halt) (w : Workspace σ) :
    (throw halt : Flow σ α) w = .error halt w := rfl

/-- What follows an action that comes to its end. -/
lemma bind_of_ok {x : Flow σ α} {f : α → Flow σ β} {w w' : Workspace σ} {a : α}
    (h : x w = .ok a w') : (x >>= f) w = f a w' := by
  change EStateM.bind x f w = f a w'
  rw [EStateM.bind, h]

/-- From a workspace with `pre` on, the action comes to its end with `post`, or ends early with
`stop`. -/
def Ensures (pre : Workspace σ → Prop) (x : Flow σ α) (post : α → Workspace σ → Prop)
    (stop : Halt → Workspace σ → Prop) : Prop :=
  ∀ w, pre w → match x w with
    | .ok a w' => post a w'
    | .error halt w' => stop halt w'

section

variable {pre : Workspace σ → Prop} {post : α → Workspace σ → Prop}
  {stop : Halt → Workspace σ → Prop}

lemma ensures_pure {a : α} (h : ∀ w, pre w → post a w) :
    Ensures pre (pure a : Flow σ α) post stop := h

lemma ensures_fail {e : Error} (h : ∀ w, pre w → stop (.failed e) w) :
    Ensures pre (fail e : Flow σ α) post stop := h

lemma ensures_ofExcept {x : Except Error α} (hok : ∀ a w, x = .ok a → pre w → post a w)
    (herror : ∀ e w, x = .error e → pre w → stop (.failed e) w) :
    Ensures pre (ofExcept x : Flow σ α) post stop := by
  intro w hw
  cases x with
  | ok a => exact hok a w rfl hw
  | error e => exact herror e w rfl hw

/-- What holds between two actions is left open by the one and assumed by the other. -/
lemma Ensures.bind {x : Flow σ α} {f : α → Flow σ β} {middle : α → Workspace σ → Prop}
    {post : β → Workspace σ → Prop} (hx : Ensures pre x middle stop)
    (hf : ∀ a, Ensures (middle a) (f a) post stop) : Ensures pre (x >>= f) post stop := by
  intro w hw
  have hxw := hx w hw
  change match EStateM.bind x f w with
    | .ok b w' => post b w'
    | .error halt w' => stop halt w'
  simp only [EStateM.bind]
  cases h : x w with
  | ok a w' =>
    rw [h] at hxw
    exact hf a w' hxw
  | error halt w' =>
    rw [h] at hxw
    exact hxw

/-- What follows a value that may not be there can rely on it. -/
lemma ensures_ofExcept_bind {x : Except Error α} {f : α → Flow σ β}
    {post : β → Workspace σ → Prop} (hok : ∀ a, x = .ok a → Ensures pre (f a) post stop)
    (herror : ∀ e w, x = .error e → pre w → stop (.failed e) w) :
    Ensures pre (ofExcept x >>= f) post stop := by
  have hvalue : Ensures pre (ofExcept x) (fun a w => x = .ok a ∧ pre w) stop :=
    ensures_ofExcept (fun a w h hw => ⟨h, hw⟩) herror
  exact hvalue.bind fun a w hw => hok a hw.1 w hw.2

/-- An action may look at the workspace first. -/
lemma ensures_get {f : Workspace σ → Flow σ α}
    (h : ∀ w, pre w → Ensures (fun w' => w' = w) (f w) post stop) :
    Ensures pre (get >>= f) post stop := fun w hw => h w hw w rfl

lemma Ensures.weaken {x : Flow σ α} {pre' : Workspace σ → Prop} {post' : α → Workspace σ → Prop}
    {stop' : Halt → Workspace σ → Prop} (h : Ensures pre' x post' stop')
    (hpre : ∀ w, pre w → pre' w) (hpost : ∀ a w, post' a w → post a w)
    (hstop : ∀ halt w, stop' halt w → stop halt w) : Ensures pre x post stop := by
  intro w hw
  have := h w (hpre w hw)
  split at this
  · exact hpost _ _ this
  · exact hstop _ _ this

/-- What two triples say of an action holds at once. -/
lemma Ensures.and {x : Flow σ α} {pre' : Workspace σ → Prop} {post' : α → Workspace σ → Prop}
    {stop' : Halt → Workspace σ → Prop} (h : Ensures pre x post stop)
    (h' : Ensures pre' x post' stop') :
    Ensures (fun w => pre w ∧ pre' w) x (fun a w => post a w ∧ post' a w)
      (fun halt w => stop halt w ∧ stop' halt w) := by
  intro w hw
  have hleft := h w hw.1
  have hright := h' w hw.2
  cases hx : x w with
  | ok a w' =>
    rw [hx] at hleft hright
    exact ⟨hleft, hright⟩
  | error halt w' =>
    rw [hx] at hleft hright
    exact ⟨hleft, hright⟩

end

section

variable {pre : Workspace σ → Prop} {stop : Halt → Workspace σ → Prop}

lemma ensures_changeCache {change : Cache → Cache} {post : Unit → Workspace σ → Prop}
    (h : ∀ w, pre w → post () { w with cache := change w.cache }) :
    Ensures pre (changeCache change) post stop := h

lemma send_of_ok {request : Request} {w : Workspace σ} {connection : Connection σ}
    (h : w.connection.send request = (.ok (), connection)) :
    send request w = .ok () { w with connection } := by
  simp only [send, get_bind_apply, set_bind_apply, h, pure_apply]

lemma send_of_error {request : Request} {w : Workspace σ} {connection : Connection σ} {halt : Halt}
    (h : w.connection.send request = (.error halt, connection)) :
    send request w = .error halt { w with connection } := by
  simp only [send, get_bind_apply, set_bind_apply, h, throw_apply]

/-- A request is sent, or it is not. -/
lemma ensures_send {request : Request} {post : Unit → Workspace σ → Prop}
    (hok : ∀ w connection, pre w → w.connection.send request = (.ok (), connection) →
      post () { w with connection })
    (hhalt : ∀ w connection halt, pre w → w.connection.send request = (.error halt, connection) →
      stop halt { w with connection }) :
    Ensures pre (send request) post stop := by
  intro w hw
  rcases h : w.connection.send request with ⟨halt | ⟨⟨⟩⟩, connection⟩
  · rw [send_of_error h]
    exact hhalt w connection halt hw h
  · rw [send_of_ok h]
    exact hok w connection hw h

lemma drain_of_ok {handle : Handler α} {value value' : α} {w : Workspace σ}
    {connection : Connection σ}
    (h : w.connection.drain handle value none = ⟨connection, value', .ok ()⟩) :
    drain handle value w = .ok value' { w with connection } := by
  simp only [drain, get_bind_apply, set_bind_apply, h, pure_apply]

lemma drain_of_error {handle : Handler α} {value value' : α} {w : Workspace σ}
    {connection : Connection σ} {halt : Halt}
    (h : w.connection.drain handle value none = ⟨connection, value', .error halt⟩) :
    drain handle value w = .error halt { w with connection } := by
  simp only [drain, get_bind_apply, set_bind_apply, h, throw_apply]

/-- A cycle is read to its end, or it is not. -/
lemma ensures_drain {handle : Handler α} {value : α} {post : α → Workspace σ → Prop}
    (hok : ∀ w connection value', pre w →
      w.connection.drain handle value none = ⟨connection, value', .ok ()⟩ →
      post value' { w with connection })
    (hhalt : ∀ w connection value' halt, pre w →
      w.connection.drain handle value none = ⟨connection, value', .error halt⟩ →
      stop halt { w with connection }) :
    Ensures pre (drain handle value) post stop := by
  intro w hw
  rcases h : w.connection.drain handle value none with ⟨connection, value', halt | ⟨⟨⟩⟩⟩
  · rw [drain_of_error h]
    exact hhalt w connection value' halt hw h
  · rw [drain_of_ok h]
    exact hok w connection value' hw h

lemma readRows_of_ok {query : Query} {decoder : Decoder} {shape : Shape} {w : Workspace σ}
    {connection : Connection σ} {rows : Rows}
    (h : w.connection.drain (rowsReply decoder shape) (Rows.start w.destination) none
      = ⟨connection, rows, .ok ()⟩) :
    readRows query decoder shape w
      = (if rows.isMissing query then fail .zeroResults else pure rows.described : Flow σ _)
        { w with connection, destination := rows.destination } := by
  rw [Rows.start] at h
  simp only [readRows, get_bind_apply, set_bind_apply, h]
  rfl

lemma readRows_of_error {query : Query} {decoder : Decoder} {shape : Shape} {w : Workspace σ}
    {connection : Connection σ} {rows : Rows} {halt : Halt}
    (h : w.connection.drain (rowsReply decoder shape) (Rows.start w.destination) none
      = ⟨connection, rows, .error halt⟩) :
    readRows query decoder shape w
      = .error halt { w with connection, destination := rows.destination } := by
  rw [Rows.start] at h
  simp only [readRows, get_bind_apply, set_bind_apply, h, throw_apply]

/-- The results are read to their end, or they are not; only then can there be too few. -/
lemma ensures_readRows {query : Query} {decoder : Decoder} {shape : Shape}
    {post : Option DescriptorPair → Workspace σ → Prop}
    (hok : ∀ w connection rows, pre w →
      w.connection.drain (rowsReply decoder shape) (Rows.start w.destination) none
        = ⟨connection, rows, .ok ()⟩ → rows.isMissing query = false →
      post rows.described { w with connection, destination := rows.destination })
    (hmissing : ∀ w connection rows, pre w →
      w.connection.drain (rowsReply decoder shape) (Rows.start w.destination) none
        = ⟨connection, rows, .ok ()⟩ → rows.isMissing query = true →
      stop (.failed .zeroResults) { w with connection, destination := rows.destination })
    (hhalt : ∀ w connection rows halt, pre w →
      w.connection.drain (rowsReply decoder shape) (Rows.start w.destination) none
        = ⟨connection, rows, .error halt⟩ →
      stop halt { w with connection, destination := rows.destination }) :
    Ensures pre (readRows query decoder shape) post stop := by
  intro w hw
  rcases h : w.connection.drain (rowsReply decoder shape) (Rows.start w.destination) none
    with ⟨connection, rows, halt | ⟨⟨⟩⟩⟩
  · rw [readRows_of_error h]
    exact hhalt w connection rows halt hw h
  · rw [readRows_of_ok h]
    cases hrows : rows.isMissing query with
    | true => exact hmissing w connection rows hw h hrows
    | false => exact hok w connection rows hw h hrows

/-- Looking for a codec changes only the cache. -/
lemma ensures_findCodec {key : CodecKey} {post : Option Codec → Workspace σ → Prop}
    (h : ∀ w, pre w → post (w.cache.findCodec key).1 { w with cache := (w.cache.findCodec key).2 }) :
    Ensures pre (findCodec key) post stop := h

end

end Flow

/-! ## Calls as data -/

/-- What a program may ask of a session. -/
inductive Call where
  | run (query : Query) (type : RowType) (destination : Destination)
  | execute (script : String)

/-- The session after a call, and how the call ended. -/
def Session.perform {σ : Type} (session : Session σ) : Call → Session σ × Except Halt Unit
  | .run query type destination =>
    let called := session.run query type destination
    (called.session, called.outcome)
  | .execute script =>
    let called := session.execute script
    (called.session, called.outcome)

/-- A call that is refused does nothing else. -/
lemma Session.perform_of_begin {σ : Type} {session : Session σ} {e : Error} {c : Connection σ}
    (h : session.connection.begin = (.error e, c)) (call : Call) :
    session.perform call = ({ session with connection := c }, .error (.failed e)) := by
  cases call with
  | run query type destination => simp only [perform, run, h]
  | execute script => simp only [perform, execute, Connection.execute, h]

/-- The session after some calls. -/
def Session.afterAll {σ : Type} (session : Session σ) (calls : List Call) : Session σ :=
  calls.foldl (fun session call => (session.perform call).1) session

end QueryWire
