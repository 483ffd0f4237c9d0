import QueryWire.Proofs.Connection.Simulation
import QueryWire.Proofs.Session.Flow

/-!
# Two runs side by side

Whole calls on connections in step have the same outcome, leave the same destination and do the
same to the cache, so that nobody who only makes calls can tell the one connection from the other.

* `Flow.Matches` — two actions that end in the same way from workspaces in step; one rule for each
  way to build an action.
* `Flow.matches_run` — a query is such an action.
* **`Connection.Simulation.perform`** — what this means for a call.
-/

namespace QueryWire

variable {σ τ α β : Type}

/-! ## Actions in step -/

/-- Two workspaces whose connections are in step and that are otherwise the same. -/
structure Workspace.Matches (S : Connection σ → Connection τ → Prop) (w : Workspace σ)
    (w' : Workspace τ) : Prop where
  connection : S w.connection w'.connection
  cache : w'.cache = w.cache
  destination : w'.destination = w.destination

namespace Flow

/-- Two ends of an action that are the same end, in workspaces in step. -/
inductive EndsAlike (S : Connection σ → Connection τ → Prop) :
    EStateM.Result Halt (Workspace σ) α → EStateM.Result Halt (Workspace τ) α → Prop where
  | ok (a : α) {w : Workspace σ} {w' : Workspace τ} (hw : Workspace.Matches S w w') :
    EndsAlike S (.ok a w) (.ok a w')
  | error (halt : Halt) {w : Workspace σ} {w' : Workspace τ} (hw : Workspace.Matches S w w') :
    EndsAlike S (.error halt w) (.error halt w')

/-- From workspaces in step on, two actions end alike. -/
def Matches (S : Connection σ → Connection τ → Prop) (x : Flow σ α) (y : Flow τ α) : Prop :=
  ∀ w w', Workspace.Matches S w w' → EndsAlike S (x w) (y w')

section

variable {S : Connection σ → Connection τ → Prop}

lemma matches_pure (a : α) : Matches S (pure a : Flow σ α) (pure a) := fun _ _ hw => .ok a hw

lemma matches_fail (e : Error) : Matches S (fail e : Flow σ α) (fail e) :=
  fun _ _ hw => .error _ hw

lemma matches_ofExcept (x : Except Error α) : Matches S (ofExcept x : Flow σ α) (ofExcept x) := by
  cases x with
  | ok a => exact matches_pure a
  | error e => exact matches_fail e

lemma Matches.bind {x : Flow σ α} {y : Flow τ α} {f : α → Flow σ β} {g : α → Flow τ β}
    (hx : Matches S x y) (hf : ∀ a, Matches S (f a) (g a)) : Matches S (x >>= f) (y >>= g) := by
  intro w w' hw
  have hxw := hx w w' hw
  change EndsAlike S (EStateM.bind x f w) (EStateM.bind y g w')
  simp only [EStateM.bind]
  cases hx : x w with
  | ok a v =>
    rw [hx] at hxw
    cases hy : y w' with
    | ok b v' =>
      rw [hy] at hxw
      cases hxw with
      | ok _ hv => exact hf a v v' hv
    | error halt v' =>
      rw [hy] at hxw
      cases hxw
  | error halt v =>
    rw [hx] at hxw
    cases hy : y w' with
    | ok b v' =>
      rw [hy] at hxw
      cases hxw
    | error halt' v' =>
      rw [hy] at hxw
      cases hxw with
      | error _ hv => exact .error halt hv

/-- An action may look at the cache first. -/
lemma matches_get {f : Workspace σ → Flow σ α} {g : Workspace τ → Flow τ α}
    (h : ∀ w w', Workspace.Matches S w w' → Matches S (f w) (g w')) :
    Matches S (get >>= f) (get >>= g) := fun w w' hw => h w w' hw w w' hw

lemma matches_changeCache (change : Cache → Cache) :
    Matches S (changeCache change : Flow σ Unit) (changeCache change) :=
  fun _ _ hw => .ok () ⟨hw.connection, congrArg change hw.cache, hw.destination⟩

/-- A codec is looked for in the same cache. -/
lemma matches_findCodec (key : CodecKey) :
    Matches S (findCodec key : Flow σ _) (findCodec key) := by
  intro w w' hw
  have h : EndsAlike S (.ok (w.cache.findCodec key).1 { w with cache := (w.cache.findCodec key).2 })
      (.ok (w'.cache.findCodec key).1 { w' with cache := (w'.cache.findCodec key).2 }) := by
    rw [hw.cache]
    exact .ok _ ⟨hw.connection, rfl, hw.destination⟩
  exact h

variable (hS : Connection.Simulation S)

include hS

lemma matches_send (request : Request) : Matches S (send request) (send request) := by
  intro w w' hw
  obtain ⟨houtcome, hsent⟩ := hS.send hw.connection request
  rcases hc : w.connection.send request with ⟨outcome, d⟩
  rcases hc' : w'.connection.send request with ⟨outcome', d'⟩
  rw [hc, hc'] at houtcome hsent
  obtain rfl := houtcome
  cases outcome' with
  | ok done =>
    rw [send_of_ok hc, send_of_ok hc']
    exact .ok () ⟨hsent, hw.cache, hw.destination⟩
  | error halt =>
    rw [send_of_error hc, send_of_error hc']
    exact .error halt ⟨hsent, hw.cache, hw.destination⟩

lemma matches_drain (handle : Handler α) (value : α) :
    Matches S (drain handle value) (drain handle value) := by
  intro w w' hw
  have hdone := hS.drain hw.connection handle value
  rcases hc : w.connection.drain handle value none with ⟨d, v, outcome⟩
  rcases hc' : w'.connection.drain handle value none with ⟨d', v', outcome'⟩
  rw [hc, hc'] at hdone
  obtain ⟨hd, rfl, rfl⟩ := hdone
  cases outcome' with
  | ok done =>
    rw [drain_of_ok hc, drain_of_ok hc']
    exact .ok v' ⟨hd, hw.cache, hw.destination⟩
  | error halt =>
    rw [drain_of_error hc, drain_of_error hc']
    exact .error halt ⟨hd, hw.cache, hw.destination⟩

lemma matches_readRows (query : Query) (decoder : Decoder) (shape : Shape) :
    Matches S (readRows query decoder shape) (readRows query decoder shape) := by
  intro w w' hw
  have hdone := hS.drain hw.connection (rowsReply decoder shape) (Rows.start w.destination)
  rcases hc : w.connection.drain (rowsReply decoder shape) (Rows.start w.destination) none
    with ⟨d, rows, outcome⟩
  rcases hc' : w'.connection.drain (rowsReply decoder shape) (Rows.start w'.destination) none
    with ⟨d', rows', outcome'⟩
  rw [hc, ← hw.destination, hc'] at hdone
  obtain ⟨hd, rfl, rfl⟩ := hdone
  cases outcome' with
  | ok done =>
    rw [readRows_of_ok hc, readRows_of_ok hc']
    split
    · exact .error _ ⟨hd, hw.cache, rfl⟩
    · exact .ok _ ⟨hd, hw.cache, rfl⟩
  | error halt =>
    rw [readRows_of_error hc, readRows_of_error hc']
    exact .error halt ⟨hd, hw.cache, rfl⟩

/-! ## The ways to run a query, in step -/

lemma matches_prepare (query : Query) : Matches S (prepare query) (prepare query) := by
  refine (matches_send hS _).bind fun _ => (matches_drain hS prepareReply none).bind fun ids => ?_
  cases ids with
  | some ids => exact matches_pure ids
  | none => exact matches_fail _

lemma matches_describe (query : Query) : Matches S (describe query) (describe query) := by
  refine (matches_send hS _).bind fun _ => (matches_drain hS describeReply none).bind fun pair => ?_
  cases pair with
  | some pair => exact matches_pure pair
  | none => exact matches_fail _

lemma matches_executePrepared (query : Query) (codec : Codec) (shape : Shape) :
    Matches S (executePrepared query codec shape) (executePrepared query codec shape) := by
  refine (matches_ofExcept _).bind fun arguments => (matches_send hS _).bind fun _ => ?_
  refine (matches_readRows hS query codec.decoder shape).bind fun described => ?_
  cases described with
  | none => exact matches_pure ()
  | some pair => exact matches_fail _

omit hS in
lemma matches_buildCodec (key : CodecKey) (pair : DescriptorPair) :
    Matches S (buildCodec key pair : Flow σ Codec) (buildCodec key pair) :=
  (matches_ofExcept _).bind fun codec => (matches_changeCache _).bind fun _ => matches_pure codec

lemma matches_executeWith (query : Query) (key : CodecKey) (pair : DescriptorPair) :
    Matches S (executeWith query key pair) (executeWith query key pair) :=
  (matches_changeCache _).bind fun _ => (matches_buildCodec key pair).bind fun codec =>
    matches_executePrepared hS query codec key.type.shape

lemma matches_typesOf (query : Query) (ids : Uuid × Uuid) :
    Matches S (typesOf query ids) (typesOf query ids) := by
  refine matches_get fun w w' hw => ?_
  rw [hw.cache]
  cases w.cache.pairById? ids with
  | some pair => exact matches_pure pair
  | none => exact matches_describe hS query

lemma matches_pessimistic (query : Query) (key : CodecKey) :
    Matches S (pessimistic query key) (pessimistic query key) :=
  (matches_prepare hS query).bind fun ids => (matches_typesOf hS query ids).bind fun pair =>
    matches_executeWith hS query key pair

lemma matches_optimistic (query : Query) (key : CodecKey) (codec : Codec) :
    Matches S (optimistic query key codec) (optimistic query key codec) := by
  simp only [optimistic]
  cases codec.encoder.encodeArguments query.arguments with
  | error e => exact (matches_changeCache _).bind fun _ => matches_pessimistic hS query key
  | ok arguments =>
    refine (matches_send hS _).bind fun _ => ?_
    refine (matches_readRows hS query codec.decoder key.type.shape).bind fun described => ?_
    cases described with
    | none => exact matches_pure ()
    | some pair =>
      exact (matches_changeCache _).bind fun _ => matches_executeWith hS query key pair

/-- A query ends in the same way on both. -/
theorem matches_run (query : Query) (type : RowType) :
    Matches S (run query type) (run query type) := by
  refine (matches_findCodec _).bind fun codec => ?_
  cases codec with
  | some codec => exact matches_optimistic hS query _ codec
  | none =>
    refine matches_get fun w w' hw => ?_
    rw [hw.cache]
    cases w.cache.pairOf? query.toQueryKey with
    | some pair =>
      exact (matches_buildCodec _ pair).bind fun codec => matches_optimistic hS query _ codec
    | none => exact matches_pessimistic hS query _

end

end Flow

/-! ## Calls in step -/

/-- What a call leaves in its destination, if it has one. -/
def Session.filled (session : Session σ) : Call → Option Destination
  | .run query type destination => some (session.run query type destination).result
  | .execute _ => none

/-- Two sessions whose connections are in step and that have the same cache. -/
structure Session.Matches (S : Connection σ → Connection τ → Prop) (session : Session σ)
    (session' : Session τ) : Prop where
  connection : S session.connection session'.connection
  cache : session'.cache = session.cache

namespace Connection

variable {S : Connection σ → Connection τ → Prop} {session : Session σ} {session' : Session τ}

lemma Simulation.run (hS : Simulation S) (h : Session.Matches S session session') (query : Query)
    (type : RowType) (destination : Destination) :
    (session'.run query type destination).outcome = (session.run query type destination).outcome
      ∧ (session'.run query type destination).result = (session.run query type destination).result
      ∧ Session.Matches S (session.run query type destination).session
        (session'.run query type destination).session := by
  obtain ⟨houtcome, hbegun⟩ := hS.begin h.connection
  simp only [Session.run]
  rcases hc : session.connection.begin with ⟨outcome, d⟩
  rcases hc' : session'.connection.begin with ⟨outcome', d'⟩
  rw [hc, hc'] at houtcome hbegun
  obtain rfl := houtcome
  cases outcome' with
  | error e => exact ⟨rfl, rfl, hbegun, h.cache⟩
  | ok done =>
    have hends := Flow.matches_run hS query type ⟨d, session.cache, destination⟩
      ⟨d', session'.cache, destination⟩ ⟨hbegun, h.cache, rfl⟩
    dsimp only
    rcases hw : Flow.run query type ⟨d, session.cache, destination⟩ with ⟨a, w⟩ | ⟨halt, w⟩ <;>
      rcases hw' : Flow.run query type ⟨d', session'.cache, destination⟩
        with ⟨a', w'⟩ | ⟨halt', w'⟩ <;>
      rw [hw, hw'] at hends
    · cases hends with
      | ok _ hv => exact ⟨rfl, hv.destination, hv.connection, hv.cache⟩
    · cases hends
    · cases hends
    · cases hends with
      | error _ hv =>
        exact ⟨rfl, hv.destination, hS.finish hv.connection (.error halt), hv.cache⟩

/-- **A call ends in the same way** on two connections in step: its outcome is the same, its
destination holds the same, the cache is the same afterwards and the connections are in step. -/
theorem Simulation.perform (hS : Simulation S) (h : Session.Matches S session session')
    (call : Call) :
    (session'.perform call).2 = (session.perform call).2
      ∧ session'.filled call = session.filled call
      ∧ Session.Matches S (session.perform call).1 (session'.perform call).1 := by
  cases call with
  | run query type destination =>
    obtain ⟨houtcome, hresult, hafter⟩ := hS.run h query type destination
    exact ⟨houtcome, congrArg some hresult, hafter⟩
  | execute script =>
    obtain ⟨houtcome, hafter⟩ := hS.execute h.connection script
    exact ⟨houtcome, rfl, hafter, h.cache⟩

end Connection

end QueryWire
