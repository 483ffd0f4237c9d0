import QueryWire.Proofs.Connection.Trace
import QueryWire.Proofs.Session.Flow

/-!
# Which errors leave a connection usable

A call that is not dropped leaves the connection usable when it succeeds or fails with an error
that is not fatal, and unusable when the error is fatal.  There is one exception: a message with an
unknown cardinality is reported by an error that is not fatal, but the cycle was not read to its
end, so the next call is refused.

* `Flow.keepsCycles_run` — a query begins and ends between cycles, or ends early in one of the
  known ways.
* `Serviceable` — an outcome after which the connection ought to be usable.
* **`Session.isUsable_iff_serviceable`** — it is, exactly when reading did not stop at an unknown
  cardinality.
-/

namespace QueryWire

variable {σ α : Type}

open Connection

namespace Connection

/-- Sending ends in one of the ways of `Ends`. -/
lemma ends_of_send {start c c' : Connection σ} {request : Request} {halt : Halt}
    (h : c.send request = (.error halt, c')) : Ends start c' halt := by
  have hopen := inFlight_send c request
  rw [h] at hopen
  unfold send at h
  dsimp only at h
  split at h
  · cases h
  · cases h
    exact .fatal rfl
  · cases h
    exact .suspended hopen

/-- A request that is sent opens a cycle. -/
lemma AtRest.send {start c c' : Connection σ} {request : Request} (hrest : AtRest start c)
    (h : c.send request = (.ok (), c')) : InCycle start c' := by
  obtain ⟨events, htrace, hflight⟩ := hrest
  have hopen := inFlight_send c request
  rw [h] at hopen
  exact ⟨_, .sent htrace hflight h, hopen⟩

/-- A cycle reads to its end or ends in one of the ways of `Ends`. -/
lemma AtRest.cycle {start c : Connection σ} (hrest : AtRest start c) (request : Request)
    (handle : Handler α) (value : α) : Completes start (c.cycle request handle value).connection
      (c.cycle request handle value).outcome := by
  simp only [Connection.cycle]
  split
  · rename_i hsend
    exact ends_of_send hsend
  · rename_i hsend
    exact completes_drain handle value none (hrest.send hsend)

end Connection

namespace Flow

/-! ## Every action keeps cycles whole -/

/-- The action begins and ends between cycles, or ends early in one of the ways of `Ends`. -/
abbrev KeepsCycles (start : Connection σ) (x : Flow σ α) : Prop :=
  Ensures (fun w => AtRest start w.connection) x (fun _ w => AtRest start w.connection)
    (fun halt w => Ends start w.connection halt)

section

variable {start : Connection σ}

lemma keepsCycles_pure (a : α) : KeepsCycles start (pure a) := ensures_pure fun _ hw => hw

lemma keepsCycles_fail (e : Error) : KeepsCycles start (fail e : Flow σ α) :=
  ensures_fail fun _ hw => .atRest hw

lemma keepsCycles_ofExcept (x : Except Error α) : KeepsCycles start (ofExcept x) :=
  ensures_ofExcept (fun _ _ _ hw => hw) (fun _ _ _ hw => .atRest hw)

lemma keepsCycles_changeCache (change : Cache → Cache) :
    KeepsCycles start (changeCache change : Flow σ Unit) := ensures_changeCache fun _ hw => hw

lemma keepsCycles_get {f : Workspace σ → Flow σ α} (h : ∀ w, KeepsCycles start (f w)) :
    KeepsCycles start (get >>= f) := fun w hw => h w w hw

/-- Sending goes on within a cycle. -/
lemma inCycle_send (request : Request) :
    Ensures (fun w => AtRest start w.connection) (send request : Flow σ Unit)
      (fun _ w => InCycle start w.connection) (fun halt w => Ends start w.connection halt) :=
  ensures_send (fun _ _ hw h => hw.send h) (fun _ _ _ _ h => ends_of_send h)

/-- Reading a cycle goes on after it. -/
lemma atRest_drain (handle : Handler α) (value : α) :
    Ensures (fun w => InCycle start w.connection) (drain handle value : Flow σ α)
      (fun _ w => AtRest start w.connection) (fun halt w => Ends start w.connection halt) := by
  refine ensures_drain (fun w connection value' hw h => ?_) (fun w connection value' halt hw h => ?_)
  all_goals
    have := completes_drain handle value none hw
    rw [h] at this
    exact this

/-- Reading the results of a cycle goes on after it. -/
lemma atRest_readRows (query : Query) (decoder : Decoder) (shape : Shape) :
    Ensures (fun w => InCycle start w.connection) (readRows query decoder shape : Flow σ _)
      (fun _ w => AtRest start w.connection) (fun halt w => Ends start w.connection halt) := by
  have hcompletes (w : Workspace σ) (hw : InCycle start w.connection) :=
    completes_drain (rowsReply decoder shape) (Rows.start w.destination) none hw
  refine ensures_readRows (fun w connection rows hw h _ => ?ok)
    (fun w connection rows hw h _ => .atRest ?missing) (fun w connection rows halt hw h => ?halt)
  all_goals
    have := hcompletes w hw
    rw [h] at this
    exact this

/-- A request and what it comes to. -/
lemma keepsCycles_send_bind {request : Request} {f : Unit → Flow σ α}
    (hf : Ensures (fun w => InCycle start w.connection) (f ())
      (fun _ w => AtRest start w.connection) (fun halt w => Ends start w.connection halt)) :
    KeepsCycles start (send request >>= f) := (inCycle_send request).bind fun _ => hf

lemma keepsCycles_prepare (query : Query) : KeepsCycles start (prepare query : Flow σ _) := by
  refine keepsCycles_send_bind ((atRest_drain _ _).bind fun ids => ?_)
  cases ids with
  | some ids => exact keepsCycles_pure _
  | none => exact keepsCycles_fail _

lemma keepsCycles_describe (query : Query) : KeepsCycles start (describe query : Flow σ _) := by
  refine keepsCycles_send_bind ((atRest_drain _ _).bind fun pair => ?_)
  cases pair with
  | some pair => exact keepsCycles_pure _
  | none => exact keepsCycles_fail _

lemma keepsCycles_executePrepared (query : Query) (codec : Codec) (shape : Shape) :
    KeepsCycles start (executePrepared query codec shape : Flow σ _) := by
  refine (keepsCycles_ofExcept _).bind fun arguments => ?_
  refine keepsCycles_send_bind ((atRest_readRows _ _ _).bind fun described => ?_)
  cases described with
  | none => exact keepsCycles_pure _
  | some pair => exact keepsCycles_fail _

lemma keepsCycles_buildCodec (key : CodecKey) (pair : DescriptorPair) :
    KeepsCycles start (buildCodec key pair : Flow σ _) :=
  (keepsCycles_ofExcept _).bind fun _ => (keepsCycles_changeCache _).bind fun _ =>
    keepsCycles_pure _

lemma keepsCycles_executeWith (query : Query) (key : CodecKey) (pair : DescriptorPair) :
    KeepsCycles start (executeWith query key pair : Flow σ _) :=
  (keepsCycles_changeCache _).bind fun _ => (keepsCycles_buildCodec _ _).bind fun _ =>
    keepsCycles_executePrepared _ _ _

lemma keepsCycles_typesOf (query : Query) (ids : Uuid × Uuid) :
    KeepsCycles start (typesOf query ids : Flow σ _) := by
  refine keepsCycles_get fun w => ?_
  split
  · exact keepsCycles_pure _
  · exact keepsCycles_describe _

lemma keepsCycles_pessimistic (query : Query) (key : CodecKey) :
    KeepsCycles start (pessimistic query key : Flow σ _) :=
  (keepsCycles_prepare _).bind fun _ => (keepsCycles_typesOf _ _).bind fun _ =>
    keepsCycles_executeWith _ _ _

lemma keepsCycles_optimistic (query : Query) (key : CodecKey) (codec : Codec) :
    KeepsCycles start (optimistic query key codec : Flow σ _) := by
  simp only [optimistic]
  split
  · exact (keepsCycles_changeCache _).bind fun _ => keepsCycles_pessimistic _ _
  · refine keepsCycles_send_bind ((atRest_readRows _ _ _).bind fun described => ?_)
    cases described with
    | none => exact keepsCycles_pure _
    | some pair =>
      exact (keepsCycles_changeCache _).bind fun _ => keepsCycles_executeWith _ _ _

/-- **Every query** keeps cycles whole. -/
theorem keepsCycles_run (query : Query) (type : RowType) :
    KeepsCycles start (run query type : Flow σ _) := by
  have hfind : KeepsCycles start (findCodec ⟨query.toQueryKey, type⟩ : Flow σ _) :=
    ensures_findCodec fun _ hw => hw
  refine hfind.bind fun codec => ?_
  cases codec with
  | some codec => exact keepsCycles_optimistic _ _ _
  | none =>
    refine keepsCycles_get fun w => ?_
    split
    · exact (keepsCycles_buildCodec _ _).bind fun _ => keepsCycles_optimistic _ _ _
    · exact keepsCycles_pessimistic _ _

end

end Flow

/-! ## Calls -/

namespace Connection

/-- A usable connection is accepted as it is. -/
lemma begin_of_isUsable {c : Connection σ} (h : c.isUsable = true) : c.begin = (.ok (), c) := by
  simp only [isUsable, Bool.and_eq_true, Option.isNone_iff_eq_none, Bool.not_eq_true'] at h
  simp [Connection.begin, noticeCancelled, h.1, h.2]

/-- A connection that is not usable is refused, and stays as unusable as it is. -/
lemma begin_of_not_isUsable {c : Connection σ} (h : c.isUsable = false) :
    ∃ reason c', c.begin = (.error (.connectionUnusable reason), c') ∧ c'.isUsable = false
      ∧ c'.peer = c.peer ∧ c'.sent = c.sent := by
  simp only [isUsable] at h
  cases hbroken : c.broken with
  | some reason =>
    refine ⟨reason, c, ?_, ?_, rfl, rfl⟩
    · simp [Connection.begin, noticeCancelled, hbroken]
    · simp [isUsable, hbroken]
  | none =>
    have hopen : c.inFlight = true := by simpa [hbroken] using h
    refine ⟨cancelledReason, c.markBroken cancelledReason, ?_, ?_, rfl, rfl⟩
    · simp [Connection.begin, noticeCancelled, hbroken, hopen, markBroken, record]
    · simp [isUsable, markBroken, record]

lemma atRest_self {c : Connection σ} (h : c.isUsable = true) : AtRest c c := by
  simp only [isUsable, Bool.and_eq_true, Bool.not_eq_true'] at h
  exact ⟨[], .nil, h.2⟩

lemma broken_of_isUsable {c : Connection σ} (h : c.isUsable = true) : c.broken = none := by
  simp only [isUsable, Bool.and_eq_true, Option.isNone_iff_eq_none] at h
  exact h.1

/-- Between cycles no reading stopped within one. -/
lemma AtRest.not_stops {start c : Connection σ} (h : AtRest start c) :
    ¬ StopsAtUnknownCardinality start c := by
  rintro ⟨_, c₁, _, inbox, _, _, hopen, _, _, rfl⟩
  obtain ⟨_, _, hclosed⟩ := h
  exact Bool.false_ne_true (hclosed.symm.trans hopen)

/-- A connection that was made unusable did not just stop reading. -/
lemma not_stops_of_broken {start c : Connection σ} (hstart : start.broken = none)
    (h : c.broken ≠ none) : ¬ StopsAtUnknownCardinality start c := by
  rintro ⟨_, c₁, _, inbox, _, htrace, _, _, _, rfl⟩
  exact h (htrace.broken_eq.trans hstart)

/-- The end of a call leaves its mark on nothing but the log and the reason to be unusable. -/
lemma exists_finish_eq (c : Connection σ) (outcome : Except Halt Unit) :
    ∃ broken log, c.finish outcome = { c with broken, log } := by
  simp only [finish]
  split
  · split <;> exact ⟨_, _, rfl⟩
  · exact ⟨_, _, rfl⟩
  · exact ⟨_, _, rfl⟩

/-- A fatal error leaves the connection broken. -/
lemma broken_finish_of_isFatal {c : Connection σ} {e : Error} (h : e.isFatal = true) :
    (c.finish (.error (.failed e))).broken ≠ none := by
  simp only [finish]
  cases hbroken : c.broken <;> simp [h, hbroken, markBroken, record]

/-- An error that is not fatal leaves the connection as it is. -/
lemma finish_of_not_isFatal {c : Connection σ} {e : Error} (h : e.isFatal = false) :
    c.finish (.error (.failed e)) = c := by
  simp [finish, h]

/-- Between cycles a connection that is not broken is usable. -/
lemma AtRest.isUsable {start c : Connection σ} (hstart : start.broken = none)
    (h : AtRest start c) : c.isUsable = true := by
  obtain ⟨_, htrace, hclosed⟩ := h
  simp [Connection.isUsable, htrace.broken_eq, hstart, hclosed]

/-- Where reading stopped within a cycle the connection is not usable. -/
lemma StopsAtUnknownCardinality.isUsable {start c : Connection σ}
    (h : StopsAtUnknownCardinality start c) : c.isUsable = false := by
  obtain ⟨_, c₁, _, inbox, _, _, hopen, _, _, rfl⟩ := h
  simp [Connection.isUsable, hopen]

lemma isUsable_of_broken {c : Connection σ} (h : c.broken ≠ none) : c.isUsable = false := by
  cases hbroken : c.broken with
  | none => exact absurd hbroken h
  | some reason => simp [Connection.isUsable, hbroken]

end Connection

/-- An outcome after which the connection ought to be usable: success, or an error that is not
fatal. -/
def Serviceable : Except Halt Unit → Prop
  | .ok () => True
  | .error (.failed e) => e.isFatal = false
  | .error .suspended => False

/-- What `finish` makes of an outcome, unless reading stopped at an unknown cardinality. -/
lemma Connection.Completes.isUsable_finish_iff {start c : Connection σ}
    {outcome : Except Halt Unit} (h : Completes start c outcome) (hstart : start.broken = none)
    (hends : outcome ≠ .error .suspended) :
    ((c.finish outcome).isUsable = true ↔ Serviceable outcome)
      ↔ ¬ StopsAtUnknownCardinality start (c.finish outcome) := by
  rcases outcome with ⟨e | _⟩ | ⟨⟨⟩⟩
  · have hends : Ends start c (.failed e) := h
    cases hfatal : e.isFatal with
    | true =>
      have hbroken := broken_finish_of_isFatal (c := c) hfatal
      simp [isUsable_of_broken hbroken, not_stops_of_broken hstart hbroken, Serviceable, hfatal]
    | false =>
      rw [finish_of_not_isFatal hfatal]
      cases hends with
      | atRest hrest => simp [hrest.isUsable hstart, hrest.not_stops, Serviceable, hfatal]
      | fatal h => exact absurd (h.symm.trans hfatal) Bool.noConfusion
      | garbled hstops _ => simp [hstops, hstops.isUsable, Serviceable, hfatal]
  · exact absurd rfl hends
  · have hrest : AtRest start c := h
    have hfinish : c.finish (.ok ()) = c := rfl
    simp [hfinish, hrest.isUsable hstart, hrest.not_stops, Serviceable]

/-- What an action is known to come to, a query on a usable connection comes to, with the last word
to `finish`. -/
lemma Session.run_of_ensures (session : Session σ) (husable : session.connection.isUsable = true)
    {query : Query} {type : RowType} (destination : Destination) {pre : Workspace σ → Prop}
    {post : Unit → Workspace σ → Prop} {stop : Halt → Workspace σ → Prop}
    (h : Flow.Ensures pre (Flow.run query type) post stop)
    (hpre : pre ⟨session.connection, session.cache, destination⟩) :
    (∃ w, session.run query type destination
        = ⟨⟨w.connection, w.cache⟩, w.destination, .ok ()⟩ ∧ post () w)
      ∨ ∃ halt w, session.run query type destination
        = ⟨⟨w.connection.finish (.error halt), w.cache⟩, w.destination, .error halt⟩
          ∧ stop halt w := by
  have hflow := h _ hpre
  cases hrun : Flow.run query type ⟨session.connection, session.cache, destination⟩ with
  | ok _ w =>
    rw [hrun] at hflow
    refine .inl ⟨w, ?_, hflow⟩
    simp only [Session.run, begin_of_isUsable husable, hrun]
  | error halt w =>
    rw [hrun] at hflow
    refine .inr ⟨halt, w, ?_, hflow⟩
    simp only [Session.run, begin_of_isUsable husable, hrun]

/-- A call on a usable connection comes to its end between cycles, or ends early, before `finish`
has the last word. -/
lemma Session.exists_completes_perform (session : Session σ) (call : Call)
    (husable : session.connection.isUsable = true) :
    ∃ c, Completes session.connection c (session.perform call).2
      ∧ (session.perform call).1.connection = c.finish (session.perform call).2 := by
  cases call with
  | run query type destination =>
    rcases run_of_ensures session husable destination (Flow.keepsCycles_run query type) (atRest_self husable)
      with ⟨w, hrun, hflow⟩ | ⟨halt, w, hrun, hflow⟩
    all_goals
      simp only [Session.perform, hrun]
      exact ⟨w.connection, hflow, rfl⟩
  | execute script =>
    simp only [Session.perform, Session.execute, Connection.execute, begin_of_isUsable husable]
    exact ⟨_, (atRest_self husable).cycle _ _ _, rfl⟩

/-- **Fatal exactly when unusable.**  After a call that was not dropped, the connection is usable
exactly when the call succeeded or its error is not fatal, unless reading stopped within a cycle
at an unknown cardinality; then it is not so. -/
theorem Session.isUsable_iff_serviceable (session : Session σ) (call : Call)
    (husable : session.connection.isUsable = true)
    (hends : (session.perform call).2 ≠ .error .suspended) :
    ((session.perform call).1.connection.isUsable = true ↔ Serviceable (session.perform call).2)
      ↔ ¬ StopsAtUnknownCardinality session.connection (session.perform call).1.connection := by
  obtain ⟨c, hcompletes, hconnection⟩ := session.exists_completes_perform call husable
  rw [hconnection]
  exact hcompletes.isUsable_finish_iff (broken_of_isUsable husable) hends

namespace UnknownCardinality

/-- A server that says of a statement that its cardinality is `0x21`, which is none, and then that
it is ready. -/
def session : Session (List Reply) where
  connection := {
    settings := .initial
    peer := .script
    server := [.accept [.bytes ([0x31, 0, 0, 0, 39, 0, 0, 0x21] ++ List.replicate 32 0
      ++ [0x5A, 0, 0, 0, 7, 0, 0, 0x49])]] }
  cache := .new 1

/-- A query for a text. -/
def call : Call :=
  .run { command := "select 1", cardinality := .atMostOne } .text (.one RowType.text.shape.fresh)

lemma outcome_eq :
    (session.perform call).2 = .error (.failed (.descriptor (.unknownCardinality 0x21))) := by
  decide +kernel

theorem isUsable_iff_serviceable_session : session.connection.isUsable = true
    ∧ (session.perform call).2 ≠ .error .suspended
    ∧ (((session.perform call).1.connection.isUsable = true
        ↔ Serviceable (session.perform call).2)
      ↔ ¬ StopsAtUnknownCardinality session.connection (session.perform call).1.connection) := by
  have husable : session.connection.isUsable = true := rfl
  have hends : (session.perform call).2 ≠ .error .suspended := by
    rw [outcome_eq]
    nofun
  exact ⟨husable, hends, session.isUsable_iff_serviceable call husable hends⟩

/-- The error is not fatal, and yet the connection is unusable. -/
theorem serviceable_and_not_isUsable : session.connection.isUsable = true
    ∧ (session.perform call).2 = .error (.failed (.descriptor (.unknownCardinality 0x21)))
    ∧ Serviceable (session.perform call).2
    ∧ (session.perform call).1.connection.isUsable = false := by
  refine ⟨rfl, outcome_eq, ?_, by decide +kernel⟩
  rw [outcome_eq]
  rfl

end UnknownCardinality

end QueryWire
