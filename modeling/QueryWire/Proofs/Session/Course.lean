import QueryWire.Proofs.Cache
import QueryWire.Proofs.Connection.Raised
import QueryWire.Proofs.Session.Usability

/-!
# The course of a call

The turns that a call takes on a connection follow from what the cache knows and from what the
server answers: an optimistic execution, after which the statement may be described and executed
once more; or its preparation, a description unless its types are known, and its execution.

* `Turn.Prepares`, `Turn.Describes`, `Turn.Optimistic`, `Turn.Executes` — the turns of a query.
* `Call.Course` — in which order a call takes its turns, and on what each of them relies.
* `Query.Gathers`, `Query.Ends` — which turn gathers the results of a query, and how it ends.
* `Session.Goes` — what a call does on a connection.
* **`Session.exists_goes_run`**, **`Session.exists_goes`** — every call does this, and every query
  ends in this way.
-/

namespace QueryWire

variable {σ α β : Type}

open Connection QueryWire.Flow

/-! ## The turns of a query -/

/-- What the codec of a query is kept under. -/
def Query.key (query : Query) (type : RowType) : CodecKey := ⟨query.toQueryKey, type⟩

/-- The codec that a query begins with: the one that is kept, or else one built from the types that
are. -/
def Cache.codecFor? (cache : Cache) (key : CodecKey) : Option Codec :=
  match cache.codecs.get? key with
  | some cached => some cached.codec
  | none => (cache.pairOf? key.query).bind fun pair => (Codec.build pair key.type.shape).toOption

namespace Cache

/-- A codec that is found is the one that a query begins with. -/
lemma codecFor?_of_findCodec {cache : Cache} {key : CodecKey} {codec : Codec}
    (h : (cache.findCodec key).1 = some codec) : cache.codecFor? key = some codec := by
  simp only [findCodec] at h
  split at h
  · rename_i cached hcached
    cases h
    simp only [codecFor?, hcached]
  · cases h

/-- Where none is found it is built from the types that are kept. -/
lemma codecFor?_of_build {cache : Cache} {key : CodecKey} {pair : DescriptorPair} {codec : Codec}
    (h : cache.codecs.get? key = none) (hpair : cache.pairOf? key.query = some pair)
    (hbuild : Codec.build pair key.type.shape = .ok codec) :
    cache.codecFor? key = some codec := by
  simp [codecFor?, h, hpair, hbuild, Except.toOption]

end Cache

namespace Turn

/-- The turn has a statement compiled. -/
structure Prepares (query : Query) (t : Turn σ) (ids : Option (Uuid × Uuid)) : Prop where
  request : t.request = .prepare query.headers query.format query.cardinality query.command
  heard : t.Heard prepareReply none ids

/-- The turn has the types of a statement described. -/
structure Describes (query : Query) (t : Turn σ) (pair : Option DescriptorPair) : Prop where
  request : t.request = .describeStatement query.headers
  heard : t.Heard describeReply none pair

/-- The turn runs a statement if its types are those of a codec. -/
structure Optimistic (query : Query) (codec : Codec) (shape : Shape) (destination : Destination)
    (t : Turn σ) (rows : Rows) : Prop where
  request : ∃ arguments, codec.encoder.encodeArguments query.arguments = .ok arguments
    ∧ t.request = optimisticRequest query codec arguments
  heard : t.Heard (rowsReply codec.decoder shape) (Rows.start destination) rows

/-- The turn runs the statement that was compiled last, with a codec for its types. -/
def Executes (query : Query) (pair : DescriptorPair) (shape : Shape) (destination : Destination)
    (t : Turn σ) : Prop :=
  ∃ codec arguments rows, Codec.build pair shape = .ok codec
    ∧ codec.encoder.encodeArguments query.arguments = .ok arguments
    ∧ t.request = .execute query.headers arguments
    ∧ t.Heard (rowsReply codec.decoder shape) (Rows.start destination) rows

/-- The turn runs the statement that was compiled last, and gathers its results with a codec. -/
structure ExecutesWith (query : Query) (codec : Codec) (shape : Shape) (destination : Destination)
    (t : Turn σ) (rows : Rows) : Prop where
  request : ∃ arguments, codec.encoder.encodeArguments query.arguments = .ok arguments
    ∧ t.request = .execute query.headers arguments
  heard : t.Heard (rowsReply codec.decoder shape) (Rows.start destination) rows

lemma ExecutesWith.executes {query : Query} {pair : DescriptorPair} {codec : Codec} {shape : Shape}
    {destination : Destination} {t : Turn σ} {rows : Rows}
    (h : t.ExecutesWith query codec shape destination rows)
    (hbuild : Codec.build pair shape = .ok codec) : t.Executes query pair shape destination := by
  obtain ⟨arguments, harguments, hrequest⟩ := h.request
  exact ⟨codec, arguments, rows, hbuild, harguments, hrequest, h.heard⟩

/-- The turn runs a script. -/
structure RunsScript (script : String) (t : Turn σ) : Prop where
  request : t.request = .executeScript t.before.settings.headers script
  heard : t.Heard scriptReply () ()

end Turn

/-- The turns of a call, from the first to the last that it takes.  What a later turn relies on is
known from the cache or from the turns before it. -/
inductive Call.Course (cache : Cache) : Call → List (Turn σ) → Prop
  | nothing {call : Call} : Course cache call []
  | script {script : String} {t : Turn σ} :
      t.RunsScript script → Course cache (.execute script) [t]
  | optimistic {query : Query} {type : RowType} {destination : Destination} {codec : Codec}
      {t : Turn σ} {rows : Rows} :
      cache.codecFor? (query.key type) = some codec →
      t.Optimistic query codec type.shape destination rows →
      Course cache (.run query type destination) [t]
  | redescribed {query : Query} {type : RowType} {destination : Destination} {codec : Codec}
      {t t' : Turn σ} {rows : Rows} {pair : DescriptorPair} :
      cache.codecFor? (query.key type) = some codec →
      t.Optimistic query codec type.shape destination rows →
      t.outcome = .ok () → rows.described = some pair →
      t'.Executes query pair type.shape rows.destination →
      Course cache (.run query type destination) [t, t']
  | prepared {query : Query} {type : RowType} {destination : Destination} {t : Turn σ}
      {ids : Option (Uuid × Uuid)} :
      t.Prepares query ids → Course cache (.run query type destination) [t]
  | known {query : Query} {type : RowType} {destination : Destination} {t t' : Turn σ}
      {ids : Uuid × Uuid} {pair : DescriptorPair} :
      t.Prepares query (some ids) → t.outcome = .ok () → cache.pairById? ids = some pair →
      t'.Executes query pair type.shape destination →
      Course cache (.run query type destination) [t, t']
  | described {query : Query} {type : RowType} {destination : Destination} {t t' : Turn σ}
      {ids : Uuid × Uuid} {pair : Option DescriptorPair} :
      t.Prepares query (some ids) → t.outcome = .ok () → cache.pairById? ids = none →
      t'.Describes query pair → Course cache (.run query type destination) [t, t']
  | learned {query : Query} {type : RowType} {destination : Destination} {t t' t'' : Turn σ}
      {ids : Uuid × Uuid} {pair : DescriptorPair} :
      t.Prepares query (some ids) → t.outcome = .ok () → cache.pairById? ids = none →
      t'.Describes query (some pair) → t'.outcome = .ok () →
      t''.Executes query pair type.shape destination →
      Course cache (.run query type destination) [t, t', t'']

/-! ## The results of a query -/

namespace Turn

/-- The turn has a statement run. -/
def IsExecution (t : Turn σ) : Prop := t.kind = .execute ∨ t.kind = .optimisticExecute

section

variable {t : Turn σ} {query : Query}

lemma Prepares.kind_eq {ids : Option (Uuid × Uuid)} (h : t.Prepares query ids) :
    t.kind = .prepare := by
  rw [kind, h.request]
  rfl

lemma Prepares.not_isExecution {ids : Option (Uuid × Uuid)} (h : t.Prepares query ids) :
    ¬ t.IsExecution := by
  rw [IsExecution, h.kind_eq]
  decide

lemma Describes.kind_eq {pair : Option DescriptorPair} (h : t.Describes query pair) :
    t.kind = .describeStatement := by
  rw [kind, h.request]
  rfl

lemma Describes.not_isExecution {pair : Option DescriptorPair} (h : t.Describes query pair) :
    ¬ t.IsExecution := by
  rw [IsExecution, h.kind_eq]
  decide

variable {codec : Codec} {shape : Shape} {destination : Destination} {rows : Rows}

lemma Optimistic.kind_eq (h : t.Optimistic query codec shape destination rows) :
    t.kind = .optimisticExecute := by
  obtain ⟨arguments, _, hrequest⟩ := h.request
  rw [kind, hrequest]
  rfl

lemma ExecutesWith.kind_eq (h : t.ExecutesWith query codec shape destination rows) :
    t.kind = .execute := by
  obtain ⟨arguments, _, hrequest⟩ := h.request
  rw [kind, hrequest]
  rfl

end

end Turn

/-- After some turns of a query comes one that gathers its results with a codec: what the
destination was like before, and what was gathered. -/
inductive Query.Gathers (cache : Cache) (query : Query) (type : RowType)
    (destination : Destination) :
    List (Turn σ) → Turn σ → Codec → Destination → Rows → Prop
  | optimistic {codec : Codec} {t : Turn σ} {rows : Rows} :
      cache.codecFor? (query.key type) = some codec →
      t.Optimistic query codec type.shape destination rows →
      Gathers cache query type destination [] t codec destination rows
  | redescribed {codec codec' : Codec} {t t' : Turn σ} {rows rows' : Rows} {pair : DescriptorPair} :
      cache.codecFor? (query.key type) = some codec →
      t.Optimistic query codec type.shape destination rows →
      t.outcome = .ok () → rows.described = some pair → Codec.build pair type.shape = .ok codec' →
      t'.ExecutesWith query codec' type.shape rows.destination rows' →
      Gathers cache query type destination [t] t' codec' rows.destination rows'
  | known {codec : Codec} {t t' : Turn σ} {ids : Uuid × Uuid} {pair : DescriptorPair} {rows : Rows} :
      t.Prepares query (some ids) → t.outcome = .ok () → cache.pairById? ids = some pair →
      Codec.build pair type.shape = .ok codec →
      t'.ExecutesWith query codec type.shape destination rows →
      Gathers cache query type destination [t] t' codec destination rows
  | learned {codec : Codec} {t t' t'' : Turn σ} {ids : Uuid × Uuid} {pair : DescriptorPair}
      {rows : Rows} :
      t.Prepares query (some ids) → t.outcome = .ok () → cache.pairById? ids = none →
      t'.Describes query (some pair) → t'.outcome = .ok () →
      Codec.build pair type.shape = .ok codec →
      t''.ExecutesWith query codec type.shape destination rows →
      Gathers cache query type destination [t, t'] t'' codec destination rows

namespace Query.Gathers

variable {cache : Cache} {query : Query} {type : RowType} {destination start : Destination}
  {past : List (Turn σ)} {t : Turn σ} {codec : Codec} {rows : Rows}

/-- The turn that gathers the results is the last of the course. -/
lemma course (h : query.Gathers cache type destination past t codec start rows) :
    Call.Course cache (.run query type destination) (past ++ [t]) := by
  cases h with
  | optimistic hcodec hoptimistic => exact .optimistic hcodec hoptimistic
  | redescribed hcodec hoptimistic hok hdescribed hbuild hexecutes =>
    exact .redescribed hcodec hoptimistic hok hdescribed (hexecutes.executes hbuild)
  | known hprepares hok hpair hbuild hexecutes =>
    exact .known hprepares hok hpair (hexecutes.executes hbuild)
  | learned hprepares hok hpair hdescribes hok' hbuild hexecutes =>
    exact .learned hprepares hok hpair hdescribes hok' (hexecutes.executes hbuild)

lemma heard (h : query.Gathers cache type destination past t codec start rows) :
    t.Heard (rowsReply codec.decoder type.shape) (Rows.start start) rows := by
  cases h with
  | optimistic _ h | redescribed _ _ _ _ _ h | known _ _ _ _ h | learned _ _ _ _ _ _ h =>
    exact h.heard

end Query.Gathers

/-- How a query ends after its turns, and what is in its destination then. -/
inductive Query.Ends (cache : Cache) (query : Query) (type : RowType) (destination : Destination) :
    List (Turn σ) → Destination → Except Halt Unit → Prop
  /-- The statement was not run. -/
  | unread {turns : List (Turn σ)} {halt : Halt} :
      (∀ t ∈ turns, ¬ t.IsExecution) → halt.IsRaised →
      Ends cache query type destination turns destination (.error halt)
  /-- The request to run the statement could not be sent. -/
  | unsent {past : List (Turn σ)} {t : Turn σ} {codec : Codec} {start : Destination} {halt : Halt} :
      query.Gathers cache type destination past t codec start (Rows.start start) →
      t.responses = [] → t.outcome = .error halt → halt.IsRaised →
      Ends cache query type destination (past ++ [t]) start (.error halt)
  /-- The results could not be read to their end, or one of them was refused. -/
  | broken {past : List (Turn σ)} {t : Turn σ} {codec : Codec} {start : Destination} {rows : Rows}
      {halt : Halt} :
      query.Gathers cache type destination past t codec start rows →
      t.outcome = .error halt → halt.IsRaised →
      Ends cache query type destination (past ++ [t]) rows.destination (.error halt)
  /-- There was no result where one was promised. -/
  | missing {past : List (Turn σ)} {t : Turn σ} {codec : Codec} {start : Destination} {rows : Rows} :
      query.Gathers cache type destination past t codec start rows →
      t.outcome = .ok () → rows.isMissing query = true →
      Ends cache query type destination (past ++ [t]) rows.destination
        (.error (.failed .zeroResults))
  /-- The statement was described in place of its results, and cannot be run with that. -/
  | redescribed {past : List (Turn σ)} {t : Turn σ} {codec : Codec} {start : Destination}
      {rows : Rows} {halt : Halt} :
      query.Gathers cache type destination past t codec start rows →
      t.outcome = .ok () → rows.described ≠ none → halt.IsRaised →
      Ends cache query type destination (past ++ [t]) rows.destination (.error halt)
  | complete {past : List (Turn σ)} {t : Turn σ} {codec : Codec} {start : Destination} {rows : Rows} :
      query.Gathers cache type destination past t codec start rows →
      t.outcome = .ok () → rows.isMissing query = false → rows.described = none →
      Ends cache query type destination (past ++ [t]) rows.destination (.ok ())

/-- What a call does on the connection of a session: nothing if the connection is unusable, and
else what its course is, with the last word to `finish`. -/
inductive Session.Goes (session : Session σ) (call : Call) : List (Turn σ) → Prop
  | refused : session.connection.isUsable = false → Goes session call []
  | taken {turns : List (Turn σ)} {c : Connection σ} :
      session.connection.isUsable = true → Turn.Leads session.connection turns c →
      (session.perform call).1.connection = c.finish (session.perform call).2 →
      call.Course session.cache turns → Goes session call turns

/-! ## Every action takes the turns of its course -/

namespace Flow

section

variable {w₀ : Workspace σ} {request : Request} {stop : Halt → Workspace σ → Prop}

/-- A request that is sent, or the whole turn of one that is not. -/
lemma ensures_sent (handle : Handler α) (start : α)
    (hstop : ∀ (t : Turn σ) halt, t.before = w₀.connection → t.request = request →
      t.Heard handle start start → t.responses = [] → t.outcome = .error halt →
      stop halt { w₀ with connection := t.after }) :
    Ensures (fun w => w = w₀) (send request)
      (fun _ w => ∃ c, w₀.connection.send request = (.ok (), c) ∧ w = { w₀ with connection := c })
      stop := by
  refine ensures_send ?_ ?_
  · rintro w c rfl h
    exact ⟨c, h, rfl⟩
  · rintro w c halt rfl h
    exact hstop _ halt rfl rfl (.unsent h) rfl rfl

/-- A request, what is read after it, and what follows. -/
lemma ensures_turn {handle : Handler α} {start : α} {f : α → Flow σ β}
    {post : β → Workspace σ → Prop}
    (hok : ∀ (t : Turn σ) value, t.before = w₀.connection → t.request = request →
      t.Heard handle start value → t.outcome = .ok () →
      Ensures (fun w => w = { w₀ with connection := t.after }) (f value) post stop)
    (hstop : ∀ (t : Turn σ) value halt, t.before = w₀.connection → t.request = request →
      t.Heard handle start value → t.outcome = .error halt →
      stop halt { w₀ with connection := t.after }) :
    Ensures (fun w => w = w₀) (send request >>= fun _ => drain handle start >>= f) post stop := by
  have hdrain : Ensures
      (fun w => ∃ c, w₀.connection.send request = (.ok (), c) ∧ w = { w₀ with connection := c })
      (drain handle start)
      (fun value w => ∃ t : Turn σ, t.before = w₀.connection ∧ t.request = request
        ∧ t.Heard handle start value ∧ t.outcome = .ok ()
        ∧ w = { w₀ with connection := t.after }) stop := by
    refine ensures_drain ?_ ?_
    all_goals
      rintro w c' value
    · rintro ⟨c, hc, rfl⟩ h
      obtain ⟨responses, hreads⟩ := c.exists_reads handle start none
      rw [h] at hreads
      exact ⟨_, rfl, rfl, .sent hc hreads, rfl, rfl⟩
    · rintro halt ⟨c, hc, rfl⟩ h
      obtain ⟨responses, hreads⟩ := c.exists_reads handle start none
      rw [h] at hreads
      exact hstop _ value halt rfl rfl (.sent hc hreads) rfl
  have hsent : Ensures (fun w => w = w₀) (send request)
      (fun _ w => ∃ c, w₀.connection.send request = (.ok (), c) ∧ w = { w₀ with connection := c })
      stop :=
    ensures_sent handle start fun t halt hbefore hrequest hheard _ =>
      hstop t start halt hbefore hrequest hheard
  refine hsent.bind fun _ => hdrain.bind fun value => ?_
  rintro w ⟨t, hbefore, hrequest, hheard, htok, hw⟩
  exact hok t value hbefore hrequest hheard htok w hw

/-- A codec is built and kept, or it is not. -/
lemma ensures_built {key : CodecKey} {pair : DescriptorPair}
    (hstop : ∀ halt : Halt, halt.IsRaised → stop halt w₀) :
    Ensures (fun w => w = w₀) (buildCodec key pair)
      (fun codec w => Codec.build pair key.type.shape = .ok codec
        ∧ w = { w₀ with cache := w₀.cache.putCodec key codec }) stop := by
  refine ensures_ofExcept_bind (fun codec hcodec => ?_) ?_
  · rintro w rfl
    exact ⟨hcodec, rfl⟩
  · rintro e w he rfl
    exact hstop _ (Codec.isMisfit_of_build he).isRaised

end

/-! ## The ways to run a query -/

/-- A query has ended in some way after turns that lead from a connection to that of a
workspace. -/
def Concludes (cache : Cache) (query : Query) (type : RowType) (destination : Destination)
    (c : Connection σ) (outcome : Except Halt Unit) (w : Workspace σ) : Prop :=
  ∃ turns, Turn.Leads c turns w.connection
    ∧ Call.Course cache (.run query type destination) turns
    ∧ query.Ends cache type destination turns w.destination outcome

/-- From the workspace `w₀` the action brings a query to its end. -/
abbrev Follows (cache : Cache) (query : Query) (type : RowType) (destination : Destination)
    (c : Connection σ) (w₀ : Workspace σ) (x : Flow σ Unit) : Prop :=
  Ensures (fun w => w = w₀) x (fun _ w => Concludes cache query type destination c (.ok ()) w)
    (fun halt w => Concludes cache query type destination c (.error halt) w)

section

variable {cache : Cache} {c : Connection σ} {w₀ : Workspace σ} {past : List (Turn σ)}
  {query : Query} {type : RowType} {destination : Destination} {codec : Codec}

/-- The request to run a statement, the results that are read after it, and what follows. -/
lemma follows_gather {request : Request} {f : Option DescriptorPair → Flow σ Unit}
    (hleads : Turn.Leads c past w₀.connection)
    (hgathers : ∀ (t : Turn σ) rows, t.request = request →
      t.Heard (rowsReply codec.decoder type.shape) (Rows.start w₀.destination) rows →
      query.Gathers cache type destination past t codec w₀.destination rows)
    (hok : ∀ (t : Turn σ) rows, Turn.Leads c (past ++ [t]) t.after →
      query.Gathers cache type destination past t codec w₀.destination rows →
      t.outcome = .ok () → rows.isMissing query = false →
      Follows cache query type destination c
        { w₀ with connection := t.after, destination := rows.destination } (f rows.described)) :
    Follows cache query type destination c w₀
      (send request >>= fun _ => readRows query codec.decoder type.shape >>= f) := by
  have hsend : Ensures (fun w => w = w₀) (send request)
      (fun _ w => ∃ c', w₀.connection.send request = (.ok (), c') ∧ w = { w₀ with connection := c' })
      (fun halt w => Concludes cache query type destination c (.error halt) w) := by
    refine ensures_sent (rowsReply codec.decoder type.shape) (Rows.start w₀.destination)
      fun t halt hbefore hrequest hheard hnothing houtcome => ?_
    have hgather := hgathers t _ hrequest hheard
    exact ⟨_, hleads.snoc hbefore, hgather.course,
      .unsent hgather hnothing houtcome (hheard.isRaised (raises_rowsReply _ _) houtcome)⟩
  -- the whole turn, however the cycle came out
  have hturn {c' c'' : Connection σ} {rows : Rows} {outcome : Except Halt Unit}
      (hc : w₀.connection.send request = (.ok (), c'))
      (h : c'.drain (rowsReply codec.decoder type.shape) (Rows.start w₀.destination) none
        = ⟨c'', rows, outcome⟩) :
      ∃ t : Turn σ, t.after = c'' ∧ t.outcome = outcome ∧ Turn.Leads c (past ++ [t]) t.after
        ∧ query.Gathers cache type destination past t codec w₀.destination rows := by
    obtain ⟨responses, hreads⟩ := c'.exists_reads (rowsReply codec.decoder type.shape)
      (Rows.start w₀.destination) none
    rw [h] at hreads
    have hheard := Turn.Heard.sent hc hreads
    exact ⟨_, rfl, rfl, hleads.snoc rfl, hgathers _ _ rfl hheard⟩
  have hread : Ensures
      (fun w => ∃ c', w₀.connection.send request = (.ok (), c') ∧ w = { w₀ with connection := c' })
      (readRows query codec.decoder type.shape)
      (fun described w => ∃ (t : Turn σ) (rows : Rows), Turn.Leads c (past ++ [t]) t.after
        ∧ query.Gathers cache type destination past t codec w₀.destination rows
        ∧ t.outcome = .ok () ∧ rows.isMissing query = false ∧ described = rows.described
        ∧ w = { w₀ with connection := t.after, destination := rows.destination })
      (fun halt w => Concludes cache query type destination c (.error halt) w) := by
    refine ensures_readRows ?_ ?_ ?_
    all_goals
      rintro w c'' rows
    · rintro ⟨c', hc, rfl⟩ h hmissing
      obtain ⟨t, rfl, houtcome, hleads', hgather⟩ := hturn hc h
      exact ⟨t, rows, hleads', hgather, houtcome, hmissing, rfl, rfl⟩
    · rintro ⟨c', hc, rfl⟩ h hmissing
      obtain ⟨t, rfl, houtcome, hleads', hgather⟩ := hturn hc h
      exact ⟨_, hleads', hgather.course, .missing hgather houtcome hmissing⟩
    · rintro halt ⟨c', hc, rfl⟩ h
      obtain ⟨t, rfl, houtcome, hleads', hgather⟩ := hturn hc h
      exact ⟨_, hleads', hgather.course, .broken hgather houtcome
        (hgather.heard.isRaised (raises_rowsReply _ _) houtcome)⟩
  refine hsend.bind fun _ => hread.bind fun described => ?_
  rintro w ⟨t, rows, hleads', hgather, houtcome, hmissing, rfl, hw⟩
  exact hok t rows hleads' hgather houtcome hmissing w hw

/-- The last turn of a query is an execution. -/
lemma follows_executePrepared (hleads : Turn.Leads c past w₀.connection)
    (hpast : ∀ halt : Halt, halt.IsRaised →
      Concludes cache query type destination c (.error halt) w₀)
    (hgathers : ∀ (t : Turn σ) rows, t.ExecutesWith query codec type.shape w₀.destination rows →
      query.Gathers cache type destination past t codec w₀.destination rows) :
    Follows cache query type destination c w₀ (executePrepared query codec type.shape) := by
  refine ensures_ofExcept_bind (fun arguments harguments => ?_) ?_
  · refine follows_gather hleads ?_ ?_
    · intro t rows hrequest hheard
      exact hgathers t rows ⟨⟨arguments, harguments, hrequest⟩, hheard⟩
    · intro t rows hleads' hgather houtcome hmissing
      cases hdescribed : rows.described with
      | none =>
        refine ensures_pure ?_
        rintro _ rfl
        exact ⟨_, hleads', hgather.course, .complete hgather houtcome hmissing hdescribed⟩
      | some pair =>
        refine ensures_fail ?_
        rintro _ rfl
        refine ⟨_, hleads', hgather.course, .redescribed hgather houtcome ?_ trivial⟩
        rw [hdescribed]
        exact Option.some_ne_none pair
  · rintro e w he rfl
    exact hpast _ (Encoder.isMismatch_of_encodeArguments he).isRaised

lemma follows_executeWith {pair : DescriptorPair} (hleads : Turn.Leads c past w₀.connection)
    (hpast : ∀ halt : Halt, halt.IsRaised →
      Concludes cache query type destination c (.error halt) w₀)
    (hgathers : ∀ (t : Turn σ) codec rows, Codec.build pair type.shape = .ok codec →
      t.ExecutesWith query codec type.shape w₀.destination rows →
      query.Gathers cache type destination past t codec w₀.destination rows) :
    Follows cache query type destination c w₀ (executeWith query (query.key type) pair) := by
  have hput : Ensures (fun w => w = w₀)
      (changeCache fun cache => cache.putPair (query.key type).query pair)
      (fun _ w => w = { w₀ with cache := w₀.cache.putPair (query.key type).query pair })
      (fun halt w => Concludes cache query type destination c (.error halt) w) := by
    refine ensures_changeCache ?_
    rintro w rfl
    rfl
  refine hput.bind fun _ => ?_
  refine (ensures_built ?_).bind fun codec => ?_
  · exact hpast
  rintro w ⟨hcodec, rfl⟩
  have hexecute : Follows cache query type destination c
      { w₀ with
        cache := (w₀.cache.putPair (query.key type).query pair).putCodec (query.key type) codec }
      (executePrepared query codec type.shape) :=
    follows_executePrepared hleads hpast fun t rows => hgathers t codec rows hcodec
  exact hexecute _ rfl

/-- Preparing a statement is a turn. -/
lemma ensures_prepare_turn {stop : Halt → Workspace σ → Prop}
    (hstop : ∀ (t : Turn σ) ids halt, t.before = w₀.connection → t.Prepares query ids →
      halt.IsRaised → stop halt { w₀ with connection := t.after }) :
    Ensures (fun w => w = w₀) (prepare query)
      (fun ids w => ∃ t : Turn σ, t.before = w₀.connection ∧ t.Prepares query (some ids)
        ∧ t.outcome = .ok () ∧ w = { w₀ with connection := t.after }) stop := by
  refine ensures_turn ?_ ?_
  · intro t ids hbefore hrequest hheard hok
    cases ids with
    | some ids =>
      refine ensures_pure ?_
      rintro w rfl
      exact ⟨t, hbefore, ⟨hrequest, hheard⟩, hok, rfl⟩
    | none =>
      refine ensures_fail ?_
      rintro w rfl
      exact hstop t none _ hbefore ⟨hrequest, hheard⟩ trivial
  · intro t ids halt hbefore hrequest hheard houtcome
    exact hstop t ids halt hbefore ⟨hrequest, hheard⟩ (hheard.isRaised raises_prepareReply houtcome)

/-- Describing a statement is a turn. -/
lemma ensures_describe_turn {stop : Halt → Workspace σ → Prop}
    (hstop : ∀ (t : Turn σ) pair halt, t.before = w₀.connection → t.Describes query pair →
      halt.IsRaised → stop halt { w₀ with connection := t.after }) :
    Ensures (fun w => w = w₀) (describe query)
      (fun pair w => ∃ t : Turn σ, t.before = w₀.connection ∧ t.Describes query (some pair)
        ∧ t.outcome = .ok () ∧ w = { w₀ with connection := t.after }) stop := by
  refine ensures_turn ?_ ?_
  · intro t pair hbefore hrequest hheard hok
    cases pair with
    | some pair =>
      refine ensures_pure ?_
      rintro w rfl
      exact ⟨t, hbefore, ⟨hrequest, hheard⟩, hok, rfl⟩
    | none =>
      refine ensures_fail ?_
      rintro w rfl
      exact hstop t none _ hbefore ⟨hrequest, hheard⟩ trivial
  · intro t pair halt hbefore hrequest hheard houtcome
    exact hstop t pair halt hbefore ⟨hrequest, hheard⟩
      (hheard.isRaised raises_describeReply houtcome)

/-- A query of which nothing is known is prepared, described if its types are not kept, and
executed. -/
lemma follows_pessimistic (hpairs : w₀.cache.pairs = cache.pairs) :
    Follows cache query type w₀.destination w₀.connection w₀
      (pessimistic query (query.key type)) := by
  refine (ensures_prepare_turn ?_).bind fun ids => ?_
  · intro t ids halt hbefore hprepares hraised
    refine ⟨[t], Turn.Leads.nil.snoc hbefore, .prepared hprepares, .unread ?_ hraised⟩
    exact List.forall_mem_singleton.2 hprepares.not_isExecution
  rintro _ ⟨t, hbefore, hprepares, hok, rfl⟩
  have hfirst : Turn.Leads w₀.connection [t] t.after := Turn.Leads.nil.snoc hbefore
  have hfind : w₀.cache.pairById? ids = cache.pairById? ids := by
    rw [Cache.pairById?, Cache.pairById?, hpairs]
  -- the turns before the execution, which can be the last ones, or be followed by it
  have htypes : Ensures (fun w => w = { w₀ with connection := t.after }) (typesOf query ids)
      (fun pair w => w.destination = w₀.destination
        ∧ ∃ past, Turn.Leads w₀.connection past w.connection
          ∧ (∀ halt : Halt, halt.IsRaised →
            Concludes cache query type w₀.destination w₀.connection (.error halt) w)
          ∧ ∀ (t : Turn σ) codec rows, Codec.build pair type.shape = .ok codec →
            t.ExecutesWith query codec type.shape w₀.destination rows →
            query.Gathers cache type w₀.destination past t codec w₀.destination rows)
      (fun halt w => Concludes cache query type w₀.destination w₀.connection (.error halt) w) := by
    refine ensures_get ?_
    rintro _ rfl
    simp only [hfind]
    cases hpair : cache.pairById? ids with
    | some pair =>
      refine ensures_pure ?_
      rintro _ rfl
      refine ⟨rfl, [t], hfirst, fun halt hraised => ?_, fun t' codec rows hbuild => ?_⟩
      · exact ⟨[t], hfirst, .prepared hprepares,
          .unread (List.forall_mem_singleton.2 hprepares.not_isExecution) hraised⟩
      · exact .known hprepares hok hpair hbuild
    | none =>
      have hstop (t' : Turn σ) (pair : Option DescriptorPair) (halt : Halt)
          (hbefore' : t'.before = t.after) (hdescribes : t'.Describes query pair)
          (hraised : halt.IsRaised) :
          Concludes cache query type w₀.destination w₀.connection (.error halt)
            { w₀ with connection := t'.after } := by
        refine ⟨[t, t'], hfirst.snoc hbefore', .described hprepares hok hpair hdescribes,
          .unread ?_ hraised⟩
        exact List.forall_mem_cons.2 ⟨hprepares.not_isExecution,
          List.forall_mem_singleton.2 hdescribes.not_isExecution⟩
      refine (ensures_describe_turn hstop).weaken (fun _ hw => hw) ?_ (fun _ _ hw => hw)
      rintro pair _ ⟨t', hbefore', hdescribes, hok', rfl⟩
      refine ⟨rfl, [t, t'], hfirst.snoc hbefore', fun halt => hstop t' _ halt hbefore' hdescribes,
        fun t'' codec rows hbuild => ?_⟩
      exact .learned hprepares hok hpair hdescribes hok' hbuild
  refine htypes.bind (fun pair => ?_) _ rfl
  rintro w ⟨hdestination, past, hleads, hpast, hgathers⟩
  rw [← hdestination] at hpast hgathers ⊢
  exact follows_executeWith hleads hpast hgathers w rfl

/-- A query with a codec is executed optimistically, and once more when the statement is described;
or it is run as if nothing was known. -/
lemma follows_optimistic (hpairs : w₀.cache.pairs = cache.pairs)
    (hcodec : cache.codecFor? (query.key type) = some codec) :
    Follows cache query type w₀.destination w₀.connection w₀
      (optimistic query (query.key type) codec) := by
  have hchange (w₁ : Workspace σ) : Ensures (fun w => w = w₁)
      (changeCache fun cache => cache.invalidate (query.key type).query)
      (fun _ w => w = { w₁ with cache := w₁.cache.invalidate (query.key type).query })
      (fun halt w => Concludes cache query type w₀.destination w₀.connection (.error halt) w) := by
    refine ensures_changeCache ?_
    rintro _ rfl
    rfl
  simp only [optimistic]
  split
  · refine (hchange w₀).bind fun _ => ?_
    exact follows_pessimistic hpairs
  · rename_i arguments harguments
    refine follows_gather .nil ?_ ?_
    · intro t rows hrequest hheard
      exact .optimistic hcodec ⟨⟨arguments, harguments, hrequest⟩, hheard⟩
    · intro t rows hleads hgather hok hmissing
      cases hdescribed : rows.described with
      | none =>
        refine ensures_pure ?_
        rintro _ rfl
        exact ⟨_, hleads, hgather.course, .complete hgather hok hmissing hdescribed⟩
      | some pair =>
        have hsome : rows.described ≠ none := by
          rw [hdescribed]
          exact Option.some_ne_none pair
        refine (hchange _).bind fun _ => ?_
        refine follows_executeWith hleads ?_ ?_
        · intro halt hraised
          exact ⟨_, hleads, hgather.course, .redescribed hgather hok hsome hraised⟩
        · intro t' codec' rows' hbuild hexecutes
          cases hgather with
          | optimistic hcodec hoptimistic =>
            exact .redescribed hcodec hoptimistic hok hdescribed hbuild hexecutes

/-- **Every query** follows its course. -/
theorem follows_run (query : Query) (type : RowType) (w₀ : Workspace σ) :
    Follows w₀.cache query type w₀.destination w₀.connection w₀ (run query type) := by
  have hnothing (halt : Halt) (hraised : halt.IsRaised) :
      Concludes w₀.cache query type w₀.destination w₀.connection (.error halt) w₀ :=
    ⟨[], .nil, .nothing, .unread (fun _ ht => by cases ht) hraised⟩
  have hfind : Ensures (fun w => w = w₀) (findCodec (query.key type))
      (fun found w => found = (w₀.cache.findCodec (query.key type)).1
        ∧ w = { w₀ with cache := (w₀.cache.findCodec (query.key type)).2 })
      (fun halt w =>
        Concludes w₀.cache query type w₀.destination w₀.connection (.error halt) w) := by
    refine ensures_findCodec ?_
    rintro _ rfl
    exact ⟨rfl, rfl⟩
  refine hfind.bind fun found => ?_
  cases found with
  | some codec =>
    rintro _ ⟨hfound, rfl⟩
    have hoptimistic : Follows w₀.cache query type w₀.destination w₀.connection
        { w₀ with cache := (w₀.cache.findCodec (query.key type)).2 }
        (optimistic query (query.key type) codec) :=
      follows_optimistic (Cache.pairs_findCodec _ _) (Cache.codecFor?_of_findCodec hfound.symm)
    exact hoptimistic _ rfl
  | none =>
    refine ensures_get ?_
    rintro _ ⟨hfound, rfl⟩
    have hget := Cache.findCodec_eq_none.1 hfound.symm
    simp only [Cache.pairOf?_findCodec]
    split
    · rename_i pair hpair
      refine (ensures_built ?_).bind fun codec => ?_
      · exact hnothing
      rintro _ ⟨hcodec, rfl⟩
      have hoptimistic : Follows w₀.cache query type w₀.destination w₀.connection
          { w₀ with
            cache := (w₀.cache.findCodec (query.key type)).2.putCodec (query.key type) codec }
          (optimistic query (query.key type) codec) := by
        refine follows_optimistic ?_ (Cache.codecFor?_of_build hget hpair hcodec)
        exact (Cache.pairs_putCodec _ _ _).trans (Cache.pairs_findCodec _ _)
      exact hoptimistic _ rfl
    · exact follows_pessimistic (Cache.pairs_findCodec _ _)

end

end Flow

/-! ## Calls -/

namespace Session

/-- On a connection that is not usable a call sends nothing, and leaves it so. -/
lemma perform_of_not_isUsable (session : Session σ) (husable : session.connection.isUsable = false)
    (call : Call) : (session.perform call).1.connection.isUsable = false
      ∧ (session.perform call).1.connection.sent = session.connection.sent := by
  obtain ⟨reason, c, hbegin, hc, _, hsent⟩ := begin_of_not_isUsable husable
  rw [perform_of_begin hbegin]
  exact ⟨hc, hsent⟩

/-- A query on a usable connection is brought to its end, before `finish` has the last word. -/
lemma exists_concludes_run (session : Session σ) (husable : session.connection.isUsable = true)
    (query : Query) (type : RowType) (destination : Destination) :
    ∃ w : Workspace σ,
      Concludes session.cache query type destination session.connection
          (session.run query type destination).outcome w
        ∧ (session.run query type destination).session.connection
          = w.connection.finish (session.run query type destination).outcome
        ∧ (session.run query type destination).result = w.destination := by
  rcases run_of_ensures session husable destination (follows_run query type _) rfl
    with ⟨w, hrun, hconcludes⟩ | ⟨halt, w, hrun, hconcludes⟩
  all_goals
    rw [hrun]
    exact ⟨w, hconcludes, rfl, rfl⟩

/-- **Every query** takes the turns of its course, and ends after them with what they gathered. -/
theorem exists_goes_run (session : Session σ) (query : Query) (type : RowType)
    (destination : Destination) :
    ∃ turns, session.Goes (.run query type destination) turns
      ∧ (session.connection.isUsable = true →
        query.Ends session.cache type destination turns
          (session.run query type destination).result
          (session.run query type destination).outcome) := by
  cases husable : session.connection.isUsable with
  | false => exact ⟨[], .refused husable, fun h => by cases h⟩
  | true =>
    obtain ⟨w, ⟨turns, hleads, hcourse, hends⟩, hconnection, hresult⟩ :=
      session.exists_concludes_run husable query type destination
    rw [← hresult] at hends
    exact ⟨turns, .taken husable hleads hconnection hcourse, fun _ => hends⟩

/-- **Every call** takes the turns of its course. -/
theorem exists_goes (session : Session σ) (call : Call) :
    ∃ turns, session.Goes call turns := by
  cases call with
  | run query type destination =>
    obtain ⟨turns, hgoes, _⟩ := session.exists_goes_run query type destination
    exact ⟨turns, hgoes⟩
  | execute script =>
    cases husable : session.connection.isUsable with
    | false => exact ⟨[], .refused husable⟩
    | true =>
      obtain ⟨responses, hheard⟩ := Turn.exists_heard session.connection
        (.executeScript session.connection.settings.headers script) scriptReply ()
      refine ⟨[_], .taken husable (Turn.Leads.nil.snoc rfl) ?_ (.script ⟨rfl, hheard⟩)⟩
      simp only [perform, execute, Connection.execute, begin_of_isUsable husable]

end Session

end QueryWire
