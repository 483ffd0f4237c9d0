import QueryWire.Proofs.Coherence
import QueryWire.Proofs.Session.History
import QueryWire.Proofs.Session.Staleness

/-!
# The cache stays coherent

Calls follow each other on any connections that share a cache, and each ends in some way or is
dropped while it waits.  In between the cache may be asked, or made to forget.

* `Flow.KeepsCache` — an action leaves the cache alone.
* `Flow.coherent_run` — every query keeps the cache coherent.
* `Cache.Touches`, `Cache.Reachable` — what may happen to a cache, and what can come of a new one.
* **`Cache.Reachable.coherent`** — every cache that can be reached is coherent, and no codec outlives
  the description of its statement by other types.
-/

namespace QueryWire

variable {σ α β : Type}

open Connection

namespace Flow

/-! ## What leaves the cache alone -/

/-- The action leaves the cache alone. -/
abbrev KeepsCache (x : Flow σ α) : Prop :=
  ∀ P : Cache → Prop, Ensures (fun w => P w.cache) x (fun _ w => P w.cache) (fun _ w => P w.cache)

lemma keepsCache_pure (a : α) : KeepsCache (pure a : Flow σ α) :=
  fun _ => ensures_pure fun _ hw => hw

lemma keepsCache_fail (e : Error) : KeepsCache (fail e : Flow σ α) :=
  fun _ => ensures_fail fun _ hw => hw

lemma keepsCache_ofExcept (x : Except Error α) : KeepsCache (ofExcept x : Flow σ α) :=
  fun _ => ensures_ofExcept (fun _ _ _ hw => hw) (fun _ _ _ hw => hw)

lemma keepsCache_send (request : Request) : KeepsCache (send request : Flow σ Unit) :=
  fun _ => ensures_send (fun _ _ hw _ => hw) (fun _ _ _ hw _ => hw)

lemma keepsCache_drain (handle : Handler α) (value : α) :
    KeepsCache (drain handle value : Flow σ α) :=
  fun _ => ensures_drain (fun _ _ _ hw _ => hw) (fun _ _ _ _ hw _ => hw)

lemma keepsCache_readRows (query : Query) (decoder : Decoder) (shape : Shape) :
    KeepsCache (readRows query decoder shape : Flow σ _) :=
  fun _ => ensures_readRows (fun _ _ _ hw _ _ => hw) (fun _ _ _ hw _ _ => hw)
    (fun _ _ _ _ hw _ => hw)

lemma KeepsCache.bind {x : Flow σ α} {f : α → Flow σ β} (hx : KeepsCache x)
    (hf : ∀ a, KeepsCache (f a)) : KeepsCache (x >>= f) :=
  fun P => (hx P).bind fun a => hf a P

lemma keepsCache_prepare (query : Query) : KeepsCache (prepare query : Flow σ _) := by
  refine (keepsCache_send _).bind fun _ => (keepsCache_drain _ _).bind fun ids => ?_
  cases ids with
  | some ids => exact keepsCache_pure _
  | none => exact keepsCache_fail _

lemma keepsCache_describe (query : Query) : KeepsCache (describe query : Flow σ _) := by
  refine (keepsCache_send _).bind fun _ => (keepsCache_drain _ _).bind fun pair => ?_
  cases pair with
  | some pair => exact keepsCache_pure _
  | none => exact keepsCache_fail _

lemma keepsCache_get {f : Workspace σ → Flow σ α} (h : ∀ w, KeepsCache (f w)) :
    KeepsCache (get >>= f) := fun P w hw => h w P w hw

lemma keepsCache_typesOf (query : Query) (ids : Uuid × Uuid) :
    KeepsCache (typesOf query ids : Flow σ _) := by
  refine keepsCache_get fun w => ?_
  split
  · exact keepsCache_pure _
  · exact keepsCache_describe _

lemma keepsCache_executePrepared (query : Query) (codec : Codec) (shape : Shape) :
    KeepsCache (executePrepared query codec shape : Flow σ _) := by
  refine (keepsCache_ofExcept _).bind fun arguments => (keepsCache_send _).bind fun _ =>
    (keepsCache_readRows _ _ _).bind fun described => ?_
  cases described with
  | none => exact keepsCache_pure _
  | some pair => exact keepsCache_fail _

/-! ## What queries do to the cache -/

section

variable {query : Query} {key : CodecKey} {pair : DescriptorPair}

/-- Types that were described replace those before, and a codec is built from them or none is
kept. -/
lemma renewed_executeWith (query : Query) (key : CodecKey) (pair : DescriptorPair) :
    Ensures (fun w => w.cache.Coherent ∧ w.cache.Lacks key.query)
      (executeWith query key pair : Flow σ Unit)
      (fun _ w => w.cache.Coherent ∧ w.cache.Renewed key pair)
      (fun _ w => w.cache.Coherent ∧ w.cache.Renewed key pair) := by
  have hput : Ensures (fun w => w.cache.Coherent ∧ w.cache.Lacks key.query)
      (changeCache fun cache => cache.putPair key.query pair : Flow σ Unit)
      (fun _ w => w.cache.Coherent ∧ w.cache.Renewed key pair)
      (fun _ w => w.cache.Coherent ∧ w.cache.Renewed key pair) :=
    ensures_changeCache fun w hw => ⟨hw.1.putPair hw.2 pair, Cache.renewed_putPair hw.2 pair⟩
  have hbuild : Ensures (fun w => w.cache.Coherent ∧ w.cache.Renewed key pair)
      (buildCodec key pair : Flow σ Codec)
      (fun _ w => w.cache.Coherent ∧ w.cache.Renewed key pair)
      (fun _ w => w.cache.Coherent ∧ w.cache.Renewed key pair) := by
    refine ensures_ofExcept_bind (fun codec hcodec => ?_) (fun e w _ hw => hw)
    intro w hw
    exact ⟨hw.1.putCodec hw.2.1 hcodec, hw.2.putCodec hcodec⟩
  refine hput.bind fun _ => hbuild.bind fun codec => ?_
  exact keepsCache_executePrepared query codec key.type.shape
    fun cache => cache.Coherent ∧ cache.Renewed key pair

/-- A query of which nothing is known keeps the cache coherent when there is no codec for it. -/
lemma coherent_pessimistic (query : Query) (key : CodecKey) :
    Ensures (fun w => w.cache.Coherent ∧ w.cache.Lacks key.query)
      (pessimistic query key : Flow σ Unit)
      (fun _ w => w.cache.Coherent) (fun _ w => w.cache.Coherent) := by
  have htypes : KeepsCache (prepare query >>= typesOf query : Flow σ DescriptorPair) :=
    (keepsCache_prepare query).bind fun ids => keepsCache_typesOf query ids
  have hbefore := htypes fun cache => cache.Coherent ∧ cache.Lacks key.query
  have hsplit : (pessimistic query key : Flow σ Unit)
      = (prepare query >>= typesOf query) >>= fun pair => executeWith query key pair := by
    rw [bind_assoc]
    rfl
  rw [hsplit]
  refine (hbefore.weaken (fun _ hw => hw) (fun _ _ hw => hw) (fun _ _ hw => hw.1)).bind fun pair => ?_
  exact (renewed_executeWith query key pair).weaken (fun _ hw => hw) (fun _ _ hw => hw.1)
    (fun _ _ hw => hw.1)

/-- A query with a codec keeps the cache coherent. -/
lemma coherent_optimistic (query : Query) (key : CodecKey) (codec : Codec) :
    Ensures (fun w => w.cache.Coherent) (optimistic query key codec : Flow σ Unit)
      (fun _ w => w.cache.Coherent) (fun _ w => w.cache.Coherent) := by
  have hinvalidate : Ensures (fun w => w.cache.Coherent)
      (changeCache fun cache => cache.invalidate key.query : Flow σ Unit)
      (fun _ w => w.cache.Coherent ∧ w.cache.Lacks key.query) (fun _ w => w.cache.Coherent) :=
    ensures_changeCache fun w hw => ⟨hw.invalidate key.query, w.cache.lacks_invalidate key.query⟩
  simp only [optimistic]
  split
  · exact hinvalidate.bind fun _ => coherent_pessimistic query key
  · refine (keepsCache_send _ Cache.Coherent).bind fun _ =>
      (keepsCache_readRows _ _ _ Cache.Coherent).bind fun described => ?_
    cases described with
    | none => exact keepsCache_pure _ Cache.Coherent
    | some pair =>
      refine hinvalidate.bind fun _ => ?_
      exact (renewed_executeWith query key pair).weaken (fun _ hw => hw) (fun _ _ hw => hw.1)
        (fun _ _ hw => hw.1)

/-- **Every query** keeps the cache coherent. -/
theorem coherent_run (query : Query) (type : RowType) :
    Ensures (fun w => w.cache.Coherent) (run query type : Flow σ Unit)
      (fun _ w => w.cache.Coherent) (fun _ w => w.cache.Coherent) := by
  have hfind : Ensures (fun w => w.cache.Coherent) (findCodec (query.key type) : Flow σ _)
      (fun _ w => w.cache.Coherent) (fun _ w => w.cache.Coherent) :=
    ensures_findCodec fun w hw => hw.findCodec _
  refine hfind.bind fun found => ?_
  cases found with
  | some codec => exact coherent_optimistic query _ codec
  | none =>
    refine ensures_get fun w hw => ?_
    split
    · rename_i pair hpair
      have hbuild : Ensures (fun w' => w' = w) (buildCodec (query.key type) pair)
          (fun _ w => w.cache.Coherent) (fun _ w => w.cache.Coherent) := by
        refine ensures_ofExcept_bind (fun codec hcodec => ?_) ?_
        · rintro _ rfl
          exact hw.putCodec hpair hcodec
        · rintro _ _ _ rfl
          exact hw
      exact hbuild.bind fun codec => coherent_optimistic query _ codec
    · rename_i hnone
      rintro _ rfl
      exact coherent_pessimistic query _ _ ⟨hw, hw.lacks hnone⟩

lemma findCodec_apply (key : CodecKey) (w : Workspace σ) :
    findCodec key w
      = .ok (w.cache.findCodec key).1 { w with cache := (w.cache.findCodec key).2 } := rfl

lemma buildCodec_of_ok {codec : Codec} (h : Codec.build pair key.type.shape = .ok codec)
    (w : Workspace σ) :
    buildCodec key pair w = .ok codec { w with cache := w.cache.putCodec key codec } := by
  simp only [buildCodec, h]
  rfl

/-- A query for which there is a codec, or types to build one from, is run with it. -/
lemma run_of_codecFor? {type : RowType} {w : Workspace σ} {codec : Codec}
    (hcoherent : w.cache.Coherent) (hcodec : w.cache.codecFor? (query.key type) = some codec) :
    ∃ cache, cache.Coherent
      ∧ run query type w = optimistic query (query.key type) codec { w with cache } := by
  have hfound := hcoherent.findCodec (query.key type)
  simp only [Cache.codecFor?] at hcodec
  split at hcodec
  · rename_i cached hget
    cases hcodec
    refine ⟨_, hfound, ?_⟩
    have hfirst : (w.cache.findCodec (query.key type)).1 = some cached.codec := by
      simp only [Cache.findCodec, hget]
    rw [Query.key] at hfirst ⊢
    rw [run, bind_of_ok (findCodec_apply _ w), hfirst]
  · rename_i hget
    obtain ⟨pair, hpair, hbuild⟩ := Option.bind_eq_some_iff.1 hcodec
    have hok : Codec.build pair type.shape = .ok codec := by
      cases h : Codec.build pair type.shape with
      | ok codec' =>
        rw [Query.key, h] at hbuild
        cases hbuild
        rfl
      | error e =>
        rw [Query.key, h] at hbuild
        cases hbuild
    have hfirst := Cache.findCodec_eq_none.2 hget
    have hpair' : (w.cache.findCodec (query.key type)).2.pairOf? (query.key type).query = some pair :=
      (Cache.pairOf?_findCodec _ _ _).trans hpair
    refine ⟨_, hfound.putCodec hpair' hok, ?_⟩
    rw [Query.key] at hfirst hpair' ⊢
    rw [run, bind_of_ok (findCodec_apply _ w), hfirst]
    simp only [get_bind_apply, hpair']
    rw [bind_of_ok (buildCodec_of_ok hok _)]

/-- A query whose statement is described in an optimistic execution is run once more, with the types
that were described. -/
lemma optimistic_of_described {query : Query} {key : CodecKey} {codec : Codec} {arguments : Bytes}
    {w : Workspace σ} {c c' : Connection σ} {rows : Rows} {pair : DescriptorPair}
    (harguments : codec.encoder.encodeArguments query.arguments = .ok arguments)
    (hsend : w.connection.send (optimisticRequest query codec arguments) = (.ok (), c))
    (hdrain : c.drain (rowsReply codec.decoder key.type.shape) (Rows.start w.destination) none
      = ⟨c', rows, .ok ()⟩)
    (hdescribed : rows.described = some pair) :
    optimistic query key codec w
      = executeWith query key pair
        ⟨c', w.cache.invalidate key.query, rows.destination⟩ := by
  have hmissing : rows.isMissing query = false := by
    simp [Rows.isMissing, hdescribed]
  have hread : readRows query codec.decoder key.type.shape { w with connection := c }
      = .ok (some pair) ⟨c', w.cache, rows.destination⟩ := by
    rw [readRows_of_ok hdrain, hmissing, hdescribed]
    rfl
  simp only [optimistic, harguments]
  rw [bind_of_ok (send_of_ok hsend), bind_of_ok hread]
  rfl

end

end Flow

/-! ## Calls -/

namespace Session

/-- **Every call** keeps the cache coherent. -/
theorem coherent_perform (session : Session σ) (h : session.cache.Coherent) (call : Call) :
    (session.perform call).1.cache.Coherent := by
  cases husable : session.connection.isUsable with
  | false =>
    obtain ⟨_, c, hbegin, _⟩ := begin_of_not_isUsable husable
    rw [perform_of_begin hbegin]
    exact h
  | true =>
    cases call with
    | run query type destination =>
      rcases run_of_ensures session husable destination (Flow.coherent_run query type) h
        with ⟨w, hrun, hw⟩ | ⟨halt, w, hrun, hw⟩
      all_goals
        rw [perform, hrun]
        exact hw
    | execute script => exact h

/-- After an optimistic execution in which the statement was described, however the call goes on,
there is no codec for the statement but one that was built from the types described. -/
theorem renewed_perform {session : Session σ} {query : Query} {type : RowType}
    {destination : Destination} {codec : Codec} {t : Turn σ} {rows : Rows} {pair : DescriptorPair}
    (hcoherent : session.cache.Coherent) (husable : session.connection.isUsable = true)
    (hcodec : session.cache.codecFor? (query.key type) = some codec)
    (hbefore : t.before = session.connection)
    (hoptimistic : t.Optimistic query codec type.shape destination rows)
    (hok : t.outcome = .ok ()) (hdescribed : rows.described = some pair) :
    (session.perform (.run query type destination)).1.cache.Renewed (query.key type) pair := by
  obtain ⟨arguments, harguments, hrequest⟩ := hoptimistic.request
  have hstart : (Workspace.mk session.connection session.cache destination).cache.Coherent :=
    hcoherent
  obtain ⟨cache, hcache, hrun⟩ := Flow.run_of_codecFor? hstart hcodec
  cases hoptimistic.heard with
  | unsent hsend => cases hok
  | @sent c c' request responses done hsend hreads =>
    obtain rfl : request = Flow.optimisticRequest query codec arguments := hrequest
    obtain rfl : c = session.connection := hbefore
    have hdrain : c'.drain (Flow.rowsReply codec.decoder type.shape) (Rows.start destination) none
        = ⟨done.connection, done.value, .ok ()⟩ := by
      rw [← hreads.eq_drain, ← hok]
    rw [Flow.optimistic_of_described harguments hsend hdrain hdescribed] at hrun
    have hrenewed : Flow.Ensures
        (fun w => w = ⟨session.connection, session.cache, destination⟩) (Flow.run query type)
        (fun _ w => w.cache.Coherent ∧ w.cache.Renewed (query.key type) pair)
        (fun _ w => w.cache.Coherent ∧ w.cache.Renewed (query.key type) pair) := by
      rintro _ rfl
      rw [hrun]
      exact Flow.renewed_executeWith query (query.key type) pair _
        ⟨hcache.invalidate _, cache.lacks_invalidate _⟩
    rcases run_of_ensures session husable destination hrenewed rfl with ⟨w, hcalled, hw⟩ | ⟨halt, w, hcalled, hw⟩
    all_goals
      rw [perform, hcalled]
      exact hw.2

end Session

/-! ## Any sequence of calls -/

namespace Cache

/-- What may happen to a cache.  A call is one on any connection, in whatever state it is, and to
whatever server; one that is dropped while it waits is one on a connection that waits for ever from
there on. -/
inductive Touches : Cache → Cache → Prop
  | call {σ : Type} {cache : Cache} (c : Connection σ) (call : Call) :
      Touches cache ((Session.mk c cache).perform call).1.cache
  | ask {cache : Cache} (key : CodecKey) : Touches cache (cache.findCodec key).2
  | invalidate {cache : Cache} (query : QueryKey) : Touches cache (cache.invalidate query)
  | clear {cache : Cache} : Touches cache cache.clear

/-- What can come of a new cache of a given size. -/
inductive Reachable (size : Nat) : Cache → Prop
  | new : Reachable size (new size)
  | touch {cache cache' : Cache} :
      Reachable size cache → Touches cache cache' → Reachable size cache'

/-- Whatever happens to a cache keeps it coherent. -/
lemma Touches.keeps_coherent {cache cache' : Cache} (h : Touches cache cache')
    (hcoherent : cache.Coherent) : cache'.Coherent := by
  cases h with
  | call c call => exact Session.coherent_perform ⟨c, cache⟩ hcoherent call
  | ask key => exact hcoherent.findCodec key
  | invalidate query => exact hcoherent.invalidate query
  | clear => exact coherent_clear cache

/-- **The parts of the cache agree** whatever happened to it, and a call on any connection that
shares it, in whose optimistic execution the statement was described, leaves no codec for the
statement but one that was built from the types described. -/
theorem Reachable.coherent {size : Nat} {cache : Cache} (h : Reachable size cache) :
    cache.Coherent
      ∧ ∀ (σ : Type) (c : Connection σ) (query : Query) (type : RowType)
          (destination : Destination) (codec : Codec) (t : Turn σ) (rows : Rows),
        c.isUsable = true → cache.codecFor? (query.key type) = some codec → t.before = c →
        t.Optimistic query codec type.shape destination rows → t.outcome = .ok () →
        t.CarriesDescription →
        ∃ pair, rows.described = some pair
          ∧ ((Session.mk c cache).perform (.run query type destination)).1.cache.Renewed
            (query.key type) pair := by
  have hcoherent : cache.Coherent := by
    induction h with
    | new => exact coherent_new size
    | touch _ htouches ih => exact htouches.keeps_coherent ih
  refine ⟨hcoherent, ?_⟩
  intro σ c query type destination codec t rows husable hcodec hbefore hoptimistic hok hcarries
  obtain ⟨pair, hpair⟩ :=
    Option.ne_none_iff_exists'.1 (hoptimistic.heard.described_ne_none hok hcarries)
  have hsession : (Session.mk c cache).cache.Coherent := hcoherent
  exact ⟨pair, hpair,
    Session.renewed_perform hsession husable hcodec hbefore hoptimistic hok hpair⟩

end Cache

namespace Sample

/-- The first cycle of another query for the number, with a codec. -/
def staleCycle (codec : Codec) : Cycle (Bool × Option Statement) Rows :=
  stale.connection.cycle (Flow.optimisticRequest (query "select x") codec [0, 0, 0, 0])
    (Flow.rowsReply codec.decoder int64Row.shape) (Rows.start (.one int64Row.shape.fresh))

lemma reachable_cache_stale : Cache.Reachable 1000 stale.cache := by
  have hcall : Cache.Touches (.new 1000) warm.cache :=
    .call (connection 16777216) (.run (query "select x") int64Row (.one int64Row.shape.fresh))
  exact Cache.Reachable.new.touch hcall

/-- In it the statement is described. -/
lemma described_staleCycle :
    ((stale.cache.codecFor? ((query "select x").key int64Row)).any fun codec =>
      decide (codec.encoder.encodeArguments (query "select x").arguments = .ok [0, 0, 0, 0])
        && decide ((staleCycle codec).outcome = .ok ())
        && (staleCycle codec).value.described.isSome) = true := by
  decide +kernel

/-- The query for the number finds the statement with a text for a result, and no codec for the
number is kept. -/
theorem coherent_stale :
    Cache.Reachable 1000 stale.cache ∧ stale.cache.Coherent
      ∧ ∃ (codec : Codec) (t : Turn (Bool × Option Statement)) (rows : Rows)
          (pair : DescriptorPair),
        stale.connection.isUsable = true
          ∧ stale.cache.codecFor? ((query "select x").key int64Row) = some codec
          ∧ t.before = stale.connection
          ∧ t.Optimistic (query "select x") codec int64Row.shape (.one int64Row.shape.fresh) rows
          ∧ t.outcome = .ok () ∧ t.CarriesDescription ∧ rows.described = some pair
          ∧ (stale.perform (.run (query "select x") int64Row
              (.one int64Row.shape.fresh))).1.cache.Renewed
            ((query "select x").key int64Row) pair := by
  obtain ⟨hcoherent, hrenewed⟩ := reachable_cache_stale.coherent
  obtain ⟨codec, hcodec, hfacts⟩ := (Option.any_eq_true _ _).1 described_staleCycle
  simp only [Bool.and_eq_true, decide_eq_true_eq] at hfacts
  obtain ⟨⟨harguments, hok⟩, hdescribed⟩ := hfacts
  obtain ⟨pair, hpair⟩ := Option.isSome_iff_exists.1 hdescribed
  obtain ⟨responses, hheard⟩ := Turn.exists_heard stale.connection
    (Flow.optimisticRequest (query "select x") codec [0, 0, 0, 0])
    (Flow.rowsReply codec.decoder int64Row.shape) (Rows.start (.one int64Row.shape.fresh))
  have hoptimistic : Turn.Optimistic (query "select x") codec int64Row.shape
      (.one int64Row.shape.fresh) _ (staleCycle codec).value :=
    ⟨⟨_, harguments, rfl⟩, hheard⟩
  have husable : stale.connection.isUsable = true := by decide +kernel
  have hcarries := hoptimistic.carriesDescription hpair
  obtain ⟨pair', hpair', hkept⟩ := hrenewed _ stale.connection _ _ _ codec _ _ husable hcodec rfl
    hoptimistic hok hcarries
  exact ⟨reachable_cache_stale, hcoherent, codec, _, _, pair', husable, hcodec, rfl, hoptimistic,
    hok, hcarries, hpair', hkept⟩

end Sample

end QueryWire
