import QueryWire.Proofs.Session.Coherence

/-!
# What a query costs once it was run

A query that came out well leaves a codec in the cache, and the next one with that codec asks the
server to run the statement at once, if its types are still those under the identifiers of the
codec.  A codec has the identifiers that types have once they are read; a server looks for those
that it declared.

* `Cache.Knows` — there is a codec for types, under identifiers by which they go.
* `Flow.knows_run` — a query that comes out well leaves such a codec, on any server that keeps
  statements.
* `World.Reachable.settled` — nothing is ever left to read, whatever the identifiers stand for.
* `Session.RunsAtOnce` — a query sends one request only, under given identifiers.
* **`World.Reachable.runsAtOnce`** — the next query sends one request, under the identifiers that
  were declared, when types that are read keep these, and only then.
* **`Sample.costs_two_requests`** — it sends two when a stream without records is declared under an
  identifier of its own.
-/

namespace QueryWire

variable {σ α β : Type}

open Connection

/-! ## What the cache knows of a statement -/

namespace Cache

variable {cache : Cache} {key : CodecKey} {codec : Codec}

/-- There is a codec under a key, and types go by the identifiers of the codec. -/
def Knows (cache : Cache) (key : CodecKey) (types : StatementTypes) : Prop :=
  ∃ codec, cache.codecFor? key = some codec ∧ types.GoesBy (codec.inputId, codec.outputId)

lemma codecFor?_store (cache : Cache) (key : CodecKey) (codec : Codec) :
    (cache.store key codec).codecFor? key = some codec := by
  have hget : (cache.store key codec).codecs.get? key = some ⟨codec, cache.time⟩ :=
    (Table.get?_insert _ _ _ _).trans (if_pos rfl)
  simp only [codecFor?, hget]

lemma codecFor?_putCodec (cache : Cache) (key : CodecKey) (codec : Codec) :
    (cache.putCodec key codec).codecFor? key = some codec := codecFor?_store _ _ _

/-- Asking for a codec leaves it there. -/
lemma codecFor?_findCodec (h : (cache.findCodec key).1 = some codec) :
    (cache.findCodec key).2.codecFor? key = some codec := by
  simp only [findCodec] at h ⊢
  split at h
  · cases h
    exact codecFor?_store cache key _
  · cases h

/-- A coherent cache is sound, as far as nothing is asked of what was served. -/
lemma Coherent.sound (h : cache.Coherent) : cache.Sound fun _ => True where
  codecs key cached hfind := by
    obtain ⟨pair, _, hbuild, _⟩ := h.codecs key cached hfind
    exact ⟨pair, trivial, hbuild⟩
  pairs ids pair hfind := ⟨h.pairs ids pair hfind, trivial⟩
  queries _ _ _ := trivial

/-- The codec that a query begins with was built from served types. -/
lemma Sound.build_of_codecFor? {served : DescriptorPair → Prop} (h : cache.Sound served)
    (hcodec : cache.codecFor? key = some codec) :
    ∃ pair, served pair ∧ Codec.build pair key.type.shape = .ok codec := by
  simp only [codecFor?] at hcodec
  split at hcodec
  · rename_i cached hget
    cases hcodec
    exact h.codecs key cached hget
  · obtain ⟨pair, hpair, hbuild⟩ := Option.bind_eq_some_iff.1 hcodec
    refine ⟨pair, h.queries _ pair hpair, ?_⟩
    cases hcodec' : Codec.build pair key.type.shape with
    | ok codec' =>
      rw [hcodec'] at hbuild
      cases hbuild
      rfl
    | error e =>
      rw [hcodec'] at hbuild
      cases hbuild

end Cache

/-! ## What is sent -/

namespace Flow

/-- The action only adds to what was sent. -/
abbrev Extends (x : Flow σ α) : Prop :=
  ∀ base : List Request, Ensures (fun w => base <+: w.connection.sent) x
    (fun _ w => base <+: w.connection.sent) (fun _ w => base <+: w.connection.sent)

lemma Extends.bind {x : Flow σ α} {f : α → Flow σ β} (hx : Extends x) (hf : ∀ a, Extends (f a)) :
    Extends (x >>= f) := fun base => (hx base).bind fun a => hf a base

lemma ensures_send_sent (request : Request) (base : List Request) :
    Ensures (fun w => w.connection.sent = base) (send request : Flow σ Unit)
      (fun _ w => w.connection.sent = base ++ [request])
      (fun _ w => w.connection.sent = base) := by
  refine ensures_send ?_ ?_
  · rintro w c rfl h
    exact sent_of_send h
  · rintro w c halt rfl h
    exact sent_of_send_eq_error h

lemma extends_send (request : Request) : Extends (send request : Flow σ Unit) := by
  intro base
  refine ensures_send (fun w c hw h => ?_) fun w c halt hw h => ?_
  · exact sent_of_send h ▸ hw.trans (List.prefix_append _ _)
  · exact sent_of_send_eq_error h ▸ hw

/-- Reading results sends nothing. -/
lemma ensures_readRows_sent (query : Query) (decoder : Decoder) (shape : Shape)
    (P : List Request → Prop) :
    Ensures (fun w => P w.connection.sent) (readRows query decoder shape : Flow σ _)
      (fun _ w => P w.connection.sent) (fun _ w => P w.connection.sent) := by
  have hread {c c' : Connection σ} {start rows : Rows} {outcome : Except Halt Unit}
      (h : c.drain (rowsReply decoder shape) start none = ⟨c', rows, outcome⟩) :
      c'.sent = c.sent := by
    have hsent := (agrees_drain (rowsReply decoder shape) c start none).sent
    rwa [h] at hsent
  refine ensures_readRows (fun w c rows hw h _ => ?_) (fun w c rows hw h _ => ?_)
    fun w c rows halt hw h => ?_
  all_goals exact hread h ▸ hw

lemma extends_executeWith (query : Query) (key : CodecKey) (pair : DescriptorPair) :
    Extends (executeWith query key pair : Flow σ Unit) := by
  have hbuild : Extends (buildCodec key pair : Flow σ Codec) := fun base =>
    ensures_ofExcept_bind (fun codec _ w hw => hw) fun _ _ _ hw => hw
  have hexecute (codec : Codec) :
      Extends (executePrepared query codec key.type.shape : Flow σ Unit) := fun base => by
    refine ensures_ofExcept_bind (fun arguments _ => ?_) fun _ _ _ hw => hw
    refine (extends_send _ base).bind fun _ =>
      (ensures_readRows_sent query _ _ (base <+: ·)).bind fun described => ?_
    cases described with
    | none => exact ensures_pure fun _ hw => hw
    | some pair => exact ensures_fail fun _ hw => hw
  have hput : Extends (changeCache fun cache => cache.putPair key.query pair : Flow σ Unit) :=
    fun base => ensures_changeCache fun _ hw => hw
  exact hput.bind fun _ => hbuild.bind hexecute

/-! ## What a query leaves behind -/

section

variable {peer : Peer σ} {served : DescriptorPair → Prop} {limit : Nat} {destination : Destination}
  {catalog : Catalog σ} {compiled : σ → Option Statement} {statement : Statement} {query : Query}
  {type : RowType}

/-- A codec that is built from served types is in the cache then. -/
lemma ensures_buildCodec_kept {pair : DescriptorPair} (P : σ → Prop) (key : CodecKey)
    (hserved : served pair) :
    Ensures (fun w => w.Idle peer served limit destination ∧ P w.connection.server)
      (buildCodec key pair)
      (fun codec w => (w.Idle peer served limit destination ∧ P w.connection.server)
        ∧ w.cache.codecFor? key = some codec ∧ Codec.build pair key.type.shape = .ok codec)
      (fun _ w => w.Idle peer served limit destination) := by
  have hkept : Ensures (fun _ => True) (buildCodec key pair : Flow σ Codec)
      (fun codec w => w.cache.codecFor? key = some codec) (fun _ _ => True) := by
    refine ensures_ofExcept_bind (fun codec _ => ?_) fun _ _ _ _ => trivial
    intro w _
    exact w.cache.codecFor?_putCodec key codec
  exact ((ensures_buildCodec P key hserved).and hkept).weaken (fun _ hw => ⟨hw, trivial⟩)
    (fun _ _ hw => ⟨hw.1.1, hw.2, hw.1.2⟩) fun _ _ hw => hw.1.1

/-- Reading the reply to an execution settles, and brings no description. -/
lemma settles_readRows (decoder : Decoder) (shape : Shape) (arguments : Bytes) :
    Ensures (fun w => w.Waiting peer served limit destination (statement.reply arguments))
      (readRows query decoder shape)
      (fun described w => described = none ∧ w.Left peer served (.ok ()))
      (fun halt w => w.Left peer served (.error halt)) :=
  (ensures_readRows_reply decoder shape arguments).weaken (fun _ hw => hw)
    (fun _ _ hw => ⟨hw.1, hw.2.1⟩) fun _ _ hw => hw.1

section

variable (hserves : Serves peer catalog compiled)

include hserves

/-- Running the statement compiled last settles, and leaves the cache alone. -/
lemma settles_executePrepared (P : Cache → Prop) (codec : Codec) (shape : Shape) :
    Ensures (fun w => (w.Idle peer served limit destination
        ∧ compiled w.connection.server = some statement) ∧ P w.cache)
      (executePrepared query codec shape)
      (fun _ w => w.Left peer served (.ok ()) ∧ P w.cache)
      (fun halt w => w.Left peer served (.error halt)) := by
  have hleft : Ensures (fun w => w.Idle peer served limit destination
        ∧ compiled w.connection.server = some statement)
      (executePrepared query codec shape) (fun _ w => w.Left peer served (.ok ()))
      (fun halt w => w.Left peer served (.error halt)) := by
    refine ensures_ofExcept_bind (fun arguments _ => ?_) fun e w _ hw => hw.1.left _
    refine (ensures_send_answered fun s hs => hserves.execute s _ arguments _ hs).bind fun _ => ?_
    refine (settles_readRows codec.decoder shape arguments).bind fun described => ?_
    rintro w ⟨rfl, hleft⟩
    exact hleft
  exact (hleft.and (keepsCache_executePrepared query codec shape P)).weaken (fun _ hw => hw)
    (fun _ _ hw => hw) fun _ _ hw => hw.1

/-- Running the statement compiled last with types by whose identifiers it goes leaves a codec. -/
lemma knows_executeWith {pair : DescriptorPair} (hserved : served pair)
    (hgoes : statement.types.GoesBy pair.ids) :
    Ensures (fun w => w.Idle peer served limit destination
        ∧ compiled w.connection.server = some statement)
      (executeWith query (query.key type) pair)
      (fun _ w => w.Left peer served (.ok ()) ∧ w.cache.Knows (query.key type) statement.types)
      (fun halt w => w.Left peer served (.error halt)) := by
  refine (idle_changeCache (compiled · = some statement) fun cache hcache =>
    hcache.putPair hserved _).bind fun _ => ?_
  refine ((ensures_buildCodec_kept (compiled · = some statement) _ hserved).weaken
    (fun _ hw => hw) (fun _ _ hw => hw) fun _ _ hw => hw.left _).bind fun codec => ?_
  rintro w ⟨hw, hcodec, hbuild⟩
  have hknows : w.cache.Knows (query.key type) statement.types :=
    ⟨codec, hcodec, Codec.ids_of_build hbuild ▸ hgoes⟩
  exact settles_executePrepared hserves (·.Knows (query.key type) statement.types) codec _ w
    ⟨hw, hknows⟩

/-- A query whose codec is for the types of the statement sends one request, and leaves the cache
alone. -/
lemma optimistic_atOnce {key : CodecKey} {codec : Codec} {arguments : Bytes} (P : Cache → Prop)
    (base : List Request)
    (hencode : codec.encoder.encodeArguments query.arguments = .ok arguments)
    (hsame : statement.types.ids = (codec.inputId, codec.outputId)) :
    Ensures (fun w => (w.Idle peer served limit destination
        ∧ catalog w.connection.server query.toQueryKey = .ok statement)
        ∧ P w.cache ∧ w.connection.sent = base)
      (optimistic query key codec)
      (fun _ w => w.Left peer served (.ok ()) ∧ P w.cache
        ∧ w.connection.sent = base ++ [optimisticRequest query codec arguments])
      (fun halt w => w.Left peer served (.error halt)
        ∧ w.connection.sent = base ++ [optimisticRequest query codec arguments]) := by
  simp only [optimistic, hencode]
  have hanswered : Ensures (fun w => w.Idle peer served limit destination
        ∧ catalog w.connection.server query.toQueryKey = .ok statement)
      (send (optimisticRequest query codec arguments))
      (fun _ w => w.Waiting peer served limit destination (statement.reply arguments))
      (fun _ _ => False) :=
    ensures_send_answered fun s hs => hserves.optimistic s _ _ arguments statement hs hsame
  have hsend := hanswered.and ((keepsCache_send (optimisticRequest query codec arguments) P).and
    (ensures_send_sent (optimisticRequest query codec arguments) base))
  have hreply : Ensures
      (fun w => w.Waiting peer served limit destination (statement.reply arguments))
      (readRows query codec.decoder key.type.shape)
      (fun described w => described = none ∧ w.Left peer served (.ok ()))
      (fun halt w => w.Left peer served (.error halt)) := settles_readRows _ _ _
  have hread := hreply.and ((keepsCache_readRows query codec.decoder key.type.shape P).and
    (ensures_readRows_sent query codec.decoder key.type.shape
      (· = base ++ [optimisticRequest query codec arguments])))
  refine (hsend.weaken (fun _ hw => hw) (fun _ _ hw => hw) fun _ _ hw => hw.1.elim).bind fun _ => ?_
  refine (hread.weaken (fun _ hw => hw) (fun _ _ hw => hw)
    fun _ _ hw => ⟨hw.1, hw.2.2⟩).bind fun described => ?_
  rintro w ⟨⟨rfl, hleft⟩, hcache, hsent⟩
  exact ⟨hleft, hcache, hsent⟩

section

variable (hself : ∀ pair, DescriptorPair.parse statement.types = .ok pair → served pair)

include hself

/-- A statement goes by the identifiers of its types, from wherever they come. -/
lemma goesBy_typesOf :
    Ensures (fun w => w.Idle peer served limit destination
        ∧ compiled w.connection.server = some statement)
      (typesOf query statement.types.ids)
      (fun pair w => (w.Idle peer served limit destination
        ∧ compiled w.connection.server = some statement)
        ∧ served pair ∧ statement.types.GoesBy pair.ids)
      (fun halt w => w.Left peer served (.error halt)) := by
  refine ensures_get fun w hw => ?_
  cases hfind : w.cache.pairById? statement.types.ids with
  | some pair =>
    refine ensures_pure ?_
    rintro _ rfl
    obtain ⟨hids, hserved⟩ := hw.1.sound.pairs _ _ hfind
    exact ⟨hw, hserved, .inl hids⟩
  | none =>
    have hdescribe : Ensures (fun w => w.Idle peer served limit destination
          ∧ compiled w.connection.server = some statement) (describe query) _
        (Stops peer served limit statement (statement.outcome limit query .text destination).1) :=
      ensures_describe hserves
    refine hdescribe.weaken (fun _ hw' => hw' ▸ hw) ?_ fun _ _ hw => hw.1
    rintro pair w' ⟨hw', hparse⟩
    exact ⟨hw', hself pair hparse, .inr (ids_of_parse hparse)⟩

/-- A query of which nothing is known leaves a codec. -/
lemma knows_pessimistic :
    Ensures (fun w => w.Idle peer served limit destination
        ∧ catalog w.connection.server query.toQueryKey = .ok statement)
      (pessimistic query (query.key type))
      (fun _ w => w.Left peer served (.ok ()) ∧ w.cache.Knows (query.key type) statement.types)
      (fun halt w => w.Left peer served (.error halt)) := by
  refine ((ensures_prepare hserves (.ok ())).weaken (fun _ hw => hw) (fun _ _ hw => hw)
    fun _ _ hw => hw.1).bind fun ids => ?_
  rintro w ⟨hw, rfl⟩
  refine ((goesBy_typesOf hserves hself).bind fun pair => ?_) w hw
  rintro w' ⟨hw', hserved, hgoes⟩
  exact knows_executeWith hserves hserved hgoes w' hw'

/-- A query with a codec leaves one: this one, when the statement runs at once, and else one for the
types that are described or known. -/
lemma knows_optimistic (codec : Codec) :
    Ensures (fun w => (w.Idle peer served limit destination
        ∧ catalog w.connection.server query.toQueryKey = .ok statement)
        ∧ w.cache.codecFor? (query.key type) = some codec)
      (optimistic query (query.key type) codec)
      (fun _ w => w.Left peer served (.ok ()) ∧ w.cache.Knows (query.key type) statement.types)
      (fun halt w => w.Left peer served (.error halt)) := by
  cases hencode : codec.encoder.encodeArguments query.arguments with
  | error e =>
    refine Ensures.weaken ?_ (fun _ hw => hw.1) (fun _ _ hw => hw) (fun _ _ hw => hw)
    simp only [optimistic, hencode]
    exact (idle_changeCache (catalog · query.toQueryKey = .ok statement) fun cache hcache =>
      hcache.invalidate _).bind fun _ => knows_pessimistic hserves hself
  | ok arguments =>
    by_cases hsame : statement.types.ids = (codec.inputId, codec.outputId)
    · intro w hw
      refine ((optimistic_atOnce hserves (·.codecFor? (query.key type) = some codec)
        w.connection.sent hencode hsame).weaken (fun _ hw' => hw') ?_ fun _ _ hw' => hw'.1) w
        ⟨hw.1, hw.2, rfl⟩
      rintro _ w' ⟨hleft, hcodec, _⟩
      exact ⟨hleft, codec, hcodec, .inl hsame.symm⟩
    · refine Ensures.weaken ?_ (fun _ hw => hw.1) (fun _ _ hw => hw) (fun _ _ hw => hw)
      simp only [optimistic, hencode]
      refine (ensures_send_answers fun s hs =>
        hserves.optimistic_other s _ _ arguments statement hs hsame).bind fun _ => ?_
      refine ((ensures_readRows_described (compiled · = some statement) _ _).weaken
        (fun _ hw => hw) (fun _ _ hw => hw) fun _ _ hw => hw.1).bind fun described => ?_
      rintro w ⟨pair, rfl, hparse, hw⟩
      refine ((idle_changeCache (compiled · = some statement) fun cache hcache =>
        hcache.invalidate _).bind fun _ => ?_) w hw
      exact knows_executeWith hserves (hself pair hparse) (.inr (ids_of_parse hparse))

/-- **A query that comes out well** leaves a codec for the types of its statement, under identifiers
by which they go. -/
theorem knows_run (query : Query) (type : RowType) :
    Ensures (fun w => w.Idle peer served limit destination
        ∧ catalog w.connection.server query.toQueryKey = .ok statement)
      (run query type)
      (fun _ w => w.Left peer served (.ok ()) ∧ w.cache.Knows (query.key type) statement.types)
      (fun halt w => w.Left peer served (.error halt)) := by
  have hfind : Ensures (fun w => w.Idle peer served limit destination
        ∧ catalog w.connection.server query.toQueryKey = .ok statement)
      (findCodec (query.key type))
      (fun found w => (w.Idle peer served limit destination
        ∧ catalog w.connection.server query.toQueryKey = .ok statement)
        ∧ ∀ codec, found = some codec → w.cache.codecFor? (query.key type) = some codec)
      (fun halt w => w.Left peer served (.error halt)) := by
    refine ensures_findCodec fun w hw => ⟨⟨⟨hw.1.peer, hw.1.limit, hw.1.quiet,
      hw.1.sound.findCodec _, hw.1.cleared⟩, hw.2⟩, fun codec hfound => ?_⟩
    exact Cache.codecFor?_findCodec hfound
  refine hfind.bind fun found => ?_
  cases found with
  | some codec =>
    exact (knows_optimistic hserves hself codec).weaken (fun _ hw => ⟨hw.1, hw.2 codec rfl⟩)
      (fun _ _ hw => hw) fun _ _ hw => hw
  | none =>
    refine ensures_get fun w hw => ?_
    cases hpair : w.cache.pairOf? query.toQueryKey with
    | none =>
      exact (knows_pessimistic hserves hself).weaken (fun _ hw' => hw' ▸ hw.1) (fun _ _ hw' => hw')
        fun _ _ hw' => hw'
    | some pair =>
      have hserved := hw.1.1.sound.queries _ _ hpair
      refine ((ensures_buildCodec_kept (catalog · query.toQueryKey = .ok statement) _
        hserved).weaken (fun _ hw' => hw' ▸ hw.1) (fun _ _ hw' => hw')
        fun _ _ hw' => hw'.left _).bind fun codec => ?_
      exact (knows_optimistic hserves hself codec).weaken (fun _ hw' => ⟨hw'.1, hw'.2.1⟩)
        (fun _ _ hw' => hw') fun _ _ hw' => hw'

end

/-- A query whose codec is for other types sends the same request first. -/
lemma extends_optimistic_other (type : RowType) {codec : Codec} {arguments : Bytes}
    (base : List Request)
    (hencode : codec.encoder.encodeArguments query.arguments = .ok arguments)
    (hother : statement.types.ids ≠ (codec.inputId, codec.outputId)) :
    Ensures (fun w => (w.Idle peer served limit destination
        ∧ catalog w.connection.server query.toQueryKey = .ok statement)
        ∧ w.connection.sent = base)
      (optimistic query (query.key type) codec)
      (fun _ w => base ++ [optimisticRequest query codec arguments] <+: w.connection.sent)
      (fun _ w => base ++ [optimisticRequest query codec arguments] <+: w.connection.sent) := by
  have hanswers (s : σ) (hs : catalog s query.toQueryKey = .ok statement) : ∃ s',
      peer.Answers s (optimisticRequest query codec arguments) statement.described s' := by
    obtain ⟨s', h, _⟩ := hserves.optimistic_other s _ _ arguments statement hs hother
    exact ⟨s', h⟩
  have hanswered : Ensures (fun w => w.Idle peer served limit destination
        ∧ catalog w.connection.server query.toQueryKey = .ok statement)
      (send (optimisticRequest query codec arguments))
      (fun _ w => w.Waiting peer served limit destination statement.described)
      (fun _ _ => False) := ensures_send_answered hanswers
  have hsend : Ensures (fun w => (w.Idle peer served limit destination
        ∧ catalog w.connection.server query.toQueryKey = .ok statement)
        ∧ w.connection.sent = base)
      (send (optimisticRequest query codec arguments))
      (fun _ w => base ++ [optimisticRequest query codec arguments] <+: w.connection.sent)
      (fun _ w => base ++ [optimisticRequest query codec arguments] <+: w.connection.sent) :=
    (hanswered.and (ensures_send_sent _ base)).weaken (fun _ hw => hw)
      (fun _ _ hw => hw.2 ▸ List.prefix_rfl) fun _ _ hw => hw.1.elim
  simp only [optimistic, hencode]
  refine hsend.bind fun _ => (ensures_readRows_sent query _ _ (_ <+: ·)).bind fun described => ?_
  cases described with
  | none => exact ensures_pure fun _ hw => hw
  | some pair =>
    have hinvalidate : Extends
        (changeCache fun cache => cache.invalidate (query.key type).query : Flow σ Unit) :=
      fun _ => ensures_changeCache fun _ hw => hw
    exact hinvalidate.bind (fun _ => extends_executeWith query _ pair) _

end

end

end Flow

/-! ## Calls -/

/-- A query sends one request only, to run its statement at once if its types are declared under
`ids`. -/
def Session.RunsAtOnce (session : Session σ) (query : Query) (type : RowType)
    (destination : Destination) (ids : Uuid × Uuid) (arguments : Bytes) : Prop :=
  (session.run query type destination).session.connection.sent
    = session.connection.sent ++ [query.toQueryKey.optimisticRequest ids arguments]

instance (session : Session σ) (query : Query) (type : RowType) (destination : Destination)
    (ids : Uuid × Uuid) (arguments : Bytes) :
    Decidable (session.RunsAtOnce query type destination ids arguments) :=
  inferInstanceAs (Decidable (_ = _))

namespace Session

variable {peer : Peer σ} {catalog : Catalog σ} {compiled : σ → Option Statement}
  {c : Connection σ} {cache : Cache}

/-- After a query on a usable connection nothing is left to read, and when it came out well the
cache knows its statement. -/
theorem settles_run (hserves : Serves peer catalog compiled) (hfresh : c.Fresh peer)
    (husable : c.isUsable = true) (hcoherent : cache.Coherent) (query : Query) (type : RowType)
    (destination : Destination) :
    let called := (Session.mk c cache).run query type destination
    called.session.connection.Fresh peer
      ∧ ∀ statement, catalog c.server query.toQueryKey = .ok statement →
        called.outcome = .ok () → called.session.cache.Knows (query.key type) statement.types := by
  have hidle := idle_start hfresh husable hcoherent.sound destination
  cases hcatalog : catalog c.server query.toQueryKey with
  | ok statement =>
    rcases run_of_ensures ⟨c, cache⟩ husable destination
        (Flow.knows_run hserves (fun _ _ => trivial) query type) ⟨hidle, hcatalog⟩
      with ⟨w, hrun, hleft, hknows⟩ | ⟨halt, w, hrun, hleft⟩
    · rw [hrun]
      refine ⟨hleft.settles.fresh_finish hleft.peer, fun statement' hstatement' _ => ?_⟩
      cases hstatement'
      exact hknows
    · rw [hrun]
      exact ⟨hleft.settles.fresh_finish hleft.peer, fun _ _ hok => by cases hok⟩
  | error refusal =>
    by_cases hmisleads : ∃ e, cache.Misleads (query.key type) e
    · obtain ⟨e, hmisleads⟩ := hmisleads
      rw [run_of_isUsable ⟨c, cache⟩ husable,
        Flow.run_of_misleads query type (w := ⟨c, cache, destination⟩) hmisleads]
      have hleft := hidle.left (.error (.failed e))
      exact ⟨hleft.settles.fresh_finish hleft.peer, fun _ hstatement => by cases hstatement⟩
    · rcases run_of_ensures ⟨c, cache⟩ husable destination
          (Flow.ensures_run_refused query type hserves)
          ⟨⟨hidle, hcatalog⟩, not_exists.1 hmisleads⟩
        with ⟨w, _, himpossible⟩ | ⟨halt, w, hrun, hleft, _⟩
      · exact himpossible.elim
      · rw [hrun]
        exact ⟨hleft.settles.fresh_finish hleft.peer, fun _ hstatement => by cases hstatement⟩

/-- After any call nothing is left to read. -/
lemma settles_perform (hserves : Serves peer catalog compiled) (hfresh : c.Fresh peer)
    (hcoherent : cache.Coherent) (call : Call) :
    ((Session.mk c cache).perform call).1.connection.Fresh peer := by
  cases husable : c.isUsable with
  | true =>
    cases call with
    | run query type destination =>
      exact (settles_run hserves hfresh husable hcoherent query type destination).1
    | execute script => exact fresh_execute hserves hfresh husable script
  | false => exact (fresh_refused hfresh husable cache call).1

/-- What holds of the requests when a query with a codec is over holds of them after the call. -/
lemma sent_run_of_codecFor? (hfresh : c.Fresh peer) (husable : c.isUsable = true)
    (hcoherent : cache.Coherent) {query : Query} {type : RowType} {statement : Statement}
    {codec : Codec} (destination : Destination)
    (hstatement : catalog c.server query.toQueryKey = .ok statement)
    (hcodec : cache.codecFor? (query.key type) = some codec) (P : List Request → Prop)
    (hoptimistic : Flow.Ensures
      (fun w => (w.Idle peer (fun _ => True) c.limit destination
        ∧ catalog w.connection.server query.toQueryKey = .ok statement)
        ∧ w.connection.sent = c.sent)
      (Flow.optimistic query (query.key type) codec)
      (fun _ w => P w.connection.sent) (fun _ w => P w.connection.sent)) :
    P ((Session.mk c cache).run query type destination).session.connection.sent := by
  have hstart : (Workspace.mk c cache destination).cache.Coherent := hcoherent
  obtain ⟨cache', hcoherent', hrun⟩ := Flow.run_of_codecFor? hstart hcodec
  have hidle := idle_start hfresh husable hcoherent'.sound destination
  have hsent : Flow.Ensures (fun w => w = ⟨c, cache, destination⟩) (Flow.run query type)
      (fun _ w => P w.connection.sent) (fun _ w => P w.connection.sent) := by
    rintro _ rfl
    rw [hrun]
    exact hoptimistic _ ⟨⟨hidle, hstatement⟩, rfl⟩
  rcases run_of_ensures ⟨c, cache⟩ husable destination hsent rfl
    with ⟨w, hcalled, hw⟩ | ⟨halt, w, hcalled, hw⟩
  · rw [hcalled]
    exact hw
  · obtain ⟨broken, log, hfinish⟩ := w.connection.exists_finish_eq (.error halt)
    rw [hcalled, hfinish]
    exact hw

/-- A query with a codec that accepts the arguments sends one request, under the identifiers that
were declared, exactly when the codec has these. -/
theorem runsAtOnce_iff (hserves : Serves peer catalog compiled) (hfresh : c.Fresh peer)
    (husable : c.isUsable = true) (hcoherent : cache.Coherent) {query : Query} {type : RowType}
    {statement : Statement} {codec : Codec} {arguments : Bytes}
    (hstatement : catalog c.server query.toQueryKey = .ok statement)
    (hcodec : cache.codecFor? (query.key type) = some codec)
    (hencode : codec.encoder.encodeArguments query.arguments = .ok arguments)
    (destination : Destination) :
    (Session.mk c cache).RunsAtOnce query type destination statement.types.ids arguments
      ↔ statement.types.ids = (codec.inputId, codec.outputId) := by
  have hcalled := sent_run_of_codecFor? hfresh husable hcoherent destination hstatement hcodec
  by_cases hsame : statement.types.ids = (codec.inputId, codec.outputId)
  · refine iff_of_true ?_ hsame
    rw [hsame]
    exact hcalled (· = c.sent ++ [Flow.optimisticRequest query codec arguments])
      ((Flow.optimistic_atOnce hserves (fun _ => True) c.sent hencode hsame).weaken
        (fun _ hw => ⟨hw.1, trivial, hw.2⟩) (fun _ _ hw => hw.2.2) fun _ _ hw => hw.2)
  · refine iff_of_false (fun honce => hsame ?_) hsame
    have hbegins := hcalled (c.sent ++ [Flow.optimisticRequest query codec arguments] <+: ·)
      (Flow.extends_optimistic_other hserves type c.sent hencode hsame)
    rw [honce, List.prefix_append_right_inj] at hbegins
    have hrequest := (List.cons_prefix_cons.1 hbegins).1
    simp only [Flow.optimisticRequest, QueryKey.optimisticRequest,
      Request.optimisticExecute.injEq] at hrequest
    obtain ⟨_, _, _, _, hinput, houtput, _⟩ := hrequest
    exact Prod.ext hinput.symm houtput.symm

end Session

/-! ## Any sequence of calls -/

namespace World

variable {peer : Peer σ} {catalog : Catalog σ} {compiled : σ → Option Statement}

/-- The parts of the cache agree, and nothing is left to read on any connection. -/
structure Settled (peer : Peer σ) (world : World σ) : Prop where
  coherent : world.cache.Coherent
  fresh : ∀ c ∈ world.connections, c.Fresh peer

/-- Whatever happens keeps a world settled. -/
lemma Step.settled (hserves : Serves peer catalog compiled) {world world' : World σ}
    (hstep : Step peer world world') (h : world.Settled peer) : world'.Settled peer := by
  cases hstep with
  | connect hconnect =>
    exact ⟨h.coherent, List.forall_mem_cons.2 ⟨fresh_of_connect hconnect, h.fresh⟩⟩
  | @call before after c cache call =>
    have hc := h.fresh c (List.mem_append_right _ List.mem_cons_self)
    exact ⟨Session.coherent_perform ⟨c, cache⟩ h.coherent call,
      forall_mem_replace h.fresh (Session.settles_perform hserves hc h.coherent call)⟩
  | @change before after c cache server =>
    have hc := h.fresh c (List.mem_append_right _ List.mem_cons_self)
    exact ⟨h.coherent, forall_mem_replace h.fresh ⟨hc.peer, hc.inbox⟩⟩
  | invalidate query => exact ⟨h.coherent.invalidate query, h.fresh⟩
  | clear => exact ⟨Cache.coherent_clear _, h.fresh⟩

/-- Every world that can be reached is settled. -/
theorem Reachable.settled (hserves : Serves peer catalog compiled) {size : Nat} {world : World σ}
    (h : Reachable peer size world) : world.Settled peer := by
  induction h with
  | start => exact ⟨Cache.coherent_new size, nofun⟩
  | step _ hstep ih => exact hstep.settled hserves ih

/-- A query can be run on a connection with a codec that the cache has for it, of a statement with
given types. -/
structure Repeats (peer : Peer σ) (catalog : Catalog σ) (types : StatementTypes) (type : RowType)
    (codec : Codec) (world : World σ) (c : Connection σ) (query : Query) (arguments : Bytes) :
    Prop where
  reachable : ∃ size, Reachable peer size world
  connection : c ∈ world.connections
  usable : c.isUsable = true
  statement : ∃ statement, catalog c.server query.toQueryKey = .ok statement
    ∧ statement.types = types
  kept : world.cache.codecFor? (query.key type) = some codec
  accepts : codec.encoder.encodeArguments query.arguments = .ok arguments

/-- **The next query sends one request.**  A query that came out well leaves a codec.  As long as
the cache has it and the types of the statement are the same, every query with this codec, and with
arguments that it accepts, sends one request, under the identifiers that were declared, when the
types keep these once they are read; and only then, when identifiers never stand for two pairs of
types. -/
theorem Reachable.runsAtOnce (hserves : Serves peer catalog compiled) {size : Nat}
    {world : World σ} (hreach : Reachable peer size world) {c : Connection σ}
    (hc : c ∈ world.connections) {query : Query} {type : RowType} {destination : Destination}
    {statement : Statement} (hstatement : catalog c.server query.toQueryKey = .ok statement)
    (hok : ((Session.mk c world.cache).run query type destination).outcome = .ok ()) :
    ∃ codec, ((Session.mk c world.cache).run query type destination).session.cache.codecFor?
        (query.key type) = some codec
      ∧ ∀ (world' : World σ) (c' : Connection σ) (query' : Query) (destination' : Destination)
          (arguments : Bytes),
        world'.Repeats peer catalog statement.types type codec c' query' arguments →
        (statement.types.rootIds = statement.types.ids →
            (Session.mk c' world'.cache).RunsAtOnce query' type destination' statement.types.ids
              arguments)
          ∧ (Identifies catalog →
            (Session.mk c' world'.cache).RunsAtOnce query' type destination' statement.types.ids
              arguments →
            statement.types.rootIds = statement.types.ids) := by
  have hsettled := hreach.settled hserves
  cases husable : c.isUsable with
  | false =>
    obtain ⟨_, c', hbegin, _⟩ := begin_of_not_isUsable husable
    simp only [Session.run, hbegin] at hok
    cases hok
  | true =>
    obtain ⟨codec, hcodec, hgoes⟩ := (Session.settles_run hserves (hsettled.fresh c hc) husable
      hsettled.coherent query type destination).2 statement hstatement hok
    refine ⟨codec, hcodec, fun world' c' query' destination' arguments hrepeats => ?_⟩
    obtain ⟨⟨size', hreach'⟩, hc', husable', ⟨statement', hstatement', htypes⟩, hkept, haccepts⟩ :=
      hrepeats
    have hsettled' := hreach'.settled hserves
    have honce := Session.runsAtOnce_iff hserves (hsettled'.fresh c' hc') husable'
      hsettled'.coherent hstatement' hkept haccepts destination'
    rw [htypes] at honce
    constructor
    · intro hroot
      refine honce.2 ?_
      rcases hgoes with hdeclared | hread
      · exact hdeclared.symm
      · exact (hread.trans hroot).symm
    · intro hnames hatOnce
      obtain ⟨pair, hserved, hbuild⟩ := (hreach'.good hserves hnames).sound.build_of_codecFor? hkept
      have hids : statement'.types.ids = pair.ids := by
        rw [htypes, honce.1 hatOnce, Codec.ids_of_build hbuild]
      have hparse := hnames.parse_eq hserved hstatement' hids
      rw [← htypes, hids, ids_of_parse hparse]

end World

/-! ## A second query for a number -/

namespace Sample

/-- The codec that is left by the first query accepts that there are no arguments. -/
lemma accepts_warm : ((warm.cache.codecFor? ((query "select x").key int64Row)).any fun codec =>
    decide (codec.encoder.encodeArguments (query "select x").arguments = .ok [0, 0, 0, 0]))
      = true := by
  decide +kernel

lemma accepts_aliasedWarm :
    ((aliasedWarm.cache.codecFor? ((query "a").key int64Row)).any fun codec =>
      decide (codec.encoder.encodeArguments (query "a").arguments = .ok [0, 0, 0, 0])) = true := by
  decide +kernel

/-- The second query for the number sends one request, under the identifiers that were declared. -/
theorem runsAtOnce_warm :
    Serves peer (.ofVersions versions) Prod.snd
      ∧ World.Reachable peer 1000 ⟨[connection 16777216], .new 1000⟩
      ∧ Catalog.ofVersions versions (connection 16777216).server (query "select x").toQueryKey
        = .ok (.constant int64Types [0, 0, 0, 0, 0, 0, 0, 7])
      ∧ ((Session.mk (connection 16777216) (.new 1000)).run (query "select x") int64Row
          (.one int64Row.shape.fresh)).outcome = .ok ()
      ∧ (∃ codec, World.Repeats peer (.ofVersions versions) int64Types int64Row codec
          ⟨[warm.connection], warm.cache⟩ warm.connection (query "select x") [0, 0, 0, 0])
      ∧ int64Types.rootIds = int64Types.ids
      ∧ warm.RunsAtOnce (query "select x") int64Row (.one int64Row.shape.fresh) int64Types.ids
          [0, 0, 0, 0] := by
  have hserves := serves_keeping versions scriptAnswer
  have hreach := reachable_connect 16777216 rfl .start
  have hstatement : Catalog.ofVersions versions (connection 16777216).server
      (query "select x").toQueryKey = .ok (.constant int64Types [0, 0, 0, 0, 0, 0, 0, 7]) := rfl
  have hok : ((Session.mk (connection 16777216) (.new 1000)).run (query "select x") int64Row
      (.one int64Row.shape.fresh)).outcome = .ok () := by decide +kernel
  have hserver : warm.connection.server.1 = false := by decide +kernel
  have hstatement' : Catalog.ofVersions versions warm.connection.server
      (query "select x").toQueryKey = .ok (.constant int64Types [0, 0, 0, 0, 0, 0, 0, 7]) := by
    rw [Catalog.ofVersions, hserver]
    rfl
  have hroot : int64Types.rootIds = int64Types.ids := by decide
  obtain ⟨codec, hkept, hnext⟩ := hreach.runsAtOnce hserves List.mem_cons_self hstatement hok
  have haccepts := accepts_warm
  have hkept' : warm.cache.codecFor? ((query "select x").key int64Row) = some codec := hkept
  rw [hkept'] at haccepts
  have hrepeats : World.Repeats peer (.ofVersions versions) int64Types int64Row codec
      ⟨[warm.connection], warm.cache⟩ warm.connection (query "select x") [0, 0, 0, 0] :=
    { reachable := ⟨1000, reachable_warm⟩
      connection := List.mem_cons_self
      usable := by decide +kernel
      statement := ⟨_, hstatement', rfl⟩
      kept := hkept'
      accepts := by simpa using haccepts }
  exact ⟨hserves, hreach, hstatement, hok, ⟨codec, hrepeats⟩, hroot,
    (hnext _ _ _ _ _ hrepeats).1 hroot⟩

/-- **Two requests** are the cost of the second query for the number when the stream without records
is declared under an identifier of its own: the server looks for this one, and is asked for that of
the empty tuple. -/
theorem costs_two_requests :
    Serves aliasedPeer (.ofVersions aliased) Prod.snd
      ∧ NamesStreams (.ofVersions aliased) ∧ NamesEmptyTuple (.ofVersions aliased)
      ∧ (DescriptorPair.parse numberTypes).toOption.isSome
      ∧ World.Reachable aliasedPeer 1000 ⟨[aliasedConnection], .new 1000⟩
      ∧ ((Session.mk aliasedConnection (.new 1000)).run (query "a") int64Row
          (.one int64Row.shape.fresh)).outcome = .ok ()
      ∧ (∃ codec, World.Repeats aliasedPeer (.ofVersions aliased) numberTypes int64Row codec
          ⟨[aliasedWarm.connection], aliasedWarm.cache⟩ aliasedWarm.connection (query "a")
          [0, 0, 0, 0])
      ∧ (aliasedWarm.run (query "a") int64Row (.one int64Row.shape.fresh)).session.connection.sent
        = aliasedWarm.connection.sent
          ++ [(query "a").toQueryKey.optimisticRequest (Descriptor.emptyTupleId, resultId)
                [0, 0, 0, 0], .execute (query "a").headers [0, 0, 0, 0]]
      ∧ ¬ aliasedWarm.RunsAtOnce (query "a") int64Row (.one int64Row.shape.fresh) numberTypes.ids
          [0, 0, 0, 0] := by
  obtain ⟨codec, hkept, haccepts⟩ := (Option.any_eq_true _ _).1 accepts_aliasedWarm
  have hrepeats : World.Repeats aliasedPeer (.ofVersions aliased) numberTypes int64Row codec
      ⟨[aliasedWarm.connection], aliasedWarm.cache⟩ aliasedWarm.connection (query "a")
      [0, 0, 0, 0] :=
    { reachable := ⟨1000, reachable_aliasedWarm⟩
      connection := List.mem_cons_self
      usable := by decide +kernel
      statement := ⟨_, rfl, rfl⟩
      kept := hkept
      accepts := by simpa using haccepts }
  exact ⟨serves_keeping aliased scriptAnswer, namesStreams_aliased, namesEmptyTuple_aliased,
    by decide +kernel, reachable_aliasedConnection, by decide +kernel, ⟨codec, hrepeats⟩,
    by decide +kernel, by decide +kernel⟩

end Sample

end QueryWire
