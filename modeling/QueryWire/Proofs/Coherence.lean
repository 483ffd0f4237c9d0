import QueryWire.Proofs.Cache

/-!
# The parts of the cache agree

The cache keeps codecs, types by their identifiers and types by statement, and forgets of the first
kind alone when it is full.  A codec must not outlive the types from which it was built.

* `Cache.Coherent` — the three parts agree.
* `Cache.Lacks`, `Cache.Renewed` — there is no codec for a statement, or one for its new types only.
* **`Cache.Coherent.putCodec`**, `Cache.Coherent.putPair`, … — every change keeps it so; types may be
  replaced where there is no codec.
-/

namespace QueryWire

namespace Cache

/-- The parts of a cache agree. -/
structure Coherent (cache : Cache) : Prop where
  /-- A codec was built from the types that its statement has in the cache. -/
  codecs : ∀ key cached, cache.codecs.get? key = some cached →
    ∃ pair, cache.pairOf? key.query = some pair
      ∧ Codec.build pair key.type.shape = .ok cached.codec
      ∧ (cached.codec.inputId, cached.codec.outputId) = pair.ids
  /-- Types of a statement are also found by their identifiers. -/
  queries : ∀ query pair, cache.pairOf? query = some pair →
    ∃ pair', cache.pairById? pair.ids = some pair'
  /-- Types stand under their own identifiers. -/
  pairs : ∀ ids pair, cache.pairById? ids = some pair → pair.ids = ids

/-- There is no codec for a statement. -/
def Lacks (cache : Cache) (query : QueryKey) : Prop :=
  ∀ key, key.query = query → cache.codecs.get? key = none

/-- The types of a statement are `pair`, and there is no codec for it but one for the destination
type of `key`, which was built from them. -/
def Renewed (cache : Cache) (key : CodecKey) (pair : DescriptorPair) : Prop :=
  cache.pairOf? key.query = some pair
    ∧ ∀ key' cached, key'.query = key.query → cache.codecs.get? key' = some cached →
      key'.type = key.type ∧ Codec.build pair key'.type.shape = .ok cached.codec

variable {cache : Cache}

lemma coherent_new (size : Nat) : (new size).Coherent where
  codecs _ _ h := by cases h
  queries _ _ h := by cases h
  pairs _ _ h := by cases h

/-- Codecs may be replaced by others that were built from the types of their statements. -/
lemma Coherent.with_codecs (h : cache.Coherent) {cache' : Cache}
    (hpairs : cache'.pairs = cache.pairs) (hqueries : cache'.queries = cache.queries)
    (hcodecs : ∀ key cached, cache'.codecs.get? key = some cached →
      ∃ pair, cache.pairOf? key.query = some pair
        ∧ Codec.build pair key.type.shape = .ok cached.codec) : cache'.Coherent := by
  have hpairOf : ∀ query, cache'.pairOf? query = cache.pairOf? query := fun query => by
    rw [pairOf?, pairOf?, hqueries]
  have hpairById : ∀ ids, cache'.pairById? ids = cache.pairById? ids := fun ids => by
    rw [pairById?, pairById?, hpairs]
  refine ⟨fun key cached hfind => ?_, fun query pair hfind => ?_, fun ids pair hfind => ?_⟩
  · obtain ⟨pair, hpair, hbuild⟩ := hcodecs key cached hfind
    exact ⟨pair, (hpairOf _).trans hpair, hbuild, Codec.ids_of_build hbuild⟩
  · rw [hpairOf] at hfind
    obtain ⟨pair', hpair'⟩ := h.queries query pair hfind
    exact ⟨pair', (hpairById _).trans hpair'⟩
  · rw [hpairById] at hfind
    exact h.pairs ids pair hfind

/-- A codec is found because it was stored just now, or before. -/
lemma get?_store {key key' : CodecKey} {codec : Codec} {cached : CachedCodec}
    (h : (cache.store key codec).codecs.get? key' = some cached) :
    key' = key ∧ cached.codec = codec ∨ cache.codecs.get? key' = some cached := by
  change (cache.codecs.insert key ⟨codec, cache.time⟩).get? key' = some cached at h
  rw [Table.get?_insert] at h
  split at h
  · rename_i hkey
    cases h
    exact .inl ⟨hkey, rfl⟩
  · exact .inr h

/-- A codec that is found after one had to go was there before. -/
lemma get?_evict {key : CodecKey} {cached : CachedCodec}
    (h : cache.evict.codecs.get? key = some cached) : cache.codecs.get? key = some cached := by
  simp only [evict] at h
  split at h
  · exact h
  · change (cache.codecs.erase _).get? key = some cached at h
    rw [Table.get?_erase] at h
    split at h
    · cases h
    · exact h

/-- A codec is found because it was put there just now, or before. -/
lemma get?_putCodec {key key' : CodecKey} {codec : Codec} {cached : CachedCodec}
    (h : (cache.putCodec key codec).codecs.get? key' = some cached) :
    key' = key ∧ cached.codec = codec ∨ cache.codecs.get? key' = some cached := by
  simp only [putCodec] at h
  refine (get?_store h).imp_right fun hold => ?_
  split at hold
  · exact get?_evict hold
  · exact hold

/-- A codec may be put that was built from the types of its statement. -/
lemma Coherent.putCodec (h : cache.Coherent) {key : CodecKey} {codec : Codec}
    {pair : DescriptorPair} (hpair : cache.pairOf? key.query = some pair)
    (hbuild : Codec.build pair key.type.shape = .ok codec) : (cache.putCodec key codec).Coherent := by
  refine h.with_codecs (pairs_putCodec _ _ _) (queries_putCodec _ _ _) fun key' cached hfind => ?_
  rcases get?_putCodec hfind with ⟨rfl, rfl⟩ | hold
  · exact ⟨pair, hpair, hbuild⟩
  · obtain ⟨pair', hpair', hbuild', _⟩ := h.codecs key' cached hold
    exact ⟨pair', hpair', hbuild'⟩

lemma Coherent.findCodec (h : cache.Coherent) (key : CodecKey) :
    (cache.findCodec key).2.Coherent := by
  have hold : ∀ key' cached, cache.codecs.get? key' = some cached →
      ∃ pair, cache.pairOf? key'.query = some pair
        ∧ Codec.build pair key'.type.shape = .ok cached.codec := fun key' cached hfind => by
    obtain ⟨pair, hpair, hbuild, _⟩ := h.codecs key' cached hfind
    exact ⟨pair, hpair, hbuild⟩
  simp only [Cache.findCodec]
  split
  · rename_i cached hcached
    refine h.with_codecs rfl rfl fun key' other hfind => ?_
    rcases get?_store hfind with ⟨rfl, hcodec⟩ | hfind
    · rw [hcodec]
      exact hold _ cached hcached
    · exact hold key' other hfind
  · exact h.with_codecs rfl rfl hold

/-- Types may be put for a statement without codecs. -/
lemma Coherent.putPair (h : cache.Coherent) {query : QueryKey} (hlacks : cache.Lacks query)
    (pair : DescriptorPair) : (cache.putPair query pair).Coherent := by
  have hpairOf : ∀ query', (cache.putPair query pair).pairOf? query'
      = if query' = query then some pair else cache.pairOf? query' :=
    fun query' => Table.get?_insert _ _ _ _
  have hpairById : ∀ ids, (cache.putPair query pair).pairById? ids
      = if ids = pair.ids then some pair else cache.pairById? ids :=
    fun ids => Table.get?_insert _ _ _ _
  refine ⟨fun key cached hfind => ?_, fun query' other hfind => ?_, fun ids other hfind => ?_⟩
  · change cache.codecs.get? key = some cached at hfind
    obtain ⟨other, hother, hbuild⟩ := h.codecs key cached hfind
    refine ⟨other, ?_, hbuild⟩
    rw [hpairOf, if_neg, hother]
    intro hquery
    rw [hlacks key hquery] at hfind
    cases hfind
  · rw [hpairById]
    split
    · exact ⟨pair, rfl⟩
    · rw [hpairOf] at hfind
      split at hfind
      · cases hfind
        contradiction
      · exact h.queries query' other hfind
  · rw [hpairById] at hfind
    split at hfind
    · rename_i hids
      cases hfind
      exact hids.symm
    · exact h.pairs ids other hfind

lemma get?_invalidate (query : QueryKey) (key : CodecKey) :
    (cache.invalidate query).codecs.get? key
      = if key.query = query then none else cache.codecs.get? key := by
  change (cache.codecs.filterKeys _).get? key = _
  rw [Table.get?_filterKeys]
  by_cases h : key.query = query <;> simp [h]

lemma lacks_invalidate (cache : Cache) (query : QueryKey) : (cache.invalidate query).Lacks query := by
  intro key hkey
  rw [get?_invalidate, if_pos hkey]

lemma Coherent.invalidate (h : cache.Coherent) (query : QueryKey) :
    (cache.invalidate query).Coherent := by
  have hpairOf : ∀ query', (cache.invalidate query).pairOf? query'
      = if query' = query then none else cache.pairOf? query' :=
    fun query' => Table.get?_erase _ _ _
  refine ⟨fun key cached hfind => ?_, fun query' pair hfind => ?_, h.pairs⟩
  · rw [get?_invalidate] at hfind
    split at hfind
    · cases hfind
    · rename_i hquery
      obtain ⟨pair, hpair, hbuild⟩ := h.codecs key cached hfind
      exact ⟨pair, by rw [hpairOf, if_neg hquery, hpair], hbuild⟩
  · rw [hpairOf] at hfind
    split at hfind
    · cases hfind
    · exact h.queries query' pair hfind

lemma coherent_clear (cache : Cache) : cache.clear.Coherent where
  codecs _ _ h := by cases h
  queries _ _ h := by cases h
  pairs _ _ h := by cases h

/-- Without types there is no codec. -/
lemma Coherent.lacks (h : cache.Coherent) {query : QueryKey} (hnone : cache.pairOf? query = none) :
    cache.Lacks query := by
  rintro key rfl
  cases hfind : cache.codecs.get? key with
  | none => rfl
  | some cached =>
    obtain ⟨pair, hpair, _⟩ := h.codecs key cached hfind
    rw [hnone] at hpair
    cases hpair

/-- Types that are put for a statement without codecs renew what is known of it. -/
lemma renewed_putPair {key : CodecKey} (hlacks : cache.Lacks key.query) (pair : DescriptorPair) :
    (cache.putPair key.query pair).Renewed key pair := by
  refine ⟨(Table.get?_insert _ _ _ _).trans (if_pos rfl), fun key' cached hquery hfind => ?_⟩
  change cache.codecs.get? key' = some cached at hfind
  rw [hlacks key' hquery] at hfind
  cases hfind

lemma Renewed.putCodec {key : CodecKey} {pair : DescriptorPair} {codec : Codec}
    (h : cache.Renewed key pair) (hbuild : Codec.build pair key.type.shape = .ok codec) :
    (cache.putCodec key codec).Renewed key pair := by
  refine ⟨?_, fun key' cached hquery hfind => ?_⟩
  · rw [pairOf?, queries_putCodec]
    exact h.1
  · rcases get?_putCodec hfind with ⟨rfl, rfl⟩ | hold
    · exact ⟨rfl, hbuild⟩
    · exact h.2 key' cached hquery hold

end Cache

end QueryWire
