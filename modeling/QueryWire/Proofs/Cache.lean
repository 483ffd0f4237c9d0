import Mathlib.Tactic.Common
import QueryWire.Cache

/-!
# What the cache can be trusted with

Whatever happens to a cache, what it answers was put into it: codecs that were built from types
that a server once served, and types under their own identifiers.  Nothing says that they are still
the types of the statement they are kept for.

* `Cache.Sound` — everything in the cache comes from served types.
* `Cache.sound_new`, `Cache.Sound.putCodec`, … — a new cache is sound and every change keeps it so.
* **`Cache.Sound.build_of_findCodec`** — a codec that is found was built for the key it is found
  under.
* `Cache.Misleads` — the cache has types of which no codec can be built for a key.
-/

namespace QueryWire

/-- A codec has the identifiers of the types that it was built from. -/
lemma Codec.ids_of_build {pair : DescriptorPair} {codec : Codec} {shape : Shape}
    (h : Codec.build pair shape = .ok codec) :
    (codec.inputId, codec.outputId) = pair.ids := by
  simp only [Codec.build] at h
  cases hencoder : Encoder.build pair.input with
  | error e => simp [hencoder, bind, Except.bind] at h
  | ok encoder =>
    cases hdecoder : Decoder.build pair.output shape with
    | error e => simp [hencoder, hdecoder, bind, Except.bind] at h
    | ok decoder =>
      simp only [hencoder, hdecoder, bind, Except.bind, pure, Except.pure, Except.ok.injEq] at h
      rw [← h]
      rfl

namespace Cache

/-- Everything in the cache comes from types that were served. -/
structure Sound (served : DescriptorPair → Prop) (cache : Cache) : Prop where
  codecs : ∀ key cached, cache.codecs.get? key = some cached →
    ∃ pair, served pair ∧ Codec.build pair key.type.shape = .ok cached.codec
  pairs : ∀ ids pair, cache.pairById? ids = some pair → pair.ids = ids ∧ served pair
  queries : ∀ query pair, cache.pairOf? query = some pair → served pair

variable {served : DescriptorPair → Prop} {cache : Cache}

lemma sound_new (size : Nat) : (new size).Sound served where
  codecs _ _ h := by cases h
  pairs _ _ h := by cases h
  queries _ _ h := by cases h

/-- Codecs that replace others of the same origin. -/
lemma Sound.with_codecs (h : cache.Sound served) {cache' : Cache}
    (hpairs : cache'.pairs = cache.pairs) (hqueries : cache'.queries = cache.queries)
    (hcodecs : ∀ key cached, cache'.codecs.get? key = some cached →
      ∃ pair, served pair ∧ Codec.build pair key.type.shape = .ok cached.codec) :
    cache'.Sound served where
  codecs := hcodecs
  pairs ids pair hfind := h.pairs ids pair (by rw [pairById?, ← hpairs]; exact hfind)
  queries query pair hfind := h.queries query pair (by rw [pairOf?, ← hqueries]; exact hfind)

/-- A codec that is stored must have been built for its key. -/
lemma Sound.store (h : cache.Sound served) {key : CodecKey} {codec : Codec} {pair : DescriptorPair}
    (hpair : served pair) (hbuild : Codec.build pair key.type.shape = .ok codec) :
    (cache.store key codec).Sound served := by
  refine h.with_codecs rfl rfl fun k cached hfind => ?_
  change (cache.codecs.insert key ⟨codec, cache.time⟩).get? k = some cached at hfind
  rw [Table.get?_insert] at hfind
  split at hfind
  · rename_i heq
    cases hfind
    exact ⟨pair, hpair, heq ▸ hbuild⟩
  · exact h.codecs k cached hfind

lemma Sound.evict (h : cache.Sound served) : cache.evict.Sound served := by
  simp only [Cache.evict]
  split
  · exact h
  · refine h.with_codecs rfl rfl fun k cached hfind => ?_
    change (cache.codecs.erase _).get? k = some cached at hfind
    rw [Table.get?_erase] at hfind
    split at hfind
    · cases hfind
    · exact h.codecs k cached hfind

lemma Sound.putCodec (h : cache.Sound served) {key : CodecKey} {codec : Codec}
    {pair : DescriptorPair} (hpair : served pair)
    (hbuild : Codec.build pair key.type.shape = .ok codec) :
    (cache.putCodec key codec).Sound served := by
  simp only [Cache.putCodec]
  split
  · exact h.evict.store hpair hbuild
  · exact h.store hpair hbuild

/-- **A codec that is found** was built, for the destination type it is asked for, from types that
were served. -/
theorem Sound.build_of_findCodec (h : cache.Sound served) {key : CodecKey} {codec : Codec}
    (hfind : (cache.findCodec key).1 = some codec) :
    ∃ pair, served pair ∧ Codec.build pair key.type.shape = .ok codec := by
  simp only [Cache.findCodec] at hfind
  split at hfind
  · rename_i cached hcached
    cases hfind
    exact h.codecs key cached hcached
  · cases hfind

lemma Sound.findCodec (h : cache.Sound served) (key : CodecKey) :
    (cache.findCodec key).2.Sound served := by
  simp only [Cache.findCodec]
  split
  · rename_i cached hcached
    obtain ⟨pair, hpair, hbuild⟩ := h.codecs key cached hcached
    have hstore := h.store hpair hbuild
    exact hstore.with_codecs rfl rfl hstore.codecs
  · exact h.with_codecs rfl rfl h.codecs

lemma Sound.putPair (h : cache.Sound served) {pair : DescriptorPair} (hpair : served pair)
    (query : QueryKey) : (cache.putPair query pair).Sound served where
  codecs := h.codecs
  pairs ids other hfind := by
    change (cache.pairs.insert pair.ids pair).get? ids = some other at hfind
    rw [Table.get?_insert] at hfind
    split at hfind
    · rename_i heq
      cases hfind
      exact ⟨heq.symm, hpair⟩
    · exact h.pairs ids other hfind
  queries q other hfind := by
    change (cache.queries.insert query pair).get? q = some other at hfind
    rw [Table.get?_insert] at hfind
    split at hfind
    · cases hfind
      exact hpair
    · exact h.queries q other hfind

lemma Sound.invalidate (h : cache.Sound served) (query : QueryKey) :
    (cache.invalidate query).Sound served where
  codecs key cached hfind := by
    change (cache.codecs.filterKeys _).get? key = some cached at hfind
    rw [Table.get?_filterKeys] at hfind
    split at hfind
    · exact h.codecs key cached hfind
    · cases hfind
  pairs := h.pairs
  queries q pair hfind := by
    change (cache.queries.erase query).get? q = some pair at hfind
    rw [Table.get?_erase] at hfind
    split at hfind
    · cases hfind
    · exact h.queries q pair hfind

lemma Sound.clear : cache.clear.Sound served where
  codecs _ _ h := by cases h
  pairs _ _ h := by cases h
  queries _ _ h := by cases h

/-! ## Asking -/

lemma pairOf?_findCodec (cache : Cache) (key : CodecKey) (query : QueryKey) :
    (cache.findCodec key).2.pairOf? query = cache.pairOf? query := by
  simp only [Cache.findCodec]
  split <;> rfl

lemma pairs_findCodec (cache : Cache) (key : CodecKey) :
    (cache.findCodec key).2.pairs = cache.pairs := by
  simp only [findCodec]
  split <;> rfl

lemma pairs_putCodec (cache : Cache) (key : CodecKey) (codec : Codec) :
    (cache.putCodec key codec).pairs = cache.pairs := by
  simp only [putCodec, evict]
  split
  · split <;> rfl
  · rfl

lemma queries_putCodec (cache : Cache) (key : CodecKey) (codec : Codec) :
    (cache.putCodec key codec).queries = cache.queries := by
  simp only [putCodec, evict]
  split
  · split <;> rfl
  · rfl

lemma findCodec_eq_none {key : CodecKey} :
    (cache.findCodec key).1 = none ↔ cache.codecs.get? key = none := by
  simp only [Cache.findCodec]
  split <;> simp_all

/-- The cache has no codec under a key, but types for its statement of which none can be built, for
the reason `e`. -/
def Misleads (cache : Cache) (key : CodecKey) (e : Error) : Prop :=
  cache.codecs.get? key = none ∧ ∃ pair, cache.pairOf? key.query = some pair
    ∧ Codec.build pair key.type.shape = .error e

lemma Misleads.unique {key : CodecKey} {e e' : Error} (h : cache.Misleads key e)
    (h' : cache.Misleads key e') : e = e' := by
  obtain ⟨_, pair, hpair, hbuild⟩ := h
  obtain ⟨_, pair', hpair', hbuild'⟩ := h'
  rw [hpair] at hpair'
  cases hpair'
  rw [hbuild] at hbuild'
  cases hbuild'
  rfl

end Cache

end QueryWire
