import Mathlib.Data.List.Perm.Basic
import QueryWire.Proofs.Coherence

/-!
# Which codec has to go

The cache keeps its codecs in no order, each with the time of its last use, and looks for the
earliest time when it needs room.  This is the same as a list with the codec used last in front,
from which the last one is dropped.

* `Cache.Use`, `Cache.afterAll`, `Cache.answers` — what is done with the codecs, and what is found.
* `Recency` — the list.
* `Cache.Follows` — a cache and a list keep the same codecs, in the order of their last uses.
* **`Cache.oldest?_eq_getLast?`** — the earliest time stands at the end of the list.
* **`Cache.Follows.after`** — every use keeps cache and list together.
* **`Cache.follows_recency`** — so does every sequence of uses, which gives the same answers on both
  sides and is counted right.
-/

namespace QueryWire

/-! ## Uses of the cache -/

/-- What may be done with the codecs of a cache. -/
inductive Cache.Use where
  | find (key : CodecKey)
  | put (key : CodecKey) (codec : Codec)
  | invalidate (query : QueryKey)
  | clear
  /-- Nothing, for some time: two uses may be any time apart. -/
  | wait (ticks : Nat)

namespace Cache

/-- The cache after a use. -/
def after (cache : Cache) : Use → Cache
  | .find key => (cache.findCodec key).2
  | .put key codec => cache.putCodec key codec
  | .invalidate query => cache.invalidate query
  | .clear => cache.clear
  | .wait ticks => { cache with time := cache.time + ticks }

/-- What a use finds, if it looks for a codec. -/
def answer? (cache : Cache) : Use → Option (Option Codec)
  | .find key => some (cache.findCodec key).1
  | .put _ _ | .invalidate _ | .clear | .wait _ => none

/-- The cache after some uses. -/
def afterAll (cache : Cache) (uses : List Use) : Cache := uses.foldl after cache

/-- What the lookups among some uses find. -/
def answers (cache : Cache) : List Use → List (Option Codec)
  | [] => []
  | use :: uses => (cache.answer? use).toList ++ (cache.after use).answers uses

end Cache

/-! ## The list -/

/-- Codecs in the order of their last uses, the latest in front. -/
structure Recency where
  /-- How many codecs are kept. -/
  capacity : Nat
  entries : List (CodecKey × Codec) := []

namespace Recency

/-- A list without codecs that keeps at least one. -/
def new (size : Nat) : Recency := { capacity := max size 1 }

/-- The codec under a key. -/
def find? (recency : Recency) (key : CodecKey) : Option Codec := recency.entries.lookup key

/-- The list with a codec in front, and nowhere else under its key. -/
def touch (recency : Recency) (key : CodecKey) (codec : Codec) : Recency :=
  { recency with entries := (key, codec) :: recency.entries.filter fun entry => entry.1 ≠ key }

/-- Whether a key is new and there is no room for it. -/
def isFullFor (recency : Recency) (key : CodecKey) : Bool :=
  recency.capacity ≤ recency.entries.length && (recency.find? key).isNone

/-- The codec that is dropped to make room. -/
def dropped? (recency : Recency) : Cache.Use → Option (CodecKey × Codec)
  | .put key _ => if recency.isFullFor key then recency.entries.getLast? else none
  | .find _ | .invalidate _ | .clear | .wait _ => none

/-- The list without its last codec. -/
def dropLast (recency : Recency) : Recency :=
  { recency with entries := recency.entries.dropLast }

/-- The list after a use. -/
def after (recency : Recency) : Cache.Use → Recency
  | .find key =>
    match recency.find? key with
    | some codec => recency.touch key codec
    | none => recency
  | .put key codec =>
    (if recency.isFullFor key then recency.dropLast else recency).touch key codec
  | .invalidate query =>
    { recency with entries := recency.entries.filter fun entry => entry.1.query ≠ query }
  | .clear => { recency with entries := [] }
  | .wait _ => recency

/-- What a use finds, if it looks for a codec. -/
def answer? (recency : Recency) : Cache.Use → Option (Option Codec)
  | .find key => some (recency.find? key)
  | .put _ _ | .invalidate _ | .clear | .wait _ => none

/-- The list after some uses. -/
def afterAll (recency : Recency) (uses : List Cache.Use) : Recency := uses.foldl after recency

/-- What the lookups among some uses find. -/
def answers (recency : Recency) : List Cache.Use → List (Option Codec)
  | [] => []
  | use :: uses => (recency.answer? use).toList ++ (recency.after use).answers uses

/-- What is dropped in the course of some uses. -/
def drops (recency : Recency) : List Cache.Use → List (CodecKey × Codec)
  | [] => []
  | use :: uses => (recency.dropped? use).toList ++ (recency.after use).drops uses

/-! ### How long it gets -/

variable {recency : Recency}

@[simp] lemma capacity_after (recency : Recency) (use : Cache.Use) :
    (recency.after use).capacity = recency.capacity := by
  cases use with
  | find key =>
    simp only [after]
    split <;> rfl
  | put key codec =>
    simp only [after]
    split <;> rfl
  | _ => rfl

/-- A codec that is moved to the front was there before, so that the list gets no longer. -/
lemma length_touch_of_find? {key : CodecKey} {codec other : Codec}
    (h : recency.find? key = some other) :
    (recency.touch key codec).entries.length ≤ recency.entries.length := by
  obtain ⟨before, behind, hentries, _⟩ := List.lookup_eq_some_iff.1 h
  refine List.length_filter_lt_length_iff_exists.2 ⟨(key, other), ?_, by simp⟩
  rw [hentries]
  exact List.mem_append_right _ List.mem_cons_self

lemma length_touch_le (recency : Recency) (key : CodecKey) (codec : Codec) :
    (recency.touch key codec).entries.length ≤ recency.entries.length + 1 :=
  Nat.succ_le_succ (List.length_filter_le _ _)

/-- No use makes the list too long. -/
lemma length_after_le (hpos : 1 ≤ recency.capacity)
    (h : recency.entries.length ≤ recency.capacity) (use : Cache.Use) :
    (recency.after use).entries.length ≤ recency.capacity := by
  cases use with
  | find key =>
    simp only [after]
    split
    · rename_i codec hfind
      exact Nat.le_trans (length_touch_of_find? hfind) h
    · exact h
  | put key codec =>
    simp only [after]
    split
    · refine Nat.le_trans (length_touch_le _ key codec) ?_
      rw [dropLast, List.length_dropLast]
      omega
    · rename_i hroom
      cases hfind : recency.find? key with
      | some other => exact Nat.le_trans (length_touch_of_find? hfind) h
      | none =>
        have hlt : ¬ recency.capacity ≤ recency.entries.length := by
          simpa [isFullFor, hfind] using hroom
        exact Nat.le_trans (length_touch_le _ key codec) (Nat.lt_of_not_le hlt)
  | invalidate query => exact Nat.le_trans (List.length_filter_le _ _) h
  | clear => exact Nat.zero_le _
  | wait ticks => exact h

lemma length_afterAll_le (hpos : 1 ≤ recency.capacity)
    (h : recency.entries.length ≤ recency.capacity) (uses : List Cache.Use) :
    (recency.afterAll uses).entries.length ≤ recency.capacity := by
  induction uses generalizing recency with
  | nil => exact h
  | cons use uses ih =>
    have hcapacity := capacity_after recency use
    rw [← hcapacity] at hpos ⊢
    refine ih hpos ?_
    rw [hcapacity]
    exact length_after_le (hcapacity ▸ hpos) h use

end Recency

namespace Cache

/-! ## The earliest time -/

lemma mem_of_oldest? {entries : List (CodecKey × CachedCodec)} {entry : CodecKey × CachedCodec}
    (h : oldest? entries = some entry) : entry ∈ entries := by
  induction entries generalizing entry with
  | nil => cases h
  | cons first rest ih =>
    simp only [oldest?] at h
    split at h
    · cases h
      exact List.mem_cons_self
    · rename_i other hother
      cases h
      rw [earlier]
      split
      · exact List.mem_cons_of_mem _ (ih hother)
      · exact List.mem_cons_self

lemma oldest?_eq_none {entries : List (CodecKey × CachedCodec)} :
    oldest? entries = none ↔ entries = [] := by
  cases entries with
  | nil => simp [oldest?]
  | cons first rest =>
    simp only [oldest?]
    split <;> simp

/-- No codec was used earlier than the oldest. -/
lemma lastUse_le_of_oldest? {entries : List (CodecKey × CachedCodec)}
    {entry : CodecKey × CachedCodec} (h : oldest? entries = some entry) :
    ∀ other ∈ entries, entry.2.lastUse ≤ other.2.lastUse := by
  induction entries generalizing entry with
  | nil => cases h
  | cons first rest ih =>
    simp only [oldest?] at h
    split at h
    · rename_i hnone
      cases h
      rw [oldest?_eq_none.1 hnone]
      simp
    · rename_i other hother
      cases h
      refine List.forall_mem_cons.2 ⟨?_, fun next hnext => Nat.le_trans ?_ (ih hother next hnext)⟩
      all_goals
        rw [earlier]
        split <;> omega

/-- **The earliest time** stands at the end of a list that is ordered by the times, in whatever
order the search goes through the entries. -/
lemma oldest?_eq_getLast? {entries timed : List (CodecKey × CachedCodec)}
    (hperm : timed.Perm entries)
    (hsorted : timed.Pairwise fun newer older => older.2.lastUse < newer.2.lastUse) :
    oldest? entries = timed.getLast? := by
  rcases List.eq_nil_or_concat timed with rfl | ⟨newer, last, rfl⟩
  · rw [← hperm.nil_eq]
    rfl
  · rw [List.concat_eq_append] at hperm hsorted ⊢
    rw [List.getLast?_append, List.getLast?_singleton, Option.some_or]
    have hlast : last ∈ entries := hperm.subset (by simp)
    cases holdest : oldest? entries with
    | none =>
      rw [oldest?_eq_none.1 holdest] at hlast
      cases hlast
    | some entry =>
      have hmem : entry ∈ newer ++ [last] := hperm.symm.subset (mem_of_oldest? holdest)
      rcases List.mem_append.1 hmem with hnewer | hequal
      · have hlt := (List.pairwise_append.1 hsorted).2.2 entry hnewer last List.mem_cons_self
        exact absurd (lastUse_le_of_oldest? holdest last hlast) (Nat.not_le_of_lt hlt)
      · rw [List.mem_singleton.1 hequal]

/-! ## Cache and list -/

/-- A codec under its key, without the time. -/
def untimed (entry : CodecKey × CachedCodec) : CodecKey × Codec := (entry.1, entry.2.codec)

/-- A cache keeps the codecs of a list, and their last uses are in the order of the list. -/
structure Follows (cache : Cache) (recency : Recency) : Prop where
  capacity : cache.capacity = recency.capacity
  entries : ∃ timed : List (CodecKey × CachedCodec),
    timed.Perm cache.codecs.entries
      ∧ (timed.Pairwise fun newer older => older.2.lastUse < newer.2.lastUse)
      ∧ (∀ entry ∈ timed, entry.2.lastUse < cache.time)
      ∧ timed.map untimed = recency.entries

variable {cache : Cache} {recency : Recency}

lemma lookup_map_untimed (entries : List (CodecKey × CachedCodec)) (key : CodecKey) :
    (entries.map untimed).lookup key = (entries.lookup key).map CachedCodec.codec := by
  induction entries with
  | nil => rfl
  | cons entry entries ih =>
    obtain ⟨other, cached⟩ := entry
    rw [List.map_cons, untimed, List.lookup_cons, List.lookup_cons, ih]
    cases key == other <;> rfl

/-- The same codec is found under every key. -/
lemma Follows.get?_eq (h : cache.Follows recency) (key : CodecKey) :
    (cache.codecs.get? key).map CachedCodec.codec = recency.find? key := by
  obtain ⟨timed, hperm, _, _, hentries⟩ := h.entries
  rw [Recency.find?, ← hentries, lookup_map_untimed,
    Table.lookup_eq_of_perm hperm cache.codecs.distinct]
  rfl

lemma Follows.size_eq (h : cache.Follows recency) :
    cache.codecs.size = recency.entries.length := by
  obtain ⟨timed, hperm, _, _, hentries⟩ := h.entries
  rw [← hentries, List.length_map, hperm.length_eq]
  rfl

lemma Follows.isFullFor_eq (h : cache.Follows recency) (key : CodecKey) :
    cache.isFullFor key = recency.isFullFor key := by
  rw [isFullFor, Recency.isFullFor, h.capacity, h.size_eq, ← h.get?_eq, Option.isNone_map]

lemma follows_new (size : Nat) : (new size).Follows (.new size) where
  capacity := rfl
  entries := ⟨[], .nil, .nil, List.forall_mem_nil _, rfl⟩

/-! ### What the uses do -/

/-- Keys that fail a test are dropped from both. -/
lemma Follows.filter (h : cache.Follows recency) (keep : CodecKey → Bool) (cache' : Cache)
    (hcapacity : cache'.capacity = cache.capacity) (htime : cache'.time = cache.time)
    (hcodecs : cache'.codecs = cache.codecs.filterKeys keep) :
    cache'.Follows { recency with entries := recency.entries.filter fun entry => keep entry.1 } := by
  obtain ⟨timed, hperm, hsorted, hbefore, hentries⟩ := h.entries
  refine ⟨hcapacity.trans h.capacity, timed.filter fun entry => keep entry.1, ?_,
    hsorted.filter _, fun entry hentry => ?_, ?_⟩
  · rw [hcodecs]
    exact hperm.filter _
  · rw [htime]
    exact hbefore entry (List.mem_of_mem_filter hentry)
  · rw [← hentries, List.filter_map]
    rfl

/-- A codec that is used now goes to the front. -/
lemma Follows.store (h : cache.Follows recency) (key : CodecKey) (codec : Codec) :
    (cache.store key codec).Follows (recency.touch key codec) := by
  obtain ⟨timed, hperm, hsorted, hbefore, hentries⟩ := h.entries
  have hrest : ∀ entry ∈ timed.filter fun entry => entry.1 ≠ key, entry.2.lastUse < cache.time :=
    fun entry hentry => hbefore entry (List.mem_of_mem_filter hentry)
  refine ⟨h.capacity, (key, ⟨codec, cache.time⟩) :: timed.filter fun entry => entry.1 ≠ key,
    (hperm.filter _).cons _, .cons hrest (hsorted.filter _), ?_, ?_⟩
  · exact List.forall_mem_cons.2 ⟨Nat.lt_succ_self _,
      fun entry hentry => Nat.lt_succ_of_lt (hrest entry hentry)⟩
  · rw [Recency.touch, ← hentries, List.filter_map]
    rfl

/-- The codec that was used the longest time ago is the last one. -/
lemma Follows.evict (h : cache.Follows recency) : cache.evict.Follows recency.dropLast := by
  obtain ⟨timed, hperm, hsorted, hbefore, hentries⟩ := h.entries
  have holdest := oldest?_eq_getLast? hperm hsorted
  rcases List.eq_nil_or_concat timed with rfl | ⟨newer, last, rfl⟩
  · have hnil : recency.entries = [] := hentries.symm
    rw [Cache.evict, holdest, Recency.dropLast, hnil]
    exact ⟨h.capacity, [], hperm, hsorted, hbefore, rfl⟩
  · rw [List.concat_eq_append] at *
    have hevict : cache.evict
        = { cache with
            codecs := cache.codecs.erase last.1
            evictions := cache.evictions + 1 } := by
      rw [Cache.evict, holdest, List.getLast?_append, List.getLast?_singleton]
      rfl
    have hfilter := h.filter (fun key => key ≠ last.1) cache.evict
      (by rw [hevict]) (by rw [hevict]) (by rw [hevict]; rfl)
    -- no other codec stands under the key of the last one
    have hothers : ∀ entry ∈ newer.map untimed, decide (entry.1 ≠ last.1) = true := by
      have hdistinct := (hperm.map Prod.fst).nodup_iff.2 cache.codecs.distinct
      rw [List.map_append, List.nodup_append] at hdistinct
      intro entry hentry
      obtain ⟨timed, htimed, rfl⟩ := List.mem_map.1 hentry
      exact decide_eq_true (hdistinct.2.2 _ (List.mem_map_of_mem htimed) _ (by simp))
    have hdrop : (recency.entries.filter fun entry => decide (entry.1 ≠ last.1))
        = recency.entries.dropLast := by
      rw [← hentries, List.map_append, List.map_singleton, List.dropLast_concat,
        List.filter_append, List.filter_eq_self.2 hothers]
      simp [untimed]
    rw [Recency.dropLast, ← hdrop]
    exact hfilter

/-- **Every use** keeps cache and list together. -/
theorem Follows.after (h : cache.Follows recency) (use : Use) :
    (cache.after use).Follows (recency.after use) := by
  cases use with
  | find key =>
    have hfind := h.get?_eq key
    simp only [Cache.after, Recency.after, findCodec]
    cases hcached : cache.codecs.get? key with
    | none =>
      rw [hcached] at hfind
      rw [← hfind]
      exact ⟨h.capacity, h.entries⟩
    | some cached =>
      rw [hcached] at hfind
      rw [← hfind]
      have hstore := h.store key cached.codec
      exact ⟨hstore.capacity, hstore.entries⟩
  | put key codec =>
    simp only [Cache.after, Recency.after, putCodec, h.isFullFor_eq]
    split
    · exact h.evict.store key codec
    · exact h.store key codec
  | invalidate query => exact h.filter (fun key => key.query ≠ query) _ rfl rfl rfl
  | clear => exact ⟨h.capacity, [], .nil, .nil, List.forall_mem_nil _, rfl⟩
  | wait ticks =>
    obtain ⟨timed, hperm, hsorted, hbefore, hentries⟩ := h.entries
    exact ⟨h.capacity, timed, hperm, hsorted,
      fun entry hentry => Nat.lt_add_right ticks (hbefore entry hentry), hentries⟩

/-- Both sides find the same. -/
lemma Follows.answer?_eq (h : cache.Follows recency) (use : Use) :
    cache.answer? use = recency.answer? use := by
  cases use with
  | find key =>
    rw [answer?, Recency.answer?, ← h.get?_eq, findCodec]
    split
    · rename_i cached hcached
      rw [hcached]
      rfl
    · rename_i hnone
      rw [hnone]
      rfl
  | _ => rfl

/-! ### What is counted -/

/-- A lookup is counted by what it finds. -/
lemma lookups_after (cache : Cache) (use : Use) :
    (cache.after use).hits = cache.hits + (cache.answer? use).toList.countP Option.isSome
      ∧ (cache.after use).misses
        = cache.misses + (cache.answer? use).toList.countP Option.isNone := by
  cases use with
  | find key =>
    simp only [after, answer?, findCodec]
    split <;> exact ⟨rfl, rfl⟩
  | put key codec =>
    simp only [after, putCodec, evict]
    split
    · split <;> exact ⟨rfl, rfl⟩
    · exact ⟨rfl, rfl⟩
  | _ => exact ⟨rfl, rfl⟩

/-- A codec is forgotten for want of room when the list drops one. -/
lemma Follows.evictions_after (h : cache.Follows recency) (use : Use) :
    (cache.after use).evictions = cache.evictions + (recency.dropped? use).toList.length := by
  cases use with
  | find key =>
    simp only [Cache.after, findCodec]
    split <;> rfl
  | put key codec =>
    simp only [Cache.after, putCodec, Recency.dropped?, h.isFullFor_eq]
    split
    · obtain ⟨timed, hperm, hsorted, _, hentries⟩ := h.entries
      rw [← hentries, List.getLast?_map, Cache.evict, oldest?_eq_getLast? hperm hsorted]
      cases timed.getLast? <;> rfl
    · rfl
  | _ => rfl

/-! ### Sequences of uses -/

lemma Follows.afterAll (h : cache.Follows recency) (uses : List Use) :
    (cache.afterAll uses).Follows (recency.afterAll uses) := by
  induction uses generalizing cache recency with
  | nil => exact h
  | cons use uses ih => exact ih (h.after use)

lemma Follows.answers_eq (h : cache.Follows recency) (uses : List Use) :
    cache.answers uses = recency.answers uses := by
  induction uses generalizing cache recency with
  | nil => rfl
  | cons use uses ih => rw [answers, Recency.answers, h.answer?_eq use, ih (h.after use)]

lemma lookups_afterAll (cache : Cache) (uses : List Use) :
    (cache.afterAll uses).hits = cache.hits + (cache.answers uses).countP Option.isSome
      ∧ (cache.afterAll uses).misses
        = cache.misses + (cache.answers uses).countP Option.isNone := by
  induction uses generalizing cache with
  | nil => exact ⟨rfl, rfl⟩
  | cons use uses ih =>
    obtain ⟨hhits, hmisses⟩ := ih (cache.after use)
    obtain ⟨hhit, hmiss⟩ := lookups_after cache use
    rw [hhit, Nat.add_assoc, ← List.countP_append] at hhits
    rw [hmiss, Nat.add_assoc, ← List.countP_append] at hmisses
    exact ⟨hhits, hmisses⟩

lemma Follows.evictions_afterAll (h : cache.Follows recency) (uses : List Use) :
    (cache.afterAll uses).evictions = cache.evictions + (recency.drops uses).length := by
  induction uses generalizing cache recency with
  | nil => rfl
  | cons use uses ih =>
    have htail := ih (h.after use)
    rw [h.evictions_after, Nat.add_assoc, ← List.length_append] at htail
    exact htail

/-- **A cache of any size, after any uses,** keeps exactly the codecs of the list, whose order is
that of their last uses; there are never more than fit, the lookups found on both sides the same, and
what was found, missed and dropped is what was counted. -/
theorem follows_recency (size : Nat) (uses : List Use) :
    let cache := (new size).afterAll uses
    let recency := (Recency.new size).afterAll uses
    cache.Follows recency
      ∧ (∀ key, (cache.codecs.get? key).map CachedCodec.codec = recency.find? key)
      ∧ cache.codecs.size = recency.entries.length ∧ cache.codecs.size ≤ max size 1
      ∧ (new size).answers uses = (Recency.new size).answers uses
      ∧ cache.hits = ((new size).answers uses).countP Option.isSome
      ∧ cache.misses = ((new size).answers uses).countP Option.isNone
      ∧ cache.evictions = ((Recency.new size).drops uses).length := by
  intro cache recency
  have hnew := follows_new size
  have hfollows : cache.Follows recency := hnew.afterAll uses
  have hlength : recency.entries.length ≤ (Recency.new size).capacity :=
    Recency.length_afterAll_le (Nat.le_max_right size 1) (Nat.zero_le _) uses
  obtain ⟨hhits, hmisses⟩ := lookups_afterAll (new size) uses
  have hevictions := hnew.evictions_afterAll uses
  exact ⟨hfollows, hfollows.get?_eq, hfollows.size_eq, hfollows.size_eq ▸ hlength,
    hnew.answers_eq uses, hhits.trans (Nat.zero_add _), hmisses.trans (Nat.zero_add _),
    hevictions.trans (Nat.zero_add _)⟩

end Cache

end QueryWire
