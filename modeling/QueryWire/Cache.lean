import QueryWire.Codec.Build
import QueryWire.Query.Basic
import QueryWire.Table

/-!
# The cache

What is learned about statements is kept for later runs, by all connections that share a cache:
the types of each statement, and the codec for each destination type it was run with.  Of codecs
only so many are kept; when there is no room for a new one, the one goes that was asked for or
stored the longest time ago.

* `Cache.findCodec`, `Cache.putCodec` — codecs, with the time of their last use.
* `Cache.pairOf?`, `Cache.pairById?`, `Cache.putPair` — the types of statements.
* `Cache.invalidate`, `Cache.clear` — forgetting.
-/

namespace QueryWire

/-- A codec and when it was used last. -/
structure CachedCodec where
  codec : Codec
  lastUse : Nat

/-- What is known about statements. -/
structure Cache where
  /-- How many codecs are kept. -/
  capacity : Nat
  codecs : Table CodecKey CachedCodec := .empty
  /-- Types by their identifiers. -/
  pairs : Table (Uuid × Uuid) DescriptorPair := .empty
  /-- The types that each statement had when it was last described. -/
  queries : Table QueryKey DescriptorPair := .empty
  /-- The time, which advances with every use of a codec. -/
  time : Nat := 0
  hits : Nat := 0
  misses : Nat := 0
  evictions : Nat := 0

namespace Cache

/-- A cache without content that keeps at least one codec. -/
def new (size : Nat) : Cache := { capacity := max size 1 }

/-- How many codecs are kept when nobody says. -/
def defaultSize : Nat := 1000

/-! ## Codecs -/

/-- Of two codecs under their keys, the one that was used earlier. -/
def earlier (a b : CodecKey × CachedCodec) : CodecKey × CachedCodec :=
  if b.2.lastUse < a.2.lastUse then b else a

/-- The codec that was used the longest time ago. -/
def oldest? : List (CodecKey × CachedCodec) → Option (CodecKey × CachedCodec)
  | [] => none
  | entry :: rest =>
    match oldest? rest with
    | none => some entry
    | some other => some (earlier entry other)

/-- The cache without the codec that was used the longest time ago. -/
def evict (cache : Cache) : Cache :=
  match oldest? cache.codecs.entries with
  | none => cache
  | some (key, _) =>
    { cache with codecs := cache.codecs.erase key, evictions := cache.evictions + 1 }

/-- The cache with a codec under a key, used just now. -/
def store (cache : Cache) (key : CodecKey) (codec : Codec) : Cache :=
  { cache with codecs := cache.codecs.insert key ⟨codec, cache.time⟩, time := cache.time + 1 }

/-- Asks for a codec, which counts as a use of it. -/
def findCodec (cache : Cache) (key : CodecKey) : Option Codec × Cache :=
  match cache.codecs.get? key with
  | some cached => (some cached.codec, { cache.store key cached.codec with hits := cache.hits + 1 })
  | none => (none, { cache with misses := cache.misses + 1 })

/-- Whether a codec has to go before one under `key` can be stored. -/
def isFullFor (cache : Cache) (key : CodecKey) : Bool :=
  cache.capacity ≤ cache.codecs.size && (cache.codecs.get? key).isNone

/-- The cache with a codec. -/
def putCodec (cache : Cache) (key : CodecKey) (codec : Codec) : Cache :=
  (if cache.isFullFor key then cache.evict else cache).store key codec

/-! ## Types -/

/-- The types with given identifiers. -/
def pairById? (cache : Cache) (ids : Uuid × Uuid) : Option DescriptorPair := cache.pairs.get? ids

/-- The types that a statement had when it was last described. -/
def pairOf? (cache : Cache) (query : QueryKey) : Option DescriptorPair := cache.queries.get? query

/-- The cache with the types of a statement. -/
def putPair (cache : Cache) (query : QueryKey) (pair : DescriptorPair) : Cache :=
  { cache with
    pairs := cache.pairs.insert pair.ids pair
    queries := cache.queries.insert query pair }

/-! ## Forgetting -/

/-- The cache without the types and the codecs of a statement; types are still found by their
identifiers. -/
def invalidate (cache : Cache) (query : QueryKey) : Cache :=
  { cache with
    queries := cache.queries.erase query
    codecs := cache.codecs.filterKeys fun key => key.query ≠ query }

/-- The cache without content; what was counted stays counted. -/
def clear (cache : Cache) : Cache :=
  { cache with codecs := .empty, pairs := .empty, queries := .empty }

end Cache

end QueryWire
