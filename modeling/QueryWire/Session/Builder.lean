import QueryWire.Session.Basic

/-!
# Connections that share a cache

A program sets up once what its connections have in common: the settings, and the cache.

* `Builder` — the settings, with a cache that is there already or none.
* `Builder.cache` — the cache of all connections.
* `Builder.connect` — one more connection.
-/

namespace QueryWire

/-- What connections have in common. -/
structure Builder where
  settings : Settings := .initial
  /-- A cache that others use already. -/
  shared? : Option Cache := none

namespace Builder

/-- The cache of all connections: the one that others use, or a new one of the size that is set. -/
def cache (builder : Builder) : Cache :=
  builder.shared?.getD (Cache.new builder.settings.codecCacheSize.toNat)

/-- One more connection, to a server in a given state; refused when the settings cannot be used. -/
def connect {σ : Type} (builder : Builder) (peer : Peer σ) (server : σ) :
    Except Error (Connection σ) :=
  Connection.connect builder.settings peer server

end Builder

end QueryWire
