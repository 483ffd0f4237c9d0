import QueryWire.Proofs.Session.Outcome
import QueryWire.Proofs.Session.Usability

/-!
# The cache does not show

Connections to servers of one kind share a cache, and calls follow each other in any order while
the servers change their statements.  A query that sends a request comes out as if the cache were
empty.

* `World`, `World.Step`, `World.Reachable` — connections with their cache, and what may happen.
* `World.Good` — what holds of every world that can be reached.
* `Session.run_cases` — what a query on a connection of such a world comes to.
* **`World.Reachable.run_eq_cold`** — the outcome, and on success the destination, are those of the
  same query with an empty cache.
* **`Sample.not_transparent`** — this fails when identifiers are only known as they are declared, and
  when a connection accepts only short messages.
-/

namespace QueryWire

variable {σ : Type}

/-! ## Worlds -/

/-- Connections that share a cache. -/
structure World (σ : Type) where
  connections : List (Connection σ)
  cache : Cache

namespace World

/-- What may happen: connections are made, calls run to their end, servers change, the cache
forgets. -/
inductive Step (peer : Peer σ) : World σ → World σ → Prop
  | connect {world : World σ} {settings : Settings} {server : σ} {c : Connection σ} :
      Connection.connect settings peer server = .ok c →
      Step peer world ⟨c :: world.connections, world.cache⟩
  | call {before after : List (Connection σ)} {c : Connection σ} {cache : Cache} (call : Call) :
      Step peer ⟨before ++ c :: after, cache⟩
        ⟨before ++ ((Session.mk c cache).perform call).1.connection :: after,
          ((Session.mk c cache).perform call).1.cache⟩
  | change {before after : List (Connection σ)} {c : Connection σ} {cache : Cache} (server : σ) :
      Step peer ⟨before ++ c :: after, cache⟩ ⟨before ++ { c with server } :: after, cache⟩
  | invalidate {world : World σ} (query : QueryKey) :
      Step peer world { world with cache := world.cache.invalidate query }
  | clear {world : World σ} : Step peer world { world with cache := world.cache.clear }

/-- What can come of a new cache of a given size. -/
inductive Reachable (peer : Peer σ) (size : Nat) : World σ → Prop
  | start : Reachable peer size ⟨[], .new size⟩
  | step {world world' : World σ} :
      Reachable peer size world → Step peer world world' → Reachable peer size world'

end World

/-- A connection to a peer, on which nothing is left to read when it is usable. -/
structure Connection.Fresh (peer : Peer σ) (c : Connection σ) : Prop where
  peer : c.peer = peer
  inbox : c.isUsable = true → c.inbox = .empty

/-- The cache is sound, and nothing is left to read on any connection. -/
structure World.Good (peer : Peer σ) (served : DescriptorPair → Prop) (world : World σ) : Prop where
  sound : world.cache.Sound served
  fresh : ∀ c ∈ world.connections, c.Fresh peer

/-! ## One call -/

namespace Connection

variable {peer : Peer σ} {c : Connection σ}

/-- After a call that settled, nothing is left to read on a usable connection. -/
lemma Settles.fresh_finish {outcome : Except Halt Unit} (h : c.Settles outcome)
    (hpeer : c.peer = peer) : (c.finish outcome).Fresh peer := by
  rcases h with ⟨e, rfl, hfatal⟩ | hquiet
  · have hunusable := isUsable_of_broken (broken_finish_of_isFatal (c := c) hfatal)
    obtain ⟨broken, log, heq⟩ := c.exists_finish_eq (.error (.failed e))
    exact ⟨by rw [heq]; exact hpeer, fun husable => by rw [hunusable] at husable; cases husable⟩
  · obtain ⟨broken, log, heq⟩ := c.exists_finish_eq outcome
    rw [heq]
    exact ⟨hpeer, fun _ => hquiet.2⟩

/-- On a new connection there is nothing to read. -/
lemma fresh_of_connect {settings : Settings} {server : σ}
    (h : connect settings peer server = .ok c) : c.Fresh peer := by
  simp only [connect, Settings.checked] at h
  split at h
  · cases h
  · cases h
    exact ⟨rfl, fun _ => rfl⟩

lemma quiet_of_fresh (h : c.Fresh peer) (husable : c.isUsable = true) : c.IsQuiet := by
  refine ⟨?_, h.inbox husable⟩
  simp only [isUsable, Bool.and_eq_true, Bool.not_eq_true'] at husable
  exact husable.2

end Connection

namespace Session

variable {peer : Peer σ} {catalog : Catalog σ} {compiled : σ → Option Statement}

/-- A query on a usable connection is the flow, then `finish`. -/
lemma run_of_isUsable (session : Session σ) (h : session.connection.isUsable = true)
    (query : Query) (type : RowType) (destination : Destination) :
    session.run query type destination
      = match Flow.run query type ⟨session.connection, session.cache, destination⟩ with
        | .ok () w => ⟨⟨w.connection, w.cache⟩, w.destination, .ok ()⟩
        | .error halt w =>
          ⟨⟨w.connection.finish (.error halt), w.cache⟩, w.destination, .error halt⟩ := by
  have hbegin := Connection.begin_of_isUsable h
  cases hflow : Flow.run query type ⟨session.connection, session.cache, destination⟩ <;>
    simp only [run, hbegin, hflow]

/-- The workspace of a query that begins on a usable connection. -/
lemma idle_start {c : Connection σ} {cache : Cache} {served : DescriptorPair → Prop}
    (hfresh : c.Fresh peer) (husable : c.isUsable = true) (hsound : cache.Sound served)
    (destination : Destination) :
    Workspace.Idle peer served c.limit destination ⟨c, cache, destination⟩ :=
  ⟨hfresh.peer, rfl, Connection.quiet_of_fresh hfresh husable, hsound, rfl⟩

/-- What a query on a usable connection comes to: the error of building a codec, before anything
was sent, or what ought to come out; and it leaves the session as it should. -/
theorem run_cases (hserves : Serves peer catalog compiled) (hnames : Identifies catalog)
    {c : Connection σ} {cache : Cache} (hfresh : c.Fresh peer) (husable : c.isUsable = true)
    (hsound : cache.Sound (Served catalog)) (query : Query) (type : RowType)
    (destination : Destination) :
    let called := (Session.mk c cache).run query type destination
    (called.session.connection.Fresh peer ∧ called.session.cache.Sound (Served catalog))
      ∧ ((∃ e, cache.Misleads ⟨query.toQueryKey, type⟩ e ∧ called.outcome = .error (.failed e)
          ∧ called.session.connection.sent = c.sent)
        ∨ (∀ e, ¬ cache.Misleads ⟨query.toQueryKey, type⟩ e)
          ∧ match catalog c.server query.toQueryKey with
            | .ok statement =>
              (called.outcome = (statement.outcome c.limit query type destination).1
                  ∧ (called.outcome = .ok () →
                    called.result = (statement.outcome c.limit query type destination).2))
                ∨ ∃ halt, called.outcome = .error halt ∧ statement.Oversized c.limit halt
            | .error refusal => called.outcome = refusal.outcome c.limit) := by
  have hidle := idle_start hfresh husable hsound destination
  by_cases hmisleads : ∃ e, cache.Misleads ⟨query.toQueryKey, type⟩ e
  · obtain ⟨e, hmisleads⟩ := hmisleads
    rw [run_of_isUsable ⟨c, cache⟩ husable, Flow.run_of_misleads query type (w := ⟨c, cache, destination⟩) hmisleads]
    have hquiet := Connection.quiet_of_fresh hfresh husable
    have hsettles : c.Settles (.error (.failed e)) := .inr hquiet
    refine ⟨⟨hsettles.fresh_finish hfresh.peer, hsound.findCodec _⟩, .inl ⟨e, hmisleads, rfl, ?_⟩⟩
    obtain ⟨broken, log, heq⟩ := c.exists_finish_eq (.error (.failed e))
    simp only [heq]
  · have hclear : ∀ e, ¬ cache.Misleads ⟨query.toQueryKey, type⟩ e := not_exists.1 hmisleads
    cases hcatalog : catalog c.server query.toQueryKey with
    | ok statement =>
      rcases run_of_ensures ⟨c, cache⟩ husable destination (Flow.ensures_run query type hserves
          (fun pair hpair => hnames.parse_eq hpair hcatalog)
          (fun pair hparse => ⟨_, _, _, hcatalog, hparse⟩)) ⟨⟨hidle, hcatalog⟩, hclear⟩
        with ⟨w, hrun, hleft, houtcome⟩ | ⟨halt, w, hrun, hleft, houtcome⟩
      · rw [hrun]
        refine ⟨⟨hleft.settles.fresh_finish hleft.peer, hleft.sound⟩, .inr ⟨hclear, .inl ?_⟩⟩
        rw [houtcome]
        exact ⟨rfl, fun _ => rfl⟩
      · rw [hrun]
        refine ⟨⟨hleft.settles.fresh_finish hleft.peer, hleft.sound⟩, .inr ⟨hclear, ?_⟩⟩
        rcases houtcome with houtcome | hoversized
        · exact .inl ⟨houtcome.symm, nofun⟩
        · exact .inr ⟨halt, rfl, hoversized⟩
    | error refusal =>
      rcases run_of_ensures ⟨c, cache⟩ husable destination
          (Flow.ensures_run_refused query type hserves) ⟨⟨hidle, hcatalog⟩, hclear⟩
        with ⟨w, _, himpossible⟩ | ⟨halt, w, hrun, hleft, houtcome⟩
      · exact himpossible.elim
      · rw [hrun]
        exact ⟨⟨hleft.settles.fresh_finish hleft.peer, hleft.sound⟩,
          .inr ⟨hclear, houtcome.symm⟩⟩

/-- A script leaves a connection as it should. -/
lemma fresh_execute (hserves : Serves peer catalog compiled) {c : Connection σ}
    (hfresh : c.Fresh peer) (husable : c.isUsable = true) (script : String) :
    (c.execute script).2.Fresh peer := by
  simp only [Connection.execute, Connection.begin_of_isUsable husable]
  obtain ⟨answer, s', arrivals, hanswer, hdelivers⟩ := hserves.script c.server
    c.settings.headers script
  have hquiet := Connection.quiet_of_fresh hfresh husable
  unfold Connection.cycle Connection.send
  rw [hfresh.peer, hanswer]
  refine Connection.Settles.fresh_finish
    (Connection.drain_answer Connection.scriptReply _ () answer ?_).2 ?_
  · rw [hquiet.2]
    exact Inbox.holds_deliver hdelivers
  · exact (Connection.agrees_drain Connection.scriptReply _ () none).peer.trans rfl

/-- So does a call that is refused, and it leaves the cache alone. -/
lemma fresh_refused {c : Connection σ} (hfresh : c.Fresh peer) (husable : c.isUsable = false)
    (cache : Cache) (call : Call) :
    ((Session.mk c cache).perform call).1.connection.Fresh peer
      ∧ ((Session.mk c cache).perform call).1.cache = cache := by
  obtain ⟨_, c', hbegin, husable', hpeer, _⟩ := Connection.begin_of_not_isUsable husable
  have hfresh' : c'.Fresh peer :=
    ⟨hpeer.trans hfresh.peer, fun h => by rw [husable'] at h; cases h⟩
  rw [perform_of_begin hbegin]
  exact ⟨hfresh', rfl⟩

/-- Any call leaves the session as it should. -/
lemma fresh_perform (hserves : Serves peer catalog compiled) (hnames : Identifies catalog)
    {c : Connection σ} {cache : Cache} (hfresh : c.Fresh peer)
    (hsound : cache.Sound (Served catalog)) (call : Call) :
    ((Session.mk c cache).perform call).1.connection.Fresh peer
      ∧ ((Session.mk c cache).perform call).1.cache.Sound (Served catalog) := by
  cases husable : c.isUsable with
  | true =>
    cases call with
    | run query type destination =>
      exact (run_cases hserves hnames hfresh husable hsound query type destination).1
    | execute script => exact ⟨fresh_execute hserves hfresh husable script, hsound⟩
  | false =>
    obtain ⟨hfresh', hcache⟩ := fresh_refused hfresh husable cache call
    refine ⟨hfresh', ?_⟩
    rw [hcache]
    exact hsound

end Session

/-! ## Any run of calls -/

namespace World

variable {peer : Peer σ} {catalog : Catalog σ} {compiled : σ → Option Statement}

/-- What holds of all connections still holds when one of them goes on. -/
lemma forall_mem_replace {P : Connection σ → Prop} {before after : List (Connection σ)}
    {c c' : Connection σ} (h : ∀ d ∈ before ++ c :: after, P d) (hc : P c') :
    ∀ d ∈ before ++ c' :: after, P d := by
  rw [List.forall_mem_append, List.forall_mem_cons] at h ⊢
  exact ⟨h.1, hc, h.2.2⟩

/-- A step of one connection. -/
lemma Good.replace {served : DescriptorPair → Prop} {before after : List (Connection σ)}
    {c c' : Connection σ} {cache cache' : Cache}
    (h : Good peer served ⟨before ++ c :: after, cache⟩) (hcache : cache'.Sound served)
    (hc : c'.Fresh peer) : Good peer served ⟨before ++ c' :: after, cache'⟩ :=
  ⟨hcache, forall_mem_replace h.fresh hc⟩

/-- Whatever happens, the cache stays sound and nothing is left to read. -/
lemma Step.good (hserves : Serves peer catalog compiled) (hnames : Identifies catalog)
    {world world' : World σ} (hstep : Step peer world world')
    (h : world.Good peer (Served catalog)) : world'.Good peer (Served catalog) := by
  cases hstep with
  | connect hconnect =>
    refine ⟨h.sound, fun d hd => ?_⟩
    rcases List.mem_cons.1 hd with rfl | hmem
    · exact Connection.fresh_of_connect hconnect
    · exact h.fresh d hmem
  | @call before after c cache call =>
    have hc := h.fresh c (List.mem_append_right _ List.mem_cons_self)
    obtain ⟨hfresh, hsound⟩ := Session.fresh_perform hserves hnames hc h.sound call
    exact h.replace hsound hfresh
  | @change before after c cache server =>
    have hc := h.fresh c (List.mem_append_right _ List.mem_cons_self)
    exact h.replace h.sound ⟨hc.peer, hc.inbox⟩
  | invalidate query => exact ⟨h.sound.invalidate query, h.fresh⟩
  | clear => exact ⟨Cache.Sound.clear, h.fresh⟩

/-- Every world that can be reached is good. -/
theorem Reachable.good (hserves : Serves peer catalog compiled) (hnames : Identifies catalog)
    {size : Nat} {world : World σ} (h : Reachable peer size world) :
    world.Good peer (Served catalog) := by
  induction h with
  | start => exact ⟨Cache.sound_new size, nofun⟩
  | step _ hstep ih => exact hstep.good hserves hnames ih

/-- **The cache does not show.**  In a world that can be reached, a query that sends a request has
the outcome of the same query with an empty cache, and on success the same is in the destination. -/
theorem Reachable.run_eq_cold (hserves : Serves peer catalog compiled) (hnames : Identifies catalog)
    {size : Nat} {world : World σ} (hreach : Reachable peer size world) {c : Connection σ}
    (hc : c ∈ world.connections) (query : Query) (type : RowType) (destination : Destination)
    (coldSize : Nat)
    (hfits : ∀ statement, catalog c.server query.toQueryKey = .ok statement →
      statement.Fits c.limit)
    (hsent : ((Session.mk c world.cache).run query type destination).session.connection.sent
      ≠ c.sent) :
    let warm := (Session.mk c world.cache).run query type destination
    let cold := (Session.mk c (.new coldSize)).run query type destination
    warm.outcome = cold.outcome ∧ (warm.outcome = .ok () → warm.result = cold.result) := by
  have hgood := hreach.good hserves hnames
  have hfresh := hgood.fresh c hc
  cases husable : c.isUsable with
  | false =>
    obtain ⟨_, c', hbegin, _, _, hsame⟩ := Connection.begin_of_not_isUsable husable
    simp only [Session.run, hbegin] at hsent
    exact absurd hsame hsent
  | true =>
    obtain ⟨_, hwarm⟩ := Session.run_cases hserves hnames hfresh husable hgood.sound query type
      destination
    obtain ⟨_, hcold⟩ := Session.run_cases hserves hnames hfresh husable
      (Cache.sound_new coldSize) query type destination
    rcases hwarm with ⟨e, _, _, hsame⟩ | ⟨_, hwarm⟩
    · exact absurd hsame hsent
    rcases hcold with ⟨e, ⟨_, pair, hpair, _⟩, _⟩ | ⟨_, hcold⟩
    · cases hpair
    intro warm cold
    cases hcatalog : catalog c.server query.toQueryKey with
    | error refusal =>
      rw [hcatalog] at hwarm hcold
      obtain ⟨halt, hhalt, _⟩ := refusal.read_answer c.limit Connection.scriptReply ()
      refine ⟨hwarm.trans hcold.symm, fun hok => ?_⟩
      rw [hwarm.trans hhalt] at hok
      cases hok
    | ok statement =>
      rw [hcatalog] at hwarm hcold
      rcases hwarm with ⟨hwarm, hwarmResult⟩ | ⟨_, _, hoversized, _⟩
      · rcases hcold with ⟨hcold, hcoldResult⟩ | ⟨_, _, hoversized, _⟩
        · have heq : warm.outcome = cold.outcome := hwarm.trans hcold.symm
          exact ⟨heq, fun hok => (hwarmResult hok).trans (hcoldResult (heq ▸ hok)).symm⟩
        · exact absurd (hfits statement hcatalog) hoversized
      · exact absurd (hfits statement hcatalog) hoversized

end World

/-! ## A server whose statement changes -/

namespace Sample

/-- No arguments, and a number for a result. -/
def int64Types : StatementTypes :=
  ⟨Descriptor.emptyTupleId, [], ScalarKind.int64.id, 2 :: ScalarKind.int64.id.toBytes⟩

/-- No arguments, and a text for a result. -/
def strTypes : StatementTypes :=
  ⟨Descriptor.emptyTupleId, [], ScalarKind.str.id, 2 :: ScalarKind.str.id.toBytes⟩

/-- The result is the number seven at first, and later the word. -/
def versions : Bool → QueryKey → Except Refusal Statement
  | false, _ => .ok (.constant int64Types [0, 0, 0, 0, 0, 0, 0, 7])
  | true, _ => .ok (.constant strTypes [0x73, 0x65, 0x76, 0x65, 0x6E])

/-- The answer to a script that does nothing. -/
def scriptAnswer : Answer :=
  ⟨[], .notInTransaction, .ready, Message.response_ready, fun _ h => absurd h List.not_mem_nil⟩

/-- The server. -/
def peer : Peer (Bool × Option Statement) := .keeping versions scriptAnswer

/-- A connection to it, with the longest message that it accepts. -/
def connection (maxMessageSize : UInt64) : Connection (Bool × Option Statement) :=
  { settings := { maxMessageSize }, peer, server := (false, none) }

/-- A query for at most one result. -/
def query (command : String) : Query := { command, cardinality := .atMostOne }

/-- A number for a destination. -/
def int64Row : RowType := ⟨"int64", .scalar .int64⟩

/-- A session after the query for a number. -/
def warm : Session (Bool × Option Statement) :=
  ((Session.mk (connection 16777216) (.new 1000)).perform
    (.run (query "select x") int64Row (.one int64Row.shape.fresh))).1

lemma identifies : Identifies (.ofVersions versions) := by
  rintro ⟨v, _⟩ q statement ⟨v', _⟩ q' statement' ids h h' hgoes hgoes'
  cases v <;> cases v' <;> cases h <;> cases h'
  case false.false => exact ⟨rfl, rfl⟩
  case true.true => exact ⟨rfl, rfl⟩
  all_goals
    exfalso
    rcases hgoes with rfl | rfl <;> rcases hgoes' with hgoes' | hgoes' <;> revert hgoes' <;> decide

lemma reachable_connect (maxMessageSize : UInt64)
    (h : Connection.connect { maxMessageSize } peer (false, none)
      = .ok (connection maxMessageSize)) {world : World (Bool × Option Statement)}
    (hreach : World.Reachable peer 1000 world) :
    World.Reachable peer 1000 ⟨connection maxMessageSize :: world.connections, world.cache⟩ :=
  hreach.step (.connect h)

lemma reachable_warm : World.Reachable peer 1000 ⟨[warm.connection], warm.cache⟩ := by
  have hconnect := reachable_connect 16777216 rfl .start
  have hcall : World.Step peer ⟨[] ++ [connection 16777216], .new 1000⟩
      ⟨[] ++ [warm.connection], warm.cache⟩ := .call _
  exact hconnect.step hcall

/-- The second query for the number comes out as the first. -/
theorem run_eq_cold_warm :
    Serves peer (.ofVersions versions) Prod.snd ∧ Identifies (.ofVersions versions)
      ∧ World.Reachable peer 1000 ⟨[warm.connection], warm.cache⟩
      ∧ (∀ statement, Catalog.ofVersions versions warm.connection.server
          (query "select x").toQueryKey = .ok statement → statement.Fits warm.connection.limit)
      ∧ (warm.run (query "select x") int64Row (.one int64Row.shape.fresh)).session.connection.sent
        ≠ warm.connection.sent
      ∧ (warm.run (query "select x") int64Row (.one int64Row.shape.fresh)).outcome
        = ((Session.mk warm.connection (.new 5)).run (query "select x") int64Row
          (.one int64Row.shape.fresh)).outcome := by
  have hfits : ∀ statement, Catalog.ofVersions versions warm.connection.server
      (query "select x").toQueryKey = .ok statement → statement.Fits warm.connection.limit := by
    have hlimit : warm.connection.limit = 16777216 := by decide +kernel
    have hserver : warm.connection.server.1 = false := by decide +kernel
    intro statement hstatement
    simp only [Catalog.ofVersions, hserver, versions, Except.ok.injEq] at hstatement
    subst hstatement
    rw [hlimit]
    decide
  have hsent : (warm.run (query "select x") int64Row
      (.one int64Row.shape.fresh)).session.connection.sent ≠ warm.connection.sent := by
    decide +kernel
  refine ⟨serves_keeping versions scriptAnswer, identifies, reachable_warm, hfits, hsent, ?_⟩
  exact (reachable_warm.run_eq_cold (serves_keeping versions scriptAnswer) identifies
    List.mem_cons_self (query "select x") int64Row (.one int64Row.shape.fresh) 5 hfits hsent).1

end Sample

/-! ## What the cache cannot hide

Identifiers must be taken for those that types have once they are read, and the messages about a
statement must be short enough; without either, the cache shows.
-/

/-- A pair of declared identifiers always stands for the same two streams. -/
def NamesStreams (catalog : Catalog σ) : Prop :=
  ∀ s query statement s' query' statement',
    catalog s query = .ok statement → catalog s' query' = .ok statement' →
    statement.types.ids = statement'.types.ids →
    statement.types.input = statement'.types.input
      ∧ statement.types.output = statement'.types.output

/-- The identifier of the empty tuple is declared for nothing else. -/
def NamesEmptyTuple (catalog : Catalog σ) : Prop :=
  ∀ s query statement, catalog s query = .ok statement →
    (statement.types.inputId = Descriptor.emptyTupleId →
        Descriptor.parse statement.types.input = .ok .empty)
      ∧ (statement.types.outputId = Descriptor.emptyTupleId →
        Descriptor.parse statement.types.output = .ok .empty)

/-- In no world that can be reached does the cache show. -/
def World.Transparent (peer : Peer σ) : Prop :=
  ∀ size world, World.Reachable peer size world → ∀ c ∈ world.connections,
    ∀ query type destination coldSize,
      ((Session.mk c world.cache).run query type destination).session.connection.sent ≠ c.sent →
      let warm := (Session.mk c world.cache).run query type destination
      let cold := (Session.mk c (.new coldSize)).run query type destination
      warm.outcome = cold.outcome ∧ (warm.outcome = .ok () → warm.result = cold.result)

namespace Sample

/-- The identifier under which both results are declared. -/
def resultId : Uuid := Uuid.ofNat 0xA000

/-- A number under the identifier of the result, and no arguments under an identifier of their
own. -/
def numberTypes : StatementTypes :=
  ⟨Uuid.ofNat 0xB000, [], resultId,
    2 :: ScalarKind.int64.id.toBytes ++ 3 :: resultId.toBytes ++ [0, 0]⟩

/-- A text under the identifier of the result, and no arguments. -/
def wordTypes : StatementTypes :=
  ⟨Descriptor.emptyTupleId, [], resultId,
    2 :: ScalarKind.str.id.toBytes ++ 3 :: resultId.toBytes ++ [0, 0]⟩

/-- One query for the number, all others for the text. -/
def aliased : Unit → QueryKey → Except Refusal Statement := fun _ query =>
  if query.command = "a" then .ok (.constant numberTypes [0, 0, 0, 0, 0, 0, 0, 7])
  else .ok (.constant wordTypes [0x73, 0x65, 0x76, 0x65, 0x6E])

/-- The server with both. -/
def aliasedPeer : Peer (Unit × Option Statement) := .keeping aliased scriptAnswer

/-- A connection to it. -/
def aliasedConnection : Connection (Unit × Option Statement) :=
  { settings := .initial, peer := aliasedPeer, server := ((), none) }

/-- A session after the query for the number. -/
def aliasedWarm : Session (Unit × Option Statement) :=
  ((Session.mk aliasedConnection (.new 1000)).perform
    (.run (query "a") int64Row (.one int64Row.shape.fresh))).1

lemma eq_of_aliased {s : Unit × Option Statement} {q : QueryKey} {statement : Statement}
    (h : Catalog.ofVersions aliased s q = .ok statement) :
    statement.types = numberTypes ∨ statement.types = wordTypes := by
  simp only [Catalog.ofVersions, aliased] at h
  split at h
  · cases h
    exact .inl rfl
  · cases h
    exact .inr rfl

lemma namesStreams_aliased : NamesStreams (.ofVersions aliased) := by
  intro s q statement s' q' statement' h h' hids
  rcases eq_of_aliased h with h | h <;> rcases eq_of_aliased h' with h' | h' <;>
    rw [h, h'] at hids ⊢
  case inl.inl => exact ⟨rfl, rfl⟩
  case inr.inr => exact ⟨rfl, rfl⟩
  all_goals exact absurd hids (by decide)

lemma namesEmptyTuple_aliased : NamesEmptyTuple (.ofVersions aliased) := by
  intro s q statement h
  rcases eq_of_aliased h with h | h <;> rw [h]
  all_goals
    exact ⟨fun _ => parse_nil, fun hid => absurd hid (by decide)⟩

lemma reachable_aliasedConnection :
    World.Reachable aliasedPeer 1000 ⟨[aliasedConnection], .new 1000⟩ :=
  World.Reachable.start.step
    (.connect (show Connection.connect .initial aliasedPeer ((), none) = .ok _ from rfl))

lemma reachable_aliasedWarm :
    World.Reachable aliasedPeer 1000 ⟨[aliasedWarm.connection], aliasedWarm.cache⟩ := by
  have hcall : World.Step aliasedPeer ⟨[] ++ [aliasedConnection], .new 1000⟩
      ⟨[] ++ [aliasedWarm.connection], aliasedWarm.cache⟩ := .call _
  exact reachable_aliasedConnection.step hcall

/-- **The cache shows** when a stream without records is declared under two identifiers, and when a
connection accepts only messages that are shorter than those about the statement. -/
theorem not_transparent :
    (Serves aliasedPeer (.ofVersions aliased) Prod.snd ∧ NamesStreams (.ofVersions aliased)
        ∧ NamesEmptyTuple (.ofVersions aliased) ∧ ¬ World.Transparent aliasedPeer)
      ∧ Serves peer (.ofVersions versions) Prod.snd ∧ Identifies (.ofVersions versions)
        ∧ ¬ World.Transparent peer := by
  refine ⟨⟨serves_keeping aliased scriptAnswer, namesStreams_aliased, namesEmptyTuple_aliased,
    fun h => ?_⟩, serves_keeping versions scriptAnswer, identifies, fun h => ?_⟩
  · have hsame := (h 1000 _ reachable_aliasedWarm _ List.mem_cons_self (query "b") .text
      (.one RowType.text.shape.fresh) 1 (by decide +kernel)).1
    revert hsame
    decide +kernel
  · have hsmall := reachable_connect 20 rfl reachable_warm
    have hsame := (h 1000 _ hsmall _ List.mem_cons_self (query "select x") int64Row
      (.one int64Row.shape.fresh) 1 (by decide +kernel)).1
    revert hsame
    decide +kernel

end Sample

end QueryWire
