import QueryWire.Proofs.Connection.Raised
import QueryWire.Proofs.Session.Transparency

/-!
# What old types do to a query

A query whose destination and arguments fit the types that its statement has now may still meet
older ones in the cache.  Where the server is asked, they do no harm.  Where a codec is built from
them before anything is sent, and cannot be, the query fails; and so it will each time, as nothing
removes them.

* `Statement.isFit_of_rowsOutcome` — reading results never ends with an error about types.
* **`World.Reachable.isMisfit_iff_misleads`** — a query that fits fails with an error about types
  exactly when the cache misleads.
-/

namespace QueryWire

variable {σ : Type}

/-! ## Reading results -/

/-- What comes up with a response that is not a description is not an error about types. -/
lemma isFit_of_respond {decoder : Decoder} {shape : Shape} {rows rows' : Rows} {response : Response}
    {e : Error} (hplain : response.kind ≠ .commandDataDescription)
    (h : (Flow.rowsReply decoder shape).respond rows response = (rows', some e)) : e.IsFit := by
  cases response with
  | description cardinality types => exact absurd rfl hplain
  | data payload =>
    simp only [Handler.respond, Flow.rowsReply, Prod.mk.injEq] at h
    exact (Destination.isOfValue_of_accept h.2).isFit
  | prepareComplete cardinality inputId outputId => cases h; exact id
  | error cause => cases h; exact id
  | commandComplete status => cases h
  | ready state => cases h
  | log severity code text => cases h
  | parameter name value => cases h

lemma isFit_of_readBody {limit : Nat} {decoder : Decoder} {shape : Shape} {closing : Message}
    {rows' : Rows} {e : Error} (body : List Message)
    (hplain : ∀ response ∈ body.map Message.response, response.kind ≠ .commandDataDescription)
    (rows : Rows) (held : Option Error) (hheld : ∀ e, held = some e → e.IsFit)
    (h : Answer.readBody limit (Flow.rowsReply decoder shape) closing rows held body
      = (rows', .error (.failed e))) : e.IsFit := by
  induction body generalizing rows held with
  | nil =>
    simp only [Answer.readBody] at h
    split at h
    · cases h
      exact id
    · cases held with
      | none => cases h
      | some e' => cases h; exact hheld e rfl
  | cons message rest ih =>
    have hrest : ∀ response ∈ rest.map Message.response, response.kind ≠ .commandDataDescription :=
      fun response hmem => hplain response (List.mem_cons_of_mem _ hmem)
    simp only [Answer.readBody] at h
    split at h
    · cases h
      exact id
    · rcases hvalue : (Flow.rowsReply decoder shape).respond rows message.response
        with ⟨value, e' | e'⟩
      · rw [hvalue] at h
        exact ih hrest value held hheld h
      · have hfit := isFit_of_respond (hplain _ List.mem_cons_self) hvalue
        rw [hvalue] at h
        dsimp only at h
        split at h
        · cases h
          exact hfit
        · refine ih hrest value _ (fun e'' he => ?_) h
          cases held with
          | none => cases he; exact hfit
          | some e => exact hheld e'' he

/-- Running a statement never ends with an error about types. -/
lemma Statement.isFit_of_rowsOutcome {statement : Statement} {limit : Nat} {query : Query}
    {decoder : Decoder} {shape : Shape} {destination : Destination} {arguments : Bytes} {e : Error}
    (h : (statement.rowsOutcome limit query decoder shape destination arguments).1
      = .error (.failed e)) : e.IsFit := by
  simp only [rowsOutcome] at h
  split at h
  · rename_i hread
    cases h
    exact isFit_of_readBody _ (statement.reply_plain arguments) _ none (fun _ he => by cases he)
      hread
  · split at h
    · cases h
      exact id
    · cases h

/-! ## Queries that fit -/

section

variable {peer : Peer σ} {catalog : Catalog σ} {compiled : σ → Option Statement}

/-- **Old types in the cache.**  A query whose destination and arguments fit the types that the
statement has now fails with an error about types exactly when the connection is usable, the cache
has no codec for it, and none can be built from the types that the cache has for the statement;
and then nothing is sent. -/
theorem World.Reachable.isMisfit_iff_misleads (hserves : Serves peer catalog compiled)
    (hnames : Identifies catalog) {size : Nat} {world : World σ}
    (hreach : Reachable peer size world) {c : Connection σ} (hc : c ∈ world.connections)
    (query : Query) (type : RowType) (destination : Destination) {statement : Statement}
    (hstatement : catalog c.server query.toQueryKey = .ok statement) {pair : DescriptorPair}
    (hparse : DescriptorPair.parse statement.types = .ok pair) {codec : Codec}
    (hbuild : Codec.build pair type.shape = .ok codec) {arguments : Bytes}
    (hencode : codec.encoder.encodeArguments query.arguments = .ok arguments) (e : Error) :
    let called := (Session.mk c world.cache).run query type destination
    (called.outcome = .error (.failed e) ∧ e.IsMisfit
        ↔ c.isUsable = true ∧ world.cache.Misleads ⟨query.toQueryKey, type⟩ e)
      ∧ (world.cache.Misleads ⟨query.toQueryKey, type⟩ e →
        called.session.connection.sent = c.sent) := by
  have hgood := hreach.good hserves hnames
  have hfresh := hgood.fresh c hc
  intro called
  cases husable : c.isUsable with
  | false =>
    obtain ⟨reason, c', hbegin, _, _, hsame⟩ := Connection.begin_of_not_isUsable husable
    have houtcome : called.outcome = .error (.failed (.connectionUnusable reason)) := by
      simp only [called, Session.run, hbegin]
    have hsent : called.session.connection.sent = c.sent := by
      simp only [called, Session.run, hbegin]
      exact hsame
    refine ⟨⟨?_, fun h => by cases h.1⟩, fun _ => hsent⟩
    rintro ⟨h, hmisfit⟩
    rw [houtcome] at h
    cases h
    exact hmisfit.elim
  | true =>
    obtain ⟨_, hcases⟩ := Session.run_cases hserves hnames hfresh husable hgood.sound query type
      destination
    rcases hcases with ⟨e', hmisleads, houtcome, hsent⟩ | ⟨hclear, houtcome⟩
    · refine ⟨⟨?_, ?_⟩, fun _ => hsent⟩
      · rintro ⟨h, _⟩
        rw [houtcome] at h
        cases h
        exact ⟨rfl, hmisleads⟩
      · rintro ⟨_, h⟩
        obtain rfl := h.unique hmisleads
        obtain ⟨_, pair', _, hbuild'⟩ := h
        exact ⟨houtcome, Codec.isMisfit_of_build hbuild'⟩
    · refine ⟨⟨?_, fun h => absurd h.2 (hclear e)⟩, fun h => absurd h (hclear e)⟩
      rintro ⟨h, hmisfit⟩
      rw [hstatement] at houtcome
      dsimp only at houtcome
      rw [Flow.outcome_of_arguments hparse hbuild hencode] at houtcome
      rcases houtcome with ⟨houtcome, _⟩ | ⟨halt, houtcome, _, size, rfl⟩
      · exact absurd hmisfit (Statement.isFit_of_rowsOutcome (houtcome.symm.trans h))
      · rw [h] at houtcome
        cases houtcome
        exact hmisfit.elim

end

namespace Sample

/-- The session that was used for the number, after the statement came to have the text. -/
def stale : Session (Bool × Option Statement) :=
  ⟨{ warm.connection with server := (true, none) }, warm.cache⟩

/-- The types that the statement has by then. -/
def strPair : DescriptorPair := ⟨.empty, .baseScalar ScalarKind.str.id⟩

/-- The codec for a text. -/
def strCodec : Codec :=
  ⟨Descriptor.emptyTupleId, ScalarKind.str.id, .tuple Descriptor.emptyTupleId [],
    .scalar ScalarKind.str.id .str⟩

/-- The error of building a codec for a text from the types of a number. -/
def staleError : Error := .codecMismatch .result (.incompatible "std::int64" "String")

lemma reachable_stale : World.Reachable peer 1000 ⟨[stale.connection], stale.cache⟩ := by
  have hchange : World.Step peer ⟨[] ++ [warm.connection], warm.cache⟩
      ⟨[] ++ [stale.connection], stale.cache⟩ := World.Step.change (c := warm.connection) (true, none)
  exact reachable_warm.step hchange

/-- The one record of the types is read. -/
lemma record_str : Descriptor.record #[] 2 ScalarKind.str.id.toBytes
    = .ok (.baseScalar ScalarKind.str.id) [] := rfl

lemma parse_output : Descriptor.parse strTypes.output = .ok strPair.output := by
  simp only [Descriptor.parse]
  rw [show strTypes.output = 2 :: ScalarKind.str.id.toBytes from rfl, Descriptor.records]
  split
  · rename_i h
    rw [record_str] at h
    cases h
    rw [Descriptor.records]
    rfl
  · rename_i h
    rw [record_str] at h
    cases h

lemma parse_strTypes : DescriptorPair.parse strTypes = .ok strPair :=
  parse_eq_ok.2 ⟨parse_nil, parse_output, rfl, rfl⟩

theorem isMisfit_iff_misleads_stale :
    Serves peer (.ofVersions versions) Prod.snd ∧ Identifies (.ofVersions versions)
      ∧ World.Reachable peer 1000 ⟨[stale.connection], stale.cache⟩
      ∧ Catalog.ofVersions versions stale.connection.server (query "select x").toQueryKey
        = .ok (.constant strTypes [0x73, 0x65, 0x76, 0x65, 0x6E])
      ∧ DescriptorPair.parse strTypes = .ok strPair
      ∧ Codec.build strPair RowType.text.shape = .ok strCodec
      ∧ strCodec.encoder.encodeArguments (query "select x").arguments = .ok [0, 0, 0, 0]
      ∧ ((stale.run (query "select x") .text (.one RowType.text.shape.fresh)).outcome
            = .error (.failed staleError) ∧ staleError.IsMisfit
          ↔ stale.connection.isUsable = true
            ∧ stale.cache.Misleads ⟨(query "select x").toQueryKey, .text⟩ staleError) := by
  have hserves := serves_keeping versions scriptAnswer
  refine ⟨hserves, identifies, reachable_stale, rfl, parse_strTypes, rfl, rfl, ?_⟩
  exact (reachable_stale.isMisfit_iff_misleads hserves identifies List.mem_cons_self
    (query "select x") .text (.one RowType.text.shape.fresh) rfl parse_strTypes rfl rfl
    staleError).1

/-- The destination fits the text that the statement has now, and yet the query fails as the types
of the number do not; nothing is sent, and with an empty cache it succeeds. -/
theorem stale_types_fail :
    stale.connection.isUsable = true
      ∧ Catalog.ofVersions versions stale.connection.server (query "select x").toQueryKey
        = .ok (.constant strTypes [0x73, 0x65, 0x76, 0x65, 0x6E])
      ∧ DescriptorPair.parse strTypes = .ok strPair
      ∧ Codec.build strPair RowType.text.shape = .ok strCodec
      ∧ strCodec.encoder.encodeArguments (query "select x").arguments = .ok [0, 0, 0, 0]
      ∧ World.Reachable peer 1000 ⟨[stale.connection], stale.cache⟩
      ∧ (stale.run (query "select x") .text (.one RowType.text.shape.fresh)).outcome
        = .error (.failed staleError)
      ∧ staleError.IsMisfit
      ∧ (stale.run (query "select x") .text
          (.one RowType.text.shape.fresh)).session.connection.sent = stale.connection.sent
      ∧ ((Session.mk stale.connection (.new 1000)).run (query "select x") .text
          (.one RowType.text.shape.fresh)).outcome = .ok () := by
  exact ⟨by decide +kernel, rfl, parse_strTypes, rfl, rfl, reachable_stale, by decide +kernel,
    trivial, by decide +kernel, by decide +kernel⟩

end Sample

end QueryWire
