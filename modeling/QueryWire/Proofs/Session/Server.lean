import QueryWire.Proofs.Connection.Answer
import QueryWire.Query.Basic
import QueryWire.Wire.Writer

/-!
# Servers that keep statements

A server of this kind has, for every query, a statement with its types and its answers, or an error
that says there is none.  What it keeps may change at any time; what it compiled last it runs.

* `Statement`, `Refusal` — what a server has for a query.
* `Serves` — a peer that answers every request from what it keeps.
* `Identifies` — that a pair of identifiers never stands for two pairs of types.
* `Peer.keeping` — such a server, with versions of what it keeps.
* **`serves_keeping`** — it answers as it should.
* `Statement.constant` — a statement for such a server.
-/

namespace QueryWire

variable {σ ι : Type}

/-- The responses of an answer before the last. -/
def Answer.responses (answer : Answer) : List Response := answer.body.map Message.response

/-- All messages of an answer are short enough. -/
def Answer.Fits (answer : Answer) (limit : Nat) : Prop :=
  (∀ message ∈ answer.body, message.frame.size ≤ limit) ∧ answer.closing.frame.size ≤ limit

instance (answer : Answer) (limit : Nat) : Decidable (answer.Fits limit) :=
  inferInstanceAs (Decidable (_ ∧ _))

/-- A statement, as a server keeps it. -/
structure Statement where
  cardinality : Cardinality
  types : StatementTypes
  /-- What the server says when the statement is compiled. -/
  prepared : Answer
  prepared_eq :
    prepared.responses = [.prepareComplete cardinality types.inputId types.outputId]
  /-- What the server says when the statement is described. -/
  described : Answer
  described_eq : described.responses = [.description cardinality types]
  /-- What the server says when the statement is run: results, or an error, or whatever else is not
  a description. -/
  reply : (arguments : Bytes) → Answer
  reply_plain : ∀ arguments, ∀ response ∈ (reply arguments).responses,
    response.kind ≠ .commandDataDescription

/-- What a server says that has no statement for a query. -/
structure Refusal where
  cause : ServerError
  answer : Answer
  answer_eq : answer.responses = [.error cause]

/-- What a server has for each query, in each of its states. -/
abbrev Catalog (σ : Type) := σ → QueryKey → Except Refusal Statement

/-- The messages that tell of a statement are short enough. -/
def Statement.Fits (statement : Statement) (limit : Nat) : Prop :=
  statement.prepared.Fits limit ∧ statement.described.Fits limit

instance (statement : Statement) (limit : Nat) : Decidable (statement.Fits limit) :=
  inferInstanceAs (Decidable (_ ∧ _))

/-! ## What a server answers -/

/-- A request is answered, in whatever pieces, and leaves the server in a state. -/
def Peer.Answers (peer : Peer σ) (s : σ) (request : Request) (answer : Answer) (s' : σ) : Prop :=
  ∃ arrivals, peer.answer s request = (.accept arrivals, s') ∧ Delivers arrivals answer.bytes

/-- The request to compile the statement of a query. -/
def QueryKey.prepareRequest (query : QueryKey) : Request :=
  .prepare query.headers query.format query.cardinality query.command

/-- The request to run the statement of a query if its types are under these identifiers. -/
def QueryKey.optimisticRequest (query : QueryKey) (ids : Uuid × Uuid) (arguments : Bytes) :
    Request :=
  .optimisticExecute query.headers query.format query.cardinality query.command ids.1 ids.2
    arguments

/-- The identifiers that are declared for types. -/
def StatementTypes.ids (types : StatementTypes) : Uuid × Uuid := (types.inputId, types.outputId)

/-- A peer that answers from what it keeps: `catalog` is that, and `compiled` the statement that it
compiled last.  Nothing is said of what a request does to the catalog. -/
structure Serves (peer : Peer σ) (catalog : Catalog σ) (compiled : σ → Option Statement) :
    Prop where
  prepare : ∀ s query statement, catalog s query = .ok statement →
    ∃ s', peer.Answers s query.prepareRequest statement.prepared s' ∧ compiled s' = some statement
  prepare_refused : ∀ s query refusal, catalog s query = .error refusal →
    ∃ s', peer.Answers s query.prepareRequest refusal.answer s'
  describe : ∀ s headers statement, compiled s = some statement →
    ∃ s', peer.Answers s (.describeStatement headers) statement.described s'
      ∧ compiled s' = some statement
  execute : ∀ s headers arguments statement, compiled s = some statement →
    ∃ s', peer.Answers s (.execute headers arguments) (statement.reply arguments) s'
  /-- The statement runs at once when its types are those that the request names. -/
  optimistic : ∀ s query ids arguments statement, catalog s query = .ok statement →
    statement.types.ids = ids →
    ∃ s', peer.Answers s (query.optimisticRequest ids arguments) (statement.reply arguments) s'
  /-- Otherwise it is compiled and described. -/
  optimistic_other : ∀ s query ids arguments statement, catalog s query = .ok statement →
    statement.types.ids ≠ ids →
    ∃ s', peer.Answers s (query.optimisticRequest ids arguments) statement.described s'
      ∧ compiled s' = some statement
  optimistic_refused : ∀ s query ids arguments refusal, catalog s query = .error refusal →
    ∃ s', peer.Answers s (query.optimisticRequest ids arguments) refusal.answer s'
  script : ∀ s headers text, ∃ answer s', peer.Answers s (.executeScript headers text) answer s'

/-! ## Identifiers and what they stand for -/

/-- The identifiers that types have once they are read: a stream without records is the empty
tuple, whatever identifier is declared for it. -/
def StatementTypes.rootIds (types : StatementTypes) : Uuid × Uuid :=
  (if types.input.isEmpty then Descriptor.emptyTupleId else types.inputId,
    if types.output.isEmpty then Descriptor.emptyTupleId else types.outputId)

/-- Types go by the identifiers that are declared for them, and by those that they have once they
are read. -/
def StatementTypes.GoesBy (types : StatementTypes) (ids : Uuid × Uuid) : Prop :=
  ids = types.ids ∨ ids = types.rootIds

/-- A pair of identifiers never stands for two pairs of types, in any states of the server. -/
def Identifies (catalog : Catalog σ) : Prop :=
  ∀ s query statement s' query' statement' ids,
    catalog s query = .ok statement → catalog s' query' = .ok statement' →
    statement.types.GoesBy ids → statement'.types.GoesBy ids →
    statement.types.input = statement'.types.input
      ∧ statement.types.output = statement'.types.output

/-- Types that some statement has in some state. -/
def Served (catalog : Catalog σ) (pair : DescriptorPair) : Prop :=
  ∃ s query statement, catalog s query = .ok statement
    ∧ DescriptorPair.parse statement.types = .ok pair

lemma checkRoot_eq_ok {side : Side} {declared : Uuid} {stream : Bytes} {type : Descriptor}
    {u : Unit} (h : Descriptor.checkRoot side declared stream type = .ok u)
    (hstream : stream.isEmpty = false) : type.id = declared := by
  simp only [Descriptor.checkRoot] at h
  split at h
  · cases h
  · rename_i hcond
    simpa [hstream] using hcond

/-- What it takes for types to be read. -/
lemma parse_eq_ok {types : StatementTypes} {pair : DescriptorPair} :
    DescriptorPair.parse types = .ok pair ↔
      Descriptor.parse types.input = .ok pair.input
        ∧ Descriptor.parse types.output = .ok pair.output
        ∧ Descriptor.checkRoot .argument types.inputId types.input pair.input = .ok ()
        ∧ Descriptor.checkRoot .result types.outputId types.output pair.output = .ok () := by
  simp only [DescriptorPair.parse]
  constructor
  · intro h
    cases hinput : Descriptor.parse types.input with
    | error e => simp [hinput, bind, Except.bind] at h
    | ok input =>
      cases houtput : Descriptor.parse types.output with
      | error e => simp [hinput, houtput, bind, Except.bind] at h
      | ok output =>
        cases hin : Descriptor.checkRoot .argument types.inputId types.input input with
        | error e => simp [hinput, houtput, hin, bind, Except.bind] at h
        | ok _ =>
          cases hout : Descriptor.checkRoot .result types.outputId types.output output with
          | error e => simp [hinput, houtput, hin, hout, bind, Except.bind] at h
          | ok _ =>
            simp only [hinput, houtput, hin, hout, bind, Except.bind, pure, Except.pure,
              Except.ok.injEq] at h
            subst h
            exact ⟨rfl, rfl, hin, hout⟩
  · rintro ⟨hinput, houtput, hin, hout⟩
    simp [hinput, houtput, hin, hout, bind, Except.bind, pure, Except.pure]

/-- The type of a stream without records is the empty tuple. -/
lemma parse_nil : Descriptor.parse [] = .ok .empty := by
  simp only [Descriptor.parse]
  rw [Descriptor.records]
  rfl

/-- Types that are read have their root identifiers. -/
lemma ids_of_parse {types : StatementTypes} {pair : DescriptorPair}
    (h : DescriptorPair.parse types = .ok pair) : pair.ids = types.rootIds := by
  obtain ⟨hinput, houtput, hin, hout⟩ := parse_eq_ok.1 h
  have hside (side : Side) (declared : Uuid) (stream : Bytes) (type : Descriptor)
      (hparse : Descriptor.parse stream = .ok type)
      (hcheck : Descriptor.checkRoot side declared stream type = .ok ()) :
      type.id = if stream.isEmpty then Descriptor.emptyTupleId else declared := by
    cases hempty : stream.isEmpty with
    | true =>
      rw [List.isEmpty_iff.1 hempty, parse_nil] at hparse
      cases hparse
      rfl
    | false =>
      rw [if_neg Bool.false_ne_true]
      exact checkRoot_eq_ok hcheck hempty
  exact Prod.ext (hside _ _ _ _ hinput hin) (hside _ _ _ _ houtput hout)

/-- **What identifiers stand for.**  A statement whose types are declared under the identifiers of
served types has these types. -/
theorem Identifies.parse_eq {catalog : Catalog σ} (hnames : Identifies catalog) {s : σ}
    {query : QueryKey} {statement : Statement} {pair : DescriptorPair} (hpair : Served catalog pair)
    (hstatement : catalog s query = .ok statement) (hids : statement.types.ids = pair.ids) :
    DescriptorPair.parse statement.types = .ok pair := by
  obtain ⟨s', query', statement', hstatement', hparse⟩ := hpair
  have hroot := ids_of_parse hparse
  obtain ⟨hin, hout⟩ := hnames s query statement s' query' statement' pair.ids hstatement
    hstatement' (.inl hids.symm) (.inr hroot)
  obtain ⟨hinput, houtput, hcheckIn, hcheckOut⟩ := parse_eq_ok.1 hparse
  have hidIn : statement.types.inputId = pair.input.id := congrArg Prod.fst hids
  have hidOut : statement.types.outputId = pair.output.id := congrArg Prod.snd hids
  refine parse_eq_ok.2 ⟨hin ▸ hinput, hout ▸ houtput, ?_, ?_⟩
  · simp [Descriptor.checkRoot, hidIn]
  · simp [Descriptor.checkRoot, hidOut]

/-! ## A server with versions -/

/-- A server that keeps versions of its statements: a state is the present version and the
statement that was compiled last.  A script has always the same answer. -/
def Peer.keeping (versions : ι → QueryKey → Except Refusal Statement) (scriptAnswer : Answer) :
    Peer (ι × Option Statement) where
  answer
    | (i, _), .prepare headers format cardinality command =>
      match versions i ⟨command, cardinality, format, headers⟩ with
      | .ok statement => (.accept [.bytes statement.prepared.bytes], (i, some statement))
      | .error refusal => (.accept [.bytes refusal.answer.bytes], (i, none))
    | (i, some statement), .describeStatement _ =>
      (.accept [.bytes statement.described.bytes], (i, some statement))
    | (i, some statement), .execute _ arguments =>
      (.accept [.bytes (statement.reply arguments).bytes], (i, some statement))
    | (i, _), .optimisticExecute headers format cardinality command inputId outputId arguments =>
      match versions i ⟨command, cardinality, format, headers⟩ with
      | .ok statement =>
        if statement.types.ids = (inputId, outputId) then
          (.accept [.bytes (statement.reply arguments).bytes], (i, some statement))
        else (.accept [.bytes statement.described.bytes], (i, some statement))
      | .error refusal => (.accept [.bytes refusal.answer.bytes], (i, none))
    | s, .executeScript _ _ => (.accept [.bytes scriptAnswer.bytes], s)
    | s, _ => (.stall, s)

/-- What such a server has for each query. -/
def Catalog.ofVersions (versions : ι → QueryKey → Except Refusal Statement) :
    Catalog (ι × Option Statement) := fun s => versions s.1

lemma Answer.delivers (answer : Answer) : Delivers [.bytes answer.bytes] answer.bytes := by
  obtain ⟨b, rest, h⟩ : ∃ b rest, answer.bytes = b :: rest := by
    simp only [Answer.bytes]
    cases answer.body with
    | nil => exact ⟨_, _, rfl⟩
    | cons message body => exact ⟨_, _, rfl⟩
  rw [h]
  simpa using Delivers.piece (b := b) .nil

/-- **A server with versions** answers every request from what it keeps. -/
theorem serves_keeping (versions : ι → QueryKey → Except Refusal Statement)
    (scriptAnswer : Answer) :
    Serves (Peer.keeping versions scriptAnswer) (.ofVersions versions) Prod.snd where
  prepare := by
    rintro ⟨i, last⟩ query statement h
    refine ⟨(i, some statement), ⟨_, ?_, statement.prepared.delivers⟩, rfl⟩
    change versions i query = _ at h
    simp only [Peer.keeping, QueryKey.prepareRequest, h]
  prepare_refused := by
    rintro ⟨i, last⟩ query refusal h
    refine ⟨(i, none), _, ?_, refusal.answer.delivers⟩
    change versions i query = _ at h
    simp only [Peer.keeping, QueryKey.prepareRequest, h]
  describe := by
    rintro ⟨i, last⟩ headers statement rfl
    exact ⟨(i, some statement), ⟨_, rfl, statement.described.delivers⟩, rfl⟩
  execute := by
    rintro ⟨i, last⟩ headers arguments statement rfl
    exact ⟨(i, some statement), _, rfl, (statement.reply arguments).delivers⟩
  optimistic := by
    rintro ⟨i, last⟩ query ids arguments statement h hids
    refine ⟨(i, some statement), _, ?_, (statement.reply arguments).delivers⟩
    change versions i query = _ at h
    simp only [Peer.keeping, QueryKey.optimisticRequest, h, hids, if_true]
  optimistic_other := by
    rintro ⟨i, last⟩ query ids arguments statement h hids
    refine ⟨(i, some statement), ⟨_, ?_, statement.described.delivers⟩, rfl⟩
    change versions i query = _ at h
    simp only [Peer.keeping, QueryKey.optimisticRequest, h, hids, if_false]
  optimistic_refused := by
    rintro ⟨i, last⟩ query ids arguments refusal h
    refine ⟨(i, none), _, ?_, refusal.answer.delivers⟩
    change versions i query = _ at h
    simp only [Peer.keeping, QueryKey.optimisticRequest, h]
  script := by
    rintro ⟨i, last⟩ headers text
    exact ⟨scriptAnswer, (i, last), _, rfl, scriptAnswer.delivers⟩

/-! ## Statements with one result

The frames are those of a server that sends no headers.
-/

/-- The message that the server is ready. -/
def Message.ready : Message := ⟨⟨0x5A, [0, 0, 0x49]⟩, .ready .notInTransaction, rfl, by decide⟩

lemma Message.response_ready : Message.ready.response = .ready .notInTransaction := rfl

/-- An answer with one message in front of the last. -/
def Answer.single (message : Message) (hopen : message.response.isReady = false) : Answer :=
  ⟨[message], .notInTransaction, .ready, Message.response_ready, by simpa using hopen⟩

namespace StatementTypes

/-- The message that a statement of these types was compiled. -/
def preparedFrame (types : StatementTypes) : Frame :=
  ⟨0x31, [0, 0, 0x6D] ++ types.inputId.toBytes ++ types.outputId.toBytes⟩

/-- The message that describes these types. -/
def describedFrame (types : StatementTypes) : Frame :=
  ⟨0x54, [0, 0, 0x6D] ++ types.inputId.toBytes ++ types.input.prefixed
    ++ types.outputId.toBytes ++ types.output.prefixed⟩

end StatementTypes

/-- The message with one result. -/
def Frame.ofPayload (payload : Bytes) : Frame := ⟨0x44, [0, 1] ++ payload.prefixed⟩

/-- A statement that has always the same result.  That its messages can be read is found out by
reading them. -/
def Statement.constant (types : StatementTypes) (payload : Bytes)
    (hprepared : Response.ofFrame types.preparedFrame
      = .ok (.prepareComplete .many types.inputId types.outputId) := by rfl)
    (hdescribed : Response.ofFrame types.describedFrame = .ok (.description .many types) := by rfl)
    (hpayload : Response.ofFrame (.ofPayload payload) = .ok (.data payload) := by rfl)
    (hsizes : types.preparedFrame.size < BigEndian.size 4
      ∧ types.describedFrame.size < BigEndian.size 4
      ∧ (Frame.ofPayload payload).size < BigEndian.size 4 := by decide) : Statement where
  cardinality := .many
  types := types
  prepared := .single ⟨types.preparedFrame, _, hprepared, hsizes.1⟩ rfl
  prepared_eq := rfl
  described := .single ⟨types.describedFrame, _, hdescribed, hsizes.2.1⟩ rfl
  described_eq := rfl
  reply _ := .single ⟨.ofPayload payload, _, hpayload, hsizes.2.2⟩ rfl
  reply_plain := by
    intro _ response hmem
    rw [List.mem_singleton.1 hmem]
    exact nofun

end QueryWire
