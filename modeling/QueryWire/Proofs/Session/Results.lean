import QueryWire.Proofs.Session.History
import QueryWire.Proofs.Session.Server

/-!
# What a query does with its results

The results of a query are those of its last turn.  Into a list they go in the order in which they
came, each as a row of its own, and nothing stays of what was in the list before; into a single
destination they go one after the other.  That there is no result is an error only where one was
promised.

* `Turn.payloads` — the results that a turn brings.
* `Destination.acceptAll` — a destination after some results.
* `Reads.gathered` — what a cycle gathers.
* `Query.KeepsPolicy` — what a query promises about its results.
* `Session.Goes.payloads_eq_nil` — that no turn both describes the statement and brings results can
  be seen from the connection.
* **`Session.keepsPolicy_run`** — every query keeps it.
-/

namespace QueryWire

variable {σ : Type}

open Connection QueryWire.Flow

/-! ## Results and destinations -/

/-- The result that a response carries. -/
def Response.payload? : Response → Option Bytes
  | .data payload => some payload
  | _ => none

namespace Turn

/-- The results that a turn brings, in the order in which they come. -/
def payloads (t : Turn σ) : List Bytes := t.responses.filterMap Response.payload?

/-- The server described the types of a statement in place of running it. -/
def Redescribes (t : Turn σ) : Prop := t.kind = .optimisticExecute ∧ t.CarriesDescription

end Turn

namespace Decoder

/-- The row that is made of a result, if it can be decoded. -/
def row? (decoder : Decoder) (shape : Shape) (payload : Bytes) : Option Slot :=
  match (decoder.decode payload shape.fresh).result with
  | .ok _ => some (decoder.decode payload shape.fresh).contents
  | .error _ => none

/-- Results that are decoded into a slot, one after the other and without an error. -/
inductive Fills (decoder : Decoder) : List Bytes → Slot → Slot → Prop
  | nil {slot : Slot} : Fills decoder [] slot slot
  | cons {payload rest : Bytes} {payloads : List Bytes} {slot filled slot' : Slot} :
      decoder.decode payload slot = ⟨filled, .ok rest⟩ → Fills decoder payloads filled slot' →
      Fills decoder (payload :: payloads) slot slot'

end Decoder

namespace Destination

variable {decoder : Decoder} {shape : Shape}

/-- The destination after some results. -/
def acceptAll (decoder : Decoder) (shape : Shape) (payloads : List Bytes)
    (destination : Destination) : Destination :=
  payloads.foldl (fun destination payload => (destination.accept decoder shape payload).1)
    destination

/-- None of some results is refused. -/
inductive AcceptsAll (decoder : Decoder) (shape : Shape) : List Bytes → Destination → Prop
  | nil {destination : Destination} : AcceptsAll decoder shape [] destination
  | cons {payload : Bytes} {payloads : List Bytes} {destination : Destination} :
      (destination.accept decoder shape payload).2 = none →
      AcceptsAll decoder shape payloads (destination.accept decoder shape payload).1 →
      AcceptsAll decoder shape (payload :: payloads) destination

lemma accept_many (payload : Bytes) (rows : Array Slot) :
    ((many rows).accept decoder shape payload).1
      = many (rows ++ ((decoder.row? shape payload).toList).toArray) := by
  simp only [accept, Decoder.row?]
  split <;> simp_all

/-- A list has the rows of the results that can be decoded, behind those that it had. -/
lemma acceptAll_many (payloads : List Bytes) (rows : Array Slot) :
    (many rows).acceptAll decoder shape payloads
      = many (rows ++ (payloads.filterMap (decoder.row? shape)).toArray) := by
  induction payloads generalizing rows with
  | nil => simp [acceptAll]
  | cons payload payloads ih =>
    rw [acceptAll, List.foldl_cons, accept_many, ← acceptAll, ih]
    cases hrow : decoder.row? shape payload <;> simp [hrow]

/-- A result that a list does not refuse can be decoded. -/
lemma exists_row?_of_accept {payload : Bytes} {rows : Array Slot}
    (h : ((many rows).accept decoder shape payload).2 = none) :
    ∃ slot, decoder.row? shape payload = some slot := by
  simp only [accept] at h
  split at h
  · rename_i rest hresult
    refine ⟨(decoder.decode payload shape.fresh).contents, ?_⟩
    simp only [Decoder.row?, hresult]
  · cases h

/-- Where no result is refused each of them can be decoded. -/
lemma AcceptsAll.map_row? {payloads : List Bytes} {rows : Array Slot}
    (h : AcceptsAll decoder shape payloads (many rows)) :
    payloads.map (decoder.row? shape)
      = (payloads.filterMap (decoder.row? shape)).map some := by
  induction payloads generalizing rows with
  | nil => rfl
  | cons payload payloads ih =>
    cases h with
    | cons hnone h =>
      rw [accept_many] at h
      obtain ⟨slot, hslot⟩ := exists_row?_of_accept hnone
      rw [List.map_cons, ih h, List.filterMap_cons_some hslot, List.map_cons, hslot]

/-- Where no result is refused a single destination is filled with each of them. -/
lemma AcceptsAll.fills {payloads : List Bytes} {slot : Slot}
    (h : AcceptsAll decoder shape payloads (one slot)) :
    ∃ slot', (one slot).acceptAll decoder shape payloads = one slot'
      ∧ decoder.Fills payloads slot slot' := by
  induction payloads generalizing slot with
  | nil => exact ⟨slot, rfl, .nil⟩
  | cons payload payloads ih =>
    cases h with
    | cons hnone h =>
      rcases hdecode : decoder.decode payload slot with ⟨filled, e | rest⟩
      · simp only [accept, hdecode] at hnone
        cases hnone
      · have haccept : (one slot).accept decoder shape payload = (one filled, none) := by
          simp only [accept, hdecode]
        rw [haccept] at h
        obtain ⟨slot', hall, hfills⟩ := ih h
        refine ⟨slot', ?_, .cons hdecode hfills⟩
        rw [acceptAll, List.foldl_cons, haccept]
        exact hall

end Destination

/-! ## What a cycle gathers -/

namespace Connection

variable {decoder : Decoder} {shape : Shape}

/-- A response that carries no result leaves the count and the destination alone. -/
lemma respond_of_payload?_eq_none {rows rows' : Rows} {response : Response}
    {raised : Option Error} (hnone : response.payload? = none)
    (h : (rowsReply decoder shape).respond rows response = (rows', raised)) :
    rows'.received = rows.received ∧ rows'.destination = rows.destination := by
  obtain rfl := congrArg Prod.fst h
  cases response with
  | data payload => cases hnone
  | _ => exact ⟨rfl, rfl⟩

/-- What a cycle gathers: each result counts and goes into the destination, and if the cycle ends
without an error none was refused. -/
lemma Reads.gathered {c : Connection σ} {rows : Rows} {held : Option Error}
    {responses : List Response} {done : Cycle σ Rows}
    (h : c.Reads (rowsReply decoder shape) rows held responses done) :
    done.value.received = rows.received + (responses.filterMap Response.payload?).length
      ∧ done.value.destination
        = rows.destination.acceptAll decoder shape (responses.filterMap Response.payload?)
      ∧ (done.outcome = .ok () →
        Destination.AcceptsAll decoder shape (responses.filterMap Response.payload?)
          rows.destination) := by
  induction h with
  | halt h => exact ⟨rfl, rfl, fun hok => by cases hok⟩
  | ready h => exact ⟨rfl, rfl, fun _ => .nil⟩
  | @fatal c c' rows rows' held response e h _ hrespond _ =>
    cases hpayload : response.payload? with
    | none =>
      obtain ⟨hreceived, hdestination⟩ := respond_of_payload?_eq_none hpayload hrespond
      rw [List.filterMap_cons_none hpayload]
      exact ⟨hreceived, hdestination, fun hok => by cases hok⟩
    | some payload =>
      cases response with
      | data payload' =>
        obtain rfl := congrArg Prod.fst hrespond
        exact ⟨rfl, rfl, fun hok => by cases hok⟩
      | _ => cases hpayload
  | @go c c' rows rows' held raised response responses done h _ hrespond _ hreads ih =>
    obtain ⟨hreceived, hdestination, haccepts⟩ := ih
    cases hpayload : response.payload? with
    | none =>
      obtain ⟨hreceived', hdestination'⟩ := respond_of_payload?_eq_none hpayload hrespond
      rw [List.filterMap_cons_none hpayload, ← hreceived', ← hdestination']
      exact ⟨hreceived, hdestination, haccepts⟩
    | some payload =>
      cases response with
      | data payload' =>
        obtain rfl := congrArg Prod.fst hrespond
        obtain rfl := Option.some.inj hpayload
        rw [List.filterMap_cons_some hpayload, List.length_cons]
        refine ⟨?_, hdestination, fun hok => .cons ?_ (haccepts hok)⟩
        · rw [hreceived]
          simp only [Handler.respond, rowsReply]
          omega
        · have hnone : raised = none := (Option.or_eq_none_iff.1 (hreads.held_eq_none hok)).2
          exact (congrArg Prod.snd hrespond).trans hnone
      | _ => cases hpayload

end Connection

/-- What a turn gathers for a query. -/
lemma Turn.Heard.gathered {decoder : Decoder} {shape : Shape} {start : Destination} {rows : Rows}
    {t : Turn σ} (h : t.Heard (rowsReply decoder shape) (Rows.start start) rows) :
    rows.received = t.payloads.length
      ∧ rows.destination = start.cleared.acceptAll decoder shape t.payloads
      ∧ (t.outcome = .ok () →
        Destination.AcceptsAll decoder shape t.payloads start.cleared) := by
  cases h with
  | unsent hsend => exact ⟨rfl, rfl, fun _ => .nil⟩
  | sent hsend hreads =>
    obtain ⟨hreceived, hdestination, haccepts⟩ := hreads.gathered
    refine ⟨?_, hdestination, haccepts⟩
    rw [hreceived]
    exact Nat.zero_add _

/-! ## What a query promises -/

/-- The last of the turns of a query has its statement run, and its results are read with a codec:
the one that the query begins with, or the one that is built from the types of the statement. -/
def Query.RunsLast (cache : Cache) (query : Query) (type : RowType) (destination : Destination)
    (turns : List (Turn σ)) (t : Turn σ) (codec : Codec) : Prop :=
  ∃ past start rows, turns = past ++ [t]
    ∧ query.Gathers cache type destination past t codec start rows

/-- What a query promises about its results, by its turns. -/
structure Query.KeepsPolicy (cache : Cache) (query : Query) (type : RowType)
    (destination : Destination) (turns : List (Turn σ)) (result : Destination)
    (outcome : Except Halt Unit) : Prop where
  /-- A list has the results of the last turn, each as a row that was fresh, and nothing else. -/
  many : ∀ before, destination = .many before → outcome = .ok () →
    ∃ t codec rows, query.RunsLast cache type destination turns t codec ∧ result = .many rows
      ∧ t.payloads.map (codec.decoder.row? type.shape) = rows.toList.map some
  /-- A single destination was filled with the results of the last turn. -/
  one : ∀ slot, destination = .one slot → outcome = .ok () →
    ∃ t codec slot', query.RunsLast cache type destination turns t codec ∧ result = .one slot'
      ∧ codec.decoder.Fills t.payloads slot slot'
  /-- That there is no result is an error exactly where the cardinality is one or at most one, and
  the last turn had the statement run and was read to its end without an error, a result or a
  description. -/
  zeroResults : outcome = .error (.failed .zeroResults) ↔
    (query.cardinality = .one ∨ query.cardinality = .atMostOne)
      ∧ ∃ t, turns.getLast? = some t ∧ t.IsExecution ∧ t.outcome = .ok () ∧ t.payloads = []
        ∧ ¬ t.CarriesDescription
  /-- After an error a list is as it was, or has the results of the last turn that can be decoded. -/
  failed : ∀ before halt, destination = .many before → outcome = .error halt →
    result = .many before ∨ ∃ t codec, query.RunsLast cache type destination turns t codec
      ∧ result = .many (t.payloads.filterMap (codec.decoder.row? type.shape)).toArray

/-- A query without any result is an error for two of the cardinalities. -/
lemma Query.expectsOne_iff {query : Query} :
    query.expectsOne = true ↔ query.cardinality = .one ∨ query.cardinality = .atMostOne := by
  cases h : query.cardinality <;> simp [expectsOne, h]

/-- There was no result where one was promised. -/
lemma Rows.isMissing_eq_true {rows : Rows} {query : Query} : rows.isMissing query = true
    ↔ rows.described = none ∧ rows.received = 0
      ∧ (query.cardinality = .one ∨ query.cardinality = .atMostOne) := by
  rw [← Query.expectsOne_iff]
  simp [isMissing, and_assoc]

namespace Query

variable {cache : Cache} {query : Query} {type : RowType} {destination start result : Destination}
  {past turns : List (Turn σ)} {t : Turn σ} {codec : Codec} {rows : Rows}
  {outcome : Except Halt Unit}

lemma Gathers.isExecution (h : query.Gathers cache type destination past t codec start rows) :
    t.IsExecution := by
  cases h with
  | optimistic _ h => exact .inr h.kind_eq
  | redescribed _ _ _ _ _ h | known _ _ _ _ h | learned _ _ _ _ _ _ h => exact .inl h.kind_eq

/-- Before its results are read, the destination is as it was in the beginning, but for what an
earlier query had left in it. -/
lemma Gathers.start_cases (h : query.Gathers cache type destination past t codec start rows)
    (hquiet : ∀ t ∈ past, t.Redescribes → t.payloads = []) :
    start = destination ∨ start = destination.cleared := by
  cases h with
  | optimistic _ _ | known _ _ _ _ _ | learned _ _ _ _ _ _ _ => exact .inl rfl
  | @redescribed _ _ t₀ _ rows₀ _ pair _ hoptimistic _ hdescribed _ _ =>
    have hnone : t₀.payloads = [] := hquiet t₀ List.mem_cons_self
      ⟨hoptimistic.kind_eq, hoptimistic.carriesDescription hdescribed⟩
    right
    rw [hoptimistic.heard.gathered.2.1, hnone]
    rfl

/-- What the last turn leaves in the destination. -/
lemma Gathers.destination_eq (h : query.Gathers cache type destination past t codec start rows)
    (hquiet : ∀ t ∈ past, t.Redescribes → t.payloads = []) :
    rows.destination = destination.cleared.acceptAll codec.decoder type.shape t.payloads := by
  rw [h.heard.gathered.2.1]
  rcases h.start_cases hquiet with rfl | rfl
  · rfl
  · rw [Destination.cleared_cleared]

/-- In a last turn without an error no result is refused. -/
lemma Gathers.acceptsAll (h : query.Gathers cache type destination past t codec start rows)
    (hquiet : ∀ t ∈ past, t.Redescribes → t.payloads = []) (hok : t.outcome = .ok ()) :
    Destination.AcceptsAll codec.decoder type.shape t.payloads destination.cleared := by
  have haccepts := h.heard.gathered.2.2 hok
  rcases h.start_cases hquiet with rfl | rfl
  · exact haccepts
  · rwa [Destination.cleared_cleared] at haccepts

/-- A list has the results of the last turn that can be decoded. -/
lemma Gathers.many_eq {before : Array Slot}
    (h : query.Gathers cache type (.many before) past t codec start rows)
    (hquiet : ∀ t ∈ past, t.Redescribes → t.payloads = []) :
    rows.destination = .many (t.payloads.filterMap (codec.decoder.row? type.shape)).toArray := by
  rw [h.destination_eq hquiet, Destination.cleared, Destination.acceptAll_many, Array.empty_append]

/-- The last turn has the statement run. -/
lemma Gathers.runsLast (h : query.Gathers cache type destination past t codec start rows) :
    query.RunsLast cache type destination (past ++ [t]) t codec :=
  ⟨past, start, rows, rfl, h⟩

/-- The error that there is no result comes up exactly where one was promised. -/
lemma Ends.zeroResults_iff (h : query.Ends cache type destination turns result outcome) :
    outcome = .error (.failed .zeroResults) ↔
      (query.cardinality = .one ∨ query.cardinality = .atMostOne)
        ∧ ∃ t, turns.getLast? = some t ∧ t.IsExecution ∧ t.outcome = .ok () ∧ t.payloads = []
          ∧ ¬ t.CarriesDescription := by
  constructor
  · intro houtcome
    cases h with
    | unread _ hraised | unsent _ _ _ hraised | broken _ _ hraised | redescribed _ _ _ hraised =>
      cases houtcome
      exact hraised.elim
    | complete _ _ _ _ => cases houtcome
    | @missing past t codec start rows hgather hok hmissing =>
      obtain ⟨hnone, hreceived, hone⟩ := Rows.isMissing_eq_true.1 hmissing
      refine ⟨hone, t, List.getLast?_concat, hgather.isExecution, hok, ?_, ?_⟩
      · rw [hgather.heard.gathered.1] at hreceived
        exact List.length_eq_zero_iff.1 hreceived
      · intro hcarries
        exact hgather.heard.described_ne_none hok hcarries hnone
  · rintro ⟨hone, t, hlast, hexecution, hok, hpayloads, hcarries⟩
    cases h with
    | unread hnone _ => exact absurd hexecution (hnone t (List.mem_of_getLast? hlast))
    | unsent hgather _ houtcome _ | broken hgather houtcome _ =>
      rw [List.getLast?_concat] at hlast
      cases hlast
      rw [hok] at houtcome
      cases houtcome
    | redescribed hgather _ hdescribed _ =>
      rw [List.getLast?_concat] at hlast
      cases hlast
      exact absurd (hgather.heard.carriesDescription hdescribed) hcarries
    | missing _ _ _ => rfl
    | @complete past t' codec start rows hgather _ hmissing hnone =>
      rw [List.getLast?_concat] at hlast
      cases hlast
      have hreceived : rows.received = 0 := by
        rw [hgather.heard.gathered.1, hpayloads]
        rfl
      rw [Rows.isMissing_eq_true.2 ⟨hnone, hreceived, hone⟩] at hmissing
      cases hmissing

/-- **A query keeps what it promises** about its results, however it ends. -/
theorem Ends.keepsPolicy (h : query.Ends cache type destination turns result outcome)
    (hquiet : ∀ t ∈ turns, t.Redescribes → t.payloads = []) :
    query.KeepsPolicy cache type destination turns result outcome where
  many := by
    rintro before rfl rfl
    cases h with
    | @complete past t codec start rows hgather hok _ _ =>
      have hpast : ∀ t ∈ past, t.Redescribes → t.payloads = [] :=
        fun t ht => hquiet t (List.mem_append_left _ ht)
      refine ⟨t, codec, _, hgather.runsLast, hgather.many_eq hpast, ?_⟩
      exact (hgather.acceptsAll hpast hok).map_row?
  one := by
    rintro slot rfl rfl
    cases h with
    | @complete past t codec start rows hgather hok _ _ =>
      have hpast : ∀ t ∈ past, t.Redescribes → t.payloads = [] :=
        fun t ht => hquiet t (List.mem_append_left _ ht)
      obtain ⟨slot', hall, hfills⟩ := (hgather.acceptsAll hpast hok).fills
      exact ⟨t, codec, slot', hgather.runsLast, (hgather.destination_eq hpast).trans hall, hfills⟩
  zeroResults := h.zeroResults_iff
  failed := by
    rintro before halt rfl rfl
    have hpast {past : List (Turn σ)} {t : Turn σ} (heq : turns = past ++ [t]) :
        ∀ t ∈ past, t.Redescribes → t.payloads = [] := by
      intro t ht
      exact hquiet t (heq ▸ List.mem_append_left _ ht)
    cases h with
    | unread _ _ => exact .inl rfl
    | @unsent past t codec start _ hgather hnothing _ _ =>
      have hpayloads : t.payloads = [] := by
        rw [Turn.payloads, hnothing]
        rfl
      refine (hgather.start_cases (hpast rfl)).imp_right fun hstart => ?_
      refine ⟨t, codec, hgather.runsLast, ?_⟩
      rw [hstart, hpayloads]
      rfl
    | broken hgather _ _ | missing hgather _ _ | redescribed hgather _ _ _ =>
      exact .inr ⟨_, _, hgather.runsLast, hgather.many_eq (hpast rfl)⟩

/-- A query that is refused keeps it as well. -/
lemma keepsPolicy_refused (reason : String) :
    query.KeepsPolicy cache type destination ([] : List (Turn σ)) destination
      (.error (.failed (.connectionUnusable reason))) where
  many _ _ hok := by cases hok
  one _ _ hok := by cases hok
  zeroResults := by
    constructor
    · intro h
      cases h
    · rintro ⟨_, t, hlast, _⟩
      cases hlast
  failed _ _ hbefore _ := .inl hbefore

end Query

/-- No turn of a query both describes the statement and brings results, if the optimistic execution
that the query may begin with brings none. -/
lemma Session.Goes.payloads_eq_nil {session : Session σ} {query : Query} {type : RowType}
    {destination : Destination} {turns : List (Turn σ)}
    (h : session.Goes (.run query type destination) turns)
    (hnone : ∀ codec arguments, session.cache.codecFor? (query.key type) = some codec →
      codec.encoder.encodeArguments query.arguments = .ok arguments →
      (session.connection.cycle (optimisticRequest query codec arguments)
        (rowsReply codec.decoder type.shape) (Rows.start destination)).value.received = 0) :
    ∀ t ∈ turns, t.Redescribes → t.payloads = [] := by
  rintro t ht ⟨hkind, -⟩
  cases h with
  | refused _ => cases ht
  | taken _ hleads _ hcourse =>
    obtain ⟨hfirst, codec, rows, hcodec, hoptimistic⟩ := hcourse.exists_optimistic ht hkind
    obtain ⟨others, rfl⟩ := List.head?_eq_some_iff.1 hfirst
    obtain ⟨arguments, harguments, hrequest⟩ := hoptimistic.request
    have hreceived := hnone codec arguments hcodec harguments
    rw [← hleads.before_eq, ← hrequest, hoptimistic.heard.eq_cycle,
      hoptimistic.heard.gathered.1] at hreceived
    exact List.length_eq_zero_iff.1 hreceived

/-- **What a query does with its results.**  For every session, query and destination: the query
takes the turns of its course, and if no turn in which the statement is described in place of being
run brings results as well, it keeps what it promises.  When it succeeds, a list has exactly the
rows of the last turn's results, in order, and a single destination was filled with them; it fails
for want of a result exactly when its cardinality is one or at most one and the last turn, an
execution that was read to its end without an error, brought neither results nor a description; and
when it fails, a list is untouched or has those of the last turn's results, in order, that can be
decoded. -/
theorem Session.keepsPolicy_run (session : Session σ) (query : Query) (type : RowType)
    (destination : Destination) :
    ∃ turns, session.Goes (.run query type destination) turns
      ∧ ((∀ t ∈ turns, t.Redescribes → t.payloads = []) →
        query.KeepsPolicy session.cache type destination turns
          (session.run query type destination).result
          (session.run query type destination).outcome) := by
  obtain ⟨turns, hgoes, hends⟩ := session.exists_goes_run query type destination
  refine ⟨turns, hgoes, fun hquiet => ?_⟩
  cases husable : session.connection.isUsable with
  | true => exact (hends husable).keepsPolicy hquiet
  | false =>
    obtain ⟨reason, c, hbegin, _⟩ := begin_of_not_isUsable husable
    cases hgoes with
    | refused _ =>
      simp only [Session.run, hbegin]
      exact Query.keepsPolicy_refused reason
    | taken htaken _ _ _ =>
      rw [husable] at htaken
      cases htaken

/-! ## A statement with numbers for results -/

namespace Tally

/-- No arguments, and a number for a result. -/
def types : StatementTypes :=
  ⟨Descriptor.emptyTupleId, [], ScalarKind.int64.id, 2 :: ScalarKind.int64.id.toBytes⟩

/-- The same, but the number has a type of its own. -/
def renamed : StatementTypes :=
  ⟨Descriptor.emptyTupleId, [], Uuid.ofNat 0xA000,
    2 :: ScalarKind.int64.id.toBytes ++ 3 :: (Uuid.ofNat 0xA000).toBytes ++ [0, 0]⟩

/-- A cycle in which the server says this, and then that it is ready. -/
def reply (frames : List Frame) : Reply :=
  .accept [.bytes ((frames ++ [Message.ready.frame]).flatMap Frame.bytes)]

/-- The message with a small number for a result. -/
def result (n : UInt8) : Frame := .ofPayload [0, 0, 0, 0, 0, 0, 0, n]

/-- A number for a destination. -/
def number (n : Int64) : Slot := .scalar (.int64 n)

/-- The type of such a destination. -/
def row : RowType := ⟨"int64", .scalar .int64⟩

/-- The number in a destination. -/
def number? : Slot → Option Int64
  | .scalar (.int64 n) => some n
  | _ => none

/-- The numbers in a list. -/
def numbers : Destination → List (Option Int64)
  | .many rows => rows.toList.map number?
  | .one _ => []

/-- A session with a server that has two numbers for the first query and one for the second.  By the
time of the third the statement has another type, and no result. -/
def session : Session (List Reply) where
  connection := {
    settings := .initial
    peer := .script
    server := [
      reply [types.preparedFrame], reply [types.describedFrame], reply [result 3, result 5],
      reply [types.preparedFrame], reply [result 3],
      reply [renamed.describedFrame], reply []] }
  cache := .new 4

/-- A query for all numbers. -/
def listed : Query := { command := "select n" }

/-- A query for at most one. -/
def single : Query := { command := "select n", cardinality := .atMostOne }

/-- The session after a query for all numbers and one for at most one. -/
def later : Session (List Reply) :=
  ((session.perform (.run listed row (.many #[]))).1.perform (.run single row (.one (number 0)))).1

lemma eq_number {slot : Slot} {n : Int64} (h : number? slot = some n) : slot = number n := by
  cases slot with
  | scalar value =>
    cases value <;> cases h
    rfl
  | _ => cases h

/-- Nothing is known of the statement at first. -/
lemma codecFor?_session : session.cache.codecFor? (listed.key row) = none := by
  rfl

/-- Later the statement is described in place of being run, without a result. -/
lemma received_later : (later.cache.codecFor? (single.key row)).all (fun codec =>
    (codec.encoder.encodeArguments single.arguments).toOption.all fun arguments =>
      decide ((later.connection.cycle (optimisticRequest single codec arguments)
        (rowsReply codec.decoder row.shape) (Rows.start (.one (number 0)))).value.received = 0))
      = true := by
  decide +kernel

/-- Two numbers replace what was in a list.  And a query for at most one number fails without a
result: the types that it runs with are described anew, and with these it brings nothing. -/
theorem keepsPolicy_session :
    (∃ turns t codec, session.Goes (.run listed row (.many #[number 9])) turns
        ∧ (∀ t ∈ turns, t.Redescribes → t.payloads = [])
        ∧ (session.run listed row (.many #[number 9])).outcome = .ok ()
        ∧ (session.run listed row (.many #[number 9])).result = .many #[number 3, number 5]
        ∧ listed.RunsLast session.cache row (.many #[number 9]) turns t codec
        ∧ t.payloads.map (codec.decoder.row? row.shape) = [some (number 3), some (number 5)])
      ∧ ∃ turns t, later.Goes (.run single row (.one (number 0))) turns
        ∧ (∀ t ∈ turns, t.Redescribes → t.payloads = [])
        ∧ (later.run single row (.one (number 0))).session.connection.sent.map Request.kind
          = later.connection.sent.map Request.kind ++ [.optimisticExecute, .execute]
        ∧ (later.run single row (.one (number 0))).outcome = .error (.failed .zeroResults)
        ∧ turns.getLast? = some t ∧ t.IsExecution ∧ t.outcome = .ok () ∧ t.payloads = []
        ∧ ¬ t.CarriesDescription := by
  constructor
  · obtain ⟨turns, hgoes, hkeeps⟩ := session.keepsPolicy_run listed row (.many #[number 9])
    have hquiet : ∀ t ∈ turns, t.Redescribes → t.payloads = [] := by
      refine hgoes.payloads_eq_nil fun codec arguments hcodec _ => ?_
      rw [codecFor?_session] at hcodec
      cases hcodec
    have hok : (session.run listed row (.many #[number 9])).outcome = .ok () := by decide +kernel
    have hnumbers : numbers (session.run listed row (.many #[number 9])).result
        = [some 3, some 5] := by decide +kernel
    obtain ⟨t, codec, ⟨rows⟩, hlast, hresult, hrows⟩ := (hkeeps hquiet).many _ rfl hok
    rw [hresult] at hnumbers
    obtain ⟨first, others, rfl, hfirst, hothers⟩ := List.map_eq_cons_iff.1 hnumbers
    obtain ⟨second, others, rfl, hsecond, hothers⟩ := List.map_eq_cons_iff.1 hothers
    obtain rfl := List.map_eq_nil_iff.1 hothers
    obtain rfl := eq_number hfirst
    obtain rfl := eq_number hsecond
    exact ⟨turns, t, codec, hgoes, hquiet, hok, hresult, hlast, hrows⟩
  · obtain ⟨turns, hgoes, hkeeps⟩ := later.keepsPolicy_run single row (.one (number 0))
    have hquiet : ∀ t ∈ turns, t.Redescribes → t.payloads = [] := by
      refine hgoes.payloads_eq_nil fun codec arguments hcodec harguments => ?_
      have hreceived := received_later
      rw [hcodec, Option.all_some, harguments] at hreceived
      exact of_decide_eq_true hreceived
    have hzero : (later.run single row (.one (number 0))).outcome
        = .error (.failed .zeroResults) := by decide +kernel
    obtain ⟨-, t, ht⟩ := (hkeeps hquiet).zeroResults.1 hzero
    exact ⟨turns, t, hgoes, hquiet, by decide +kernel, hzero, ht⟩

end Tally

end QueryWire
