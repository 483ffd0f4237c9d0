import QueryWire.Proofs.Session.Course
import QueryWire.Proofs.Wire.Batch

/-!
# One request at a time

Whatever the server says and however the calls end, a request is written only when every request
before it was answered to the end, and the requests of one call come in one of few orders.

* `Call.InOrder` — turns in the order that is allowed to a call.
* `Session.Goes.inOrder` — every call keeps to it.
* `Connection.Passes` — the turns of a sequence of calls.
* **`Connection.exists_history`** — of any two turns the earlier one is closed, and every call takes
  its turns in order.
-/

namespace QueryWire

variable {σ α : Type}

open Connection QueryWire.Flow

/-! ## Descriptions -/

namespace Connection

/-- Types are noted only where they are described. -/
lemma description_of_respond {decoder : Decoder} {shape : Shape} {rows rows' : Rows}
    {response : Response} {raised : Option Error}
    (h : (rowsReply decoder shape).respond rows response = (rows', raised))
    (hnone : rows.described = none) (hsome : rows'.described ≠ none) :
    ∃ cardinality types, response = .description cardinality types := by
  have hdescribed := congrArg (fun answer => answer.1.described) h
  cases response with
  | description cardinality types => exact ⟨cardinality, types, rfl⟩
  | _ => exact absurd (hdescribed.symm.trans hnone) hsome

/-- If types were noted in a cycle they were described in it. -/
lemma Reads.exists_description {decoder : Decoder} {shape : Shape} {c : Connection σ}
    {rows : Rows} {held : Option Error} {responses : List Response} {done : Cycle σ Rows}
    (h : c.Reads (rowsReply decoder shape) rows held responses done)
    (hnone : rows.described = none) (hsome : done.value.described ≠ none) :
    ∃ cardinality types, .description cardinality types ∈ responses := by
  induction h with
  | halt h => exact absurd hnone hsome
  | ready h => exact absurd hnone hsome
  | @fatal c c' rows rows' held response e h hready hrespond he =>
    obtain ⟨cardinality, types, rfl⟩ := description_of_respond hrespond hnone hsome
    exact ⟨cardinality, types, List.mem_cons_self⟩
  | @go c c' rows rows' held raised response responses done h hready hrespond hraised _ ih =>
    by_cases hrows : rows'.described = none
    · obtain ⟨cardinality, types, hmem⟩ := ih hrows hsome
      exact ⟨cardinality, types, List.mem_cons_of_mem _ hmem⟩
    · obtain ⟨cardinality, types, rfl⟩ := description_of_respond hrespond hnone hrows
      exact ⟨cardinality, types, List.mem_cons_self⟩

/-- Types that were noted are not forgotten, and those that are described are noted unless they
cannot be understood. -/
lemma described_of_respond {decoder : Decoder} {shape : Shape} {rows rows' : Rows}
    {response : Response} (h : (rowsReply decoder shape).respond rows response = (rows', none))
    (hsome : rows.described ≠ none ∨ ∃ cardinality types, response = .description cardinality types) :
    rows'.described ≠ none := by
  have hdescribed := congrArg (fun answer => answer.1.described) h
  have hraised := congrArg Prod.snd h
  cases response with
  | description cardinality types =>
    cases hparse : DescriptorPair.parse types with
    | ok pair =>
      simp only [Handler.respond, rowsReply, noteTypes, hparse] at hdescribed
      rw [← hdescribed]
      intro hnone
      cases hnone
    | error e =>
      simp only [Handler.respond, rowsReply, noteTypes, hparse] at hraised
      cases hraised
  | _ =>
    rcases hsome with hsome | ⟨cardinality, types, heq⟩
    · exact fun hnone => hsome (hdescribed.trans hnone)
    · cases heq

/-- In a cycle that ends without an error, types that were described are noted. -/
lemma Reads.described_ne_none {decoder : Decoder} {shape : Shape} {c : Connection σ}
    {rows : Rows} {held : Option Error} {responses : List Response} {done : Cycle σ Rows}
    (h : c.Reads (rowsReply decoder shape) rows held responses done) (hok : done.outcome = .ok ())
    (hsome : rows.described ≠ none
      ∨ ∃ cardinality types, .description cardinality types ∈ responses) :
    done.value.described ≠ none := by
  induction h with
  | halt h => cases hok
  | ready h =>
    rcases hsome with hsome | ⟨cardinality, types, hmem⟩
    · exact hsome
    · simp at hmem
  | fatal h hready hrespond he => cases hok
  | @go c c' rows rows' held raised response responses done h hready hrespond hraised hreads ih =>
    have hnone : raised = none := (Option.or_eq_none_iff.1 (hreads.held_eq_none hok)).2
    rw [hnone] at hrespond
    rcases hsome with hsome | ⟨cardinality, types, hmem⟩
    · exact ih hok (.inl (described_of_respond hrespond (.inl hsome)))
    · rcases List.mem_cons.1 hmem with rfl | hmem
      · exact ih hok (.inl (described_of_respond hrespond (.inr ⟨_, _, rfl⟩)))
      · exact ih hok (.inr ⟨cardinality, types, hmem⟩)

end Connection

namespace Turn

variable {t : Turn σ} {query : Query}

lemma Prepares.not_optimistic {ids : Option (Uuid × Uuid)} (h : t.Prepares query ids) :
    t.kind ≠ .optimisticExecute := by
  rw [h.kind_eq]
  decide

lemma Describes.not_optimistic {pair : Option DescriptorPair} (h : t.Describes query pair) :
    t.kind ≠ .optimisticExecute := by
  rw [h.kind_eq]
  decide

lemma Executes.kind_eq {pair : DescriptorPair} {shape : Shape} {destination : Destination}
    (h : t.Executes query pair shape destination) : t.kind = .execute := by
  obtain ⟨codec, arguments, rows, _, _, hrequest, _⟩ := h
  rw [kind, hrequest]
  rfl

lemma Executes.not_optimistic {pair : DescriptorPair} {shape : Shape} {destination : Destination}
    (h : t.Executes query pair shape destination) : t.kind ≠ .optimisticExecute := by
  rw [h.kind_eq]
  decide

lemma RunsScript.kind_eq {script : String} (h : t.RunsScript script) :
    t.kind = .executeScript := by
  rw [kind, h.request]
  rfl

variable {codec : Codec} {shape : Shape} {destination : Destination} {rows : Rows}

/-- Types that are known after an execution were described in it. -/
lemma Heard.carriesDescription {decoder : Decoder}
    (h : t.Heard (rowsReply decoder shape) (Rows.start destination) rows)
    (hsome : rows.described ≠ none) : t.CarriesDescription := by
  cases h with
  | unsent hsend => exact absurd rfl hsome
  | sent hsend hreads => exact hreads.exists_description rfl hsome

/-- After an execution without an error, types that were described in it are known. -/
lemma Heard.described_ne_none {decoder : Decoder}
    (h : t.Heard (rowsReply decoder shape) (Rows.start destination) rows)
    (hok : t.outcome = .ok ()) (hcarries : t.CarriesDescription) : rows.described ≠ none := by
  cases h with
  | unsent hsend => cases hok
  | sent hsend hreads => exact hreads.described_ne_none hok (.inr hcarries)

/-- Types that are known after an optimistic execution were described in it. -/
lemma Optimistic.carriesDescription {pair : DescriptorPair}
    (h : t.Optimistic query codec shape destination rows) (hdescribed : rows.described = some pair) :
    t.CarriesDescription := by
  refine h.heard.carriesDescription ?_
  rw [hdescribed]
  exact Option.some_ne_none pair

end Turn

/-! ## The order of the turns of a call -/

/-- The orders in which a call may send its requests; it may stop after any of them. -/
def Call.orders : Call → List (List RequestKind)
  | .run _ _ _ => [[.optimisticExecute, .execute], [.prepare, .execute],
      [.prepare, .describeStatement, .execute]]
  | .execute _ => [[.executeScript]]

/-- The turns of a call in the order that is allowed to it. -/
structure Call.InOrder (call : Call) (turns : List (Turn σ)) : Prop where
  /-- The requests are the first of one of the orders. -/
  kinds : ∃ order ∈ call.orders, turns.map Turn.kind <+: order
  /-- After a turn comes another only if the word that ends the cycle was read and no error was
  held back until then. -/
  passed : turns.Pairwise fun earlier _ => earlier.IsClosed ∧ earlier.outcome = .ok ()
  /-- After an optimistic execution comes another turn only if the statement was described. -/
  described : ∀ t t' rest, turns = t :: t' :: rest → t.kind = .optimisticExecute →
    t.CarriesDescription
  /-- Each request is written with the message that ends a batch. -/
  batches : ∀ t ∈ turns, t.request.batch
    = Message.framed t.kind t.request.payload ++ Message.framed .sync []

namespace Call

variable {call : Call} {t : Turn σ}

/-- Every request is written with the message that ends a batch. -/
lemma batch_of_mem (turns : List (Turn σ)) : ∀ t ∈ turns, t.request.batch
    = Message.framed t.kind t.request.payload ++ Message.framed .sync [] :=
  fun t _ => t.request.batch_eq

/-- A call may stop after its first turn. -/
lemma inOrder_singleton (hkinds : ∃ order ∈ call.orders, [t.kind] <+: order) :
    call.InOrder [t] where
  kinds := hkinds
  passed := List.pairwise_singleton _ _
  described _ _ _ heq := by cases heq
  batches := batch_of_mem _

/-- The statement need not be described if the first turn is no optimistic execution. -/
lemma inOrder_of_not_optimistic {turns : List (Turn σ)} (hkind : t.kind ≠ .optimisticExecute)
    (hkinds : ∃ order ∈ call.orders, (t :: turns).map Turn.kind <+: order)
    (hpassed : (t :: turns).Pairwise fun earlier _ => earlier.IsClosed ∧ earlier.outcome = .ok ()) :
    call.InOrder (t :: turns) where
  kinds := hkinds
  passed := hpassed
  described _ _ _ heq hoptimistic := by
    cases heq
    exact absurd hoptimistic hkind
  batches := batch_of_mem _

/-- **The course of a call** is in order. -/
theorem Course.inOrder {cache : Cache} {turns : List (Turn σ)} (h : call.Course cache turns) :
    call.InOrder turns := by
  cases h with
  | nothing =>
    refine ⟨?_, .nil, ?_, batch_of_mem []⟩
    · cases call with
      | run query type destination => exact ⟨_, List.mem_cons_self, List.nil_prefix⟩
      | execute script => exact ⟨_, List.mem_cons_self, List.nil_prefix⟩
    · intro t t' rest heq
      cases heq
  | script hscript =>
    exact inOrder_singleton ⟨_, List.mem_cons_self, by simp [hscript.kind_eq]⟩
  | optimistic hcodec hoptimistic =>
    exact inOrder_singleton ⟨_, List.mem_cons_self, by simp [hoptimistic.kind_eq]⟩
  | redescribed hcodec hoptimistic hok hdescribed hexecutes =>
    have hclosed := hoptimistic.heard.isClosed_of_ok hok
    refine ⟨⟨_, List.mem_cons_self, ?_⟩, ?_, ?_, batch_of_mem _⟩
    · simp [hoptimistic.kind_eq, hexecutes.kind_eq]
    · simp [hclosed, hok]
    · intro t t' rest heq _
      cases heq
      exact hoptimistic.carriesDescription hdescribed
  | prepared hprepares =>
    exact inOrder_singleton ⟨[.prepare, .execute], by simp [orders], by simp [hprepares.kind_eq]⟩
  | known hprepares hok hpair hexecutes =>
    have hclosed := hprepares.heard.isClosed_of_ok hok
    refine inOrder_of_not_optimistic hprepares.not_optimistic
      ⟨[.prepare, .execute], by simp [orders], ?_⟩ ?_
    · simp [hprepares.kind_eq, hexecutes.kind_eq]
    · simp [hclosed, hok]
  | described hprepares hok hpair hdescribes =>
    have hclosed := hprepares.heard.isClosed_of_ok hok
    refine inOrder_of_not_optimistic hprepares.not_optimistic
      ⟨[.prepare, .describeStatement, .execute], by simp [orders], ?_⟩ ?_
    · simp [hprepares.kind_eq, hdescribes.kind_eq]
    · simp [hclosed, hok]
  | learned hprepares hok hpair hdescribes hok' hexecutes =>
    have hclosed := hprepares.heard.isClosed_of_ok hok
    have hclosed' := hdescribes.heard.isClosed_of_ok hok'
    refine inOrder_of_not_optimistic hprepares.not_optimistic
      ⟨[.prepare, .describeStatement, .execute], by simp [orders], ?_⟩ ?_
    · simp [hprepares.kind_eq, hdescribes.kind_eq, hexecutes.kind_eq]
    · simp [hclosed, hok, hclosed', hok']

/-- Only the first turn of a query is an optimistic execution, and it is one with the codec that the
query begins with. -/
lemma Course.exists_optimistic {cache : Cache} {query : Query} {type : RowType}
    {destination : Destination} {turns : List (Turn σ)} {t : Turn σ}
    (h : Course cache (.run query type destination) turns) (ht : t ∈ turns)
    (hkind : t.kind = .optimisticExecute) :
    turns.head? = some t ∧ ∃ codec rows, cache.codecFor? (query.key type) = some codec
      ∧ t.Optimistic query codec type.shape destination rows := by
  cases h with
  | nothing => cases ht
  | optimistic hcodec hoptimistic =>
    obtain rfl := List.mem_singleton.1 ht
    exact ⟨rfl, _, _, hcodec, hoptimistic⟩
  | redescribed hcodec hoptimistic _ _ hexecutes =>
    rcases List.mem_cons.1 ht with rfl | ht
    · exact ⟨rfl, _, _, hcodec, hoptimistic⟩
    · obtain rfl := List.mem_singleton.1 ht
      exact absurd hkind hexecutes.not_optimistic
  | prepared hprepares =>
    obtain rfl := List.mem_singleton.1 ht
    exact absurd hkind hprepares.not_optimistic
  | known hprepares _ _ hexecutes =>
    rcases List.mem_cons.1 ht with rfl | ht
    · exact absurd hkind hprepares.not_optimistic
    · obtain rfl := List.mem_singleton.1 ht
      exact absurd hkind hexecutes.not_optimistic
  | described hprepares _ _ hdescribes =>
    rcases List.mem_cons.1 ht with rfl | ht
    · exact absurd hkind hprepares.not_optimistic
    · obtain rfl := List.mem_singleton.1 ht
      exact absurd hkind hdescribes.not_optimistic
  | learned hprepares _ _ hdescribes _ hexecutes =>
    rcases List.mem_cons.1 ht with rfl | ht
    · exact absurd hkind hprepares.not_optimistic
    · rcases List.mem_cons.1 ht with rfl | ht
      · exact absurd hkind hdescribes.not_optimistic
      · obtain rfl := List.mem_singleton.1 ht
        exact absurd hkind hexecutes.not_optimistic

/-- Every turn of a call is heard. -/
lemma Course.isHeard {cache : Cache} {turns : List (Turn σ)} (h : call.Course cache turns) :
    ∀ t ∈ turns, t.IsHeard := by
  have hexecutes {query : Query} {pair : DescriptorPair} {shape : Shape}
      {destination : Destination} {t : Turn σ} (h : t.Executes query pair shape destination) :
      t.IsHeard := by
    obtain ⟨codec, arguments, rows, _, _, _, hheard⟩ := h
    exact ⟨_, _, _, _, hheard⟩
  cases h with
  | nothing =>
    intro t ht
    cases ht
  | script h => exact List.forall_mem_singleton.2 ⟨_, _, _, _, h.heard⟩
  | optimistic _ h => exact List.forall_mem_singleton.2 ⟨_, _, _, _, h.heard⟩
  | redescribed _ h _ _ h' =>
    exact List.forall_mem_cons.2 ⟨⟨_, _, _, _, h.heard⟩, List.forall_mem_singleton.2 (hexecutes h')⟩
  | prepared h => exact List.forall_mem_singleton.2 ⟨_, _, _, _, h.heard⟩
  | known h _ _ h' =>
    exact List.forall_mem_cons.2 ⟨⟨_, _, _, _, h.heard⟩, List.forall_mem_singleton.2 (hexecutes h')⟩
  | described h _ _ h' =>
    exact List.forall_mem_cons.2 ⟨⟨_, _, _, _, h.heard⟩,
      List.forall_mem_singleton.2 ⟨_, _, _, _, h'.heard⟩⟩
  | learned h _ _ h' _ h'' =>
    exact List.forall_mem_cons.2 ⟨⟨_, _, _, _, h.heard⟩, List.forall_mem_cons.2
      ⟨⟨_, _, _, _, h'.heard⟩, List.forall_mem_singleton.2 (hexecutes h'')⟩⟩

end Call

namespace Session

variable {session : Session σ} {call : Call} {turns : List (Turn σ)}

/-- **Every call** keeps to the order. -/
theorem Goes.inOrder (h : session.Goes call turns) : call.InOrder turns := by
  cases h with
  | refused _ =>
    have hnothing : call.Course session.cache ([] : List (Turn σ)) := .nothing
    exact hnothing.inOrder
  | taken _ _ _ hcourse => exact hcourse.inOrder

/-- What was sent after a call. -/
lemma Goes.sent_eq (h : session.Goes call turns) :
    (session.perform call).1.connection.sent
      = session.connection.sent ++ turns.flatMap Turn.written := by
  cases h with
  | refused husable =>
    rw [(perform_of_not_isUsable session husable call).2]
    simp
  | @taken turns c _ hleads hconnection hcourse =>
    obtain ⟨broken, log, hfinish⟩ := exists_finish_eq c (session.perform call).2
    rw [hconnection, hfinish]
    exact hleads.sent_eq hcourse.isHeard

/-- All turns of a call are closed that leaves the connection usable. -/
lemma Goes.isClosed (h : session.Goes call turns)
    (husable : (session.perform call).1.connection.isUsable = true) : ∀ t ∈ turns, t.IsClosed := by
  cases h with
  | refused _ =>
    intro t ht
    cases ht
  | @taken turns c _ hleads hconnection hcourse =>
    refine hleads.isClosed hcourse.isHeard (hcourse.inOrder.passed.imp And.left) ?_
    obtain ⟨broken, log, hfinish⟩ := exists_finish_eq c (session.perform call).2
    rw [hconnection, hfinish] at husable
    simp only [Connection.isUsable, Bool.and_eq_true, Bool.not_eq_true'] at husable
    exact husable.2

end Session

/-! ## Any sequence of calls -/

namespace Connection

/-- What calls do on a connection, one after the other, each with what is in the cache by then. -/
inductive Passes : Connection σ → List (Cache × Call) → List (List (Turn σ)) → Connection σ → Prop
  | nil {c : Connection σ} : Passes c [] [] c
  | cons {c c' : Connection σ} {cache : Cache} {call : Call} {calls : List (Cache × Call)}
      {turns : List (Turn σ)} {history : List (List (Turn σ))} :
      (Session.mk c cache).Goes call turns →
      Passes ((Session.mk c cache).perform call).1.connection calls history c' →
      Passes c ((cache, call) :: calls) (turns :: history) c'

section

variable {c c' : Connection σ} {calls : List (Cache × Call)} {history : List (List (Turn σ))}

/-- Nothing passes over a connection that is not usable. -/
lemma Passes.flatten_eq_nil (h : c.Passes calls history c') (husable : c.isUsable = false) :
    history.flatten = [] := by
  induction h with
  | nil => rfl
  | @cons c c' cache call calls turns history hgoes _ ih =>
    have hnext := (Session.perform_of_not_isUsable ⟨c, cache⟩ husable call).1
    cases hgoes with
    | refused _ => exact ih hnext
    | taken htaken _ _ _ =>
      rw [husable] at htaken
      cases htaken

/-- What was sent after calls. -/
lemma Passes.sent_eq (h : c.Passes calls history c') :
    c'.sent = c.sent ++ history.flatten.flatMap Turn.written := by
  induction h with
  | nil => simp
  | cons hgoes _ ih =>
    rw [ih, hgoes.sent_eq, List.flatten_cons, List.flatMap_append, List.append_assoc]

/-- Of any two turns the earlier one is closed. -/
lemma Passes.pairwise (h : c.Passes calls history c') :
    history.flatten.Pairwise fun earlier _ => earlier.IsClosed := by
  induction h with
  | nil => exact .nil
  | @cons c c' cache call calls turns history hgoes hpasses ih =>
    rw [List.flatten_cons, List.pairwise_append]
    refine ⟨hgoes.inOrder.passed.imp And.left, ih, ?_⟩
    intro earlier hearlier later hlater
    cases husable : ((Session.mk c cache).perform call).1.connection.isUsable with
    | true => exact hgoes.isClosed husable earlier hearlier
    | false =>
      rw [hpasses.flatten_eq_nil husable] at hlater
      cases hlater

/-- Every call keeps to the order. -/
lemma Passes.inOrder (h : c.Passes calls history c') :
    List.Forall₂ (fun entry turns => entry.2.InOrder turns) calls history := by
  induction h with
  | nil => exact .nil
  | cons hgoes _ ih => exact .cons hgoes.inOrder ih

end

/-- **One request at a time.**  Calls on a connection, each with any cache, take turns; of any two
turns, of one call or of two, the earlier one was read to the word that ends its cycle.  Every call
takes its turns in an order that is allowed to it, and what was written are the requests of the
turns. -/
theorem exists_history (c : Connection σ) (calls : List (Cache × Call)) :
    ∃ history c', c.Passes calls history c'
      ∧ history.flatten.Pairwise (fun earlier _ => earlier.IsClosed)
      ∧ List.Forall₂ (fun entry turns => entry.2.InOrder turns) calls history
      ∧ c'.sent = c.sent ++ history.flatten.flatMap Turn.written := by
  have hpasses : ∃ history c', c.Passes calls history c' := by
    induction calls generalizing c with
    | nil => exact ⟨[], c, .nil⟩
    | cons entry calls ih =>
      obtain ⟨turns, hgoes⟩ := (Session.mk c entry.1).exists_goes entry.2
      obtain ⟨history, c', hpasses⟩ := ih ((Session.mk c entry.1).perform entry.2).1.connection
      exact ⟨turns :: history, c', .cons hgoes hpasses⟩
  obtain ⟨history, c', hpasses⟩ := hpasses
  exact ⟨history, c', hpasses, hpasses.pairwise, hpasses.inOrder, hpasses.sent_eq⟩

end Connection

end QueryWire
