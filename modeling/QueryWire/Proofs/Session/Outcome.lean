import QueryWire.Proofs.Cache
import QueryWire.Proofs.Session.Flow
import QueryWire.Proofs.Session.Server

/-!
# How a query comes out

On a server that keeps statements, the outcome of a query is settled by the statement that the
server has for it: by its types, by the codec that is built from them, and by the reply to the
arguments.  Every way to run a query that gets as far as a request comes to this outcome, whatever
the cache knows.

* `Statement.outcome`, `Refusal.outcome` — what ought to come out.
* `Workspace.Idle`, `Workspace.Waiting`, `Workspace.Left` — a workspace between cycles, within one,
  and after an early end.
* `Flow.ensures_prepare`, `Flow.ensures_describe`, … — one triple for each action.
* **`Flow.ensures_run`** — a query comes out as it ought to, unless the cache has types for it of
  which no codec can be built.
-/

namespace QueryWire

variable {σ α : Type}

/-! ## Answers with one response -/

namespace Answer

lemma body_of_responses {answer : Answer} {response : Response}
    (h : answer.responses = [response]) :
    ∃ message, answer.body = [message] ∧ message.response = response := by
  obtain ⟨message, hbody, hresponse⟩ := List.map_eq_singleton_iff.1 h
  exact ⟨message, hbody, hresponse⟩

/-- A handler makes of an answer with one response what it says to that response, unless a message
is too long. -/
lemma read_one {answer : Answer} {response : Response} (h : answer.responses = [response])
    (limit : Nat) (handle : Handler α) (value : α) :
    answer.read limit handle value
        = ((handle.respond value response).1, Connection.ending (handle.respond value response).2)
      ∨ ¬ answer.Fits limit ∧ ∃ value' size,
        answer.read limit handle value
          = (value', .error (.failed (.framing (.tooLong size limit)))) := by
  obtain ⟨message, hbody, rfl⟩ := body_of_responses h
  have hfits : answer.Fits limit ↔ message.frame.size ≤ limit ∧ answer.closing.frame.size ≤ limit := by
    simp [Fits, hbody]
  simp only [Answer.read]
  rw [hbody]
  simp only [readBody, tooLong]
  by_cases hmessage : limit < message.frame.size
  · right
    rw [if_pos hmessage]
    exact ⟨fun hall => absurd (hfits.1 hall).1 (Nat.not_le.2 hmessage), _, _, rfl⟩
  rw [if_neg hmessage]
  rcases handle.respond value message.response with ⟨value', e | e⟩
  · by_cases hclosing : limit < answer.closing.frame.size
    · right
      simp only [if_pos hclosing]
      exact ⟨fun hall => absurd (hfits.1 hall).2 (Nat.not_le.2 hclosing), _, _, rfl⟩
    · left
      simp only [if_neg hclosing]
  · by_cases hfatal : e.isFatal = true
    · left
      simp only [if_pos hfatal]
      rfl
    · by_cases hclosing : limit < answer.closing.frame.size
      · right
        simp only [if_neg hfatal, if_pos hclosing]
        exact ⟨fun hall => absurd (hfits.1 hall).2 (Nat.not_le.2 hclosing), _, _, rfl⟩
      · left
        simp only [if_neg hfatal, if_neg hclosing]
        rfl

end Answer

/-! ## What ought to come out -/

/-- How a query comes out for which the server has no statement. -/
def Refusal.outcome (refusal : Refusal) (limit : Nat) : Except Halt Unit :=
  (refusal.answer.read limit (fun (_ : Unit) _ => ((), none)) ()).2

/-- A refusal is the same to every handler, and always an error. -/
lemma Refusal.read_answer (refusal : Refusal) (limit : Nat) (handle : Handler α) (value : α) :
    ∃ halt, refusal.outcome limit = .error halt
      ∧ refusal.answer.read limit handle value = (value, .error halt) := by
  obtain ⟨message, hbody, hresponse⟩ := Answer.body_of_responses refusal.answer_eq
  have hrespond {β : Type} (handle : Handler β) (value : β) :
      handle.respond value message.response = (value, some (.server refusal.cause)) := by
    rw [hresponse]
    rfl
  simp only [Refusal.outcome, Answer.read]
  rw [hbody]
  simp only [Answer.readBody, hrespond, Answer.tooLong]
  by_cases hmessage : limit < message.frame.size
  · simp only [if_pos hmessage]
    exact ⟨_, rfl, rfl⟩
  · by_cases hfatal : (Error.server refusal.cause).isFatal = true
    · simp only [if_neg hmessage, if_pos hfatal]
      exact ⟨_, rfl, rfl⟩
    · by_cases hclosing : limit < refusal.answer.closing.frame.size
      · simp only [if_neg hmessage, if_neg hfatal, if_pos hclosing]
        exact ⟨_, rfl, rfl⟩
      · simp only [if_neg hmessage, if_neg hfatal, if_neg hclosing]
        exact ⟨_, rfl, rfl⟩

namespace Statement

/-- How the statement comes out with a codec for its types, and what is then in the destination. -/
def rowsOutcome (statement : Statement) (limit : Nat) (query : Query) (decoder : Decoder)
    (shape : Shape) (destination : Destination) (arguments : Bytes) :
    Except Halt Unit × Destination :=
  match (statement.reply arguments).read limit (Flow.rowsReply decoder shape)
      (Rows.start destination) with
  | (rows, .error halt) => (.error halt, rows.destination)
  | (rows, .ok ()) =>
    if rows.isMissing query then (.error (.failed .zeroResults), rows.destination)
    else (.ok (), rows.destination)

/-- How a query comes out for which the server has the statement, and what is then in the
destination. -/
def outcome (statement : Statement) (limit : Nat) (query : Query) (type : RowType)
    (destination : Destination) : Except Halt Unit × Destination :=
  match DescriptorPair.parse statement.types with
  | .error e => (.error (.failed e), destination)
  | .ok pair =>
    match Codec.build pair type.shape with
    | .error e => (.error (.failed e), destination)
    | .ok codec =>
      match codec.encoder.encodeArguments query.arguments with
      | .error e => (.error (.failed e), destination)
      | .ok arguments =>
        statement.rowsOutcome limit query codec.decoder type.shape destination arguments

/-- The end of a query because a message that tells of its statement is too long. -/
def Oversized (statement : Statement) (limit : Nat) (halt : Halt) : Prop :=
  ¬ statement.Fits limit ∧ ∃ size, halt = .failed (.framing (.tooLong size limit))

end Statement

/-! ## The states of a query -/

namespace Workspace

/-- Between cycles. -/
structure Idle (peer : Peer σ) (served : DescriptorPair → Prop) (limit : Nat)
    (destination : Destination) (w : Workspace σ) : Prop where
  peer : w.connection.peer = peer
  limit : w.connection.limit = limit
  quiet : w.connection.IsQuiet
  sound : w.cache.Sound served
  cleared : w.destination.cleared = destination.cleared

/-- Within a cycle, before anything was read of its answer. -/
structure Waiting (peer : Peer σ) (served : DescriptorPair → Prop) (limit : Nat)
    (destination : Destination) (answer : Answer) (w : Workspace σ) : Prop where
  peer : w.connection.peer = peer
  limit : w.connection.limit = limit
  holds : w.connection.inbox.Holds answer.bytes
  sound : w.cache.Sound served
  cleared : w.destination.cleared = destination.cleared

/-- After an end, early or not. -/
structure Left (peer : Peer σ) (served : DescriptorPair → Prop) (outcome : Except Halt Unit)
    (w : Workspace σ) : Prop where
  peer : w.connection.peer = peer
  settles : w.connection.Settles outcome
  sound : w.cache.Sound served

variable {peer : Peer σ} {served : DescriptorPair → Prop} {limit : Nat} {destination : Destination}

lemma Idle.left {w : Workspace σ} (h : w.Idle peer served limit destination)
    (outcome : Except Halt Unit) : w.Left peer served outcome := ⟨h.peer, .inr h.quiet, h.sound⟩

end Workspace

namespace Flow

section

variable {peer : Peer σ} {served : DescriptorPair → Prop} {limit : Nat} {destination : Destination}
  {stop : Halt → Workspace σ → Prop}

/-- A request that is answered is followed by reading the answer. -/
lemma ensures_send_answers {request : Request} {answer : Answer} {P Q : σ → Prop}
    (h : ∀ s, P s → ∃ s', peer.Answers s request answer s' ∧ Q s') :
    Ensures (fun w => w.Idle peer served limit destination ∧ P w.connection.server)
      (send request)
      (fun _ w => w.Waiting peer served limit destination answer ∧ Q w.connection.server) stop := by
  have hsend (w : Workspace σ) (hw : w.Idle peer served limit destination)
      (hP : P w.connection.server) : ∃ c, w.connection.send request = (.ok (), c)
        ∧ c.peer = peer ∧ c.limit = limit ∧ c.inbox.Holds answer.bytes ∧ Q c.server := by
    obtain ⟨s', ⟨arrivals, hanswer, hdelivers⟩, hQ⟩ := h _ hP
    rw [← hw.peer] at hanswer
    unfold Connection.send
    rw [hanswer]
    refine ⟨_, rfl, hw.peer, hw.limit, ?_, hQ⟩
    rw [hw.quiet.2]
    exact Inbox.holds_deliver hdelivers
  refine ensures_send (fun w c hw h => ?_) (fun w c halt hw h => ?_)
  · obtain ⟨c', hok, hpeer, hlimit, hholds, hQ⟩ := hsend w hw.1 hw.2
    rw [hok] at h
    cases h
    exact ⟨⟨hpeer, hlimit, hholds, hw.1.sound, hw.1.cleared⟩, hQ⟩
  · obtain ⟨c', hok, _⟩ := hsend w hw.1 hw.2
    rw [hok] at h
    cases h

/-- The same, when it does not matter in which state the server is afterwards. -/
lemma ensures_send_answered {request : Request} {answer : Answer} {P : σ → Prop}
    (h : ∀ s, P s → ∃ s', peer.Answers s request answer s') :
    Ensures (fun w => w.Idle peer served limit destination ∧ P w.connection.server)
      (send request) (fun _ w => w.Waiting peer served limit destination answer) stop := by
  have hany (s : σ) (hs : P s) : ∃ s', peer.Answers s request answer s' ∧ True := by
    obtain ⟨s', h⟩ := h s hs
    exact ⟨s', h, trivial⟩
  exact (ensures_send_answers hany).weaken (fun _ hw => hw) (fun _ _ hw => hw.1) (fun _ _ hw => hw)

/-- What reading a cycle leaves behind. -/
lemma left_drain {answer : Answer} {w : Workspace σ}
    (hw : w.Waiting peer served limit destination answer) (handle : Handler α) (value : α)
    (d : Destination) :
    let done := w.connection.drain handle value none
    (done.value, done.outcome) = answer.read limit handle value
      ∧ Workspace.Left peer served done.outcome ⟨done.connection, w.cache, d⟩
      ∧ done.connection.server = w.connection.server ∧ done.connection.limit = limit := by
  obtain ⟨hread, hsettles⟩ := w.connection.drain_answer handle value answer hw.holds
  have hagrees := w.connection.agrees_drain handle value none
  rw [hw.limit] at hread
  refine ⟨hread, ⟨hagrees.peer.trans hw.peer, hsettles, hw.sound⟩, hagrees.server, ?_⟩
  rw [Connection.limit, hagrees.settings]
  exact hw.limit

/-- Reading an answer gives what the handler makes of it. -/
lemma ensures_drain_answer {answer : Answer} (P : σ → Prop) (handle : Handler α) (value : α) :
    Ensures (fun w => w.Waiting peer served limit destination answer ∧ P w.connection.server)
      (drain handle value)
      (fun value' w => w.Idle peer served limit destination ∧ P w.connection.server
        ∧ answer.read limit handle value = (value', .ok ()))
      (fun halt w => w.Left peer served (.error halt)
        ∧ ∃ value', answer.read limit handle value = (value', .error halt)) := by
  refine ensures_drain (fun w c value' hw h => ?_) (fun w c value' halt hw h => ?_)
  all_goals
    obtain ⟨hread, hleft, hserver, hlimit⟩ := left_drain hw.1 handle value w.destination
    rw [h] at hread hleft hserver hlimit
  · have hquiet : c.IsQuiet := hleft.settles.resolve_left (by rintro ⟨e, he, _⟩; cases he)
    exact ⟨⟨hleft.peer, hlimit, hquiet, hleft.sound, hw.1.cleared⟩, hserver ▸ hw.2, hread.symm⟩
  · exact ⟨hleft, value', hread.symm⟩

/-- A change that keeps the cache sound. -/
lemma idle_changeCache {change : Cache → Cache} (P : σ → Prop)
    (h : ∀ cache : Cache, cache.Sound served → (change cache).Sound served) :
    Ensures (fun w => w.Idle peer served limit destination ∧ P w.connection.server)
      (changeCache change)
      (fun _ w => w.Idle peer served limit destination ∧ P w.connection.server) stop :=
  ensures_changeCache fun _ hw =>
    ⟨⟨hw.1.peer, hw.1.limit, hw.1.quiet, h _ hw.1.sound, hw.1.cleared⟩, hw.2⟩

/-- A codec is built from served types and kept, or there is none. -/
lemma ensures_buildCodec {pair : DescriptorPair} (P : σ → Prop) (key : CodecKey)
    (hserved : served pair) :
    Ensures (fun w => w.Idle peer served limit destination ∧ P w.connection.server)
      (buildCodec key pair)
      (fun codec w => (w.Idle peer served limit destination ∧ P w.connection.server)
        ∧ Codec.build pair key.type.shape = .ok codec)
      (fun halt w => w.Idle peer served limit destination
        ∧ ∃ e, Codec.build pair key.type.shape = .error e ∧ halt = .failed e) := by
  refine ensures_ofExcept_bind (fun codec hbuild => ?_) fun e w hbuild hw => ⟨hw.1, e, hbuild, rfl⟩
  refine (idle_changeCache P fun cache hcache => hcache.putCodec hserved hbuild).bind fun _ => ?_
  exact ensures_pure fun w hw => ⟨hw, hbuild⟩

/-! ## Reading results -/

/-- Without a description among the responses, none is noted. -/
lemma described_readBody {decoder : Decoder} {shape : Shape} {closing : Message}
    {outcome : Except Halt Unit} {rows' : Rows} (body : List Message)
    (hplain : ∀ response ∈ body.map Message.response, response.kind ≠ .commandDataDescription)
    (rows : Rows) (held : Option Error)
    (h : Answer.readBody limit (rowsReply decoder shape) closing rows held body = (rows', outcome)) :
    rows'.described = rows.described := by
  induction body generalizing rows held with
  | nil =>
    simp only [Answer.readBody] at h
    split at h <;> cases h <;> rfl
  | cons message rest ih =>
    have hrest : ∀ response ∈ rest.map Message.response, response.kind ≠ .commandDataDescription :=
      fun response hmem => hplain response (List.mem_cons_of_mem _ hmem)
    have hfirst := hplain message.response List.mem_cons_self
    have hrespond : ((rowsReply decoder shape).respond rows message.response).1.described
        = rows.described := by
      cases hresponse : message.response with
      | description cardinality types =>
        rw [hresponse] at hfirst
        exact absurd rfl hfirst
      | _ => rfl
    simp only [Answer.readBody] at h
    split at h
    · cases h
      rfl
    · rcases hvalue : (rowsReply decoder shape).respond rows message.response with ⟨value, e | e⟩
      · rw [hvalue] at h hrespond
        exact (ih hrest value held h).trans hrespond
      · rw [hvalue] at h hrespond
        dsimp only at h
        split at h
        · cases h
          exact hrespond
        · exact (ih hrest value _ h).trans hrespond

variable {statement : Statement} {query : Query} {type : RowType}

/-- Reading the reply to an execution comes to the outcome of the statement. -/
lemma ensures_readRows_reply (decoder : Decoder) (shape : Shape) (arguments : Bytes) :
    Ensures (fun w => w.Waiting peer served limit destination (statement.reply arguments))
      (readRows query decoder shape)
      (fun described w => described = none ∧ w.Left peer served (.ok ())
        ∧ statement.rowsOutcome limit query decoder shape destination arguments
          = (.ok (), w.destination))
      (fun halt w => w.Left peer served (.error halt)
        ∧ (statement.rowsOutcome limit query decoder shape destination arguments).1
          = .error halt) := by
  refine ensures_readRows (fun w c rows hw h hmissing => ?ok) (fun w c rows hw h hmissing => ?missing)
    (fun w c rows halt hw h => ?halt)
  all_goals
    obtain ⟨hread, hleft, _, hlimit⟩ := left_drain hw (rowsReply decoder shape)
      (Rows.start w.destination) rows.destination
    have hstart : Rows.start w.destination = Rows.start destination := by
      rw [Rows.start, hw.cleared, Rows.start]
    rw [hstart] at h hread hleft hlimit
    rw [h] at hread hleft hlimit
  case ok =>
    have hdescribed := described_readBody (statement.reply arguments).body
      (statement.reply_plain arguments) _ _ hread.symm
    refine ⟨hdescribed, hleft, ?_⟩
    simp only [Statement.rowsOutcome]
    rw [← hread]
    simp [hmissing]
  case missing =>
    have hquiet : c.IsQuiet := hleft.settles.resolve_left (by rintro ⟨e, he, _⟩; cases he)
    refine ⟨⟨hleft.peer, .inr hquiet, hleft.sound⟩, ?_⟩
    simp only [Statement.rowsOutcome]
    rw [← hread]
    simp [hmissing]
  case halt =>
    refine ⟨hleft, ?_⟩
    simp only [Statement.rowsOutcome]
    rw [← hread]

/-- Reading a description in place of results tells the types of the statement, when they can be
read. -/
lemma ensures_readRows_described (P : σ → Prop) (decoder : Decoder) (shape : Shape) :
    Ensures (fun w => w.Waiting peer served limit destination statement.described
        ∧ P w.connection.server)
      (readRows query decoder shape)
      (fun described w => ∃ pair, described = some pair
        ∧ DescriptorPair.parse statement.types = .ok pair
        ∧ w.Idle peer served limit destination ∧ P w.connection.server)
      (fun halt w => w.Left peer served (.error halt)
        ∧ ((∃ e, DescriptorPair.parse statement.types = .error e ∧ halt = .failed e)
          ∨ statement.Oversized limit halt)) := by
  have hread (d : Destination) := Answer.read_one statement.described_eq limit
    (rowsReply decoder shape) (Rows.start d)
  simp only [Handler.respond, rowsReply, noteTypes] at hread
  refine ensures_readRows (fun w c rows hw h hmissing => ?ok) (fun w c rows hw h hmissing => ?missing)
    (fun w c rows halt hw h => ?halt)
  all_goals
    obtain ⟨hvalue, hleft, hserver, hlimit⟩ := left_drain hw.1 (rowsReply decoder shape)
      (Rows.start w.destination) rows.destination
    rw [h] at hvalue hleft hserver hlimit
    have hread := hread w.destination
    rw [← hvalue] at hread
    cases hparse : DescriptorPair.parse statement.types
  case ok.error e => simp [hparse, Connection.ending] at hread
  case missing.error e => simp [hparse, Connection.ending] at hread
  case halt.error e =>
    refine ⟨hleft, ?_⟩
    obtain h | ⟨hfits, _, size, h⟩ := hread
    · simp only [hparse, Connection.ending, Prod.mk.injEq, Except.error.injEq] at h
      exact .inl ⟨e, rfl, h.2⟩
    · cases h
      exact .inr ⟨fun hall => hfits hall.2, size, rfl⟩
  case halt.ok pair =>
    obtain h | ⟨hfits, _, size, h⟩ := hread
    · simp [hparse, Connection.ending] at h
    · cases h
      exact ⟨hleft, .inr ⟨fun hall => hfits hall.2, size, rfl⟩⟩
  case missing.ok pair =>
    obtain h | ⟨_, _, _, h⟩ := hread
    · simp only [hparse, Prod.mk.injEq] at h
      rw [h.1] at hmissing
      simp [Rows.isMissing] at hmissing
    · cases h
  case ok.ok pair =>
    obtain h | ⟨_, _, _, h⟩ := hread
    · simp only [hparse, Prod.mk.injEq] at h
      have hquiet : c.IsQuiet := hleft.settles.resolve_left (by rintro ⟨e, he, _⟩; cases he)
      rw [h.1]
      refine ⟨pair, rfl, rfl, ⟨hleft.peer, hlimit, hquiet, hleft.sound, ?_⟩, hserver ▸ hw.2⟩
      exact w.destination.cleared_cleared.trans hw.1.cleared
    · cases h

/-- Reading a refusal in place of results ends with it. -/
lemma ensures_readRows_refused (refusal : Refusal) (decoder : Decoder) (shape : Shape) :
    Ensures (fun w => w.Waiting peer served limit destination refusal.answer)
      (readRows query decoder shape) (fun _ _ => False)
      (fun halt w => w.Left peer served (.error halt)
        ∧ refusal.outcome limit = .error halt) := by
  refine ensures_readRows (fun w c rows hw h hmissing => ?ok) (fun w c rows hw h hmissing => ?missing)
    (fun w c rows halt hw h => ?halt)
  all_goals
    obtain ⟨hvalue, hleft, _, _⟩ := left_drain hw (rowsReply decoder shape)
      (Rows.start w.destination) rows.destination
    obtain ⟨halt', houtcome, hread⟩ := refusal.read_answer limit (rowsReply decoder shape)
      (Rows.start w.destination)
    rw [hread, h] at hvalue
    rw [h] at hleft
    cases hvalue
  exact ⟨hleft, houtcome⟩

/-! ## The outcome, step by step -/

/-- A query ends early with the outcome of its statement, or because a message that tells of the
statement is too long. -/
def Stops (peer : Peer σ) (served : DescriptorPair → Prop) (limit : Nat) (statement : Statement)
    (outcome : Except Halt Unit) (halt : Halt) (w : Workspace σ) : Prop :=
  w.Left peer served (.error halt) ∧ (outcome = .error halt ∨ statement.Oversized limit halt)

/-- A query comes to its end with the outcome of its statement. -/
def Arrives (peer : Peer σ) (served : DescriptorPair → Prop) (outcome : Except Halt Unit × Destination)
    (w : Workspace σ) : Prop :=
  w.Left peer served (.ok ()) ∧ outcome = (.ok (), w.destination)

lemma outcome_of_parse {e : Error} (h : DescriptorPair.parse statement.types = .error e) :
    statement.outcome limit query type destination = (.error (.failed e), destination) := by
  simp [Statement.outcome, h]

variable {pair : DescriptorPair} {codec : Codec}

lemma outcome_of_build {e : Error} (h : DescriptorPair.parse statement.types = .ok pair)
    (hbuild : Codec.build pair type.shape = .error e) :
    statement.outcome limit query type destination = (.error (.failed e), destination) := by
  simp [Statement.outcome, h, hbuild]

lemma outcome_of_encode {e : Error} (h : DescriptorPair.parse statement.types = .ok pair)
    (hbuild : Codec.build pair type.shape = .ok codec)
    (hencode : codec.encoder.encodeArguments query.arguments = .error e) :
    statement.outcome limit query type destination = (.error (.failed e), destination) := by
  simp [Statement.outcome, h, hbuild, hencode]

lemma outcome_of_arguments {arguments : Bytes}
    (h : DescriptorPair.parse statement.types = .ok pair)
    (hbuild : Codec.build pair type.shape = .ok codec)
    (hencode : codec.encoder.encodeArguments query.arguments = .ok arguments) :
    statement.outcome limit query type destination
      = statement.rowsOutcome limit query codec.decoder type.shape destination arguments := by
  simp [Statement.outcome, h, hbuild, hencode]

variable {catalog : Catalog σ} {compiled : σ → Option Statement}

section

variable (hserves : Serves peer catalog compiled)

include hserves

/-- Compiling a statement tells its identifiers. -/
lemma ensures_prepare (outcome : Except Halt Unit) :
    Ensures (fun w => w.Idle peer served limit destination
        ∧ catalog w.connection.server query.toQueryKey = .ok statement)
      (prepare query)
      (fun ids w => (w.Idle peer served limit destination
        ∧ compiled w.connection.server = some statement) ∧ ids = statement.types.ids)
      (Stops peer served limit statement outcome) := by
  refine (ensures_send_answers fun s hs => hserves.prepare s _ _ hs).bind fun _ => ?_
  refine ((ensures_drain_answer (compiled · = some statement) prepareReply none).weaken (fun _ hw => hw) (fun _ _ hw => hw)
    fun halt w hw => ?stop).bind fun ids => ?done
  all_goals have hread := Answer.read_one statement.prepared_eq limit prepareReply none
  case stop =>
    obtain ⟨hleft, value, hvalue⟩ := hw
    refine ⟨hleft, .inr ?_⟩
    rw [hvalue] at hread
    obtain h | ⟨hfits, _, size, h⟩ := hread
    · cases h
    · cases h
      exact ⟨fun hall => hfits hall.1, size, rfl⟩
  case done =>
    intro w hw
    obtain ⟨hidle, hcompiled, hvalue⟩ := hw
    rw [hvalue] at hread
    obtain h | ⟨_, _, _, h⟩ := hread
    · cases h
      exact ⟨⟨hidle, hcompiled⟩, rfl⟩
    · cases h

/-- Describing a statement tells its types, when they can be read. -/
lemma ensures_describe :
    Ensures (fun w => w.Idle peer served limit destination
        ∧ compiled w.connection.server = some statement)
      (describe query)
      (fun pair w => (w.Idle peer served limit destination
        ∧ compiled w.connection.server = some statement)
        ∧ DescriptorPair.parse statement.types = .ok pair)
      (Stops peer served limit statement (statement.outcome limit query type destination).1) := by
  refine (ensures_send_answers fun s hs => hserves.describe s _ _ hs).bind fun _ => ?_
  refine ((ensures_drain_answer (compiled · = some statement) describeReply none).weaken (fun _ hw => hw) (fun _ _ hw => hw)
    fun halt w hw => ?stop).bind fun known => ?done
  all_goals have hread := Answer.read_one statement.described_eq limit describeReply none
  case stop =>
    obtain ⟨hleft, value, hvalue⟩ := hw
    refine ⟨hleft, ?_⟩
    rw [hvalue] at hread
    obtain h | ⟨hfits, _, size, h⟩ := hread
    · left
      cases hparse : DescriptorPair.parse statement.types with
      | ok pair => simp [Handler.respond, describeReply, noteTypes, hparse, Connection.ending] at h
      | error e =>
        simp only [Handler.respond, describeReply, noteTypes, hparse, Connection.ending,
          Prod.mk.injEq] at h
        rw [outcome_of_parse hparse, h.2]
    · cases h
      exact .inr ⟨fun hall => hfits hall.2, size, rfl⟩
  case done =>
    intro w hw
    obtain ⟨hidle, hcompiled, hvalue⟩ := hw
    rw [hvalue] at hread
    obtain h | ⟨_, _, _, h⟩ := hread
    · cases hparse : DescriptorPair.parse statement.types with
      | ok pair =>
        simp only [Handler.respond, describeReply, noteTypes, hparse, Connection.ending,
          Prod.mk.injEq] at h
        obtain ⟨rfl, _⟩ := h
        exact ⟨⟨hidle, hcompiled⟩, rfl⟩
      | error e => simp [Handler.respond, describeReply, noteTypes, hparse, Connection.ending] at h
    · cases h

/-- Running the statement compiled last comes to its outcome. -/
lemma ensures_executePrepared (hparse : DescriptorPair.parse statement.types = .ok pair)
    (hbuild : Codec.build pair type.shape = .ok codec) :
    Ensures (fun w => w.Idle peer served limit destination
        ∧ compiled w.connection.server = some statement)
      (executePrepared query codec type.shape)
      (fun _ => Arrives peer served (statement.outcome limit query type destination))
      (Stops peer served limit statement (statement.outcome limit query type destination).1) := by
  refine ensures_ofExcept_bind (fun arguments hencode => ?sent) fun e w hencode hw => ?refused
  case refused => exact ⟨hw.1.left _, .inl (by rw [outcome_of_encode hparse hbuild hencode])⟩
  case sent =>
    have houtcome : statement.outcome limit query type destination = _ :=
      outcome_of_arguments hparse hbuild hencode
    refine (ensures_send_answered fun s hs => hserves.execute s _ arguments _ hs).bind fun _ => ?_
    refine ((ensures_readRows_reply codec.decoder type.shape arguments).weaken
      (fun _ hw => hw) (fun _ _ hw => hw) fun halt w hw => ?stop).bind fun described => ?done
    case stop => exact ⟨hw.1, .inl (houtcome ▸ hw.2)⟩
    case done =>
      rintro w ⟨rfl, hleft, hrows⟩
      exact ⟨hleft, houtcome.trans hrows⟩

/-- Running the statement compiled last, once its types are known, comes to its outcome. -/
lemma ensures_executeWith (hserved : served pair)
    (hparse : DescriptorPair.parse statement.types = .ok pair) :
    Ensures (fun w => w.Idle peer served limit destination
        ∧ compiled w.connection.server = some statement)
      (executeWith query ⟨query.toQueryKey, type⟩ pair)
      (fun _ => Arrives peer served (statement.outcome limit query type destination))
      (Stops peer served limit statement (statement.outcome limit query type destination).1) := by
  refine (idle_changeCache (compiled · = some statement) fun cache hcache =>
    hcache.putPair hserved _).bind fun _ => ?_
  refine ((ensures_buildCodec (compiled · = some statement) _ hserved).weaken (fun _ hw => hw)
    (fun _ _ hw => hw) fun halt w hw => ?stop).bind fun codec w hw => ?done
  case stop =>
    obtain ⟨hidle, e, hbuild, rfl⟩ := hw
    exact ⟨hidle.left _, .inl (by rw [outcome_of_build hparse hbuild])⟩
  case done => exact ensures_executePrepared hserves hparse hw.2 w hw.1

section

variable (hids : ∀ pair, served pair → statement.types.ids = pair.ids →
    DescriptorPair.parse statement.types = .ok pair)
  (hself : ∀ pair, DescriptorPair.parse statement.types = .ok pair → served pair)

include hids

/-- The types with the identifiers of a statement are its types, from wherever they come. -/
lemma ensures_typesOf :
    Ensures (fun w => w.Idle peer served limit destination
        ∧ compiled w.connection.server = some statement)
      (typesOf query statement.types.ids)
      (fun pair w => (w.Idle peer served limit destination
        ∧ compiled w.connection.server = some statement)
        ∧ DescriptorPair.parse statement.types = .ok pair)
      (Stops peer served limit statement (statement.outcome limit query type destination).1) := by
  refine ensures_get fun w hw => ?_
  cases hfind : w.cache.pairById? statement.types.ids with
  | some pair =>
    refine ensures_pure fun w' hw' => ?_
    obtain ⟨heq, hserved⟩ := hw.1.sound.pairs _ _ hfind
    exact ⟨hw' ▸ hw, hids pair hserved heq.symm⟩
  | none =>
    exact (ensures_describe hserves).weaken (fun w' hw' => hw' ▸ hw) (fun _ _ h => h)
      (fun _ _ h => h)

include hself

/-- A query of which nothing is known comes to the outcome of its statement. -/
lemma ensures_pessimistic :
    Ensures (fun w => w.Idle peer served limit destination
        ∧ catalog w.connection.server query.toQueryKey = .ok statement)
      (pessimistic query ⟨query.toQueryKey, type⟩)
      (fun _ => Arrives peer served (statement.outcome limit query type destination))
      (Stops peer served limit statement (statement.outcome limit query type destination).1) := by
  refine (ensures_prepare hserves _).bind fun ids w hw => ?_
  obtain ⟨hw, rfl⟩ := hw
  refine ((ensures_typesOf hserves hids).bind fun pair w hw => ?_) w hw
  exact ensures_executeWith hserves (hself pair hw.2) hw.2 w hw.1

/-- A query with a codec comes to the outcome of its statement, even if the codec was built for
other types. -/
lemma ensures_optimistic (hcodec : ∃ pair, served pair ∧ Codec.build pair type.shape = .ok codec) :
    Ensures (fun w => w.Idle peer served limit destination
        ∧ catalog w.connection.server query.toQueryKey = .ok statement)
      (optimistic query ⟨query.toQueryKey, type⟩ codec)
      (fun _ => Arrives peer served (statement.outcome limit query type destination))
      (Stops peer served limit statement (statement.outcome limit query type destination).1) := by
  simp only [optimistic]
  cases hencode : codec.encoder.encodeArguments query.arguments with
  | error e =>
    exact (idle_changeCache (catalog · query.toQueryKey = .ok statement) fun cache hcache =>
      hcache.invalidate _).bind fun _ => ensures_pessimistic hserves hids hself
  | ok arguments =>
    by_cases hsame : statement.types.ids = (codec.inputId, codec.outputId)
    · -- The types are still those of the codec, so the statement runs at once.
      obtain ⟨pair, hserved, hbuild⟩ := hcodec
      have hparse := hids pair hserved (hsame.trans (Codec.ids_of_build hbuild))
      have houtcome : statement.outcome limit query type destination = _ :=
        outcome_of_arguments hparse hbuild hencode
      refine (ensures_send_answered fun s hs =>
        hserves.optimistic s _ _ arguments statement hs hsame).bind fun _ => ?_
      refine ((ensures_readRows_reply codec.decoder type.shape arguments).weaken
        (fun _ hw => hw) (fun _ _ hw => hw) fun halt w hw => ?stop).bind fun described => ?done
      case stop => exact ⟨hw.1, .inl (houtcome ▸ hw.2)⟩
      case done =>
        rintro w ⟨rfl, hleft, hrows⟩
        exact ⟨hleft, houtcome.trans hrows⟩
    · -- The statement has other types by now, and these are described.
      refine (ensures_send_answers fun s hs =>
        hserves.optimistic_other s _ _ arguments statement hs hsame).bind fun _ => ?_
      refine ((ensures_readRows_described (compiled · = some statement) _ _).weaken
        (fun _ hw => hw) (fun _ _ hw => hw) fun halt w hw => ?stop).bind fun described => ?done
      case stop =>
        obtain ⟨hleft, ⟨e, hparse, rfl⟩ | hoversized⟩ := hw
        · exact ⟨hleft, .inl (by rw [outcome_of_parse hparse])⟩
        · exact ⟨hleft, .inr hoversized⟩
      case done =>
        rintro w ⟨pair, rfl, hparse, hw⟩
        refine ((idle_changeCache (compiled · = some statement) fun cache hcache =>
          hcache.invalidate _).bind fun _ => ?_) w hw
        exact ensures_executeWith hserves (hself pair hparse) hparse

end

/-! ## Refusals -/

section

variable {refusal : Refusal}

lemma ensures_pessimistic_refused :
    Ensures (fun w => w.Idle peer served limit destination
        ∧ catalog w.connection.server query.toQueryKey = .error refusal)
      (pessimistic query ⟨query.toQueryKey, type⟩) (fun _ _ => False)
      (fun halt w => w.Left peer served (.error halt) ∧ refusal.outcome limit = .error halt) := by
  have hprepare : Ensures (fun w => w.Idle peer served limit destination
        ∧ catalog w.connection.server query.toQueryKey = .error refusal)
      (prepare query) (fun _ _ => False)
      (fun halt w => w.Left peer served (.error halt) ∧ refusal.outcome limit = .error halt) := by
    refine (ensures_send_answered fun s hs => hserves.prepare_refused s _ _ hs).bind fun _ => ?_
    refine ((ensures_drain_answer (fun _ => True) prepareReply none).weaken (fun _ hw => ⟨hw, trivial⟩)
      (fun _ _ hw => hw) fun halt w hw => ?stop).bind fun ids w hw => ?done
    all_goals
      obtain ⟨halt', houtcome, hread⟩ := refusal.read_answer limit prepareReply none
    case stop =>
      obtain ⟨hleft, value, hvalue⟩ := hw
      rw [hread] at hvalue
      cases hvalue
      exact ⟨hleft, houtcome⟩
    case done =>
      rw [hread] at hw
      cases hw.2.2
  exact hprepare.bind fun ids w hw => hw.elim

lemma ensures_optimistic_refused :
    Ensures (fun w => w.Idle peer served limit destination
        ∧ catalog w.connection.server query.toQueryKey = .error refusal)
      (optimistic query ⟨query.toQueryKey, type⟩ codec) (fun _ _ => False)
      (fun halt w => w.Left peer served (.error halt) ∧ refusal.outcome limit = .error halt) := by
  simp only [optimistic]
  cases hencode : codec.encoder.encodeArguments query.arguments with
  | error e =>
    exact (idle_changeCache (catalog · query.toQueryKey = .error refusal) fun cache hcache =>
      hcache.invalidate _).bind fun _ => ensures_pessimistic_refused hserves
  | ok arguments =>
    refine (ensures_send_answered fun s hs =>
      hserves.optimistic_refused s _ (codec.inputId, codec.outputId) arguments _ hs).bind fun _ => ?_
    exact (ensures_readRows_refused refusal _ _).bind fun described w hw => hw.elim

end

end

/-! ## Whole queries -/

/-- A query comes to what running it with a codec and without come to, unless the cache misleads. -/
lemma ensures_run_of {P : σ → Prop} {post : Unit → Workspace σ → Prop}
    (hoptimistic : ∀ codec, (∃ pair, served pair ∧ Codec.build pair type.shape = .ok codec) →
      Ensures (fun w => w.Idle peer served limit destination ∧ P w.connection.server)
        (optimistic query ⟨query.toQueryKey, type⟩ codec) post stop)
    (hpessimistic : Ensures (fun w => w.Idle peer served limit destination
        ∧ P w.connection.server) (pessimistic query ⟨query.toQueryKey, type⟩) post stop) :
    Ensures (fun w => (w.Idle peer served limit destination ∧ P w.connection.server)
        ∧ ∀ e, ¬ w.cache.Misleads ⟨query.toQueryKey, type⟩ e)
      (run query type) post stop := by
  have hfind : Ensures (fun w => (w.Idle peer served limit destination ∧ P w.connection.server)
        ∧ ∀ e, ¬ w.cache.Misleads ⟨query.toQueryKey, type⟩ e)
      (findCodec ⟨query.toQueryKey, type⟩)
      (fun codec w => (w.Idle peer served limit destination ∧ P w.connection.server)
        ∧ (∀ found, codec = some found →
          ∃ pair, served pair ∧ Codec.build pair type.shape = .ok found)
        ∧ (codec = none → ∀ pair e, w.cache.pairOf? query.toQueryKey = some pair →
          Codec.build pair type.shape ≠ .error e)) stop := by
    refine ensures_findCodec fun w hw => ⟨⟨⟨hw.1.1.peer, hw.1.1.limit, hw.1.1.quiet,
      hw.1.1.sound.findCodec _, hw.1.1.cleared⟩, hw.1.2⟩, ?_, ?_⟩
    · intro found hfind
      exact hw.1.1.sound.build_of_findCodec hfind
    · intro hfind pair e hpair hbuild
      rw [Cache.pairOf?_findCodec] at hpair
      exact hw.2 e ⟨Cache.findCodec_eq_none.1 hfind, pair, hpair, hbuild⟩
  refine hfind.bind fun codec w hw => ?_
  obtain ⟨hw, hfound, hmissing⟩ := hw
  cases codec with
  | some codec => exact hoptimistic codec (hfound codec rfl) w hw
  | none =>
    refine ensures_get (fun w' (hw' : w' = w) => ?_) w rfl
    subst hw'
    cases hpair : w'.cache.pairOf? query.toQueryKey with
    | none => exact hpessimistic.weaken (fun _ h => h ▸ hw) (fun _ _ h => h) (fun _ _ h => h)
    | some pair =>
      have hserved := hw.1.sound.queries _ _ hpair
      refine ((ensures_buildCodec P _ hserved).weaken (fun _ h => h ▸ hw) (fun _ _ h => h)
        fun halt w h => ?misled).bind fun codec w h => ?built
      case misled =>
        obtain ⟨_, e, hbuild, _⟩ := h
        exact absurd hbuild (hmissing rfl pair e hpair)
      case built => exact hoptimistic codec ⟨pair, hserved, h.2⟩ w h.1

variable (query type)

/-- **A query comes out as it ought to**, whatever the cache knows, unless the cache misleads. -/
theorem ensures_run (hserves : Serves peer catalog compiled)
    (hids : ∀ pair, served pair → statement.types.ids = pair.ids →
      DescriptorPair.parse statement.types = .ok pair)
    (hself : ∀ pair, DescriptorPair.parse statement.types = .ok pair → served pair) :
    Ensures (fun w => (w.Idle peer served limit destination
        ∧ catalog w.connection.server query.toQueryKey = .ok statement)
        ∧ ∀ e, ¬ w.cache.Misleads ⟨query.toQueryKey, type⟩ e)
      (run query type)
      (fun _ => Arrives peer served (statement.outcome limit query type destination))
      (Stops peer served limit statement (statement.outcome limit query type destination).1) :=
  ensures_run_of (P := (catalog · query.toQueryKey = .ok statement))
    (fun _ hcodec => ensures_optimistic hserves hids hself hcodec)
    (ensures_pessimistic hserves hids hself)

/-- A query for which the server has no statement comes to the refusal. -/
theorem ensures_run_refused {refusal : Refusal} (hserves : Serves peer catalog compiled) :
    Ensures (fun w => (w.Idle peer served limit destination
        ∧ catalog w.connection.server query.toQueryKey = .error refusal)
        ∧ ∀ e, ¬ w.cache.Misleads ⟨query.toQueryKey, type⟩ e)
      (run query type) (fun _ _ => False)
      (fun halt w => w.Left peer served (.error halt) ∧ refusal.outcome limit = .error halt) :=
  ensures_run_of (P := (catalog · query.toQueryKey = .error refusal))
    (fun _ _ => ensures_optimistic_refused hserves) (ensures_pessimistic_refused hserves)

/-- When the cache misleads, a query fails with the error of building a codec, and nothing is
sent. -/
lemma run_of_misleads {w : Workspace σ} {e : Error}
    (h : w.cache.Misleads ⟨query.toQueryKey, type⟩ e) :
    run query type w
      = .error (.failed e)
          { w with cache := (w.cache.findCodec ⟨query.toQueryKey, type⟩).2 } := by
  obtain ⟨hnone, pair, hpair, hbuild⟩ := h
  have hrun : Ensures (fun w' => w' = w) (run query type) (fun _ _ => False) (fun halt w' =>
      halt = .failed e
        ∧ w' = { w with cache := (w.cache.findCodec ⟨query.toQueryKey, type⟩).2 }) := by
    have hfind : Ensures (fun w' => w' = w) (findCodec ⟨query.toQueryKey, type⟩)
        (fun codec w' => codec = none
          ∧ w' = { w with cache := (w.cache.findCodec ⟨query.toQueryKey, type⟩).2 })
        (fun halt w' => halt = .failed e
          ∧ w' = { w with cache := (w.cache.findCodec ⟨query.toQueryKey, type⟩).2 }) :=
      ensures_findCodec fun w' hw' => by
        subst hw'
        exact ⟨Cache.findCodec_eq_none.2 hnone, rfl⟩
    refine hfind.bind fun codec w' hw' => ?_
    obtain ⟨rfl, rfl⟩ := hw'
    refine ensures_get (fun w' (hw' : w' = _) => ?_) _ rfl
    subst hw'
    have hpair' := (Cache.pairOf?_findCodec w.cache ⟨query.toQueryKey, type⟩ query.toQueryKey).trans
      hpair
    simp only [hpair']
    simp only [buildCodec]
    simp only [hbuild]
    exact fun w' hw' => ⟨rfl, hw'⟩
  have hdone := hrun w rfl
  cases hresult : run query type w with
  | ok _ w' =>
    rw [hresult] at hdone
    exact hdone.elim
  | error halt w' =>
    rw [hresult] at hdone
    obtain ⟨rfl, rfl⟩ := hdone
    rfl

end

end Flow

end QueryWire
