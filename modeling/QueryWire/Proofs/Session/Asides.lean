import QueryWire.Proofs.Connection.Asides
import QueryWire.Proofs.Session.Chunks
import QueryWire.Proofs.Session.History

/-!
# Messages that may come at any point do not disturb a call

A server that puts records of its log and values of its parameters between its other messages is
seen to do the same as one that does not, but for the parameters; and of each parameter the last
value that was read is kept.

* `Observation.unannounced` — what can be seen of a call, without the parameters.
* `Response.lastAnnounced` — the last value that responses give to a parameter.
* `Session.Hears` — the responses that a sequence of calls reads.
* `Session.Hears.get?_parameters` — the parameters after the calls.
* **`Session.observations_of_woven`** — the messages change nothing but the parameters.
-/

namespace QueryWire

variable {σ τ : Type}

open Connection

/-- What can be seen of a call and after it, without the parameters of the server. -/
def Observation.unannounced (observation : Observation) : Observation :=
  { observation with parameters := .empty }

/-! ## Parameters -/

namespace Response

/-- The parameters after a response. -/
def announce (parameters : Table String Bytes) : Response → Table String Bytes
  | .parameter name value => parameters.insert (Utf8.decodeLossy name) value
  | _ => parameters

/-- The value that a response gives to a parameter, the name being read as text. -/
def announced? (name : String) : Response → Option Bytes
  | .parameter given value => if Utf8.decodeLossy given = name then some value else none
  | _ => none

/-- The last value that responses give to a parameter. -/
def lastAnnounced (name : String) (responses : List Response) : Option Bytes :=
  (responses.filterMap (announced? name)).getLast?

lemma get?_announce (parameters : Table String Bytes) (response : Response) (name : String) :
    (announce parameters response).get? name
      = (announced? name response).or (parameters.get? name) := by
  cases response with
  | parameter given value =>
    rw [announce, Table.get?_insert, announced?]
    by_cases hname : Utf8.decodeLossy given = name
    · rw [if_pos hname, if_pos hname.symm, Option.some_or]
    · rw [if_neg hname, if_neg (Ne.symm hname), Option.none_or]
  | _ => rfl

lemma lastAnnounced_cons (name : String) (response : Response) (responses : List Response) :
    lastAnnounced name (response :: responses)
      = (lastAnnounced name responses).or (announced? name response) := by
  rw [lastAnnounced, lastAnnounced]
  cases hvalue : announced? name response with
  | none => rw [List.filterMap_cons_none hvalue, Option.or_none]
  | some value =>
    rw [List.filterMap_cons_some hvalue, List.getLast?_cons]
    cases (responses.filterMap (announced? name)).getLast? <;> rfl

/-- A parameter has the last value that it is given, or keeps its value. -/
lemma get?_foldl_announce (responses : List Response) (parameters : Table String Bytes)
    (name : String) : (responses.foldl announce parameters).get? name
      = (lastAnnounced name responses).or (parameters.get? name) := by
  induction responses generalizing parameters with
  | nil => rfl
  | cons response responses ih =>
    rw [List.foldl_cons, ih, get?_announce, lastAnnounced_cons, Option.or_assoc]

end Response

/-! ## What is announced in a call -/

namespace Connection

lemma parameters_take (c : Connection σ) (response : Response) :
    (c.take response).parameters = response.announce c.parameters := by
  cases response <;> rfl

lemma parameters_of_receive {c c' : Connection σ} {outcome : Except Halt Response}
    (h : c.receive = (outcome, c')) : c'.parameters = c.parameters := by
  obtain ⟨inbox, rfl⟩ := exists_inbox_of_receive h
  rfl

lemma parameters_send (c : Connection σ) (request : Request) :
    (c.send request).2.parameters = c.parameters := by
  unfold send
  dsimp only
  split <;> rfl

lemma parameters_begin (c : Connection σ) : c.begin.2.parameters = c.parameters := by
  have hnotice : c.noticeCancelled.parameters = c.parameters := by
    simp only [noticeCancelled]
    split <;> rfl
  simp only [Connection.begin]
  split <;> exact hnotice

/-- The parameters after a cycle are those before, with what was announced in it. -/
lemma Reads.parameters_eq {α : Type} {handle : Handler α} {c : Connection σ} {value : α}
    {held : Option Error} {responses : List Response} {done : Cycle σ α}
    (h : c.Reads handle value held responses done) :
    done.connection.parameters = responses.foldl Response.announce c.parameters := by
  induction h with
  | halt h => exact parameters_of_receive h
  | ready h | fatal h _ _ _ =>
    rw [List.foldl_cons, List.foldl_nil, ← parameters_of_receive h]
    exact parameters_take _ _
  | go h _ _ _ _ ih =>
    rw [ih, List.foldl_cons, ← parameters_of_receive h, parameters_take]

end Connection

namespace Turn

lemma Heard.parameters_eq {α : Type} {handle : Handler α} {start result : α} {t : Turn σ}
    (h : t.Heard handle start result) :
    t.after.parameters = t.responses.foldl Response.announce t.before.parameters := by
  cases h with
  | @unsent c c' request halt hsend =>
    have hsame := c.parameters_send request
    rwa [hsend] at hsame
  | @sent c c' request responses done hsend hreads =>
    have hsame := c.parameters_send request
    rw [hsend] at hsame
    exact hreads.parameters_eq.trans (congrArg (responses.foldl Response.announce) hsame)

lemma Leads.parameters_eq {c c' : Connection σ} {turns : List (Turn σ)} (h : Leads c turns c')
    (hheard : ∀ t ∈ turns, t.IsHeard) :
    c'.parameters = (turns.flatMap Turn.responses).foldl Response.announce c.parameters := by
  induction h with
  | nil => rfl
  | @cons t turns c _ ih =>
    obtain ⟨_, _, _, _, ht⟩ := hheard t List.mem_cons_self
    rw [ih fun t' ht' => hheard t' (List.mem_cons_of_mem _ ht'), ht.parameters_eq,
      List.flatMap_cons, List.foldl_append]

end Turn

namespace Session

variable {session : Session σ}

/-- The parameters after a call are those before, with what was announced in its turns. -/
lemma Goes.parameters_eq {call : Call} {turns : List (Turn σ)} (h : session.Goes call turns) :
    (session.perform call).1.connection.parameters
      = (turns.flatMap Turn.responses).foldl Response.announce session.connection.parameters := by
  cases h with
  | refused husable =>
    obtain ⟨reason, c, hbegin, _⟩ := begin_of_not_isUsable husable
    have hsame := session.connection.parameters_begin
    rw [hbegin] at hsame
    rw [perform_of_begin hbegin]
    exact hsame
  | @taken turns c _ hleads hconnection hcourse =>
    obtain ⟨broken, log, hfinish⟩ := exists_finish_eq c (session.perform call).2
    rw [hconnection, hfinish]
    exact hleads.parameters_eq hcourse.isHeard

/-- The responses that calls read, made one after the other. -/
inductive Hears : Session σ → List Call → List Response → Prop
  | nil {session : Session σ} : Hears session [] []
  | cons {session : Session σ} {call : Call} {calls : List Call} {turns : List (Turn σ)}
      {responses : List Response} :
      session.Goes call turns → Hears (session.perform call).1 calls responses →
      Hears session (call :: calls) (turns.flatMap Turn.responses ++ responses)

/-- Any calls read some responses. -/
lemma exists_hears (session : Session σ) (calls : List Call) :
    ∃ responses, session.Hears calls responses := by
  induction calls generalizing session with
  | nil => exact ⟨[], .nil⟩
  | cons call calls ih =>
    obtain ⟨turns, hgoes⟩ := session.exists_goes call
    obtain ⟨responses, hhears⟩ := ih (session.perform call).1
    exact ⟨_, .cons hgoes hhears⟩

/-- **After calls** a parameter has the last value that it was given in what they read. -/
theorem Hears.get?_parameters {calls : List Call} {responses : List Response}
    (h : session.Hears calls responses) (name : String) :
    (session.afterAll calls).connection.parameters.get? name
      = (Response.lastAnnounced name responses).or (session.connection.parameters.get? name) := by
  rw [← Response.get?_foldl_announce]
  congr 1
  induction h with
  | nil => rfl
  | @cons session call calls turns responses hgoes _ ih =>
    rw [afterAll, List.foldl_cons, List.foldl_append, ← hgoes.parameters_eq]
    exact ih

variable {session' : Session τ} {R : Option Bytes → σ → τ → Prop}

/-- One call is seen to be the same, but for the parameters. -/
lemma observe_of_woven (h : Session.Matches (Connection.Woven R) session session') (call : Call) :
    (session'.observe call).unannounced = (session.observe call).unannounced := by
  obtain ⟨houtcome, hfilled, hafter⟩ := (Connection.simulation_woven R).perform h call
  simp only [observe, Observation.unannounced, houtcome, hfilled, hafter.cache,
    hafter.connection.sent, hafter.connection.transaction, hafter.connection.isUsable]

/-- **Messages that may come at any point.**  The server of one session puts records of its log and
values of its parameters between the messages that the server of another sends, however many and
between whichever.  Then any sequence of calls is seen to be the same on both, but for the parameters:
every call has the same outcome, writes the same requests and leaves the same destination, cache
and state of transactions, and the connections are usable for the same calls.  A parameter has the
last value that it is given in what the calls read, under its name read as text, or else the value
that it had before. -/
theorem observations_of_woven (h : Session.Matches (Connection.Woven R) session session')
    (calls : List Call) :
    (session'.observations calls).map Observation.unannounced
        = (session.observations calls).map Observation.unannounced
      ∧ ∃ responses, session'.Hears calls responses ∧ ∀ name,
        (session'.afterAll calls).connection.parameters.get? name
          = (Response.lastAnnounced name responses).or
            (session'.connection.parameters.get? name) := by
  constructor
  · induction calls generalizing session session' with
    | nil => rfl
    | cons call calls ih =>
      obtain ⟨-, -, hafter⟩ := (Connection.simulation_woven R).perform h call
      rw [observations, observations, List.map_cons, List.map_cons, observe_of_woven h, ih hafter]
  · obtain ⟨responses, hhears⟩ := session'.exists_hears calls
    exact ⟨responses, hhears, hhears.get?_parameters⟩

end Session

namespace Noisy

/-- A record of the server's log. -/
def logged : Bytes := [0x4C, 0, 0, 0, 17, 0x50, 0, 0, 0, 1, 0, 0, 0, 2, 0x68, 0x69, 0, 0]

/-- A value of the parameter `a`. -/
def announced (value : UInt8) : Bytes := [0x53, 0, 0, 0, 14, 0, 0, 0, 1, 0x61, 0, 0, 0, 1, value]

/-- A script is done. -/
def done : Bytes := [0x43, 0, 0, 0, 12, 0, 0, 0, 0, 0, 2, 0x4F, 0x4B]

/-- The server is ready. -/
def ready : Bytes := [0x5A, 0, 0, 0, 7, 0, 0, 0x49]

/-- A session whose server says the same to two scripts. -/
def session (bytes : Bytes) : Session (List Reply) where
  connection :=
    { settings := .initial
      peer := .script
      server := [.accept [.bytes bytes], .accept [.bytes bytes]] }
  cache := .new 1

/-- What a server says that is quiet. -/
def quiet : Bytes := done ++ ready

/-- What a server says that is not. -/
def noisy : Bytes := logged ++ done ++ announced 0x31 ++ ready ++ announced 0x32

/-- The longest message that both sessions accept. -/
def limit : Nat := Settings.initial.maxMessageSize.toNat

lemma isWhole_done : Frame.IsWhole limit done := by decide +kernel

lemma isWhole_ready : Frame.IsWhole limit ready := by decide +kernel

lemma isAside_logged : Frame.IsAside limit logged :=
  ⟨by decide +kernel, .log 0x50 1 "hi", by decide +kernel, rfl⟩

lemma isAside_announced {value : UInt8} (h : value = 0x31 ∨ value = 0x32) :
    Frame.IsAside limit (announced value) := by
  refine ⟨?_, .parameter [0x61] [value], ?_, rfl⟩
  · rcases h with rfl | rfl <;> decide +kernel
  · rcases h with rfl | rfl <;> decide +kernel

/-- One answer goes along with the other, and so does what follows on both. -/
lemma weaves_noisy {stream stream' : List Signal} {pending : Option Bytes}
    (h : Weaves limit stream stream' pending) :
    Weaves limit (Arrival.stream [.bytes quiet] ++ stream)
      (Arrival.stream [.bytes noisy] ++ stream') pending := by
  have hquiet : Arrival.stream [.bytes quiet] ++ stream
      = done.map .byte ++ (ready.map .byte ++ stream) := rfl
  have hnoisy : Arrival.stream [.bytes noisy] ++ stream'
      = logged.map .byte ++ (done.map .byte ++ ((announced 0x31).map .byte
        ++ (ready.map .byte ++ ((announced 0x32).map .byte ++ stream')))) := rfl
  rw [hquiet, hnoisy]
  exact .aside isAside_logged (.frame isWhole_done (.aside (isAside_announced (.inl rfl))
    (.frame isWhole_ready (.aside (isAside_announced (.inr rfl)) h))))

lemma matches_session : Session.Matches (Connection.Woven (Reply.AllWoven limit)) (session quiet)
    (session noisy) := by
  have hnothing : Weaves limit (([] : Bytes).map .byte) (([] : Bytes).map .byte) (some []) :=
    .part rfl
  have hreply : Reply.Woven limit (some []) (some []) (.accept [.bytes quiet])
      (.accept [.bytes noisy]) := by
    refine .accept ?_
    have hanswer := weaves_noisy hnothing
    rw [List.map_nil, List.append_nil, List.append_nil] at hanswer
    exact hanswer
  exact ⟨⟨rfl, Peer.woven_script limit, ⟨some [], hnothing, .cons hreply (.cons hreply (.nil hnothing))⟩,
    rfl, rfl, rfl, rfl⟩, rfl⟩

/-- Two scripts. -/
def calls : List Call := [.execute "create type A", .execute "drop type A"]

/-- They are seen to be the same with and without the messages that were put in. -/
theorem observations_noisy :
    Session.Matches (Connection.Woven (Reply.AllWoven limit)) (session quiet) (session noisy)
      ∧ ((session noisy).observations calls).map Observation.unannounced
        = ((session quiet).observations calls).map Observation.unannounced
      ∧ ∃ responses, (session noisy).Hears calls responses ∧ ∀ name,
        ((session noisy).afterAll calls).connection.parameters.get? name
          = (Response.lastAnnounced name responses).or
            ((session noisy).connection.parameters.get? name) :=
  ⟨matches_session, Session.observations_of_woven matches_session calls⟩

/-- The last value that was read is the one in front of the end of the second script. -/
example : ((session noisy).afterAll calls).connection.parameters.get? "a" = some [0x31] := by
  decide +kernel

end Noisy

end QueryWire
