import QueryWire.Proofs.Session.History
import QueryWire.Proofs.Session.Simulation

/-!
# An unusable connection is inert

A connection becomes unusable for one reason, and that reason stays.  From then on a call does
nothing: it is refused for the reason, and the session is the same after it, down to the last byte
that was not read.

* `Error.reason` — why the connection is unusable after a fatal error.
* `Session.broken_of_isFatal` — a call that fails with one leaves the reason behind.
* `Session.perform_of_broken` — with a reason on record a call does nothing.
* `Session.left?` — what a call leaves behind that is dropped while it waits.
* **`Session.inert`** — after a fatal error nothing happens any more, and after a call that was
  dropped the next one is refused.
-/

namespace QueryWire

variable {σ : Type}

open Connection QueryWire.Flow

/-- Why the connection is unusable after a fatal error: the error itself, unless it says so. -/
def Error.reason : Error → String
  | .connectionUnusable reason => reason
  | e => e.message

/-- What a call is to put its results into, if it has any. -/
def Call.destination? : Call → Option Destination
  | .run _ _ destination => some destination
  | .execute _ => none

namespace Session

/-! ## Nothing happens on a broken connection -/

/-- A connection that has a reason on record is refused for it. -/
lemma begin_of_broken {c : Connection σ} {reason : String} (h : c.broken = some reason) :
    c.begin = (.error (.connectionUnusable reason), c) := by
  simp [Connection.begin, noticeCancelled, h]

/-- **With a reason on record** a call is refused for it, and the session stays as it is. -/
theorem perform_of_broken {session : Session σ} {reason : String}
    (h : session.connection.broken = some reason) (call : Call) :
    session.perform call = (session, .error (.failed (.connectionUnusable reason))) :=
  perform_of_begin (begin_of_broken h) call

/-- A query on a broken connection leaves its destination as it is. -/
lemma filled_of_broken {session : Session σ} {reason : String}
    (h : session.connection.broken = some reason) (call : Call) :
    session.filled call = call.destination? := by
  cases call with
  | run query type destination =>
    simp only [filled, Call.destination?, Session.run, begin_of_broken h]
  | execute script => rfl

/-- Any number of calls leave a broken connection, and all else, as it is. -/
lemma afterAll_of_broken {session : Session σ} {reason : String}
    (h : session.connection.broken = some reason) (calls : List Call) :
    session.afterAll calls = session := by
  induction calls with
  | nil => rfl
  | cons call calls ih =>
    rw [afterAll, List.foldl_cons, perform_of_broken h]
    exact ih

/-! ## What puts a reason on record -/

/-- A call is refused for the reason that is on record by then. -/
lemma broken_of_begin {c c' : Connection σ} {e : Error} (h : c.begin = (.error e, c')) :
    c'.broken = some e.reason := by
  simp only [Connection.begin] at h
  split at h
  · rename_i reason hbroken
    cases h
    exact hbroken
  · cases h

/-- What a call on a usable connection fails with came up on the way, unless there was no result. -/
lemma isRaised_of_perform {session : Session σ} (husable : session.connection.isUsable = true)
    {call : Call} {halt : Halt} (h : (session.perform call).2 = .error halt) :
    halt.IsRaised ∨ halt = .failed .zeroResults := by
  cases call with
  | run query type destination =>
    obtain ⟨turns, _, hends⟩ := session.exists_goes_run query type destination
    have hends := hends husable
    rw [show (session.run query type destination).outcome = .error halt from h] at hends
    generalize (session.run query type destination).result = result at hends
    cases hends with
    | unread _ hraised | unsent _ _ _ hraised | broken _ _ hraised | redescribed _ _ _ hraised =>
      exact .inl hraised
    | missing _ _ _ => exact .inr rfl
  | execute script =>
    obtain ⟨responses, hheard⟩ := Turn.exists_heard session.connection
      (.executeScript session.connection.settings.headers script) scriptReply ()
    simp only [perform, execute, Connection.execute, begin_of_isUsable husable] at h
    exact .inl (hheard.isRaised raises_scriptReply h)

/-- A call on a usable connection leaves it with what `finish` makes of a connection that is not
broken. -/
lemma exists_finish_of_isUsable {session : Session σ}
    (husable : session.connection.isUsable = true) (call : Call) :
    ∃ c : Connection σ, c.broken = none
      ∧ (session.perform call).1.connection = c.finish (session.perform call).2 := by
  obtain ⟨turns, hgoes⟩ := session.exists_goes call
  cases hgoes with
  | refused hunusable =>
    rw [husable] at hunusable
    cases hunusable
  | @taken turns c _ hleads hconnection hcourse =>
    exact ⟨c, (hleads.broken_eq hcourse.isHeard).trans (broken_of_isUsable husable), hconnection⟩

/-- **A call that fails with a fatal error** leaves the reason behind. -/
theorem broken_of_isFatal {session : Session σ} {call : Call} {e : Error}
    (h : (session.perform call).2 = .error (.failed e)) (hfatal : e.isFatal = true) :
    (session.perform call).1.connection.broken = some e.reason := by
  cases husable : session.connection.isUsable with
  | true =>
    obtain ⟨c, hbroken, hconnection⟩ := exists_finish_of_isUsable husable call
    have hreason : e.reason = e.message := by
      rcases isRaised_of_perform husable h with hraised | hzero
      · cases e with
        | connectionUnusable reason => exact hraised.elim
        | _ => rfl
      · cases hzero
        cases hfatal
    rw [hconnection, h, hreason]
    simp [finish, hfatal, hbroken, markBroken, record]
  | false =>
    obtain ⟨reason, c, hbegin, _⟩ := begin_of_not_isUsable husable
    rw [perform_of_begin hbegin] at h ⊢
    cases h
    exact broken_of_begin hbegin

/-! ## Calls that are dropped -/

/-- A call that waits is within a cycle, on a connection with no reason on record. -/
lemma inFlight_of_suspended {session : Session σ} {call : Call}
    (h : (session.perform call).2 = .error .suspended) :
    (session.perform call).1.connection.inFlight = true
      ∧ (session.perform call).1.connection.broken = none := by
  cases husable : session.connection.isUsable with
  | true =>
    obtain ⟨c, hcompletes, hconnection⟩ := session.exists_completes_perform call husable
    obtain ⟨c', hbroken, hconnection'⟩ := exists_finish_of_isUsable husable call
    rw [h] at hcompletes hconnection hconnection'
    constructor
    · rw [hconnection]
      cases hcompletes with
      | suspended hopen => exact hopen
    · rw [hconnection']
      exact hbroken
  | false =>
    obtain ⟨reason, c, hbegin, _⟩ := begin_of_not_isUsable husable
    rw [perform_of_begin hbegin] at h
    cases h

/-- The session with another limit to how long a call waits for the server. -/
def withTimeout (session : Session σ) (timeout : Option UInt64) : Session σ :=
  { session with
    connection := { session.connection with
      settings := { session.connection.settings with requestTimeout := timeout } } }

/-- What a call leaves behind that is dropped while it waits for the server to take or to say
something; it is dropped before the limit to its wait is over, so it is as if there was none.  What
the server would have said later makes no difference: up to here it is silent. -/
def left? (session : Session σ) (call : Call) : Option (Session σ) :=
  match (session.withTimeout none).perform call with
  | (after, .error .suspended) => some (after.withTimeout session.connection.settings.requestTimeout)
  | _ => none

/-- A connection that is found within a cycle is refused. -/
lemma begin_of_inFlight {c : Connection σ} (hopen : c.inFlight = true) (hbroken : c.broken = none) :
    c.begin = (.error (.connectionUnusable cancelledReason), c.markBroken cancelledReason) := by
  simp [Connection.begin, noticeCancelled, hopen, hbroken, markBroken, record]

/-- After a call that was dropped the next one is refused. -/
lemma perform_of_left? {session after : Session σ} {call : Call}
    (h : session.left? call = some after) (next : Call) :
    (after.perform next).2 = .error (.failed (.connectionUnusable cancelledReason)) := by
  simp only [left?] at h
  split at h
  · rename_i after' hperform
    cases h
    obtain ⟨hopen, hbroken⟩ := inFlight_of_suspended (congrArg Prod.snd hperform)
    rw [hperform] at hopen hbroken
    have hbegin := begin_of_inFlight
      (c := (after'.withTimeout session.connection.settings.requestTimeout).connection)
      hopen hbroken
    rw [perform_of_begin hbegin]
  · cases h

/-- **An unusable connection is inert.**  A call that is dropped while it waits, within whichever
cycle, leaves a connection on which the next call is refused.  And once a call has failed with a
fatal error, that the connection is unusable among them, every later call is refused for the reason
of that error and leaves the whole session as it was right after it: what was sent and what was read,
the cache with its counts, the parameters of the server, the state of transactions, and also the
destination that the call was given. -/
theorem inert (session : Session σ) (call : Call) :
    (∀ after, session.left? call = some after → ∀ next,
        (after.perform next).2 = .error (.failed (.connectionUnusable cancelledReason)))
      ∧ ∀ e after, session.perform call = (after, .error (.failed e)) → e.isFatal = true →
        ∀ calls next,
          (after.afterAll calls).perform next
              = (after, .error (.failed (.connectionUnusable e.reason)))
            ∧ (after.afterAll calls).filled next = next.destination? := by
  refine ⟨fun after => perform_of_left?, ?_⟩
  intro e after h hfatal calls next
  have hbroken := broken_of_isFatal (congrArg Prod.snd h) hfatal
  rw [h] at hbroken
  rw [afterAll_of_broken hbroken]
  exact ⟨perform_of_broken hbroken next, filled_of_broken hbroken next⟩

end Session

namespace Lost

/-- A session whose server answers its first request in the given way. -/
def session (reply : Reply) : Session (List Reply) where
  connection := {
    settings := { Settings.initial with requestTimeout := some 1000 }
    peer := .script
    server := [reply] }
  cache := .new 1

/-- A script. -/
def call : Call := .execute "create type A"

/-- One server says nothing to a script, and another cannot be reached. -/
theorem inert_session :
    (∃ after, (session (.accept [.silence])).left? call = some after
        ∧ ∀ next, (after.perform next).2
          = .error (.failed (.connectionUnusable Connection.cancelledReason)))
      ∧ ∃ after, (session (.fault "reset")).perform call
          = (after, .error (.failed (.transport (.failed "reset"))))
        ∧ ∀ calls next,
          (after.afterAll calls).perform next
              = (after, .error (.failed (.connectionUnusable "Transport error: reset")))
            ∧ (after.afterAll calls).filled next = next.destination? := by
  constructor
  · have hleft : ((session (.accept [.silence])).left? call).isSome = true := by decide +kernel
    obtain ⟨after, hafter⟩ := Option.isSome_iff_exists.1 hleft
    exact ⟨after, hafter, ((session _).inert call).1 after hafter⟩
  · have houtcome : ((session (.fault "reset")).perform call).2
        = .error (.failed (.transport (.failed "reset"))) := by decide +kernel
    have hperform : (session (.fault "reset")).perform call
        = (((session (.fault "reset")).perform call).1,
          .error (.failed (.transport (.failed "reset")))) := Prod.ext rfl houtcome
    exact ⟨_, hperform, ((session _).inert call).2 _ _ hperform rfl⟩

end Lost

end QueryWire
