import QueryWire.Proofs.Session.Flow
import QueryWire.Proofs.Text.Decimal
import QueryWire.Proofs.Wire.Headers

/-!
# What tells two statements apart

Connections share a cache, and what it knows of a statement is found under the key of the query.  So
two queries have to have the same key exactly when the server compiles the same statement for them.

**What the server is told.**  Three settings travel as headers, each under a key of its own and in a
form from which it can be read back: a number in decimal, a fixed word, a number in eight bytes.  A
setting that is not set has no header.  Hence the map tells all three (`Settings.headers_inj`), and
so do its bytes (`Settings.written_headers_inj`).

**What a call asks for.**  The four calls that run a query differ in the cardinality and the format,
and take all else from their arguments and the settings (`Session.ask_eq_perform`).

* `Settings.ToldAlike` — settings that the server cannot tell apart.
* `QueryCall` — the calls that run a query.
* `QueryCall.key_eq_iff` — when two calls have one key.
-/

namespace QueryWire

/-! ## Settings in headers -/

namespace Settings

/-- Settings that the server cannot tell apart. -/
structure ToldAlike (s t : Settings) : Prop where
  implicitLimit : s.implicitLimit = t.implicitLimit
  implicitTypenames : s.implicitTypenames = t.implicitTypenames
  allowCapabilities : s.allowCapabilities = t.allowCapabilities

/-- The bytes of the limit. -/
def limitBytes (n : UInt64) : Bytes := Utf8.encode (Digits.decimalText n.toNat)

/-- The bytes of the wish for type names; there are none without it. -/
def typenamesBytes? (wanted : Bool) : Option Bytes :=
  if wanted then some (Utf8.encode "true") else none

/-- The bytes of the capabilities. -/
def capabilitiesBytes (n : UInt64) : Bytes := BigEndian.encode 8 n.toNat

lemma limitBytes_injective : Function.Injective limitBytes := by
  intro m n h
  exact UInt64.toNat_inj.1 (Digits.decimalText_injective (Utf8.encode_injective h))

lemma typenamesBytes?_injective : Function.Injective typenamesBytes? := by
  intro a b h
  cases a <;> cases b <;> first | rfl | cases h

lemma capabilitiesBytes_injective : Function.Injective capabilitiesBytes := by
  intro m n h
  have hread := congrArg BigEndian.decode h
  rw [capabilitiesBytes, capabilitiesBytes, BigEndian.decode_encode_of_lt m.toNat_lt,
    BigEndian.decode_encode_of_lt n.toNat_lt] at hread
  exact UInt64.toNat_inj.1 hread

/-! ## What the headers tell -/

variable (s : Settings)

/-- The keys are in rising order, so the headers stand in the order of the settings. -/
lemma entries_headers :
    s.headers.entries = (s.implicitLimit.map fun n => (limitKey, limitBytes n)).toList
      ++ ((typenamesBytes? s.implicitTypenames).map fun b => (typenamesKey, b)).toList
      ++ (s.allowCapabilities.map fun n => (capabilitiesKey, capabilitiesBytes n)).toList := by
  have htypenames : (if s.implicitTypenames then some (typenamesKey, Utf8.encode "true") else none)
      = (typenamesBytes? s.implicitTypenames).map fun b => (typenamesKey, b) := by
    cases s.implicitTypenames <;> rfl
  rw [headers, htypenames]
  refine Headers.entries_ofList ?_
  cases s.implicitLimit <;> cases s.implicitTypenames <;> cases s.allowCapabilities <;>
    simp [typenamesBytes?, limitKey, typenamesKey, capabilitiesKey]

lemma get?_headers_limitKey : s.headers.get? limitKey = s.implicitLimit.map limitBytes := by
  rw [Headers.get?, entries_headers]
  cases s.implicitLimit <;> cases s.implicitTypenames <;> cases s.allowCapabilities <;> rfl

lemma get?_headers_typenamesKey :
    s.headers.get? typenamesKey = typenamesBytes? s.implicitTypenames := by
  rw [Headers.get?, entries_headers]
  cases s.implicitLimit <;> cases s.implicitTypenames <;> cases s.allowCapabilities <;> rfl

lemma get?_headers_capabilitiesKey :
    s.headers.get? capabilitiesKey = s.allowCapabilities.map capabilitiesBytes := by
  rw [Headers.get?, entries_headers]
  cases s.implicitLimit <;> cases s.implicitTypenames <;> cases s.allowCapabilities <;> rfl

variable {s} {t : Settings}

/-- **The headers** tell the three settings, and nothing else. -/
theorem headers_inj : s.headers = t.headers ↔ s.ToldAlike t := by
  constructor
  · intro h
    have hlimit := s.get?_headers_limitKey
    have htypenames := s.get?_headers_typenamesKey
    have hcapabilities := s.get?_headers_capabilitiesKey
    rw [h, get?_headers_limitKey] at hlimit
    rw [h, get?_headers_typenamesKey] at htypenames
    rw [h, get?_headers_capabilitiesKey] at hcapabilities
    exact ⟨(Option.map_injective limitBytes_injective hlimit).symm,
      (typenamesBytes?_injective htypenames).symm,
      (Option.map_injective capabilitiesBytes_injective hcapabilities).symm⟩
  · intro h
    simp only [headers, h.implicitLimit, h.implicitTypenames, h.allowCapabilities]

/-- Three headers at most, so their count can be told. -/
lemma size_headers_lt : s.headers.size < BigEndian.size 2 := by
  have hone {α : Type} (header : Option α) : header.toList.length ≤ 1 := Option.length_toList_le
  have hlimit := hone (s.implicitLimit.map fun n => (limitKey, limitBytes n))
  have htypenames := hone ((typenamesBytes? s.implicitTypenames).map fun b => (typenamesKey, b))
  have hcapabilities :=
    hone (s.allowCapabilities.map fun n => (capabilitiesKey, capabilitiesBytes n))
  have hsize : 3 < BigEndian.size 2 := by decide
  rw [Headers.size, entries_headers, List.length_append, List.length_append]
  omega

lemma length_limitBytes_lt (n : UInt64) : (limitBytes n).length < BigEndian.size 4 := by
  have hdigits : (Digits.decimal n.toNat).length ≤ 20 := by
    refine (Digits.length_decimal_le_iff (by decide)).2 (n.toNat_lt.trans ?_)
    decide
  have hle := Utf8.length_encode_le (Digits.decimalText n.toNat)
  rw [Digits.decimalText, String.toList_ofList] at hle
  refine (hle.trans (Nat.mul_le_mul_left 4 hdigits)).trans_lt ?_
  decide

/-- The lengths of the values can be told, too. -/
lemma writable_headers : s.headers.Writable := by
  intro entry hentry
  rw [entries_headers, List.mem_append, List.mem_append, Option.mem_toList, Option.mem_toList,
    Option.mem_toList] at hentry
  rcases hentry with (hentry | hentry) | hentry
  · obtain ⟨n, -, rfl⟩ := Option.map_eq_some_iff.1 hentry
    exact length_limitBytes_lt n
  · obtain ⟨b, hb, rfl⟩ := Option.map_eq_some_iff.1 hentry
    cases hwanted : s.implicitTypenames with
    | true =>
      rw [hwanted] at hb
      cases hb
      decide
    | false =>
      rw [hwanted] at hb
      cases hb
  · obtain ⟨n, -, rfl⟩ := Option.map_eq_some_iff.1 hentry
    rw [capabilitiesBytes, BigEndian.length_encode]
    decide

/-- **On the wire** the headers tell the three settings as well. -/
theorem written_headers_inj : s.headers.written = t.headers.written ↔ s.ToldAlike t := by
  rw [← headers_inj]
  constructor
  · intro h
    have hs := Reader.headers_written (size_headers_lt (s := s)) writable_headers []
    have ht := Reader.headers_written (size_headers_lt (s := t)) writable_headers []
    rw [h, ht] at hs
    exact (EStateM.Result.ok.inj hs).1.symm
  · intro h
    rw [h]

end Settings

/-! ## Calls that run a query -/

/-- The calls that run a query, with what a program gives them. -/
inductive QueryCall where
  /-- All results, into a list. -/
  | all (command : String) (arguments : Argument) (type : RowType) (rows : Array Slot)
  /-- At most one result. -/
  | single (command : String) (arguments : Argument) (type : RowType) (slot : Slot)
  /-- All results, as a text. -/
  | allJson (command : String) (arguments : Argument)
  /-- At most one result, as a text. -/
  | singleJson (command : String) (arguments : Argument)

namespace QueryCall

/-- The text of the statement. -/
def command : QueryCall → String
  | all command _ _ _ | single command _ _ _ | allJson command _ | singleJson command _ => command

/-- The arguments for the statement. -/
def arguments : QueryCall → Argument
  | all _ arguments _ _ | single _ arguments _ _ | allJson _ arguments
  | singleJson _ arguments => arguments

/-- How many results there may be. -/
def cardinality : QueryCall → Cardinality
  | all _ _ _ _ | allJson _ _ => .many
  | single _ _ _ _ | singleJson _ _ => .atMostOne

/-- The form in which results are asked for. -/
def format : QueryCall → OutputFormat
  | all _ _ _ _ | single _ _ _ _ => .binary
  | allJson _ _ | singleJson _ _ => .json

/-- The type of the results. -/
def type : QueryCall → RowType
  | all _ _ type _ | single _ _ type _ => type
  | allJson _ _ | singleJson _ _ => .text

/-- Where the results go. -/
def destination : QueryCall → Destination
  | all _ _ _ rows => .many rows
  | single _ _ _ slot => .one slot
  | allJson _ _ | singleJson _ _ => .one RowType.text.shape.fresh

variable {σ : Type}

/-- The query that a call runs. -/
def toQuery (call : QueryCall) (session : Session σ) : Query :=
  session.newQuery call.command call.cardinality call.format call.arguments

/-- What the cache knows of the statement stands under this key. -/
def key (call : QueryCall) (session : Session σ) : QueryKey := (call.toQuery session).toQueryKey

end QueryCall

namespace Session

variable {σ : Type}

/-- Makes one of the four calls: the session after it, and how it ended. -/
def ask (session : Session σ) : QueryCall → Session σ × Except Halt Unit
  | .all command arguments type rows =>
    let called := session.query command arguments type rows
    (called.session, called.outcome)
  | .single command arguments type slot =>
    let called := session.querySingle command arguments type slot
    (called.session, called.outcome)
  | .allJson command arguments =>
    let called := session.queryJson command arguments
    (called.session, called.outcome)
  | .singleJson command arguments =>
    let called := session.querySingleJson command arguments
    (called.session, called.outcome)

/-- A result that is taken for a text leaves all else as it is. -/
lemma runText_eq (session : Session σ) (query : Query) :
    ((session.runText query).session, (session.runText query).outcome)
      = session.perform (.run query .text (.one RowType.text.shape.fresh)) := by
  simp only [runText, perform]
  split <;> rfl

/-- The four calls run the query that is made of what they are given. -/
lemma ask_eq_perform (session : Session σ) (call : QueryCall) :
    session.ask call = session.perform (.run (call.toQuery session) call.type call.destination) := by
  cases call with
  | all command arguments type rows => rfl
  | single command arguments type slot => rfl
  | allJson command arguments => exact session.runText_eq _
  | singleJson command arguments => exact session.runText_eq _

end Session

namespace QueryCall

variable {σ τ : Type}

/-- **One key** belongs to two calls exactly when they ask for the same statement, in the same form
and with as many results, over connections whose settings the server cannot tell apart.  A call runs
the query of its key, and the headers of the query tell these settings, as a map and as bytes. -/
theorem key_eq_iff (session : Session σ) (other : Session τ) (call call' : QueryCall) :
    (call.key session = call'.key other ↔
        call.command = call'.command ∧ call.cardinality = call'.cardinality
          ∧ call.format = call'.format
          ∧ session.connection.settings.ToldAlike other.connection.settings)
      ∧ (session.ask call
          = session.perform (.run (call.toQuery session) call.type call.destination))
      ∧ ((call.toQuery session).headers = (call'.toQuery other).headers
          ↔ session.connection.settings.ToldAlike other.connection.settings)
      ∧ ((call.toQuery session).headers.written = (call'.toQuery other).headers.written
          ↔ session.connection.settings.ToldAlike other.connection.settings) := by
  refine ⟨?_, session.ask_eq_perform call, Settings.headers_inj, Settings.written_headers_inj⟩
  rw [← Settings.headers_inj]
  constructor
  · intro h
    exact QueryKey.mk.inj h
  · rintro ⟨hcommand, hcardinality, hformat, hheaders⟩
    simp only [key, toQuery, Session.newQuery, hcommand, hcardinality, hformat, hheaders]

end QueryCall

end QueryWire
