import QueryWire.Proofs.Codec.Misfit
import QueryWire.Proofs.Connection.Turn
import QueryWire.Session.Flow

/-!
# Where errors come up

An error comes up where something is sent, read, built, encoded or decoded.  Two errors do not come
up in this way: that a query has no result is found only when its last cycle is over, and that the
connection is unusable before the first one begins.

* `Error.IsRaised`, `Halt.IsRaised` — the errors that come up on the way.
* `Handler.Raises` — a handler with no others.
* **`Turn.Heard.isRaised`** — a turn ends early only with these.
-/

namespace QueryWire

variable {σ α : Type}

/-- An error that comes up where something is sent, read, built, encoded or decoded. -/
def Error.IsRaised : Error → Prop
  | .zeroResults | .connectionUnusable _ | .config _ => False
  | _ => True

namespace Error

lemma IsOfStream.isRaised {e : Error} (h : e.IsOfStream) : e.IsRaised := by
  cases e <;> first | exact h.elim | trivial

lemma IsMisfit.isRaised {e : Error} (h : e.IsMisfit) : e.IsRaised := by
  cases e <;> first | exact h.elim | trivial

lemma IsMismatch.isRaised {e : Error} (h : e.IsMismatch) : e.IsRaised := by
  cases e <;> first | exact h.elim | trivial

lemma IsOfValue.isRaised {e : Error} (h : e.IsOfValue) : e.IsRaised := by
  cases e <;> first | exact h.elim | trivial

end Error

/-- An early end that comes up on the way: also that nothing comes. -/
def Halt.IsRaised : Halt → Prop
  | .failed e => e.IsRaised
  | .suspended => True

namespace Connection

/-- A request that cannot be sent. -/
lemma isRaised_of_send {c c' : Connection σ} {request : Request} {halt : Halt}
    (h : c.send request = (.error halt, c')) : halt.IsRaised := by
  simp only [send] at h
  split at h <;> cases h <;> trivial

/-- A response that cannot be read. -/
lemma isRaised_of_receive {c c' : Connection σ} {halt : Halt}
    (h : c.receive = (.error halt, c')) : halt.IsRaised := by
  simp only [receive] at h
  split at h
  · rename_i hframe
    cases h
    rcases halt_of_nextFrameFrom _ _ hframe with rfl | ⟨e, rfl, he⟩
    · trivial
    · exact he.isRaised
  · rename_i frame inbox hframe
    cases hresponse : Response.ofFrame frame with
    | ok response => rw [hresponse] at h; cases h
    | error e =>
      rw [hresponse] at h
      cases h
      rcases Response.ofFrame_eq_error hresponse with he | ⟨code, _, rfl⟩
      · exact he.isRaised
      · trivial

end Connection

/-! ## Handlers -/

/-- A result that does not go into the destination is refused for its value. -/
lemma Destination.isOfValue_of_accept {decoder : Decoder} {shape : Shape} {payload : Bytes}
    {destination : Destination} {e : Error}
    (h : (destination.accept decoder shape payload).2 = some e) : e.IsOfValue := by
  unfold Destination.accept at h
  split at h <;> dsimp only at h <;> split at h <;> cases h
  all_goals
    rename_i he
    exact Decoder.isOfValue_of_decode he

/-- A handler of which only such errors come up. -/
def Handler.Raises (handle : Handler α) : Prop :=
  ∀ value response e, (handle value response).2 = some e → e.IsRaised

namespace Flow

lemma isRaised_of_noteTypes {types : StatementTypes} {known : Option DescriptorPair} {e : Error}
    (h : (noteTypes types known).2 = some e) : e.IsRaised := by
  simp only [noteTypes] at h
  split at h <;> cases h
  rename_i hparse
  exact (DescriptorPair.isMisfit_of_parse hparse).isRaised

lemma raises_prepareReply : prepareReply.Raises := by
  intro ids response e h
  cases response <;> cases h <;> trivial

lemma raises_describeReply : describeReply.Raises := by
  intro known response e h
  cases response with
  | description cardinality types => exact isRaised_of_noteTypes h
  | _ => cases h; trivial

lemma raises_rowsReply (decoder : Decoder) (shape : Shape) : (rowsReply decoder shape).Raises := by
  intro rows response e h
  cases response with
  | data payload => exact (Destination.isOfValue_of_accept h).isRaised
  | description cardinality types => exact isRaised_of_noteTypes h
  | commandComplete status => cases h
  | _ => cases h; trivial

end Flow

lemma Connection.raises_scriptReply : scriptReply.Raises := by
  intro _ response e h
  cases response <;> cases h <;> trivial

/-- Neither the errors of the server nor what may come at any point change this. -/
lemma Handler.Raises.respond {handle : Handler α} (hraises : handle.Raises) {value value' : α}
    {response : Response} {e : Error} (h : handle.respond value response = (value', some e)) :
    e.IsRaised := by
  cases response with
  | error cause => cases h; trivial
  | ready state => cases h
  | log severity code text => cases h
  | parameter name content => cases h
  | _ => exact hraises value _ e (congrArg Prod.snd h)

/-! ## Turns -/

lemma Connection.Reads.isRaised {handle : Handler α} (hraises : handle.Raises) {c : Connection σ}
    {value : α} {held : Option Error} {responses : List Response} {done : Cycle σ α}
    (h : c.Reads handle value held responses done) (hheld : ∀ e, held = some e → e.IsRaised)
    {halt : Halt} (hhalt : done.outcome = .error halt) : halt.IsRaised := by
  induction h with
  | halt h =>
    cases hhalt
    exact isRaised_of_receive h
  | @ready c c' value held state h =>
    cases held with
    | none => cases hhalt
    | some e => cases hhalt; exact hheld e rfl
  | fatal h _ hrespond _ =>
    cases hhalt
    exact hraises.respond hrespond
  | @go c c' value value' held raised response responses done h _ hrespond _ _ ih =>
    refine ih (fun e he => ?_) hhalt
    rcases Option.or_eq_some_iff.1 he with he | ⟨_, he⟩
    · exact hheld e he
    · subst he
      exact hraises.respond hrespond

/-- **A turn ends early** only with an error that comes up on the way. -/
theorem Turn.Heard.isRaised {handle : Handler α} (hraises : handle.Raises) {start result : α}
    {t : Turn σ} (h : t.Heard handle start result) {halt : Halt} (hhalt : t.outcome = .error halt) :
    halt.IsRaised := by
  cases h with
  | unsent hsend =>
    cases hhalt
    exact Connection.isRaised_of_send hsend
  | sent hsend hreads => exact hreads.isRaised hraises (fun _ he => by cases he) hhalt

end QueryWire
