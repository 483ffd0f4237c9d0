import QueryWire.Proofs.Codec.Locality
import QueryWire.Proofs.Wire.Delimited

/-!
# Compound values element by element

Behind the head of a compound value stand as many elements as the head says, each behind its length.
So two things that have nothing to do with each other make up its decoding: where an element ends is
known before anything is made of it, and what is made of it depends on nothing behind its end.

* `Decoder.Divides` — that bytes are a head and a row of elements.
* `Decoder.Stores` — elements go into the parts of a record, one after the other.
* `Decoder.Assembles` — what a row of elements makes of a destination.
* `Decoded.Takes` — that some bytes, and no less, are decoded, whatever comes behind them.
* **`Decoder.assembles_of_decodeAt`** — a compound value that is decoded divides into elements, and
  they make the destination what it is then.
* **`Decoder.Assembles.takes`** — elements that make something of a destination do so from their
  bytes alone.
-/

namespace QueryWire

open Reader

/-! ## Heads and elements -/

namespace Decoder

/-- Values of several elements: objects, tuples, arrays and sets. -/
def isCompound : Decoder → Bool
  | .object _ _ | .tuple _ _ | .array _ _ | .set _ _ => true
  | .scalar _ _ | .enum _ _ | .optional _ => false

/-- Reads the head of a value: the number of its elements. -/
def readHead (path : Path) : Decoder → Reader Nat
  | .object _ fields => do
    checkCount fields.length
    pure fields.length
  | .tuple _ elements => do
    checkCount elements.length
    pure elements.length
  | .array _ _ | .set _ _ => return (← readDimensions path).getD 0
  | .scalar _ _ | .enum _ _ | .optional _ => pure 0

/-- Reads one element; those of arrays and sets have no reserved word in front. -/
def readElement : Decoder → Reader Element
  | .array _ _ | .set _ _ => Element.sized
  | .object _ _ | .tuple _ _ | .scalar _ _ | .enum _ _ | .optional _ => Element.read

/-- Bytes are a head and as many elements as it says. -/
def Divides (decoder : Decoder) (path : Path) (bytes : Bytes) (elements : List Element)
    (rest : Bytes) : Prop :=
  ∃ unread, decoder.readHead path bytes = .ok elements.length unread
    ∧ Element.Row decoder.readElement unread elements rest

end Decoder

lemma delimits_sized : Delimits Element.sized := by
  refine (composes_delimits.nat 4).bind fun length => ?_
  split
  · exact delimits_pure none
  · exact (delimits_raw length).bind fun payload => delimits_pure _

lemma delimits_element : Delimits Element.read :=
  (composes_delimits.discard 4).bind fun _ => delimits_sized

lemma delimits_checkCount (expected : Nat) : Delimits (checkCount expected) := by
  refine (composes_delimits.nat 4).bind fun actual => ?_
  split
  · exact delimits_throw _
  · exact delimits_pure ()

lemma delimits_readDimensions (path : Path) : Delimits (readDimensions path) := by
  refine (composes_delimits.nat 4).bind fun dimensions =>
    (composes_delimits.discard 8).bind fun _ => ?_
  split
  · exact delimits_pure none
  · split
    · exact (composes_delimits.nat 4).bind fun length =>
        (composes_delimits.discard 4).bind fun _ => delimits_pure (some length)
    · exact delimits_throw _

namespace Decoder

lemma delimits_readHead (decoder : Decoder) (path : Path) : Delimits (decoder.readHead path) := by
  cases decoder with
  | object _ fields => exact (delimits_checkCount fields.length).bind fun _ => delimits_pure _
  | tuple _ elements => exact (delimits_checkCount elements.length).bind fun _ => delimits_pure _
  | array _ _ | set _ _ => exact (delimits_readDimensions path).bind fun _ => delimits_pure _
  | _ => exact delimits_pure 0

lemma delimits_readElement (decoder : Decoder) : Delimits decoder.readElement := by
  cases decoder with
  | array _ _ | set _ _ => exact delimits_sized
  | _ => exact delimits_element

end Decoder

/-- A row takes the bytes that it does not leave. -/
lemma Element.Row.used {read : Reader Element} (hread : Delimits read) {bytes rest : Bytes}
    {elements : List Element} (h : Row read bytes elements rest) :
    ∃ used, bytes = used ++ rest ∧ Row read used elements [] := by
  induction h with
  | nil bytes => exact ⟨[], rfl, .nil []⟩
  | cons hfirst _ ih =>
    obtain ⟨first, rfl, htakes⟩ := hread _ _ _ hfirst
    obtain ⟨others, rfl, hothers⟩ := ih
    exact ⟨first ++ others, (List.append_assoc _ _ _).symm, .cons (htakes.ok others) hothers⟩

lemma Decoder.Divides.used {decoder : Decoder} {path : Path} {bytes rest : Bytes}
    {elements : List Element} (h : decoder.Divides path bytes elements rest) :
    ∃ used, bytes = used ++ rest ∧ decoder.Divides path used elements [] := by
  obtain ⟨unread, hhead, hrow⟩ := h
  obtain ⟨head, rfl, htakes⟩ := decoder.delimits_readHead path _ _ _ hhead
  obtain ⟨row, rfl, hused⟩ := hrow.used decoder.delimits_readElement
  exact ⟨head ++ row, (List.append_assoc _ _ _).symm, row, htakes.ok row, hused⟩

/-! ## What elements make of a destination -/

lemma Component.mem_indices_of_target {components : List Component} {c : Component}
    (hc : c ∈ components) {index : Nat} {decoder : Decoder}
    (htarget : c.target = some (index, decoder)) : index ∈ indices components :=
  mem_indices.2 ⟨c, hc, index?_eq htarget⟩

namespace Decoder

/-- Elements go one after the other into the parts of a record that their components go into. -/
inductive Stores (path : Path) :
    List Component → List Element → List Slot → List Slot → Prop where
  | nil (parts : List Slot) : Stores path [] [] parts parts
  | skipped {c : Component} {components : List Component} (element : Element)
    {elements : List Element} {parts parts' : List Slot} (htarget : c.target = none)
    (hothers : Stores path components elements parts parts') :
    Stores path (c :: components) (element :: elements) parts parts'
  | stored {c : Component} {components : List Component} {element : Element}
    {elements : List Element} {parts parts' : List Slot} {index : Nat} {decoder : Decoder}
    {old new : Slot} (htarget : c.target = some (index, decoder))
    (hold : parts[index]? = some old)
    (hsettles : decoder.Settles (path.push c.step) element old new)
    (hothers : Stores path components elements (parts.set index new) parts') :
    Stores path (c :: components) (element :: elements) parts parts'

/-- An element becomes an item of a sequence: it is not missing, and is decoded into a fresh
destination. -/
def MakesItem (item : Decoder) (path : Path) (shape : Shape) (element : Element) (new : Slot) :
    Prop :=
  ∃ payload rest, element = some payload
    ∧ decodeAt item path.element payload shape.fresh = ⟨new, .ok rest⟩

/-- A tuple goes into a record of as many parts. -/
def HasRoom : Decoder → List Slot → Prop
  | .tuple _ elements, parts => parts.length = elements.length
  | _, _ => True

/-- What the elements of a compound value make of a destination. -/
inductive Assembles (decoder : Decoder) (path : Path) (elements : List Element) :
    Slot → Slot → Prop where
  | record {components : List Component} {parts parts' : List Slot}
    (hcomponents : decoder.components? = some components)
    (hapart : (Component.indices components).Nodup) (hroom : decoder.HasRoom parts)
    (hstores : Stores path components elements parts parts') :
    Assembles decoder path elements (.record parts) (.record parts')
  | sequence {item : Decoder} {shape : Shape} (old : List Slot) {items : List Slot}
    (hitem : decoder.item? = some item)
    (hitems : List.Forall₂ (item.MakesItem path shape) elements items) :
    Assembles decoder path elements (.sequence shape old) (.sequence shape items)

lemma Stores.length_eq {path : Path} {components : List Component} {elements : List Element}
    {parts parts' : List Slot} (h : Stores path components elements parts parts') :
    elements.length = components.length ∧ parts'.length = parts.length := by
  induction h with
  | nil parts => exact ⟨rfl, rfl⟩
  | skipped element _ _ ih => exact ⟨congrArg (· + 1) ih.1, ih.2⟩
  | stored _ _ _ _ ih => exact ⟨congrArg (· + 1) ih.1, ih.2.trans List.length_set⟩

/-- Sets are made of their elements as arrays are. -/
lemma assembles_set {id : Uuid} {item : Decoder} {path : Path} {elements : List Element}
    {slot new : Slot} : (Decoder.set id item).Assembles path elements slot new
      ↔ (Decoder.array id item).Assembles path elements slot new := by
  constructor
  all_goals
    intro h
    cases h with
    | record hcomponents => cases hcomponents
    | sequence old hitem hitems => exact .sequence old hitem hitems

/-- The components of a tuple are its elements, each at its position. -/
lemma mem_elementComponents {i : Nat} {decoders : List Decoder} {c : Component} :
    c ∈ elementComponents i decoders
      ↔ ∃ j inner, decoders[j]? = some inner ∧ c = ⟨.index (i + j), some (i + j, inner)⟩ := by
  induction decoders generalizing i with
  | nil => simp [elementComponents]
  | cons decoder decoders ih =>
    rw [elementComponents, List.mem_cons, ih]
    constructor
    · rintro (rfl | ⟨j, inner, hinner, rfl⟩)
      · exact ⟨0, decoder, rfl, rfl⟩
      · exact ⟨j + 1, inner, hinner, by rw [Nat.add_assoc, Nat.add_comm 1 j]⟩
    · rintro ⟨_ | j, inner, hinner, rfl⟩
      · cases hinner
        exact .inl rfl
      · exact .inr ⟨j, inner, hinner, by rw [Nat.add_assoc, Nat.add_comm 1 j]⟩

/-- Each element of a tuple has a part of its own. -/
lemma nodup_indices_elementComponents (i : Nat) (decoders : List Decoder) :
    (Component.indices (elementComponents i decoders)).Nodup := by
  induction decoders generalizing i with
  | nil => exact List.nodup_nil
  | cons decoder decoders ih =>
    rw [elementComponents, Component.indices_cons_of_target rfl]
    exact List.nodup_cons.2
      ⟨fun h => absurd (le_of_mem_indices h) (Nat.not_succ_le_self i), ih (i + 1)⟩

end Decoder

/-! ## From a decoding to its elements -/

lemma Decoded.eq_of_contents {α : Type} {d : Decoded α} {contents : α} {result : Except Error Bytes}
    (hcontents : d.contents = contents) (hresult : d.result = result) : d = ⟨contents, result⟩ :=
  congrArg₂ Decoded.mk hcontents hresult

lemma Decoded.map_eq_ok {α β : Type} {d : Decoded α} {f : α → β} {b : β} {rest : Bytes}
    (h : d.map f = ⟨b, .ok rest⟩) : ∃ a, d = ⟨a, .ok rest⟩ ∧ f a = b := by
  obtain ⟨a, result⟩ := d
  cases h
  exact ⟨a, rfl, rfl⟩

namespace Decoder

section

variable {name : String} {index : Nat} {decoder : Decoder} {fields : List FieldDecoder}
  {decoders : List Decoder} {path : Path} {taken : List Nat} {bytes rest : Bytes}
  {parts parts' : List Slot}

/-- A field that is decoded has a part of its own, and is settled there. -/
lemma decodeFields_bound_eq_ok
    (h : decodeFields (.bound name index decoder :: fields) path taken bytes parts
      = ⟨parts', .ok rest⟩) :
    ∃ element unread old new, Element.read bytes = .ok element unread
      ∧ parts[index]? = some old ∧ index ∉ taken
      ∧ decoder.Settles (path.field name) element old new
      ∧ decodeFields fields path (index :: taken) unread (parts.set index new)
        = ⟨parts', .ok rest⟩ := by
  rw [decodeFields] at h
  split at h
  · cases h
  · rename_i element unread hread
    split at h
    · cases h
    · rename_i old hold
      split at h
      · cases h
      · rename_i hfree
        have hfree : index ∉ taken := fun hmem => hfree (List.contains_iff_mem.2 hmem)
        split at h
        · dsimp only at h
          split at h
          · cases h
          · rename_i hdecoded
            exact ⟨_, unread, old, _, hread, hold, hfree,
              .present (Decoded.eq_of_contents rfl hdecoded), h⟩
        · split at h
          · cases h
          · rename_i hrecorded
            exact ⟨_, unread, old, _, hread, hold, hfree, .missing hrecorded, h⟩

/-- An element of a tuple that is decoded is settled in the part of its position. -/
lemma decodeElements_cons_eq_ok {i : Nat} {slot : Slot} {slots slots' : List Slot}
    (h : decodeElements (decoder :: decoders) path i bytes (slot :: slots)
      = ⟨slots', .ok rest⟩) :
    ∃ element unread new others, Element.read bytes = .ok element unread
      ∧ decoder.Settles (path.index i) element slot new
      ∧ decodeElements decoders path (i + 1) unread slots = ⟨others, .ok rest⟩
      ∧ slots' = new :: others := by
  rw [decodeElements] at h
  split at h
  · cases h
  · rename_i payload unread hread
    dsimp only at h
    split at h
    · cases h
    · rename_i hdecoded
      obtain ⟨others, hothers, rfl⟩ := Decoded.map_eq_ok h
      exact ⟨_, unread, _, others, hread, .present (Decoded.eq_of_contents rfl hdecoded), hothers,
        rfl⟩
  · rename_i unread hread
    split at h
    · cases h
    · rename_i hrecorded
      obtain ⟨others, hothers, rfl⟩ := Decoded.map_eq_ok h
      exact ⟨_, unread, _, others, hread, .missing hrecorded, hothers, rfl⟩

/-- Fields that are decoded stand in a row, and are stored in parts of their own. -/
lemma stores_of_decodeFields
    (h : decodeFields fields path taken bytes parts = ⟨parts', .ok rest⟩) :
    (FieldDecoder.indices fields).Nodup ∧ (∀ index ∈ FieldDecoder.indices fields, index ∉ taken)
      ∧ ∃ elements, Element.Row Element.read bytes elements rest
        ∧ Stores path (fields.map FieldDecoder.component) elements parts parts' := by
  induction fields generalizing taken bytes parts with
  | nil =>
    cases h
    exact ⟨List.nodup_nil, List.forall_mem_nil _, [], .nil _, .nil _⟩
  | cons field fields ih =>
    cases field with
    | skipped name =>
      rw [decodeFields] at h
      split at h
      · cases h
      · rename_i element unread hread
        obtain ⟨hnodup, hfree, elements, hrow, hstores⟩ := ih h
        exact ⟨hnodup, hfree, element :: elements, .cons hread hrow, .skipped element rfl hstores⟩
    | bound name index decoder =>
      obtain ⟨element, unread, old, new, hread, hold, hindex, hsettles, hothers⟩ :=
        decodeFields_bound_eq_ok h
      obtain ⟨hnodup, hfree, elements, hrow, hstores⟩ := ih hothers
      refine ⟨List.nodup_cons.2 ⟨fun hmem => ?_, hnodup⟩,
        List.forall_mem_cons.2 ⟨hindex, fun other hmem hother => ?_⟩, element :: elements,
        .cons hread hrow, .stored rfl hold hsettles hstores⟩
      · exact hfree index hmem List.mem_cons_self
      · exact hfree other hmem (List.mem_cons_of_mem index hother)

/-- Elements of a tuple that are decoded stand in a row, and are stored behind those in front. -/
lemma stores_of_decodeElements (done : List Slot) {slots slots' : List Slot}
    (hlength : slots.length = decoders.length)
    (h : decodeElements decoders path done.length bytes slots = ⟨slots', .ok rest⟩) :
    ∃ elements, Element.Row Element.read bytes elements rest
      ∧ Stores path (elementComponents done.length decoders) elements (done ++ slots)
        (done ++ slots') := by
  induction decoders generalizing done slots slots' bytes with
  | nil =>
    cases List.length_eq_zero_iff.1 hlength
    cases h
    exact ⟨[], .nil _, .nil _⟩
  | cons decoder decoders ih =>
    cases slots with
    | nil => cases hlength
    | cons slot slots =>
      obtain ⟨element, unread, new, others, hread, hsettles, hothers, rfl⟩ :=
        decodeElements_cons_eq_ok h
      have hdone : (done ++ [new]).length = done.length + 1 := List.length_append
      rw [← hdone] at hothers
      obtain ⟨elements, hrow, hstores⟩ := ih _ (Nat.succ.inj hlength) hothers
      rw [hdone, List.append_assoc, List.append_assoc] at hstores
      have hslot : (done ++ slot :: slots)[done.length]? = some slot := by simp
      refine ⟨element :: elements, .cons hread hrow,
        .stored rfl hslot hsettles ?_⟩
      rwa [List.set_append_right _ _ (Nat.le_refl _), Nat.sub_self]

end

/-- Items that are decoded stand in a row, as many as announced. -/
lemma makesItem_of_decodeItems {item : Decoder} {path : Path} {shape : Shape} {count : Nat}
    {done items : List Slot} {bytes rest : Bytes}
    (h : decodeItems (fun payload => decodeAt item path.element payload shape.fresh) path.element
      count done bytes = ⟨items, .ok rest⟩) :
    ∃ elements others, items = done.reverse ++ others ∧ elements.length = count
      ∧ Element.Row Element.sized bytes elements rest
      ∧ List.Forall₂ (item.MakesItem path shape) elements others := by
  induction count generalizing done bytes with
  | zero =>
    cases h
    exact ⟨[], [], (List.append_nil _).symm, rfl, .nil _, .nil⟩
  | succ count ih =>
    unfold decodeItems at h
    split at h
    · cases h
    · cases h
    · rename_i payload unread hread
      dsimp only at h
      split at h
      · cases h
      · rename_i payloadRest hdecoded
        obtain ⟨elements, others, rfl, rfl, hrow, hitems⟩ := ih h
        refine ⟨some payload :: elements, _ :: others, ?_, rfl, .cons hread hrow,
          .cons ⟨payload, payloadRest, rfl, Decoded.eq_of_contents rfl hdecoded⟩ hitems⟩
        rw [List.reverse_cons, List.append_assoc, List.singleton_append]

lemma assembles_of_object {id : Uuid} {fields : List FieldDecoder} {path : Path}
    {bytes rest : Bytes} {slot new : Slot}
    (h : decodeAt (.object id fields) path bytes slot = ⟨new, .ok rest⟩) :
    ∃ elements, (Decoder.object id fields).Divides path bytes elements rest
      ∧ (Decoder.object id fields).Assembles path elements slot new := by
  cases slot with
  | record parts =>
    rw [decodeAt] at h
    split at h
    · rename_i unread hcount
      obtain ⟨parts', hfields, rfl⟩ := Decoded.map_eq_ok h
      obtain ⟨hnodup, -, elements, hrow, hstores⟩ := stores_of_decodeFields hfields
      rw [← indices_fieldComponents] at hnodup
      have hlength : elements.length = fields.length :=
        hstores.length_eq.1.trans (List.length_map _)
      refine ⟨elements, ⟨unread, ?_, hrow⟩, .record rfl hnodup trivial hstores⟩
      rw [hlength]
      exact bind_of_ok hcount
    · cases h
  | _ => cases h

lemma assembles_of_tuple {id : Uuid} {decoders : List Decoder} {path : Path} {bytes rest : Bytes}
    {slot new : Slot} (h : decodeAt (.tuple id decoders) path bytes slot = ⟨new, .ok rest⟩) :
    ∃ elements, (Decoder.tuple id decoders).Divides path bytes elements rest
      ∧ (Decoder.tuple id decoders).Assembles path elements slot new := by
  cases slot with
  | record parts =>
    rw [decodeAt] at h
    split at h
    · rename_i unread hcount
      split at h
      · rename_i hroom
        obtain ⟨parts', helements, rfl⟩ := Decoded.map_eq_ok h
        obtain ⟨elements, hrow, hstores⟩ := stores_of_decodeElements [] hroom helements
        have hlength : elements.length = decoders.length :=
          hstores.length_eq.1.trans (length_elementComponents 0 decoders)
        refine ⟨elements, ⟨unread, ?_, hrow⟩,
          .record rfl (nodup_indices_elementComponents 0 decoders) hroom hstores⟩
        rw [hlength]
        exact bind_of_ok hcount
      · cases h
    · cases h
  | _ => cases h

/-- Without dimensions there are no items. -/
lemma decodeAt_array {id : Uuid} {item : Decoder} {path : Path} {bytes rest : Bytes} {shape : Shape}
    {dimensions : Option Nat} (hread : readDimensions path bytes = .ok dimensions rest)
    (old : List Slot) :
    decodeAt (.array id item) path bytes (.sequence shape old)
      = (decodeItems (fun payload => decodeAt item path.element payload shape.fresh) path.element
        (dimensions.getD 0) [] rest).map (.sequence shape) := by
  rw [decodeAt, hread]
  cases dimensions <;> rfl

lemma assembles_of_array {id : Uuid} {item : Decoder} {path : Path} {bytes rest : Bytes}
    {slot new : Slot} (h : decodeAt (.array id item) path bytes slot = ⟨new, .ok rest⟩) :
    ∃ elements, (Decoder.array id item).Divides path bytes elements rest
      ∧ (Decoder.array id item).Assembles path elements slot new := by
  cases slot with
  | sequence shape old =>
    cases hdimensions : readDimensions path bytes with
    | error e unread =>
      rw [decodeAt, hdimensions] at h
      cases h
    | ok dimensions unread =>
      rw [decodeAt_array hdimensions] at h
      obtain ⟨items, hitems, rfl⟩ := Decoded.map_eq_ok h
      obtain ⟨elements, others, rfl, hlength, hrow, hmakes⟩ := makesItem_of_decodeItems hitems
      refine ⟨elements, ⟨unread, ?_, hrow⟩, .sequence old rfl hmakes⟩
      rw [hlength]
      exact bind_of_ok hdimensions
  | _ => cases h

/-- **A compound value that is decoded** divides into elements, and they make the destination what
it is then. -/
theorem assembles_of_decodeAt {decoder : Decoder} (hcompound : decoder.isCompound = true)
    {path : Path} {bytes rest : Bytes} {slot new : Slot}
    (h : decodeAt decoder path bytes slot = ⟨new, .ok rest⟩) :
    ∃ elements, decoder.Divides path bytes elements rest
      ∧ decoder.Assembles path elements slot new := by
  cases decoder with
  | object id fields => exact assembles_of_object h
  | tuple id decoders => exact assembles_of_tuple h
  | array id item => exact assembles_of_array h
  | set id item =>
    rw [decodeAt_set] at h
    obtain ⟨elements, hdivides, hassembles⟩ := assembles_of_array h
    exact ⟨elements, hdivides, assembles_set.2 hassembles⟩
  | _ => cases hcompound

end Decoder

/-! ## From elements to a decoding -/

/-- Some bytes are decoded, whatever comes behind them; any strict beginning of them is too
short. -/
structure Decoded.Takes {α : Type} (decode : Bytes → Decoded α) (used : Bytes) (new : α) :
    Prop where
  ok : ∀ rest, decode (used ++ rest) = ⟨new, .ok rest⟩
  short : ∀ cut missing, used = cut ++ missing → missing ≠ [] →
    ∃ needed available, (decode cut).result = .error (.framing (.short needed available))

namespace Decoded

variable {α β γ : Type}

lemma takes_nil (new : β) : Takes (fun bytes => ⟨new, .ok bytes⟩) [] new := by
  refine ⟨fun _ => rfl, fun cut missing h hmissing => ?_⟩
  exact absurd (List.append_eq_nil_iff.1 h.symm).2 hmissing

lemma Takes.map {decode : Bytes → Decoded β} {used : Bytes} {new : β} (h : Takes decode used new)
    (f : β → γ) : Takes (fun bytes => (decode bytes).map f) used (f new) := by
  refine ⟨fun rest => ?_, h.short⟩
  rw [h.ok rest]
  rfl

/-- What is decoded behind something that is read takes over where the reader stops. -/
lemma Takes.after {decode more : Bytes → Decoded β} {used unread : Bytes} {new : β}
    (h : Takes more unread new) {reader : Reader α} (hreader : Delimits reader) {a : α}
    (hread : reader used = .ok a unread)
    (hok : ∀ {bytes rest : Bytes}, reader bytes = .ok a rest → decode bytes = more rest)
    (herror : ∀ {bytes rest : Bytes} {e : Error}, reader bytes = .error e rest →
      (decode bytes).result = .error e) :
    Takes decode used new := by
  obtain ⟨first, rfl, hfirst⟩ := hreader _ _ _ hread
  refine ⟨fun rest => ?_, fun cut missing hcut hmissing => ?_⟩
  · rw [List.append_assoc, hok (hfirst.ok _), h.ok]
  · rcases hfirst.cut hcut with ⟨cut', rfl, hsecond⟩ | ⟨needed, available, rest, hshort⟩
    · rw [hok (hfirst.ok cut')]
      exact h.short cut' missing hsecond hmissing
    · exact ⟨needed, available, herror hshort⟩

end Decoded

namespace Decoder

section

variable {name : String} {index : Nat} {decoder : Decoder} {fields : List FieldDecoder}
  {decoders : List Decoder} {path : Path} {taken : List Nat} {bytes rest : Bytes}
  {parts parts' : List Slot} {element : Element} {old new : Slot}

lemma decodeFields_bound (hread : Element.read bytes = .ok element rest)
    (hold : parts[index]? = some old) (hfree : index ∉ taken)
    (hsettles : decoder.Settles (path.field name) element old new) :
    decodeFields (.bound name index decoder :: fields) path taken bytes parts
      = decodeFields fields path (index :: taken) rest (parts.set index new) := by
  rw [decodeFields]
  simp only [hread, hold, List.contains_iff_mem, hfree, if_false]
  cases hsettles with
  | present hdecode => simp only [hdecode]
  | missing hrecord => simp only [hrecord]

lemma decodeFields_skipped (hread : Element.read bytes = .ok element rest) :
    decodeFields (.skipped name :: fields) path taken bytes parts
      = decodeFields fields path taken rest parts := by
  rw [decodeFields]
  simp only [hread]

lemma decodeFields_cut {field : FieldDecoder} {e : Error}
    (hread : Element.read bytes = .error e rest) :
    (decodeFields (field :: fields) path taken bytes parts).result = .error e := by
  cases field <;> rw [decodeFields] <;> simp only [hread] <;> rfl

lemma decodeElements_cons {i : Nat} {slots : List Slot}
    (hread : Element.read bytes = .ok element rest)
    (hsettles : decoder.Settles (path.index i) element old new) :
    decodeElements (decoder :: decoders) path i bytes (old :: slots)
      = (decodeElements decoders path (i + 1) rest slots).map (new :: ·) := by
  rw [decodeElements]
  cases hsettles with
  | present hdecode => simp only [hread, hdecode]
  | missing hrecord => simp only [hread, hrecord]

lemma decodeElements_cut {i : Nat} {slots : List Slot} {e : Error}
    (hread : Element.read bytes = .error e rest) :
    (decodeElements (decoder :: decoders) path i bytes (old :: slots)).result = .error e := by
  rw [decodeElements]
  simp only [hread]
  rfl

/-- Fields that stand in a row and are stored are decoded from their bytes alone. -/
lemma takes_decodeFields {used : Bytes} {elements : List Element}
    (hapart : (FieldDecoder.indices fields).Nodup)
    (hfree : ∀ index ∈ FieldDecoder.indices fields, index ∉ taken)
    (hrow : Element.Row Element.read used elements [])
    (hstores : Stores path (fields.map FieldDecoder.component) elements parts parts') :
    Decoded.Takes (fun bytes => decodeFields fields path taken bytes parts) used parts' := by
  induction fields generalizing taken used elements parts with
  | nil =>
    cases hstores
    cases hrow
    exact Decoded.takes_nil _
  | cons field fields ih =>
    cases hstores with
    | skipped element htarget hothers =>
      cases field with
      | bound name index decoder => cases htarget
      | skipped name =>
        cases hrow with
        | cons hread hrow =>
          exact (ih hapart hfree hrow hothers).after delimits_element hread decodeFields_skipped
            decodeFields_cut
    | @stored _ _ _ _ _ _ index _ _ _ htarget hold hsettles hothers =>
      cases field with
      | skipped name => cases htarget
      | bound name _ _ =>
        cases htarget
        cases hrow with
        | cons hread hrow =>
          obtain ⟨hindex, hapart⟩ := List.nodup_cons.1 hapart
          obtain ⟨hown, hfree⟩ := List.forall_mem_cons.1 hfree
          have hfree' : ∀ other ∈ FieldDecoder.indices fields, other ∉ index :: taken :=
            fun other hmem => List.not_mem_cons_of_ne_of_not_mem
              (fun h => hindex (h ▸ hmem)) (hfree other hmem)
          exact (ih hapart hfree' hrow hothers).after delimits_element hread
            (decodeFields_bound · hold hown hsettles) decodeFields_cut

/-- Elements of a tuple that stand in a row and are stored are decoded from their bytes alone. -/
lemma takes_decodeElements {used : Bytes} {elements : List Element} (done : List Slot)
    {slots : List Slot}
    (hlength : slots.length = decoders.length)
    (hrow : Element.Row Element.read used elements [])
    (hstores : Stores path (elementComponents done.length decoders) elements (done ++ slots)
      parts') :
    ∃ slots', parts' = done ++ slots'
      ∧ Decoded.Takes (fun bytes => decodeElements decoders path done.length bytes slots) used
        slots' := by
  induction decoders generalizing done slots used elements with
  | nil =>
    cases List.length_eq_zero_iff.1 hlength
    cases hstores
    cases hrow
    exact ⟨[], rfl, Decoded.takes_nil []⟩
  | cons decoder decoders ih =>
    cases slots with
    | nil => cases hlength
    | cons slot slots =>
      cases hstores with
      | skipped element htarget hothers => cases htarget
      | @stored _ _ _ _ _ _ _ _ old new htarget hold hsettles hothers =>
        cases htarget
        cases hrow with
        | cons hread hrow =>
          obtain rfl : slot = old := by simpa using hold
          have hdone : (done ++ [new]).length = done.length + 1 := List.length_append
          have hset : (done ++ slot :: slots).set done.length new = (done ++ [new]) ++ slots := by
            simp
          rw [hset, ← hdone] at hothers
          obtain ⟨others, rfl, htakes⟩ := ih _ (Nat.succ.inj hlength) hrow hothers
          refine ⟨new :: others, by simp, ?_⟩
          rw [hdone] at htakes
          exact (htakes.map (new :: ·)).after delimits_element hread
            (decodeElements_cons · hsettles) decodeElements_cut

end

/-- Items that stand in a row and can be made are decoded from their bytes alone. -/
lemma takes_decodeItems {item : Decoder} {path : Path} {shape : Shape} {used : Bytes}
    {elements : List Element} {items : List Slot} (done : List Slot)
    (hrow : Element.Row Element.sized used elements [])
    (hitems : List.Forall₂ (item.MakesItem path shape) elements items) :
    Decoded.Takes (decodeItems (fun payload => decodeAt item path.element payload shape.fresh)
      path.element elements.length done) used (done.reverse ++ items) := by
  induction hitems generalizing done used with
  | nil =>
    cases hrow
    rw [List.append_nil]
    exact Decoded.takes_nil done.reverse
  | @cons element new elements items hmakes hothers ih =>
    obtain ⟨payload, payloadRest, rfl, hdecode⟩ := hmakes
    cases hrow with
    | cons hread hrow =>
      have hmore := ih (new :: done) hrow
      rw [List.reverse_cons, List.append_assoc, List.singleton_append] at hmore
      refine hmore.after delimits_sized hread (fun hread => ?_) fun hread => ?_
      · rw [List.length_cons, decodeItems]
        simp only [hread, hdecode]
      · rw [List.length_cons, decodeItems]
        simp only [hread]
        rfl

section

variable {id : Uuid} {path : Path} {used : Bytes} {elements : List Element} {slot new : Slot}

lemma takes_object {fields : List FieldDecoder}
    (h : (Decoder.object id fields).Assembles path elements slot new)
    (hdivides : (Decoder.object id fields).Divides path used elements []) :
    Decoded.Takes (fun bytes => decodeAt (.object id fields) path bytes slot) used new := by
  obtain ⟨unread, hhead, hrow⟩ := hdivides
  obtain ⟨_, _, hcount, hlength⟩ := bind_eq_ok.1 hhead
  injection hlength with _ hunread
  subst hunread
  cases h with
  | sequence _ hitem => cases hitem
  | record hcomponents hapart _ hstores =>
    cases hcomponents
    rw [indices_fieldComponents] at hapart
    have hfields := takes_decodeFields hapart (fun _ _ => List.not_mem_nil) hrow hstores
    refine (hfields.map Slot.record).after (delimits_checkCount fields.length) hcount
      (fun hread => ?_) fun hread => ?_
    · rw [decodeAt, hread]
    · rw [decodeAt, hread]
      rfl

lemma takes_tuple {decoders : List Decoder}
    (h : (Decoder.tuple id decoders).Assembles path elements slot new)
    (hdivides : (Decoder.tuple id decoders).Divides path used elements []) :
    Decoded.Takes (fun bytes => decodeAt (.tuple id decoders) path bytes slot) used new := by
  obtain ⟨unread, hhead, hrow⟩ := hdivides
  obtain ⟨_, _, hcount, hlength⟩ := bind_eq_ok.1 hhead
  injection hlength with _ hunread
  subst hunread
  cases h with
  | sequence _ hitem => cases hitem
  | record hcomponents _ hroom hstores =>
    cases hcomponents
    obtain ⟨parts', rfl, helements⟩ := takes_decodeElements [] hroom hrow hstores
    refine (helements.map Slot.record).after (delimits_checkCount decoders.length) hcount
      (fun hread => ?_) fun hread => ?_
    · simp only [decodeAt, hread]
      exact if_pos hroom
    · rw [decodeAt, hread]
      rfl

lemma takes_array {item : Decoder} (h : (Decoder.array id item).Assembles path elements slot new)
    (hdivides : (Decoder.array id item).Divides path used elements []) :
    Decoded.Takes (fun bytes => decodeAt (.array id item) path bytes slot) used new := by
  obtain ⟨unread, hhead, hrow⟩ := hdivides
  obtain ⟨dimensions, _, hdimensions, hlength⟩ := bind_eq_ok.1 hhead
  injection hlength with hlength hunread
  subst hunread
  cases h with
  | record hcomponents => cases hcomponents
  | @sequence _ shape old items hitem hitems =>
    cases hitem
    have htakes := takes_decodeItems [] hrow hitems
    rw [← hlength] at htakes
    refine (htakes.map (Slot.sequence shape)).after (delimits_readDimensions path) hdimensions
      (decodeAt_array · old) fun hread => ?_
    rw [decodeAt, hread]
    rfl

/-- **Elements that make something of a destination** do so from their bytes alone: whatever comes
behind these, and not from less. -/
theorem Assembles.takes {decoder : Decoder} (h : decoder.Assembles path elements slot new)
    (hdivides : decoder.Divides path used elements []) :
    Decoded.Takes (fun bytes => decodeAt decoder path bytes slot) used new := by
  cases decoder with
  | object id fields => exact takes_object h hdivides
  | tuple id decoders => exact takes_tuple h hdivides
  | array id item => exact takes_array h hdivides
  | set id item =>
    simp only [decodeAt_set]
    exact takes_array (assembles_set.1 h) hdivides
  | _ =>
    cases h with
    | record hcomponents => cases hcomponents
    | sequence _ hitem => cases hitem

end

end Decoder

end QueryWire
