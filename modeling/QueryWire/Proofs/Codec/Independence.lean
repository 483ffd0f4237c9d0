import QueryWire.Proofs.Codec.Elements

/-!
# The elements of a compound value are independent

A compound value ends where its own lengths say, and so does each of its elements.  Whatever a
decoder makes of an element, however few of its bytes it looks at, the next element is found behind
all of them.  An element may therefore be exchanged for another one of the same length, and only
what is made of this one changes.

* `Decoder.part?` — the component that an element belongs to.
* `Decoder.Replaces` — what becomes of a decoded value when one element has other bytes.
* `Decoder.Divides.replace` — the bytes of an element are exchanged in their place.
* `Decoder.Assembles.replace` — so is what is made of them.
* **`Decoder.delimited_of_decodeAt`** — the result as a whole.
-/

namespace QueryWire

open Reader

/-! ## Exchanging bytes -/

/-- The bytes of an element may be exchanged for as many others. -/
def Element.Exchanges (read : Reader Element) : Prop :=
  ∀ bytes payload rest, read bytes = .ok (some payload) rest →
    ∃ front, bytes = front ++ (payload ++ rest) ∧ ∀ payload' rest',
      payload'.length = payload.length
        → read (front ++ (payload' ++ rest')) = .ok (some payload') rest'

lemma exchanges_sized : Element.Exchanges Element.sized := by
  intro bytes payload rest h
  obtain ⟨length, _, hlength, hsized⟩ := bind_eq_ok.1 h
  obtain ⟨hlt, rfl⟩ := nat_eq_ok.1 hlength
  split at hsized
  · cases hsized
  · rename_i hpresent
    obtain ⟨_, _, hpayload, hsome⟩ := bind_eq_ok.1 hsized
    cases hsome
    obtain ⟨rfl, rfl⟩ := raw_eq_ok.1 hpayload
    refine ⟨_, rfl, fun payload' rest' hlength => ?_⟩
    simp only [Element.sized]
    rw [bind_of_ok (nat_encode hlt _), if_neg hpresent, bind_of_ok (raw_append_of_length hlength _)]
    rfl

lemma exchanges_element : Element.Exchanges Element.read := by
  intro bytes payload rest h
  obtain ⟨_, unread, hreserved, hsized⟩ := bind_eq_ok.1 h
  obtain ⟨reserved, rfl, htakes⟩ := composes_delimits.discard 4 _ _ _ hreserved
  obtain ⟨front, rfl, hexchanges⟩ := exchanges_sized _ _ _ hsized
  refine ⟨reserved ++ front, (List.append_assoc _ _ _).symm, fun payload' rest' hlength => ?_⟩
  simp only [Element.read]
  rw [List.append_assoc, bind_of_ok (htakes.ok _), hexchanges payload' rest' hlength]

lemma Decoder.exchanges_readElement (decoder : Decoder) :
    Element.Exchanges decoder.readElement := by
  cases decoder with
  | array _ _ | set _ _ => exact exchanges_sized
  | _ => exact exchanges_element

/-- The bytes of one element are exchanged; the elements around it are read as before. -/
lemma Element.Row.replace {read : Reader Element} (hread : Delimits read)
    (hexchanges : Exchanges read) {bytes rest : Bytes} {elements : List Element}
    (h : Row read bytes elements rest) {i : Nat} {payload : Bytes}
    (hi : elements[i]? = some (some payload)) :
    ∃ before after, bytes = before ++ (payload ++ after) ∧ ∀ payload' : Bytes,
      payload'.length = payload.length
        → Row read (before ++ (payload' ++ after)) (elements.set i (some payload')) rest := by
  induction h generalizing i with
  | nil => cases hi
  | cons hfirst hothers ih =>
    cases i with
    | zero =>
      cases hi
      obtain ⟨front, rfl, hexchange⟩ := hexchanges _ _ _ hfirst
      exact ⟨front, _, rfl, fun payload' hlength =>
        .cons (hexchange payload' _ hlength) hothers⟩
    | succ i =>
      obtain ⟨first, rfl, htakes⟩ := hread _ _ _ hfirst
      obtain ⟨before, after, rfl, hreplace⟩ := ih hi
      refine ⟨first ++ before, after, (List.append_assoc _ _ _).symm, fun payload' hlength => ?_⟩
      rw [List.append_assoc]
      exact .cons (htakes.ok _) (hreplace payload' hlength)

namespace Decoder

lemma Divides.replace {decoder : Decoder} {path : Path} {bytes rest : Bytes}
    {elements : List Element} (h : decoder.Divides path bytes elements rest) {i : Nat}
    {payload : Bytes} (hi : elements[i]? = some (some payload)) :
    ∃ before after, bytes = before ++ (payload ++ after) ∧ ∀ payload' : Bytes,
      payload'.length = payload.length
        → decoder.Divides path (before ++ (payload' ++ after)) (elements.set i (some payload'))
          rest := by
  obtain ⟨unread, hhead, hrow⟩ := h
  obtain ⟨head, rfl, htakes⟩ := decoder.delimits_readHead path _ _ _ hhead
  obtain ⟨before, after, rfl, hreplace⟩ :=
    hrow.replace decoder.delimits_readElement decoder.exchanges_readElement hi
  refine ⟨head ++ before, after, (List.append_assoc _ _ _).symm, fun payload' hlength =>
    ⟨_, ?_, hreplace payload' hlength⟩⟩
  rw [List.append_assoc, List.length_set]
  exact htakes.ok _

end Decoder

/-! ## Exchanging what is made of them -/

namespace Slot

/-- What the decoding of a part starts from: the part as it is, or a fresh item. -/
def start? (slot : Slot) (index : Nat) : Option Slot :=
  match slot with
  | .record parts => parts[index]?
  | .sequence element _ => some element.fresh
  | .scalar _ | .option _ _ | .flagged _ _ => none

/-- A destination with another part. -/
def setPart (slot : Slot) (index : Nat) (part : Slot) : Slot :=
  match slot with
  | .record parts => .record (parts.set index part)
  | .sequence element items => .sequence element (items.set index part)
  | .scalar _ | .option _ _ | .flagged _ _ => slot

end Slot

namespace Decoder

/-- The component that an element of a compound value belongs to: one of a record, or an item. -/
def part? (decoder : Decoder) (i : Nat) : Option Component :=
  match decoder.item? with
  | some item => some ⟨.element, some (i, item)⟩
  | none => (decoder.components?.getD [])[i]?

/-- What was decoded becomes something else when an element has other bytes: nothing changes when
the element is passed over, and only the part that it goes into when it can be decoded. -/
inductive Replaces (decoder : Decoder) (path : Path) (slot : Slot) (i : Nat) (payload : Bytes)
    (new : Slot) : Slot → Prop where
  | skipped {c : Component} (hpart : decoder.part? i = some c) (htarget : c.target = none) :
    Replaces decoder path slot i payload new new
  | bound {c : Component} {index : Nat} {inner : Decoder} {old part : Slot} {rest : Bytes}
    (hpart : decoder.part? i = some c) (htarget : c.target = some (index, inner))
    (hold : slot.start? index = some old)
    (hdecode : decodeAt inner (path.push c.step) payload old = ⟨part, .ok rest⟩) :
    Replaces decoder path slot i payload new (new.setPart index part)

lemma part?_of_components {decoder : Decoder} {components : List Component}
    (h : decoder.components? = some components) (i : Nat) : decoder.part? i = components[i]? := by
  cases decoder <;> cases h <;> rfl

lemma part?_of_item {decoder item : Decoder} (h : decoder.item? = some item) (i : Nat) :
    decoder.part? i = some ⟨.element, some (i, item)⟩ := by
  rw [part?, h]

section

variable {path : Path} {components : List Component} {elements : List Element}
  {parts parts' : List Slot} {i index : Nat} {c : Component}

/-- A part that no component goes into is as it was. -/
lemma Stores.getElem?_unbound (h : Stores path components elements parts parts')
    (hindex : index ∉ Component.indices components) : parts'[index]? = parts[index]? := by
  induction h with
  | nil => rfl
  | skipped _ htarget _ ih =>
    rw [Component.indices_cons_of_none htarget] at hindex
    exact ih hindex
  | stored htarget _ _ _ ih =>
    rw [Component.indices_cons_of_target htarget, List.mem_cons, not_or] at hindex
    rw [ih hindex.2, List.getElem?_set_ne (Ne.symm hindex.1)]

/-- An element is settled in the part that it goes into, which starts from what it was before. -/
lemma Stores.settled (h : Stores path components elements parts parts')
    (hapart : (Component.indices components).Nodup) (hc : components[i]? = some c)
    {element : Element} (hi : elements[i]? = some element) {inner : Decoder}
    (htarget : c.target = some (index, inner)) :
    ∃ old new, parts[index]? = some old ∧ inner.Settles (path.push c.step) element old new
      ∧ parts'[index]? = some new := by
  induction h generalizing i with
  | nil => cases hc
  | skipped _ hfirst _ ih =>
    cases i with
    | zero =>
      cases hc
      cases hfirst.symm.trans htarget
    | succ i =>
      rw [Component.indices_cons_of_none hfirst] at hapart
      exact ih hapart hc hi
  | @stored _ components _ _ parts _ other _ _ new hfirst hold hsettles hothers ih =>
    rw [Component.indices_cons_of_target hfirst] at hapart
    obtain ⟨hother, hapart⟩ := List.nodup_cons.1 hapart
    cases i with
    | zero =>
      cases hc
      cases hi
      cases hfirst.symm.trans htarget
      have hlt := (List.getElem?_eq_some_iff.1 hold).choose
      exact ⟨_, new, hold, hsettles,
        (hothers.getElem?_unbound hother).trans (List.getElem?_set_self hlt)⟩
    | succ i =>
      rw [List.getElem?_cons_succ] at hc
      have hne : other ≠ index := by
        rintro rfl
        exact hother (Component.mem_indices_of_target (List.mem_of_getElem? hc) htarget)
      obtain ⟨old, new, hold, hsettles, hnew⟩ := ih hapart hc hi
      exact ⟨old, new, (List.getElem?_set_ne hne).symm.trans hold, hsettles, hnew⟩

/-- A part that no component goes into may be any. -/
lemma Stores.set_unbound (h : Stores path components elements parts parts')
    (hindex : index ∉ Component.indices components) (slot : Slot) :
    Stores path components elements (parts.set index slot) (parts'.set index slot) := by
  induction h with
  | nil parts => exact .nil _
  | skipped element htarget _ ih =>
    rw [Component.indices_cons_of_none htarget] at hindex
    exact .skipped element htarget (ih hindex)
  | @stored _ _ _ _ _ _ other _ _ new htarget hold hsettles _ ih =>
    rw [Component.indices_cons_of_target htarget, List.mem_cons, not_or] at hindex
    obtain ⟨hne, hindex⟩ := hindex
    have hothers := ih hindex
    rw [List.set_comm _ _ (Ne.symm hne)] at hothers
    exact .stored htarget (by rwa [List.getElem?_set_ne hne]) hsettles hothers

/-- An element that is passed over may be any. -/
lemma Stores.replace_skipped (h : Stores path components elements parts parts')
    (hc : components[i]? = some c) (htarget : c.target = none) (element : Element) :
    Stores path components (elements.set i element) parts parts' := by
  induction h generalizing i with
  | nil => cases hc
  | skipped first hfirst hothers ih =>
    cases i with
    | zero => exact .skipped element hfirst hothers
    | succ i => exact .skipped first hfirst (ih hc)
  | stored hfirst hold hsettles hothers ih =>
    cases i with
    | zero =>
      cases hc
      cases hfirst.symm.trans htarget
    | succ i => exact .stored hfirst hold hsettles (ih hc)

/-- An element that is settled otherwise changes the part that it goes into. -/
lemma Stores.replace_bound (h : Stores path components elements parts parts')
    (hapart : (Component.indices components).Nodup) (hc : components[i]? = some c)
    {inner : Decoder} (htarget : c.target = some (index, inner)) {old new : Slot}
    (hold : parts[index]? = some old) {element : Element}
    (hsettles : inner.Settles (path.push c.step) element old new) :
    Stores path components (elements.set i element) parts (parts'.set index new) := by
  induction h generalizing i with
  | nil => cases hc
  | skipped first hfirst _ ih =>
    cases i with
    | zero =>
      cases hc
      cases hfirst.symm.trans htarget
    | succ i =>
      rw [Component.indices_cons_of_none hfirst] at hapart
      exact .skipped first hfirst (ih hapart hc hold)
  | @stored _ components _ _ _ _ other _ _ replaced hfirst hold' hsettles' hothers ih =>
    rw [Component.indices_cons_of_target hfirst] at hapart
    obtain ⟨hother, hapart⟩ := List.nodup_cons.1 hapart
    cases i with
    | zero =>
      cases hc
      cases hfirst.symm.trans htarget
      cases hold'.symm.trans hold
      have hset := hothers.set_unbound hother new
      rw [List.set_set] at hset
      exact .stored hfirst hold hsettles hset
    | succ i =>
      rw [List.getElem?_cons_succ] at hc
      have hne : other ≠ index := by
        rintro rfl
        exact hother (Component.mem_indices_of_target (List.mem_of_getElem? hc) htarget)
      exact .stored hfirst hold' hsettles'
        (ih hapart hc ((List.getElem?_set_ne hne).trans hold))

end

/-- With the bytes that it has, an element makes nothing else of the value. -/
lemma Assembles.replaces_self {decoder : Decoder} {path : Path} {elements : List Element}
    {slot new : Slot} (h : decoder.Assembles path elements slot new) {i : Nat} {payload : Bytes}
    (hi : elements[i]? = some (some payload)) : decoder.Replaces path slot i payload new new := by
  have hlt := (List.getElem?_eq_some_iff.1 hi).choose
  cases h with
  | @record components parts parts' hcomponents hapart hroom hstores =>
    rw [hstores.length_eq.1] at hlt
    have hc : components[i]? = some components[i] := List.getElem?_eq_getElem hlt
    have hpart := (part?_of_components hcomponents i).trans hc
    cases htarget : components[i].target with
    | none => exact .skipped hpart htarget
    | some target =>
      obtain ⟨index, inner⟩ := target
      obtain ⟨old, part, hold, hsettles, hnew⟩ := hstores.settled hapart hc hi htarget
      cases hsettles with
      | present hdecode =>
        have hreplaces : decoder.Replaces path (.record parts) i payload (.record parts')
            ((Slot.record parts').setPart index part) := .bound hpart htarget hold hdecode
        rwa [Slot.setPart, set_of_getElem? hnew] at hreplaces
  | @sequence item shape old items hitem hitems =>
    obtain ⟨part, hnew, payload', rest, hpayload, hdecode⟩ := exists_partner_at hitems hi
    cases hpayload
    have hreplaces : decoder.Replaces path (.sequence shape old) i payload (.sequence shape items)
        ((Slot.sequence shape items).setPart i part) :=
      .bound (part?_of_item hitem i) rfl rfl hdecode
    rwa [Slot.setPart, set_of_getElem? hnew] at hreplaces

/-- What a compound value is made of may be exchanged element by element. -/
theorem Assembles.replace {decoder : Decoder} {path : Path} {elements : List Element}
    {slot new new' : Slot} (h : decoder.Assembles path elements slot new) {i : Nat}
    {payload : Bytes} (hreplaces : decoder.Replaces path slot i payload new new') :
    decoder.Assembles path (elements.set i (some payload)) slot new' := by
  cases h with
  | record hcomponents hapart hroom hstores =>
    cases hreplaces with
    | skipped hpart htarget =>
      rw [part?_of_components hcomponents] at hpart
      exact .record hcomponents hapart hroom (hstores.replace_skipped hpart htarget _)
    | bound hpart htarget hold hdecode =>
      rw [part?_of_components hcomponents] at hpart
      exact .record hcomponents hapart hroom
        (hstores.replace_bound hapart hpart htarget hold (.present hdecode))
  | sequence old hitem hitems =>
    cases hreplaces with
    | skipped hpart htarget =>
      rw [part?_of_item hitem] at hpart
      cases hpart
      cases htarget
    | bound hpart htarget hold hdecode =>
      rw [part?_of_item hitem] at hpart
      cases hpart
      cases htarget
      cases hold
      exact .sequence old hitem (forall₂_replace hitems i ⟨payload, _, rfl, hdecode⟩)

/-- **Compound values are self-delimiting and their elements independent.**  When a compound value
is decoded, the bytes that it took divide into its elements.  They are decoded in the same way
whatever comes behind them, and no strict beginning of them is.  The bytes of an element, which is
one that the value is made of, may be exchanged for as many others: the value then divides as before
but for this element, and if the new bytes can be decoded, only the part that the element goes into
changes, and nothing when it is passed over. -/
theorem delimited_of_decodeAt {decoder : Decoder} (hcompound : decoder.isCompound = true)
    {path : Path} {bytes rest : Bytes} {slot new : Slot}
    (h : decodeAt decoder path bytes slot = ⟨new, .ok rest⟩) :
    ∃ used elements, bytes = used ++ rest ∧ decoder.Divides path used elements []
      ∧ Decoded.Takes (fun bytes => decodeAt decoder path bytes slot) used new
      ∧ ∀ i payload, elements[i]? = some (some payload)
        → decoder.Replaces path slot i payload new new
          ∧ ∃ before after, used = before ++ (payload ++ after) ∧ ∀ payload' : Bytes,
            payload'.length = payload.length
            → decoder.Divides path (before ++ (payload' ++ after))
                (elements.set i (some payload')) []
              ∧ ∀ new', decoder.Replaces path slot i payload' new new'
                → Decoded.Takes (fun bytes => decodeAt decoder path bytes slot)
                  (before ++ (payload' ++ after)) new' := by
  obtain ⟨elements, hdivides, hassembles⟩ := assembles_of_decodeAt hcompound h
  obtain ⟨used, rfl, hused⟩ := hdivides.used
  refine ⟨used, elements, rfl, hused, hassembles.takes hused, fun i payload hi => ?_⟩
  obtain ⟨before, after, hbytes, hreplace⟩ := hused.replace hi
  refine ⟨hassembles.replaces_self hi, before, after, hbytes, fun payload' hlength =>
    ⟨hreplace payload' hlength, fun new' hreplaces => ?_⟩⟩
  exact (hassembles.replace hreplaces).takes (hreplace payload' hlength)

end Decoder

namespace Memo

/-- A decoder for an identifier that is passed over, bytes and a set of numbers. -/
def decoder : Decoder :=
  .object (Uuid.ofNat 0xD1) [
    .skipped "id",
    .bound "data" 1 (.scalar ScalarKind.bytes.id .bytes),
    .bound "marks" 0 (.set (Uuid.ofNat 0xD2) (.scalar ScalarKind.int16.id .int16))]

/-- A record for it, in another order. -/
def slot (marks : List Int16) (data : Bytes) : Slot :=
  .record [.sequence (.scalar .int16) (marks.map fun mark => .scalar (.int16 mark)),
    .scalar (.bytes data)]

/-- A row with some data and two marks. -/
def row (data : Bytes) : Bytes :=
  let marks := word 1 ++ word 0 ++ word 0 ++ word 2 ++ word 1 ++ Bytes.prefixed [0, 4]
    ++ Bytes.prefixed [0, 5]
  word 3 ++ Sensor.part (word 7) ++ Sensor.part data ++ Sensor.part marks

/-- The row ends in front of the byte behind it, though the data would take all bytes that there
are. -/
theorem delimited_of_decodeAt_row :
    decoder.isCompound = true
      ∧ Decoder.decodeAt decoder .result (row [1, 2] ++ [9]) (slot [8] [])
        = ⟨slot [4, 5] [1, 2], .ok [9]⟩
      ∧ ∃ used elements, row [1, 2] ++ [9] = used ++ [9]
        ∧ decoder.Divides .result used elements []
        ∧ Decoded.Takes (fun bytes => Decoder.decodeAt decoder .result bytes (slot [8] [])) used
          (slot [4, 5] [1, 2]) := by
  have hdecode : Decoder.decodeAt decoder .result (row [1, 2] ++ [9]) (slot [8] [])
      = ⟨slot [4, 5] [1, 2], .ok [9]⟩ := Decoded.eq_of_contents rfl rfl
  obtain ⟨used, elements, hused, hdivides, htakes, -⟩ :=
    Decoder.delimited_of_decodeAt rfl hdecode
  exact ⟨rfl, hdecode, used, elements, hused, hdivides, htakes⟩

end Memo

end QueryWire
