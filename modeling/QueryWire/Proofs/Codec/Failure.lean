import QueryWire.Proofs.Codec.Soundness

/-!
# Where a decoding fails, and what it leaves

Decoding goes through the parts of a value in the order in which they arrive and stops at the first
that fails.  What it leaves is told compound by compound on the way there: the parts in front of the
failing one are decoded, those behind it are as they were, and so are the parts of a record that
nothing is bound to.

* `Path.follow` — the place that steps lead to.
* `Component` — a part of an object or of a tuple: the step to it, and where it goes.
* `Decoder.Settles` — what a part that does not fail leaves in its destination.
* `Decoder.Fails` — what a failure at some depth leaves, and the steps that lead to it;
  `Decoder.RowFails` and `Decoder.ItemsFail` for a failure among components and among items.
* **`Decoder.RowFails.later`**, **`Decoder.ItemsFail.later`** — one more part in front of the
  failure.
-/

namespace QueryWire

namespace Path

/-- The place that steps lead to. -/
def follow (path : Path) (steps : List Step) : Path := steps.foldl push path

@[simp] lemma follow_nil (path : Path) : path.follow [] = path := rfl

end Path

/-- A mismatch is reported at a place; other errors name none. -/
def Error.IsAt (e : Error) (place : Path) : Prop :=
  ∀ path cause, e = .codecMismatch path cause → path = place

lemma isAt_codecMismatch (path : Path) (cause : Mismatch) :
    (Error.codecMismatch path cause).IsAt path := by
  intro path' cause' h
  cases h
  rfl

lemma Reader.IsFraming.isAt {e : Error} (h : Reader.IsFraming e) (place : Path) : e.IsAt place := by
  rintro path cause rfl
  exact h.elim

/-! ## Components -/

/-- A part of an object or of a tuple: the step that leads to it, and the part of the record that it
goes into with the decoder for it; none when it is passed over. -/
structure Component where
  step : Path.Step
  target : Option (Nat × Decoder)

namespace Component

/-- The part of the record that a component goes into. -/
def index? (c : Component) : Option Nat := c.target.map Prod.fst

/-- The parts of the record that components go into. -/
def indices (components : List Component) : List Nat := components.filterMap index?

lemma mem_indices {components : List Component} {index : Nat} :
    index ∈ indices components ↔ ∃ c ∈ components, c.index? = some index :=
  List.mem_filterMap

lemma index?_eq {c : Component} {index : Nat} {decoder : Decoder}
    (h : c.target = some (index, decoder)) : c.index? = some index := by
  rw [index?, h]
  rfl

lemma indices_cons_of_target {c : Component} {components : List Component} {index : Nat}
    {decoder : Decoder} (h : c.target = some (index, decoder)) :
    indices (c :: components) = index :: indices components :=
  List.filterMap_cons_some (index?_eq h)

lemma indices_cons_of_none {c : Component} {components : List Component} (h : c.target = none) :
    indices (c :: components) = indices components := by
  refine List.filterMap_cons_none ?_
  rw [index?, h]
  rfl

end Component

/-- A field as a component. -/
def FieldDecoder.component : FieldDecoder → Component
  | .bound name index decoder => ⟨.field name, some (index, decoder)⟩
  | .skipped name => ⟨.field name, none⟩

namespace Decoder

/-- The elements of a tuple as components, the first of them at position `i`. -/
def elementComponents (i : Nat) : List Decoder → List Component
  | [] => []
  | decoder :: decoders => ⟨.index i, some (i, decoder)⟩ :: elementComponents (i + 1) decoders

/-- The components of an object or of a tuple, in the order in which they arrive. -/
def components? : Decoder → Option (List Component)
  | .object _ fields => some (fields.map FieldDecoder.component)
  | .tuple _ elements => some (elementComponents 0 elements)
  | _ => none

/-- The decoder of the items of an array or a set. -/
def item? : Decoder → Option Decoder
  | .array _ item | .set _ item => some item
  | _ => none

/-- A part is decoded, or recorded as missing, and turns what its destination held into what it
holds now. -/
inductive Settles (decoder : Decoder) (path : Path) : Element → Slot → Slot → Prop where
  | present {payload rest : Bytes} {old new : Slot}
    (hdecode : decodeAt decoder path payload old = ⟨new, .ok rest⟩) :
    Settles decoder path (some payload) old new
  | missing {old new : Slot} (hrecord : decodeMissingAt decoder path old = (new, .ok ())) :
    Settles decoder path none old new

end Decoder

/-! ## Failures in a compound value -/

/-- Elements are read one after the other. -/
inductive Element.Row (read : Reader Element) : Bytes → List Element → Bytes → Prop where
  | nil (bytes : Bytes) : Row read bytes [] bytes
  | cons {bytes rest unread : Bytes} {element : Element} {elements : List Element}
    (hread : read bytes = .ok element rest) (hothers : Row read rest elements unread) :
    Row read bytes (element :: elements) unread

/-- Items were decoded, each from a fresh destination, and fewer than announced. -/
def ItemsDecoded (item : Decoder) (path : Path) (shape : Shape) (count : Nat) (bytes : Bytes)
    (items : List Slot) (unread : Bytes) : Prop :=
  ∃ payloads : List Bytes, payloads.length < count
    ∧ Element.Row Element.sized bytes (payloads.map some) unread
    ∧ List.Forall₂ (fun payload decoded => ∃ rest,
      Decoder.decodeAt item path.element payload shape.fresh = ⟨decoded, .ok rest⟩) payloads items

mutual

/-- A decoding fails with an error, at the end of some steps, and leaves the destination as the
failing component or item leaves it at each compound on the way there. -/
inductive Decoder.Fails :
    Decoder → Path → Bytes → Slot → List Path.Step → Error → Slot → Prop where
  /-- The payload of a scalar is refused. -/
  | scalar (id : Uuid) {kind : ScalarKind} {path : Path} {bytes rest : Bytes} {value : Scalar}
    {e : Error} (hread : readInto path kind value.kind bytes = .error e rest) :
    Fails (.scalar id kind) path bytes (.scalar value) [] e (.scalar value)
  /-- A label is refused. -/
  | label (id : Uuid) {members : List String} {path : Path} {bytes rest : Bytes} {text : String}
    {e : Error} (hread : Decoder.readLabel path members bytes = .error e rest) :
    Fails (.enum id members) path bytes (.scalar (.str text)) [] e (.scalar (.str text))
  /-- An optional that drops its contents starts from a fresh destination. -/
  | dropping {inner : Decoder} {path : Path} {bytes : Bytes} {shape : Shape} (old : Option Slot)
    {steps : List Path.Step} {e : Error} {new : Slot}
    (hinner : Fails inner path bytes shape.fresh steps e new) :
    Fails (.optional inner) path bytes (.option shape old) steps e (.option shape (some new))
  /-- An optional that keeps its contents is written over. -/
  | keeping {inner : Decoder} {path : Path} {bytes : Bytes} (present : Bool) {old new : Slot}
    {steps : List Path.Step} {e : Error} (hinner : Fails inner path bytes old steps e new) :
    Fails (.optional inner) path bytes (.flagged present old) steps e (.flagged true new)
  /-- The count of the components is refused. -/
  | count {decoder : Decoder} {components : List Component} {path : Path} {bytes rest : Bytes}
    (parts : List Slot) {e : Error} (hcomponents : decoder.components? = some components)
    (hcount : checkCount components.length bytes = .error e rest) :
    Fails decoder path bytes (.record parts) [] e (.record parts)
  | row {decoder : Decoder} {components : List Component} {path : Path} {bytes rest : Bytes}
    {parts parts' : List Slot} {steps : List Path.Step} {e : Error}
    (hcomponents : decoder.components? = some components)
    (hcount : checkCount components.length bytes = .ok () rest)
    (hrow : RowFails components path rest parts steps e parts') :
    Fails decoder path bytes (.record parts) steps e (.record parts')
  /-- The head of an array is refused. -/
  | head {decoder item : Decoder} {path : Path} {bytes rest : Bytes} (shape : Shape)
    (old : List Slot) {e : Error} (hitem : decoder.item? = some item)
    (hread : readDimensions path bytes = .error e rest) :
    Fails decoder path bytes (.sequence shape old) [] e (.sequence shape [])
  | items {decoder item : Decoder} {path : Path} {bytes rest : Bytes} {shape : Shape} {count : Nat}
    (old : List Slot) {steps : List Path.Step} {e : Error} {new : List Slot}
    (hitem : decoder.item? = some item)
    (hread : readDimensions path bytes = .ok (some count) rest)
    (hitems : ItemsFail item path shape count rest steps e new) :
    Fails decoder path bytes (.sequence shape old) steps e (.sequence shape new)

/-- The components of a record fail: those in front of the failing one are decoded into their parts,
the parts of those behind it are unchanged, and so are the parts that no component goes into. -/
inductive Decoder.RowFails :
    List Component → Path → Bytes → List Slot → List Path.Step → Error → List Slot → Prop where
  | mk {before after : List Component} {c : Component} {path : Path} {bytes unread : Bytes}
    {elements : List Element} {parts parts' : List Slot} {steps : List Path.Step} {e : Error}
    (hlength : elements.length = before.length)
    (hread : Element.Row Element.read bytes elements unread)
    (hbefore : ∀ (i : Nat) (b : Component) (element : Element) (index : Nat) (decoder : Decoder),
      before[i]? = some b → elements[i]? = some element → b.target = some (index, decoder)
      → ∃ old new, parts[index]? = some old ∧ parts'[index]? = some new
        ∧ decoder.Settles (path.push b.step) element old new)
    (hfails : ComponentFails c path unread parts steps e parts')
    (hafter : ∀ index ∈ Component.indices after, parts'[index]? = parts[index]?)
    (hunbound : ∀ index, index ∉ Component.indices (before ++ c :: after)
      → parts'[index]? = parts[index]?) :
    RowFails (before ++ c :: after) path bytes parts steps e parts'

/-- A component fails, and leaves its part of the record: it is cut and was not begun, or is missing
where that cannot be recorded, or fails inside. -/
inductive Decoder.ComponentFails :
    Component → Path → Bytes → List Slot → List Path.Step → Error → List Slot → Prop where
  | cut {c : Component} (path : Path) {bytes rest : Bytes} {parts parts' : List Slot} {e : Error}
    (hcut : Element.read bytes = .error e rest)
    (hown : ∀ index, c.index? = some index → parts'[index]? = parts[index]?) :
    ComponentFails c path bytes parts [c.step] e parts'
  | missing {c : Component} {path : Path} {bytes rest : Bytes} {parts parts' : List Slot}
    {index : Nat} {decoder : Decoder} {old : Slot} (cause : Mismatch)
    (hread : Element.read bytes = .ok none rest) (htarget : c.target = some (index, decoder))
    (hold : parts[index]? = some old) (hrefused : decoder.supportsMissing = false)
    (hown : parts'[index]? = some old) :
    ComponentFails c path bytes parts [c.step] (.codecMismatch (path.push c.step) cause) parts'
  | inside {c : Component} {path : Path} {bytes rest payload : Bytes} {parts parts' : List Slot}
    {index : Nat} {decoder : Decoder} {old new : Slot} {steps : List Path.Step} {e : Error}
    (hread : Element.read bytes = .ok (some payload) rest)
    (htarget : c.target = some (index, decoder)) (hold : parts[index]? = some old)
    (hinner : Fails decoder (path.push c.step) payload old steps e new)
    (hown : parts'[index]? = some new) :
    ComponentFails c path bytes parts (c.step :: steps) e parts'

/-- The items of a sequence fail: it holds those that were decoded, and the failing one behind them
when its decoding had begun. -/
inductive Decoder.ItemsFail :
    Decoder → Path → Shape → (count : Nat) → Bytes → List Path.Step → Error → List Slot → Prop where
  | cut {item : Decoder} {path : Path} {shape : Shape} {count : Nat} {bytes unread rest : Bytes}
    {items : List Slot} {e : Error}
    (hitems : ItemsDecoded item path shape count bytes items unread)
    (hcut : Element.sized unread = .error e rest) :
    ItemsFail item path shape count bytes [.element] e items
  | missing {item : Decoder} {path : Path} {shape : Shape} {count : Nat} {bytes unread rest : Bytes}
    {items : List Slot} (hitems : ItemsDecoded item path shape count bytes items unread)
    (hread : Element.sized unread = .ok none rest) :
    ItemsFail item path shape count bytes [.element]
      (.codecMismatch path.element .missingElement) items
  | inside {item : Decoder} {path : Path} {shape : Shape} {count : Nat}
    {bytes unread rest payload : Bytes} {items : List Slot} {steps : List Path.Step} {e : Error}
    {new : Slot} (hitems : ItemsDecoded item path shape count bytes items unread)
    (hread : Element.sized unread = .ok (some payload) rest)
    (hinner : Fails item path.element payload shape.fresh steps e new) :
    ItemsFail item path shape count bytes (.element :: steps) e (items ++ [new])

end

namespace Decoder

/-! ## One more component in front -/

section

variable {c : Component} {components : List Component} {path : Path} {bytes rest : Bytes}
  {parts parts' : List Slot} {steps : List Path.Step} {e : Error} {index : Nat}

/-- The first component fails, and only its part of the record is touched. -/
lemma RowFails.first (hfails : ComponentFails c path bytes parts steps e parts')
    (hapart : ∀ index, c.index? = some index → index ∉ Component.indices components)
    (hothers : ∀ index, c.index? ≠ some index → parts'[index]? = parts[index]?) :
    RowFails (c :: components) path bytes parts steps e parts' := by
  refine @RowFails.mk [] components c path bytes bytes [] parts parts' steps e rfl (.nil bytes)
    (fun i b element index decoder hb => ?_) hfails (fun index hindex => ?_) fun index hindex => ?_
  · rw [List.getElem?_nil] at hb
    cases hb
  · exact hothers index fun hown => hapart index hown hindex
  · exact hothers index fun hown =>
      hindex (Component.mem_indices.2 ⟨c, List.mem_cons_self, hown⟩)

/-- What becomes of a component does not depend on the other parts of the record. -/
lemma ComponentFails.congr {parts₀ : List Slot}
    (h : ComponentFails c path bytes parts steps e parts')
    (hown : ∀ index, c.index? = some index → parts[index]? = parts₀[index]?) :
    ComponentFails c path bytes parts₀ steps e parts' := by
  cases h with
  | cut _ hcut hsame =>
    exact .cut path hcut fun index hindex => (hsame index hindex).trans (hown index hindex)
  | missing cause hread htarget hold hrefused hsame =>
    rw [hown _ (Component.index?_eq htarget)] at hold
    exact .missing cause hread htarget hold hrefused hsame
  | inside hread htarget hold hinner hnew =>
    rw [hown _ (Component.index?_eq htarget)] at hold
    exact .inside hread htarget hold hinner hnew

/-- **One more component** is decoded into its part before the failure. -/
theorem RowFails.later {decoder : Decoder} {element : Element} {old new : Slot}
    (htarget : c.target = some (index, decoder)) (hread : Element.read bytes = .ok element rest)
    (hold : parts[index]? = some old)
    (hsettles : decoder.Settles (path.push c.step) element old new)
    (hapart : index ∉ Component.indices components)
    (h : RowFails components path rest (parts.set index new) steps e parts') :
    RowFails (c :: components) path bytes parts steps e parts' := by
  have hother {other : Nat} (hne : other ≠ index) :
      (parts.set index new)[other]? = parts[other]? :=
    List.getElem?_set_ne hne.symm
  have hnew : (parts.set index new)[index]? = some new := by
    obtain ⟨hlt, -⟩ := List.getElem?_eq_some_iff.1 hold
    rw [List.getElem?_set_self hlt]
  cases h with
  | @mk before after failing _ _ unread elements _ _ _ _ hlength hothers hbefore hfails hafter
      hunbound =>
    have hne {b : Component} (hb : b ∈ before ++ failing :: after) {other : Nat}
        (hindex : b.index? = some other) : other ≠ index := by
      rintro rfl
      exact hapart (Component.mem_indices.2 ⟨b, hb, hindex⟩)
    refine @RowFails.mk (c :: before) after failing path bytes unread (element :: elements) parts
      parts' steps e (congrArg (· + 1) hlength) (.cons hread hothers)
      (fun i b element' index' decoder' hb helement htarget' => ?_)
      (hfails.congr fun other hindex => hother (hne (by simp) hindex)) (fun other hindex => ?_)
      fun other hindex => ?_
    · cases i with
      | zero =>
        cases hb
        cases helement
        cases htarget.symm.trans htarget'
        exact ⟨old, new, hold, (hunbound index hapart).trans hnew, hsettles⟩
      | succ i =>
        obtain ⟨old', new', hold', hnew', hsettles'⟩ :=
          hbefore i b element' index' decoder' hb helement htarget'
        have hmem : b ∈ before ++ failing :: after :=
          List.mem_append_left _ (@List.mem_of_getElem? _ before i b hb)
        rw [hother (hne hmem (Component.index?_eq htarget'))] at hold'
        exact ⟨old', new', hold', hnew', hsettles'⟩
    · obtain ⟨b, hb, hown⟩ := Component.mem_indices.1 hindex
      have hmem : b ∈ before ++ failing :: after :=
        List.mem_append_right before (List.mem_cons_of_mem failing hb)
      exact (hafter other hindex).trans (hother (hne hmem hown))
    · rw [List.cons_append, Component.indices_cons_of_target htarget, List.mem_cons, not_or]
        at hindex
      exact (hunbound other hindex.2).trans (hother hindex.1)

/-- One more component is passed over before the failure. -/
lemma RowFails.later_skipped {element : Element} (htarget : c.target = none)
    (hread : Element.read bytes = .ok element rest)
    (h : RowFails components path rest parts steps e parts') :
    RowFails (c :: components) path bytes parts steps e parts' := by
  cases h with
  | @mk before after failing _ _ unread elements _ _ _ _ hlength hothers hbefore hfails hafter
      hunbound =>
    refine @RowFails.mk (c :: before) after failing path bytes unread (element :: elements) parts
      parts' steps e (congrArg (· + 1) hlength) (.cons hread hothers)
      (fun i b element' index' decoder' hb helement htarget' => ?_) hfails hafter
      fun other hindex => ?_
    · cases i with
      | zero =>
        cases hb
        cases htarget.symm.trans htarget'
      | succ i => exact hbefore i b element' index' decoder' hb helement htarget'
    · rw [List.cons_append, Component.indices_cons_of_none htarget] at hindex
      exact hunbound other hindex

end

/-! ## One more item in front -/

section

variable {item : Decoder} {path : Path} {shape : Shape} {count : Nat} {bytes rest unread : Bytes}
  {steps : List Path.Step} {e : Error} {items : List Slot}

lemma itemsDecoded_nil (item : Decoder) (path : Path) (shape : Shape) (count : Nat)
    (bytes : Bytes) : ItemsDecoded item path shape (count + 1) bytes [] bytes :=
  ⟨[], Nat.succ_pos count, .nil bytes, .nil⟩

lemma itemsDecoded_cons {payload payloadRest : Bytes} {new : Slot}
    (hread : Element.sized bytes = .ok (some payload) rest)
    (hdecode : decodeAt item path.element payload shape.fresh = ⟨new, .ok payloadRest⟩)
    (h : ItemsDecoded item path shape count rest items unread) :
    ItemsDecoded item path shape (count + 1) bytes (new :: items) unread := by
  obtain ⟨payloads, hlt, hrow, hdecoded⟩ := h
  exact ⟨payload :: payloads, Nat.succ_lt_succ hlt, .cons hread hrow,
    .cons ⟨payloadRest, hdecode⟩ hdecoded⟩

/-- **One more item** is decoded before the failure. -/
theorem ItemsFail.later {payload payloadRest : Bytes} {new : Slot}
    (hread : Element.sized bytes = .ok (some payload) rest)
    (hdecode : decodeAt item path.element payload shape.fresh = ⟨new, .ok payloadRest⟩)
    (h : ItemsFail item path shape count rest steps e items) :
    ItemsFail item path shape (count + 1) bytes steps e (new :: items) := by
  cases h with
  | cut hitems hcut => exact .cut (itemsDecoded_cons hread hdecode hitems) hcut
  | missing hitems hmissing => exact .missing (itemsDecoded_cons hread hdecode hitems) hmissing
  | inside hitems hpayload hinner =>
    exact .inside (itemsDecoded_cons hread hdecode hitems) hpayload hinner

end

end Decoder

end QueryWire
