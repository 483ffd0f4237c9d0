import QueryWire.Descriptor.Parser
import QueryWire.Proofs.Codec.Soundness

/-!
# Fields of one name

A type may have two fields of one name, a property of an object and one of the link that leads to it,
say.  Both are bound to the same part of the record.  That part is filled only once, so no value of
such a type can be decoded, although building found nothing wrong.

* `Decoder.nodup_of_decodeFields` — fields that are decoded go to different parts.
* **`Decoder.binds_of_build`** — what the fields of a built decoder are bound to, and that a part is
  found for each as long as no two of them have one name.
-/

namespace QueryWire

namespace Decoder

/-- Fields that are all decoded go to different parts, none of which was taken before. -/
lemma nodup_of_decodeFields {fields : List FieldDecoder} {path : Path} {taken : List Nat}
    {bytes rest : Bytes} {parts : List Slot}
    (h : (decodeFields fields path taken bytes parts).result = .ok rest) :
    (FieldDecoder.indices fields).Nodup ∧ ∀ index ∈ FieldDecoder.indices fields, index ∉ taken := by
  induction fields generalizing taken bytes parts with
  | nil => exact ⟨List.nodup_nil, List.forall_mem_nil _⟩
  | cons field fields ih =>
    cases field with
    | skipped name =>
      rw [decodeFields] at h
      split at h
      · cases h
      · exact ih h
    | bound name index decoder =>
      have hcons (hfree : index ∉ taken)
          (hothers : (FieldDecoder.indices fields).Nodup
            ∧ ∀ other ∈ FieldDecoder.indices fields, other ∉ index :: taken) :
          (FieldDecoder.indices (.bound name index decoder :: fields)).Nodup
            ∧ ∀ other ∈ FieldDecoder.indices (.bound name index decoder :: fields), other ∉ taken := by
        refine ⟨List.nodup_cons.2 ⟨fun hmem => ?_, hothers.1⟩, List.forall_mem_cons.2 ⟨hfree, ?_⟩⟩
        · exact hothers.2 index hmem List.mem_cons_self
        · exact fun other hmem htaken => hothers.2 other hmem (List.mem_cons_of_mem _ htaken)
      rw [decodeFields] at h
      split at h
      · cases h
      · split at h
        · cases h
        · split at h
          · cases h
          · rename_i hfree
            have hfree : index ∉ taken := by simpa using hfree
            split at h
            · dsimp only at h
              split at h
              · cases h
              · exact hcons hfree (ih h)
            · split at h
              · cases h
              · exact hcons hfree (ih h)

/-- An object with two fields of one name is never decoded. -/
lemma nodup_of_decodeObject {id : Uuid} {fields : List FieldDecoder} {path : Path}
    {bytes rest : Bytes} {slot : Slot}
    (h : (decodeAt (.object id fields) path bytes slot).result = .ok rest) :
    (FieldDecoder.indices fields).Nodup := by
  cases slot with
  | record parts =>
    simp only [decodeAt] at h
    split at h
    · exact (nodup_of_decodeFields h).1
    · cases h
  | _ =>
    simp only [decodeAt] at h
    cases h

/-- **What the fields are bound to.**  In every object inside a built decoder, each field is bound to
the first record field of its name, with the decoder that is built for its part of the type and of
the shape, and they go to different parts of the record exactly when their names differ.  Where they
do in every object, a part of the record is found for every value, whatever the bytes are.  Where
they do not, no value of the object is ever decoded. -/
theorem binds_of_build {d : Descriptor} {shape : Shape} {decoder : Decoder}
    (h : build d shape = .ok decoder) :
    (∀ id fields, decoder.Contains (.object id fields) →
      ∃ site typeName shapes wire, Site.Contains ⟨d, shape, .result⟩ site
        ∧ site.Built (.object id fields) ∧ site.shape = .record typeName shapes
        ∧ site.type.fields? = some wire
        ∧ List.Forall₂ (FieldDecoder.Binds shapes site.path) fields wire
        ∧ ((FieldDecoder.indices fields).Nodup ↔ (FieldDecoder.boundNames fields).Nodup))
      ∧ ((∀ id fields, decoder.Contains (.object id fields) →
          (FieldDecoder.boundNames fields).Nodup) →
        ∀ bytes slot, slot.HasShape shape → ∀ path,
          (decoder.decode bytes slot).result ≠ .error (.codecMismatch path .noSlot))
      ∧ ∀ id fields, decoder.Contains (.object id fields) →
        ¬ (FieldDecoder.boundNames fields).Nodup → ∀ path bytes slot rest,
          (decodeAt (.object id fields) path bytes slot).result ≠ .ok rest := by
  have hbuilt : Site.Built ⟨d, shape, .result⟩ decoder := h
  have hnodes : ∀ id fields, decoder.Contains (.object id fields) →
      ∃ site typeName shapes wire, Site.Contains ⟨d, shape, .result⟩ site
        ∧ site.Built (.object id fields) ∧ site.shape = .record typeName shapes
        ∧ site.type.fields? = some wire
        ∧ List.Forall₂ (FieldDecoder.Binds shapes site.path) fields wire
        ∧ ((FieldDecoder.indices fields).Nodup ↔ (FieldDecoder.boundNames fields).Nodup) := by
    intro id fields hcontains
    obtain ⟨site, hsite, hobject⟩ := hbuilt.of_contains hcontains
    obtain ⟨typeName, shapes, wire, hshape, hwire, hbinds⟩ := hobject.binds
    exact ⟨site, typeName, shapes, wire, hsite, hobject, hshape, hwire, hbinds,
      FieldDecoder.nodup_indices_iff hbinds⟩
  have hiff (id : Uuid) (fields : List FieldDecoder) (hcontains : decoder.Contains (.object id fields)) :
      (FieldDecoder.indices fields).Nodup ↔ (FieldDecoder.boundNames fields).Nodup := by
    obtain ⟨_, _, _, _, _, _, _, _, _, hiff⟩ := hnodes id fields hcontains
    exact hiff
  refine ⟨hnodes, fun hnames bytes slot hslot path he => ?_, ?_⟩
  · have hapart : decoder.BindsApart :=
      fun id fields hcontains => (hiff id fields hcontains).2 (hnames id fields hcontains)
    have hsound := sound_of_bindsApart decoder (suits_of_build h) hapart .result bytes hslot
    exact (hsound.result _ he).isAboutData
  · intro id fields hcontains hnames path bytes slot rest hok
    exact hnames ((hiff id fields hcontains).1 (nodup_of_decodeObject hok))

end Decoder

namespace Friend

/-- A friend with a name, and one more text of the link under another name or the same. -/
def type (second : String) : Descriptor :=
  .object (Uuid.ofNat 0xD1) [
    .mk "name" ⟨0⟩ .one (.baseScalar ScalarKind.str.id),
    .mk second ⟨2⟩ .one (.baseScalar ScalarKind.str.id)]

/-- A record for both names. -/
def shape : Shape := .record "Friend" [("name", .scalar .str), ("alias", .scalar .str)]

/-- The decoder, with the part of the record that the second field is bound to. -/
def decoder (second : String) (index : Nat) : Decoder :=
  .object (Uuid.ofNat 0xD1) [
    .bound "name" 0 (.scalar ScalarKind.str.id .str),
    .bound second index (.scalar ScalarKind.str.id .str)]

/-- A row with both texts. -/
def row : Bytes :=
  word 2 ++ (word 0 ++ Bytes.prefixed [0x41]) ++ (word 0 ++ Bytes.prefixed [0x42])

/-- How the server describes the type with one name. -/
def stream : Bytes :=
  [2] ++ ScalarKind.str.id.toBytes ++ [1] ++ (Uuid.ofNat 0xD1).toBytes ++ [0, 2]
    ++ [0, 0, 0, 0, 0x41] ++ Bytes.prefixed [0x6E, 0x61, 0x6D, 0x65] ++ [0, 0]
    ++ [0, 0, 0, 2, 0x41] ++ Bytes.prefixed [0x6E, 0x61, 0x6D, 0x65] ++ [0, 0]

/-- With two names a part is found for both texts. -/
theorem binds_of_build_friend :
    Decoder.build (type "alias") shape = .ok (decoder "alias" 1)
      ∧ (∀ id fields, (decoder "alias" 1).Contains (.object id fields) →
        (FieldDecoder.boundNames fields).Nodup)
      ∧ ((decoder "alias" 1).decode row shape.fresh).result = .ok []
      ∧ ∀ bytes path, ((decoder "alias" 1).decode bytes shape.fresh).result
        ≠ .error (.codecMismatch path .noSlot) := by
  have hbuild : Decoder.build (type "alias") shape = .ok (decoder "alias" 1) := rfl
  have hdistinct : (type "alias").HasDistinctNames := by
    refine .record rfl (by decide) fun field hfield => ?_
    simp only [List.map_cons, List.map_nil, List.mem_cons, List.not_mem_nil, or_false] at hfield
    rcases hfield with rfl | rfl <;> exact .baseScalar _
  obtain ⟨hnodes, hslots, -⟩ := Decoder.binds_of_build hbuild
  have hnames : ∀ id fields, (decoder "alias" 1).Contains (.object id fields) →
      (FieldDecoder.boundNames fields).Nodup := by
    intro id fields hcontains
    obtain ⟨_, _, _, _, _, _, _, _, _, hiff⟩ := hnodes id fields hcontains
    exact hiff.1 ((Decoder.suits_of_build hbuild).bindsApart hdistinct id fields hcontains)
  exact ⟨hbuild, hnames, by with_unfolding_all rfl,
    fun bytes path => hslots hnames bytes _ (Shape.hasShape_fresh shape) path⟩

/-- With one name building finds nothing wrong, and no part is found for the second text of the same
row. -/
theorem no_slot_for_namesake :
    Descriptor.parse stream = .ok (type "name")
      ∧ Decoder.build (type "name") shape = .ok (decoder "name" 0)
      ∧ ((decoder "name" 0).decode row shape.fresh).result
        = .error (.codecMismatch (Path.result.field "name") .noSlot) :=
  ⟨by with_unfolding_all rfl, rfl, by with_unfolding_all rfl⟩

end Friend

end QueryWire
