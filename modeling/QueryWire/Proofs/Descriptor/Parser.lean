import QueryWire.Proofs.Descriptor.Records
import QueryWire.Proofs.Except

/-!
# The streams that are accepted

The table that the parser fills has, at each position, the type that the record there stands for.
So a stream is accepted exactly when it is a row of records that name only earlier ones, and its
type is the one that the row describes; what the parser concludes is right because a row describes
only one type.

* `Descriptor.Tells` — that a table tells the types of a row of records.
* **`Tells.push`** — reading one more record keeps this.
* **`Descriptor.tells_of_records`**, **`Tells.records`** — what is read is a row of records, and a
  row of records is read, whatever comes behind it.
* **`Tells.isRoot`** — the type picked from the table is the one that the row describes.
* **`Descriptor.isDescription_of_parse`** — what is refused is refused as a description.
* **`Descriptor.parse_grammar`** — all of this for whole streams, and for streams that are cut.
-/

namespace QueryWire

namespace Descriptor

open Reader

/-! ## The loop over the records -/

section

variable {table : Table} {tag : UInt8} {bytes rest : Bytes}

@[simp] lemma records_nil (table : Table) : records table [] = .ok table := by
  rw [records]

/-- A record that is read is put at the end of the table. -/
lemma records_of_ok {d : Descriptor} (h : record table tag bytes = .ok d rest) :
    records table (tag :: bytes) = records (table.push d) rest := by
  rw [records]
  split
  · rename_i hread
    rw [h] at hread
    cases hread
    rfl
  · rename_i hread
    rw [h] at hread
    cases hread

/-- A record that cannot be read ends the loop. -/
lemma records_of_error {e : Error} (h : record table tag bytes = .error e rest) :
    records table (tag :: bytes) = .error (cutShort e) := by
  rw [records]
  split
  · rename_i hread
    rw [h] at hread
    cases hread
  · rename_i hread
    rw [h] at hread
    cases hread
    rfl

/-- Records are refused only as descriptions. -/
lemma isDescription_of_records {stream : Bytes} {e : Error}
    (h : records table stream = .error e) : e.IsDescription := by
  induction table, stream using records.induct with
  | case1 table =>
    rw [records_nil] at h
    cases h
  | case2 table tag rest d rest' hrecord ih =>
    rw [records_of_ok hrecord] at h
    exact ih h
  | case3 table tag rest e' rest' hrecord =>
    rw [records_of_error hrecord] at h
    cases h
    exact failsOnType_record table tag _ _ _ hrecord

end

/-- **A stream that cannot be read** is refused with an error about descriptions. -/
theorem isDescription_of_parse {stream : Bytes} {e : Error} (h : parse stream = .error e) :
    e.IsDescription :=
  isDescription_of_records (Except.map_eq_error.1 h)

/-! ## Tables that tell the types of a row -/

/-- What a record stands for does not depend on those behind it. -/
lemma Stands.append {rows : List Record} {position : Nat} {d : Descriptor}
    (h : Stands rows position d) (more : List Record) : Stands (rows ++ more) position d := by
  induction h with
  | mk types hrecord htypes ih =>
    refine Stands.mk types ?_ ih
    obtain ⟨hlt, -⟩ := List.getElem?_eq_some_iff.1 hrecord
    rw [List.getElem?_append_left hlt, hrecord]

/-- A table has at each position the type that the record there stands for, and each record fits
behind those before it. -/
structure Tells (rows : List Record) (table : Table) : Prop where
  size_eq : table.size = rows.length
  fits : ∀ (position : Nat) (r : Record), rows[position]? = some r → r.Fits position
  stands : ∀ (position : Nat) (d : Descriptor), table[position]? = some d → Stands rows position d

namespace Tells

variable {rows more : List Record} {table table' : Table}

lemma empty : Tells [] #[] := by
  refine ⟨rfl, fun position r h => ?_, fun position d h => ?_⟩
  · rw [List.getElem?_nil] at h
    cases h
  · rw [Array.getElem?_empty] at h
    cases h

/-- A type in the table is a remark when the record there is. -/
lemma isRemark_eq (h : Tells rows table) {position : Nat} {r : Record} {d : Descriptor}
    (hd : table[position]? = some d) (hr : rows[position]? = some r) :
    d.isRemark = r.isRemark := by
  cases h.stands position d hd with
  | mk types hrecord _ =>
    obtain rfl := Option.some.inj (hr.symm.trans hrecord)
    exact Record.isRemark_fill _

/-- **One more record**, filled with the types of the table, is told where it comes to stand. -/
theorem push (h : Tells rows table) {r : Record} (hr : r.Fits table.size) :
    Tells (rows ++ [r]) (table.push (r.fill (typeAt table))) := by
  refine ⟨?_, fun position r' h' => ?_, fun position d hd => ?_⟩
  · rw [Array.size_push, h.size_eq, List.length_append, List.length_singleton]
  · rw [List.getElem?_append] at h'
    split at h'
    · exact h.fits position r' h'
    · rename_i hbehind
      obtain ⟨hlt, -⟩ := List.getElem?_eq_some_iff.1 h'
      rw [List.length_singleton] at hlt
      obtain rfl : r = r' := by
        rw [Nat.lt_one_iff.1 hlt] at h'
        exact Option.some.inj h'
      have hposition : position = table.size := by
        have := h.size_eq
        omega
      rw [hposition]
      exact hr
  · rw [Array.getElem?_push] at hd
    split at hd
    · rename_i hposition
      cases hd
      refine .mk (typeAt table) ?_ fun named hnamed => ?_
      · rw [hposition, h.size_eq, List.getElem?_concat_length]
      · have hknown := hr.lt_of_mem named hnamed
        have hget : table[named]? = some table[named] := Array.getElem?_eq_getElem hknown
        rw [typeAt_eq hget]
        exact (h.stands named _ hget).append [r]
    · exact (h.stands position d hd).append [r]

end Tells

/-! ## What is read -/

/-- **What is read is a row of records**, and the table tells their types. -/
theorem tells_of_records {rows : List Record} {table table' : Table} {stream : Bytes}
    (h : records table stream = .ok table') (ht : Tells rows table) :
    ∃ more : List Record, stream = more.flatMap Record.bytes ∧ Tells (rows ++ more) table' := by
  induction table, stream using records.induct generalizing rows with
  | case1 table =>
    rw [records_nil] at h
    cases h
    refine ⟨[], rfl, ?_⟩
    rw [List.append_nil]
    exact ht
  | case2 table tag bytes d rest hrecord ih =>
    rw [records_of_ok hrecord] at h
    obtain ⟨r, hfits, rfl, hbytes⟩ := record_eq_ok.1 hrecord
    obtain ⟨more, rfl, hmore⟩ := ih h (ht.push hfits)
    refine ⟨r :: more, hbytes, ?_⟩
    rw [List.append_cons]
    exact hmore
  | case3 table tag bytes e rest hrecord =>
    rw [records_of_error hrecord] at h
    cases h

section

variable {table : Table} {r : Record}

/-- A record that fits behind those of a table is read, and the loop goes on behind it. -/
lemma records_bytes_append (hr : r.Fits table.size) (rest : Bytes) :
    records table (r.bytes ++ rest) = records (table.push (r.fill (typeAt table))) rest :=
  records_of_ok (record_eq_ok.2 ⟨r, hr, rfl, rfl⟩)

/-- A record that is begun and not completed is refused as cut short. -/
lemma records_cut (hr : r.Fits table.size) {cut missing : Bytes} (h : r.bytes = cut ++ missing)
    (hcut : cut ≠ []) (hmissing : missing ≠ []) :
    ∃ cause, records table cut = .error (.descriptor (.truncated cause)) := by
  cases cut with
  | nil => exact absurd rfl hcut
  | cons tag cut =>
    obtain ⟨htag, hcontent⟩ := List.cons.inj h
    have hread : record table r.tag (r.id.toBytes ++ r.content)
        = .ok (r.fill (typeAt table)) [] :=
      record_eq_ok.2 ⟨r, hr, rfl, (List.append_nil _).symm⟩
    obtain ⟨used, hused, htakes⟩ := delimits_record table r.tag _ _ _ hread
    rw [List.append_nil] at hused
    obtain ⟨needed, available, rest, hshort⟩ :=
      htakes.short cut missing (hused.symm.trans hcontent) hmissing
    rw [htag] at hshort
    exact ⟨.short needed available, records_of_error hshort⟩

end

/-- **A row of records is read**, whatever comes behind it. -/
theorem Tells.records {rows : List Record} {table : Table} (ht : Tells rows table)
    {more : List Record}
    (hfits : ∀ (position : Nat) (r : Record), more[position]? = some r
      → r.Fits (table.size + position)) :
    ∃ table', Tells (rows ++ more) table'
      ∧ ∀ rest, records table (more.flatMap Record.bytes ++ rest) = records table' rest := by
  induction more generalizing rows table with
  | nil =>
    refine ⟨table, ?_, fun rest => rfl⟩
    rw [List.append_nil]
    exact ht
  | cons r more ih =>
    have hr : r.Fits table.size := hfits 0 r rfl
    have hmore : ∀ (position : Nat) (r' : Record), more[position]? = some r'
        → r'.Fits ((table.push (r.fill (typeAt table))).size + position) := by
      intro position r' h
      rw [Array.size_push, Nat.add_right_comm]
      exact hfits (position + 1) r' h
    obtain ⟨table', htells, hread⟩ := ih (ht.push hr) hmore
    rw [List.append_assoc] at htells
    refine ⟨table', htells, fun rest => ?_⟩
    rw [List.flatMap_cons, List.append_assoc, records_bytes_append hr, hread]

/-! ## The type described -/

/-- A table has a type for each record of its row. -/
lemma Tells.exists_type {rows : List Record} {table : Table} (h : Tells rows table)
    {position : Nat} {r : Record} (hr : rows[position]? = some r) :
    ∃ d, table[position]? = some d ∧ d.isRemark = r.isRemark := by
  obtain ⟨hlt, -⟩ := List.getElem?_eq_some_iff.1 hr
  have hknown : position < table.size := h.size_eq ▸ hlt
  have hget : table[position]? = some table[position] := Array.getElem?_eq_getElem hknown
  exact ⟨_, hget, h.isRemark_eq hget hr⟩

/-- **The type picked from the table** is the one that the row describes. -/
theorem Tells.isRoot {rows : List Record} {table : Table} (h : Tells rows table) :
    IsRoot rows (root table) := by
  rw [root]
  cases hfind : table.toList.reverse.find? fun d => !d.isRemark with
  | none =>
    refine .none fun r hr => ?_
    obtain ⟨position, hposition⟩ := List.getElem?_of_mem hr
    obtain ⟨d, hget, hremark⟩ := h.exists_type hposition
    have hmem := List.mem_of_getElem? (Array.getElem?_toList.trans hget)
    have hnot := List.find?_eq_none.1 hfind d (List.mem_reverse.2 hmem)
    rw [Bool.not_eq_true, Bool.not_eq_false'] at hnot
    rw [← hremark, hnot]
  | some d =>
    obtain ⟨hremark, behind, before, hsplit, hbehind⟩ := List.find?_eq_some_iff_append.1 hfind
    have hlist : table.toList = (before.reverse ++ [d]) ++ behind.reverse := by
      have hreverse := congrArg List.reverse hsplit
      rwa [List.reverse_reverse, List.reverse_append, List.reverse_cons] at hreverse
    have hlength : (before.reverse ++ [d]).length = before.length + 1 := by
      rw [List.length_append, List.length_reverse, List.length_singleton]
    have hget : table[before.length]? = some d := by
      rw [← Array.getElem?_toList, hlist, List.getElem?_append_left (by omega),
        ← List.length_reverse, List.getElem?_concat_length]
    obtain ⟨hlt, -⟩ := Array.getElem?_eq_some_iff.1 hget
    have hr := List.getElem?_eq_getElem (h.size_eq ▸ hlt)
    refine .last hr ?_ (fun later other hlater hother => ?_) (h.stands _ _ hget)
    · rw [← h.isRemark_eq hget hr]
      simpa using hremark
    · -- the types behind the one that was found are those that the search passed over
      obtain ⟨other', hget', hremark'⟩ := h.exists_type hother
      rw [← Array.getElem?_toList, hlist, List.getElem?_append_right (by omega)] at hget'
      have hpassed := hbehind other' (List.mem_reverse.1 (List.mem_of_getElem? hget'))
      rw [← hremark', ← Bool.not_not other'.isRemark, hpassed]

/-! ## Whole streams -/

lemma exists_isStream_of_parse {stream : Bytes} {d : Descriptor} (h : parse stream = .ok d) :
    ∃ rows, IsStream rows stream ∧ IsRoot rows d := by
  obtain ⟨table, hrecords, rfl⟩ := Except.map_eq_ok.1 h
  obtain ⟨rows, hstream, htells⟩ := tells_of_records hrecords Tells.empty
  exact ⟨rows, ⟨hstream, htells.fits⟩, htells.isRoot⟩

/-- The records of a stream are read into a table that tells their types. -/
lemma IsStream.exists_table {rows : List Record} {stream : Bytes} (h : IsStream rows stream) :
    ∃ table, Tells rows table ∧ ∀ rest, records #[] (stream ++ rest) = records table rest := by
  have hfits : ∀ (position : Nat) (r : Record), rows[position]? = some r
      → r.Fits ((#[] : Table).size + position) := by
    intro position r hr
    rw [Array.size_empty, Nat.zero_add]
    exact h.fits position r hr
  rw [h.bytes_eq]
  exact Tells.empty.records hfits

lemma IsStream.exists_parse {rows : List Record} {stream : Bytes} (h : IsStream rows stream) :
    ∃ d, parse stream = .ok d ∧ IsRoot rows d := by
  obtain ⟨table, htells, hread⟩ := h.exists_table
  refine ⟨root table, ?_, htells.isRoot⟩
  have hnil := hread []
  rw [List.append_nil, records_nil] at hnil
  rw [parse, hnil]
  rfl

/-- A stream that ends within a record is refused as cut short. -/
lemma IsStream.parse_cut {rows : List Record} {r : Record} {stream cut missing : Bytes}
    (h : IsStream rows stream) (hr : r.Fits rows.length) (hbytes : r.bytes = cut ++ missing)
    (hcut : cut ≠ []) (hmissing : missing ≠ []) :
    ∃ cause, parse (stream ++ cut) = .error (.descriptor (.truncated cause)) := by
  obtain ⟨table, htells, hread⟩ := h.exists_table
  rw [← htells.size_eq] at hr
  obtain ⟨cause, hrefused⟩ := records_cut hr hbytes hcut hmissing
  refine ⟨cause, ?_⟩
  rw [parse, hread, hrefused]
  rfl

/-- **The grammar of descriptor streams.**  A stream is accepted exactly when it is a row of records
each of which fits behind those before it, and its type is then the one that the row describes.
Every other stream is refused with an error about descriptions, which leaves the connection usable;
among them are those that end within a record. -/
theorem parse_grammar :
    (∀ stream, (∃ d, parse stream = .ok d) ↔ ∃ rows, IsStream rows stream)
      ∧ (∀ stream d, parse stream = .ok d ↔ ∃ rows, IsStream rows stream ∧ IsRoot rows d)
      ∧ (∀ stream, (¬ ∃ rows, IsStream rows stream)
        → ∃ cause, parse stream = .error (.descriptor cause)
          ∧ (Error.descriptor cause).isFatal = false)
      ∧ ∀ rows stream (r : Record) cut missing, IsStream rows stream → r.Fits rows.length
        → r.bytes = cut ++ missing → cut ≠ [] → missing ≠ []
        → (¬ ∃ rows', IsStream rows' (stream ++ cut))
          ∧ ∃ cause, parse (stream ++ cut) = .error (.descriptor (.truncated cause)) := by
  have haccepted : ∀ stream, (∃ d, parse stream = .ok d) ↔ ∃ rows, IsStream rows stream := by
    intro stream
    constructor
    · rintro ⟨d, hparse⟩
      obtain ⟨rows, hstream, -⟩ := exists_isStream_of_parse hparse
      exact ⟨rows, hstream⟩
    · rintro ⟨rows, hstream⟩
      obtain ⟨d, hparse, -⟩ := hstream.exists_parse
      exact ⟨d, hparse⟩
  refine ⟨haccepted, fun stream d => ⟨exists_isStream_of_parse, ?_⟩, fun stream hnot => ?_, ?_⟩
  · rintro ⟨rows, hstream, hroot⟩
    obtain ⟨d', hparse, hroot'⟩ := hstream.exists_parse
    rw [hroot.unique hroot', hparse]
  · cases hparse : parse stream with
    | ok d => exact absurd ((haccepted stream).1 ⟨d, hparse⟩) hnot
    | error e =>
      have hdescription := isDescription_of_parse hparse
      cases e <;> first | exact hdescription.elim | exact ⟨_, rfl, rfl⟩
  · intro rows stream r cut missing hstream hr hbytes hcut hmissing
    obtain ⟨cause, hrefused⟩ := hstream.parse_cut hr hbytes hcut hmissing
    refine ⟨fun hother => ?_, cause, hrefused⟩
    obtain ⟨d, hparse⟩ := (haccepted _).2 hother
    rw [hrefused] at hparse
    cases hparse

/-- A scalar, a set of such scalars, and a remark behind them. -/
def setRow : List Record :=
  [.baseScalar (Uuid.ofNat 0x105), .set (Uuid.ofNat 7) 0, .remark (Uuid.ofNat 8) 0xFF "s"]

/-- The stream of these records is accepted and describes the set; with the beginning of one more
set behind it, it is refused as cut short. -/
theorem parse_grammar_setRow :
    IsStream setRow (setRow.flatMap Record.bytes)
      ∧ parse (setRow.flatMap Record.bytes)
        = .ok (.set (Uuid.ofNat 7) (.baseScalar (Uuid.ofNat 0x105)))
      ∧ ∃ cause, parse (setRow.flatMap Record.bytes ++ [0, 0, 0])
        = .error (.descriptor (.truncated cause)) := by
  have hstream : IsStream setRow (setRow.flatMap Record.bytes) := by
    refine ⟨rfl, fun position r hr => ?_⟩
    match position with
    | 0 =>
      cases hr
      exact trivial
    | 1 =>
      cases hr
      exact ⟨by decide, by decide⟩
    | 2 =>
      cases hr
      exact ⟨by decide, by decide⟩
  have hscalar : Stands setRow 0 (.baseScalar (Uuid.ofNat 0x105)) :=
    .mk (r := .baseScalar (Uuid.ofNat 0x105)) (fun _ => .baseScalar (Uuid.ofNat 0x105)) rfl
      (List.forall_mem_nil _)
  have hset : Stands setRow 1 (.set (Uuid.ofNat 7) (.baseScalar (Uuid.ofNat 0x105))) :=
    .mk (r := .set (Uuid.ofNat 7) 0) (fun _ => .baseScalar (Uuid.ofNat 0x105)) rfl
      (List.forall_mem_singleton.2 hscalar)
  have hroot : IsRoot setRow (.set (Uuid.ofNat 7) (.baseScalar (Uuid.ofNat 0x105))) := by
    refine @IsRoot.last setRow 1 _ _ rfl rfl (fun later other hlater hother => ?_) hset
    match later with
    | 2 =>
      cases hother
      rfl
  obtain ⟨-, hparse, -, hcut⟩ := parse_grammar
  exact ⟨hstream, (hparse _ _).2 ⟨setRow, hstream, hroot⟩,
    (hcut _ _ (.set Uuid.nil 0) [0, 0, 0] _ hstream ⟨by decide, by decide⟩ rfl
      (List.cons_ne_nil _ _) (List.cons_ne_nil _ _)).2⟩

end Descriptor

end QueryWire
