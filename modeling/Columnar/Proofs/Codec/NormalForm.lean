import Columnar.Proofs.Codec.Conforming

/-!
# The normal form of a column

A column made elsewhere may be cut out of a larger one, keep anything under its
null rows and carry bits that are all set.  If it can be read at all, what was
read can be encoded again, and the column that encoding makes holds the same
rows and is made again from them.
-/

namespace Columnar

namespace Column

/-! ## Offsets -/

mutual

/-- The offsets of all lists, at any depth, are signed 32-bit words. -/
def OffsetsFit : Column -> Prop
  | .leaf _ _ _ => True
  | .fixedList _ _ _ child _ => OffsetsFit child
  | .list _ offsets child _ =>
      (forall start, start ∈ offsets -> start < offsetLimit) ∧ OffsetsFit child
  | .struct _ fields _ => FieldOffsetsFit fields

def FieldOffsetsFit : List (Label × Column) -> Prop
  | [] => True
  | (_, child) :: rest => OffsetsFit child ∧ FieldOffsetsFit rest

end

mutual

def decideOffsetsFit : (c : Column) -> Decidable c.OffsetsFit
  | .leaf _ _ _ => inferInstanceAs (Decidable True)
  | .fixedList _ _ _ child _ => decideOffsetsFit child
  | .list _ offsets child _ =>
      have := decideOffsetsFit child
      inferInstanceAs (Decidable
        ((forall start, start ∈ offsets -> start < offsetLimit) ∧ _))
  | .struct _ fields _ => decideFieldOffsetsFit fields

def decideFieldOffsetsFit :
    (fields : List (Label × Column)) -> Decidable (FieldOffsetsFit fields)
  | [] => inferInstanceAs (Decidable True)
  | (_, child) :: rest =>
      have := decideOffsetsFit child
      have := decideFieldOffsetsFit rest
      inferInstanceAs (Decidable (_ ∧ _))

end

instance (c : Column) : Decidable c.OffsetsFit := decideOffsetsFit c

theorem Offsets.sum_counts_le {offsets : List Nat} {items : Nat}
    (h : Offsets offsets items) {rows counts : List Nat}
    (hcounts : List.Forall₂ (fun row count => count ≤
      startOf offsets (row + 1) - startOf offsets row) rows counts)
    (hsorted : rows.Pairwise (· < ·))
    (hbelow : forall row, row ∈ rows -> row + 1 < offsets.length) {start : Nat}
    (hstart : start < offsets.length)
    (hfrom : forall row, row ∈ rows -> start ≤ row) :
    startOf offsets start + counts.sum ≤
      startOf offsets (offsets.length - 1) := by
  induction hcounts generalizing start with
  | nil => exact h.startOf_le (by omega) (by omega)
  | @cons row count rest counts hcount _ ih =>
      rcases List.pairwise_cons.mp hsorted with ⟨hfirst, hrest⟩
      have hrow := hbelow row List.mem_cons_self
      have hgap :=
        h.startOf_le (hfrom row List.mem_cons_self) (Nat.lt_of_succ_lt hrow)
      have hrun := h.startOf_le (Nat.le_add_right row 1) hrow
      have hothers := ih hrest
        (fun other hother => hbelow other (List.mem_cons_of_mem _ hother))
        hrow hfirst
      rw [List.sum_cons]
      omega

end Column

/-! ## Rows that were read -/

theorem exists_sublist_of_filterMap {R : α -> β -> Prop} {S : α -> γ -> Prop}
    {f : β -> Option γ} (hf : forall a b c, R a b -> f b = some c -> S a c)
    {xs : List α} {ys : List β} (h : List.Forall₂ R xs ys) :
    exists kept, List.Sublist kept xs ∧
      List.Forall₂ S kept (ys.filterMap f) := by
  induction h with
  | nil => exact ⟨[], List.Sublist.refl [], .nil⟩
  | @cons x y xs ys hxy _ ih =>
      rcases ih with ⟨kept, hkept, hpaired⟩
      cases hy : f y with
      | none =>
          rw [List.filterMap_cons_none hy]
          exact ⟨kept, hkept.cons x, hpaired⟩
      | some z =>
          rw [List.filterMap_cons_some hy]
          exact ⟨x :: kept, hkept.cons_cons x, .cons (hf x y z hxy hy) hpaired⟩

theorem Instance.isNull_presence_of_none {rows : List Instance} {row : Nat}
    (h : rows[row]? = none) : (presence rows).isNull row = false := by
  rw [presence]
  by_cases hnull : rows.any isNull = true
  · rw [if_pos hnull]
    simp [Validity.isNull, h]
  · rw [if_neg hnull]
    rfl

namespace Datatype

/-- Some rows of a column, in their order. -/
structure RowsOf (length : Nat) (rows : List Nat) : Prop where
  sorted : rows.Pairwise (· < ·)
  below : forall row, row ∈ rows -> row < length

theorem RowsOf.sublist {length : Nat} {rows kept : List Nat}
    (h : RowsOf length rows) (hkept : List.Sublist kept rows) :
    RowsOf length kept where
  sorted := h.sorted.sublist hkept
  below := fun row hrow => h.below row (hkept.subset hrow)

def Reads (d : Datatype) (column : Column) (rows : List Nat)
    (instances : List Instance) : Prop :=
  List.Forall₂ (fun row i => d.readRow column row = .ok i) rows instances

def ReadsFields (fields : List (Field Datatype))
    (children : List (Label × Column)) (rows : List Nat)
    (structs : List (List Instance)) : Prop :=
  List.Forall₂ (fun row values => readFields fields children row = .ok values)
    rows structs

theorem reads_of_readRows {d : Datatype} {column : Column} {start count : Nat}
    {instances : List Instance}
    (h : d.readRows column start count = .ok instances) :
    d.Reads column (List.range' start count) instances := by
  induction count generalizing start instances with
  | zero =>
      cases h
      exact .nil
  | succ count ih =>
      rcases bind_eq_ok_iff.mp h with ⟨i, hi, hrest⟩
      rcases bind_eq_ok_iff.mp hrest with ⟨others, hothers, hall⟩
      cases hall
      rw [List.range'_succ]
      exact .cons hi (ih hothers)

theorem rowsOf_range' (count : Nat) : RowsOf count (List.range' 0 count) where
  sorted := List.pairwise_lt_range'
  below := by
    intro row hrow
    simpa using hrow

theorem Reads.fields {name : String} {nullable broadcast nonEmpty : Bool}
    {fields : List (Field Datatype)} {count : Nat}
    {children : List (Label × Column)} {validity : Validity} {rows : List Nat}
    {instances : List Instance}
    (h : Reads ⟨name, .struct fields, nullable, broadcast, nonEmpty⟩
      (.struct count children validity) rows instances) :
    exists kept, List.Sublist kept rows ∧
      ReadsFields fields children kept
        (instances.filterMap Instance.fields?) := by
  apply exists_sublist_of_filterMap _ h
  intro row i values hread hvalues
  cases i with
  | null => cases hvalues
  | elements data => cases hvalues
  | struct others =>
      cases hvalues
      have hpresent := (isNull_of_readRow hread).symm
      rw [readRow, hpresent] at hread
      rcases map_eq_ok_iff.mp hread with ⟨read, hfields, hstruct⟩
      cases hstruct
      exact hfields

theorem ReadsFields.head_tail {name : String} {datatype : Datatype}
    {rest : List (Field Datatype)} {label : Label} {child : Column}
    {others : List (Label × Column)} {rows : List Nat}
    {structs : List (List Instance)}
    (h : ReadsFields (⟨name, datatype⟩ :: rest) ((label, child) :: others)
      rows structs) :
    datatype.Reads child rows (structs.filterMap List.head?) ∧
      ReadsFields rest others rows (structs.map List.tail) := by
  induction h with
  | nil => exact ⟨.nil, .nil⟩
  | cons hfirst _ ih =>
      rcases readFields_cons_eq_ok_iff.mp hfirst with
        ⟨value, remaining, hvalue, hremaining, rfl⟩
      exact ⟨.cons hvalue ih.1, .cons hremaining ih.2⟩

/-! ## Sizes -/

theorem totalsFit_of_reads_list {name : String}
    {nullable broadcast nonEmpty : Bool} {kind : ElementKind} {item : Label}
    {offsets : List Nat} {child : Column} {validity : Validity}
    {rows : List Nat} {instances : List Instance}
    (hoffsets : Column.Offsets offsets child.length)
    (hchild : child.type = .element kind)
    (hfit : forall start, start ∈ offsets -> start < Column.offsetLimit)
    (hrows : RowsOf (offsets.length - 1) rows)
    (h : Reads ⟨name, .list kind, nullable, broadcast, nonEmpty⟩
      (.list item offsets child validity) rows instances) :
    TotalsFit ⟨name, .list kind, nullable, broadcast, nonEmpty⟩ instances := by
  have hpos : 0 < offsets.length := List.length_pos_iff.mpr hoffsets.nonempty
  have hlast : Column.startOf offsets (offsets.length - 1) < wordLimit := by
    have hlt : offsets.length - 1 < offsets.length :=
      Nat.sub_lt hpos Nat.one_pos
    rw [Column.startOf_eq_getElem hlt]
    exact hfit _ (List.getElem_mem hlt)
  have hbelow : forall row, row ∈ rows -> row + 1 < offsets.length :=
    fun row hrow => Nat.add_lt_of_lt_sub (hrows.below row hrow)
  -- An absent row counts nothing, whatever lies between its offsets.
  have hcounts : List.Forall₂
      (fun row count => count ≤ Column.startOf offsets (row + 1) -
        Column.startOf offsets row)
      rows (instances.map fun i => i.count?.getD 0) := by
    rw [List.forall₂_map_right_iff]
    apply ((List.forall₂_and_left _ _).mpr ⟨hbelow, h⟩).imp
    intro row i hread
    cases hpresent : (Column.list item offsets child validity).isNull row with
    | true =>
        have hnull : i.isNull = true :=
          (isNull_of_readRow hread.2).trans hpresent
        cases i with
        | elements data => cases hnull
        | null | struct _ => exact Nat.zero_le _
    | false =>
        rcases elements_of_readRow_list hoffsets hchild hread.1 hpresent hread.2
          with ⟨values, rfl, hlength⟩
        exact Nat.le_of_eq hlength
  have hsum :=
    hoffsets.sum_counts_le hcounts hrows.sorted hbelow hpos fun row _ =>
      Nat.zero_le row
  rw [totalsFit_list_iff]
  omega

mutual

/--
What is read from a column fits a column: offsets that fit bound what lies
between them.
-/
theorem totalsFit_of_reads :
    forall (d : Datatype) {column : Column} {rows : List Nat}
    {instances : List Instance}, column.WellFormed -> column.OffsetsFit ->
      column.type = d.columnType -> RowsOf column.length rows ->
      d.Reads column rows instances ->
        d.TotalsFit instances
  | ⟨_, .primitive _, _, _, _⟩, _, _, _, _, _, _, _, _ => totalsFit_of_nil rfl
  | ⟨_, .enumeration _, _, _, _⟩, _, _, _, _, _, _, _, _ => totalsFit_of_nil rfl
  | ⟨_, .fixedList _ _, _, _, _⟩, _, _, _, _, _, _, _, _ => totalsFit_of_nil rfl
  | ⟨name, .list kind, nullable, broadcast, nonEmpty⟩, column, rows, instances,
    hwell, hfit, htype,
      hrows, h => by
      rcases Column.eq_list_of_type htype with
        ⟨offsets, child, validity, rfl, hchild⟩
      exact totalsFit_of_reads_list hwell.2.1 hchild hfit.1 hrows h
  | ⟨name, .struct fields, nullable, broadcast, nonEmpty⟩, column, rows,
    instances, hwell, hfit,
      htype, hrows, h => by
      rcases Column.eq_struct_of_type htype with
        ⟨count, children, validity, rfl, htypes⟩
      rcases h.fields with ⟨kept, hkept, hfields⟩
      rw [totalsFit_struct_iff]
      exact fieldTotals_of_readsFields fields hwell.2 hfit htypes
        (hrows.sublist hkept) hfields

theorem fieldTotals_of_readsFields : forall (fields : List (Field Datatype))
    {children : List (Label × Column)} {parent : Validity} {count : Nat}
    {rows : List Nat}
    {structs : List (List Instance)},
      Column.WellFormedFields parent count children ->
      Column.FieldOffsetsFit children ->
      Column.fieldTypes children = fieldTypes fields ->
        RowsOf count rows -> ReadsFields fields children rows structs ->
          forall total, total ∈ fieldTotals fields structs -> total < wordLimit
  | [], _, _, _, _, _, _, _, _, _, _ => nofun
  | ⟨name, datatype⟩ :: rest, children, parent, count, rows, structs, hwell,
    hfit, htypes, hrows,
      h => by
      rcases exists_child_of_fieldTypes htypes with
        ⟨child, others, rfl, htype, hothers⟩
      rcases hwell with ⟨rfl, hchild, _, hrest⟩
      rcases h.head_tail with ⟨hfirst, hremaining⟩
      rw [fieldTotals, List.forall_mem_append]
      constructor
      · exact totalsFit_of_reads datatype hchild hfit.1 htype hrows hfirst
      · exact fieldTotals_of_readsFields rest hrest hfit.2 hothers
          hrows hremaining

end

/-! ## Encoding what was read -/

section

variable {d : Datatype} {column : Column} {instances : List Instance}

theorem reads_of_decode (h : d.decode column = .ok instances) :
    column.type = d.columnType ∧
      d.Reads column (List.range' 0 column.length) instances := by
  rw [decode] at h
  split at h
  · next htype => exact ⟨htype, reads_of_readRows (inContext_eq_ok_iff.mp h)⟩
  · cases h

theorem length_of_decode (h : d.decode column = .ok instances) :
    instances.length = column.length := by
  simpa using (reads_of_decode h).2.length_eq.symm

theorem readRow_of_decode (h : d.decode column = .ok instances) {row : Nat}
    {i : Instance} (hrow : instances[row]? = some i) :
    d.readRow column row = .ok i := by
  rcases List.getElem?_eq_some_iff.mp hrow with ⟨hlt, rfl⟩
  have hlength := length_of_decode h
  have hread := (reads_of_decode h).2.get (i := row) (by simp; omega) hlt
  simpa using hread

theorem encodable_of_decode (hfit : d.AritiesFit) (hwell : column.WellFormed)
    (hoffsets : column.OffsetsFit) (h : d.decode column = .ok instances) :
    d.Encodable instances := by
  rcases reads_of_decode h with ⟨htype, hreads⟩
  refine ⟨?_, hfit, totalsFit_of_reads d hwell hoffsets htype
    (rowsOf_range' column.length) hreads⟩
  intro i hi
  rcases List.mem_iff_getElem?.mp hi with ⟨row, hrow⟩
  have hlt : row < column.length :=
    length_of_decode h ▸ (List.getElem?_eq_some_iff.mp hrow).1
  exact conforms_of_readRow d hfit hwell htype hlt (readRow_of_decode h hrow)

theorem isNull_layout_of_decode (hcovers : column.validity.Covers column.length)
    (h : d.decode column = .ok instances) (row : Nat) :
    (d.layout instances).isNull row = column.isNull row := by
  cases hrow : instances[row]? with
  | some i =>
      rw [isNull_layout d hrow]
      exact isNull_of_readRow (readRow_of_decode h hrow)
  | none =>
      -- Behind the last row neither column has a bit.
      have hbeyond : column.length ≤ row :=
        length_of_decode h ▸ List.getElem?_eq_none_iff.mp hrow
      have hcolumn : column.isNull row = false := by
        rw [Bool.eq_false_iff]
        intro hnull
        exact absurd (Column.lt_length_of_isNull hcovers hnull)
          (Nat.not_lt.mpr hbeyond)
      rw [hcolumn, Column.isNull_eq, validity_layout]
      exact Instance.isNull_presence_of_none hrow

/--
A well-formed column that can be read is made again of what was read: of the
same type and length, null in the same rows, and with nothing else in it that
reading or encoding once more would change.
-/
theorem encode_of_decode (hvalid : d.validate = .ok ()) (hfit : d.AritiesFit)
    (hwell : column.WellFormed) (hoffsets : column.OffsetsFit)
    (h : d.decode column = .ok instances) :
    exists normal, d.encode instances = .ok normal ∧
      normal.type = column.type ∧ normal.length = column.length ∧
      (forall row, normal.isNull row = column.isNull row) ∧
      d.decode normal = .ok instances ∧
      forall again, d.decode normal = .ok again ->
        d.encode again = .ok normal := by
  have hencodable := encodable_of_decode hfit hwell hoffsets h
  have hdecode := decode_layout hvalid hencodable
  refine ⟨d.layout instances, encode_of_encodable hvalid hencodable, ?_, ?_,
    ?_, hdecode, ?_⟩
  · exact (type_layout d hfit instances).trans (reads_of_decode h).1.symm
  · exact (length_layout hencodable.conforms).trans (length_of_decode h)
  · exact isNull_layout_of_decode (Column.covers_of_wellFormed hwell) h
  · intro again hagain
    rw [hdecode] at hagain
    cases hagain
    exact encode_of_encodable hvalid hencodable

end

namespace Sample

def tagged : Datatype where
  name := "sample.Tagged"
  nullable := true
  shape := .struct [
    ⟨"mode", enumeration "sample.Mode" [⟨"Fast", 1⟩, ⟨"Slow", 2⟩]⟩,
    ⟨"tags", { list "sample.Tags" .u32 with nullable := true }⟩]

/--
Three rows cut out of four.  Under the absent one lies a byte that is no mode,
and the last list is absent but not empty.
-/
def cutTagged : Column :=
  Column.slice
    (.struct 4 [
      ({ name := "mode", nullable := false },
        .leaf (.element .u8) ([1, 2, 99, 1] : List UInt8)
          (some [true, true, false, true])),
      ({ name := "tags", nullable := true },
        .list .item [0, 1, 3, 3, 5]
          (.leaf (.element .u32) ([5, 7, 8, 6, 6, 9] : List UInt32) none)
          (some [true, true, true, false]))]
      (some [true, true, false, true])) 1 3

def taggedRows : List Instance := [
  .struct [.one .u8 2, .elements ⟨.u32, ([7, 8] : List UInt32)⟩],
  .null,
  .struct [.one .u8 1, .null]]

end Sample

open Sample in
theorem encode_of_decode_cutTagged :
    tagged.decode cutTagged = .ok taggedRows ∧
      exists normal, tagged.encode taggedRows = .ok normal ∧
        tagged.decode normal = .ok taggedRows ∧ normal.isNull 1 = true := by
  have hvalid : tagged.validate = .ok () := rfl
  have hfit : tagged.AritiesFit := by decide
  have hwell : cutTagged.WellFormed := by decide
  have hoffsets : cutTagged.OffsetsFit := by decide
  have hdecode : tagged.decode cutTagged = .ok taggedRows := rfl
  rcases encode_of_decode hvalid hfit hwell hoffsets hdecode with
    ⟨normal, hencode, _, _, hnull, hagain, _⟩
  exact ⟨hdecode, normal, hencode, hagain, hnull 1⟩

end Datatype
end Columnar
