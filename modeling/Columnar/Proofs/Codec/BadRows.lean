import Columnar.Proofs.Codec.Visible

/-!
# Rows that cannot be read

A row of a well-formed column is bad if it is null where the datatype has no
nulls, or if a byte is seen in it, at any depth but not below a null, that is no
variant of its enumeration.  A column is read exactly when none of its rows is
bad.  Otherwise the first bad row is reported, and of the bytes that are astray
in it the first in declared order, together with the fields that lead there.
-/

namespace Columnar

/--
A byte that is no variant of its enumeration, at the end of a path of fields.
-/
structure Stray where
  path : List String
  enumeration : String
  byte : UInt8
deriving DecidableEq, Repr

namespace Stray

def under (field : String) (s : Stray) : Stray :=
  { s with path := field :: s.path }

def error (s : Stray) : DecodeError :=
  s.path.foldr .context (.invalidEnumValue s.enumeration s.byte)

end Stray

namespace Datatype

mutual

/--
The bytes that are astray in a cell, in declared order.  Below a null nothing is
seen.
-/
def strays : Datatype -> Cell -> List Stray
  | ⟨name, shape, _, _, _⟩, cell =>
      match shape with
      | .primitive _ | .fixedList _ _ | .list _ => []
      | .enumeration variants =>
          match cell with
          | .slot (.element .u8) byte =>
              if exists v, v ∈ variants ∧ v.value = byte then
                []
              else
                [⟨[], name, byte⟩]
          | _ => []
      | .struct fields =>
          match cell with
          | .fields cells => straysOfFields fields cells
          | _ => []

def straysOfFields : List (Field Datatype) -> List (Label × Cell) -> List Stray
  | ⟨name, datatype⟩ :: rest, (_, cell) :: cells =>
      (strays datatype cell).map (.under name) ++ straysOfFields rest cells
  | _, _ => []

end

/--
The row is null where the datatype has no nulls, or a byte is astray in it.
-/
def BadRow (d : Datatype) (column : Column) (row : Nat) : Prop :=
  (column.isNull row = true ∧ d.nullable = false) ∨
    d.strays (column.cell row) ≠ []

instance (d : Datatype) (column : Column) (row : Nat) :
    Decidable (d.BadRow column row) :=
  inferInstanceAs (Decidable ((column.isNull row = true ∧ d.nullable = false) ∨
    d.strays (column.cell row) ≠ []))

theorem strays_null (d : Datatype) : d.strays .null = [] := by
  rcases d with ⟨name, shape, nullable, broadcast, nonEmpty⟩
  cases shape with
  | enumeration variants =>
      rw [strays]
      exact nofun
  | struct fields =>
      rw [strays]
      exact nofun
  | _ => rw [strays]

end Datatype

/--
There is a result if no byte is astray, or else the error of the first one.
-/
def Settles (strays : List Stray) (outcome : Except DecodeError α) : Prop :=
  match strays with
  | [] => exists value, outcome = .ok value
  | first :: _ => outcome = .error first.error

namespace Settles

variable {strays others : List Stray}

theorem map {x : Except DecodeError α} (f : α -> β) (hx : Settles strays x) :
    Settles strays (x.map f) := by
  cases strays with
  | nil =>
      rcases hx with ⟨a, rfl⟩
      exact ⟨f a, rfl⟩
  | cons first rest =>
      have herror : x = .error first.error := hx
      rw [herror]
      rfl

theorem inContext {x : Except DecodeError α} (location : String)
    (hx : Settles strays x) :
    Settles (strays.map (.under location)) (Columnar.inContext location x) := by
  cases strays with
  | nil =>
      rcases hx with ⟨a, rfl⟩
      exact ⟨a, rfl⟩
  | cons first rest =>
      have herror : x = .error first.error := hx
      rw [herror]
      rfl

theorem bind {x : Except DecodeError α} {f : α -> Except DecodeError β}
    (hx : Settles strays x) (hf : forall a, Settles others (f a)) :
    Settles (strays ++ others) (x >>= f) := by
  cases strays with
  | nil =>
      rcases hx with ⟨a, rfl⟩
      exact hf a
  | cons first rest =>
      have herror : x = .error first.error := hx
      rw [herror]
      rfl

end Settles

namespace Datatype

/-! ## Rows -/

theorem settles_readVariant (name : String) (variants : List Variant)
    (byte : UInt8) :
    Settles (if exists v, v ∈ variants ∧
      v.value = byte then [] else [⟨[], name, byte⟩])
      (readVariant name variants byte) := by
  split
  · next h => exact ⟨_, readVariant_declared h⟩
  · next h =>
      have hany : ¬ (variants.any fun v => v.value == byte) = true := by
        simpa using h
      rw [readVariant, if_neg hany]
      rfl

mutual

/--
A present row, or one that may be null, is read unless a byte is astray in its
cell.
-/
theorem settles_readRow : forall (d : Datatype) {column : Column} {row : Nat},
    column.WellFormed -> column.type = d.columnType -> row < column.length ->
      (column.isNull row = true -> d.nullable = true) ->
        Settles (d.strays (column.cell row)) (d.readRow column row)
  | ⟨name, shape, nullable, broadcast, nonEmpty⟩, column, row, hwell, htype,
    hrow, hnullable => by
      cases hpresent : column.isNull row with
      | true =>
          rw [readRow_of_isNull hpresent, if_pos (hnullable hpresent),
            Column.cell_of_isNull hpresent, strays_null]
          exact ⟨_, rfl⟩
      | false =>
          match shape with
          | .primitive kind =>
              rw [strays]
              exact readRow_primitive htype hpresent
          | .fixedList kind arity =>
              rw [strays]
              exact readRow_fixedList hwell htype hrow hpresent
          | .list kind =>
              rw [strays]
              exact readRow_list hwell htype hrow hpresent
          | .enumeration variants =>
              rcases Column.eq_leaf_of_type htype with ⟨slots, validity, rfl⟩
              rw [readRow_of_present_enumeration hrow hpresent,
                Column.cell_leaf hrow hpresent, strays]
              exact settles_readVariant name variants slots[row]
          | .struct fields =>
              rcases Column.eq_struct_of_type htype with
                ⟨rows, children, validity, rfl, htypes⟩
              have hparent : validity.isNull row = false :=
                (Column.isNull_eq _ row).symm.trans hpresent
              rw [readRow, hpresent, if_neg Bool.false_ne_true,
                Column.cell_struct hpresent, strays]
              exact (settles_readFields fields hwell.2 htypes hrow
                hparent).map _

theorem settles_readFields : forall (fields : List (Field Datatype))
    {children : List (Label × Column)} {parent : Validity} {rows row : Nat},
    Column.WellFormedFields parent rows children ->
      Column.fieldTypes children = fieldTypes fields -> row < rows ->
        parent.isNull row = false ->
          Settles (straysOfFields fields (Column.fieldCells children row))
            (readFields fields children row)
  | [], children, parent, rows, row, _, _, _, _ => by
      rw [readFields, straysOfFields]
      · exact ⟨_, rfl⟩
      · exact nofun
      · exact nofun
  | ⟨name, datatype⟩ :: rest, children, parent, rows, row, hwell, htypes, hrow,
    hpresent => by
      rcases exists_child_of_fieldTypes htypes with
        ⟨child, others, rfl, htype, hothers⟩
      rcases hwell with ⟨hlength, hchild, hnulls, hrest⟩
      -- A field that is never null has no null under a present row.
      have hnullable : child.isNull row = true -> datatype.nullable = true := by
        intro hnull
        cases hlabel : datatype.nullable with
        | true => rfl
        | false =>
            rw [hnulls hlabel row hrow hpresent] at hnull
            cases hnull
      have hvalue :=
        settles_readRow datatype hchild htype (hlength ▸ hrow) hnullable
      have hvalues := settles_readFields rest hrest hothers hrow hpresent
      rw [readFields, Column.fieldCells, straysOfFields]
      apply (hvalue.inContext name).bind
      intro value
      exact hvalues.map (value :: ·)

end

section

variable {d : Datatype} {column : Column} {row : Nat}

theorem not_badRow_iff :
    ¬ d.BadRow column row ↔
      (column.isNull row = true -> d.nullable = true) ∧
        d.strays (column.cell row) = [] := by
  rw [BadRow, not_or, not_not, not_and, Bool.not_eq_false]

theorem exists_readRow_of_not_badRow (hwell : column.WellFormed)
    (htype : column.type = d.columnType) (hrow : row < column.length)
    (h : ¬ d.BadRow column row) : exists i, d.readRow column row = .ok i := by
  rw [not_badRow_iff] at h
  have hsettles := settles_readRow d hwell htype hrow h.1
  rw [h.2] at hsettles
  exact hsettles

theorem readRow_of_badRow (hwell : column.WellFormed)
    (htype : column.type = d.columnType) (hrow : row < column.length)
    (h : d.BadRow column row) :
    (column.isNull row = true -> d.readRow column row = .error .missingData) ∧
      (column.isNull row = false -> exists first others,
        d.strays (column.cell row) = first :: others ∧
          d.readRow column row = .error first.error) := by
  constructor
  · intro hnull
    rcases h with ⟨_, hnullable⟩ | hstrays
    · rw [readRow_of_isNull hnull, hnullable]
      rfl
    · rw [Column.cell_of_isNull hnull, strays_null] at hstrays
      exact absurd rfl hstrays
  · intro hpresent
    rcases h with ⟨hnull, _⟩ | hstrays
    · rw [hpresent] at hnull
      cases hnull
    · rcases List.exists_cons_of_ne_nil hstrays with ⟨first, others, hfirst⟩
      have hsettles := settles_readRow d hwell htype hrow fun hnull => by
        rw [hpresent] at hnull
        cases hnull
      rw [hfirst] at hsettles
      exact ⟨first, others, hfirst, hsettles⟩

end

/-! ## Columns -/

theorem exists_readRows {d : Datatype} {column : Column} {start count : Nat}
    (h : forall row, start ≤ row -> row < start + count ->
      exists i, d.readRow column row = .ok i) :
    exists rows, d.readRows column start count = .ok rows := by
  induction count generalizing start with
  | zero => exact ⟨[], rfl⟩
  | succ count ih =>
      have hrest : exists others, d.readRows column (start + 1) count =
          .ok others :=
        ih fun row hstart hrow => h row (by omega) (by omega)
      rcases h start (Nat.le_refl start) (by omega) with ⟨i, hi⟩
      rcases hrest with ⟨others, hothers⟩
      rw [readRows, hi, hothers]
      exact ⟨i :: others, rfl⟩

theorem readRows_eq_error {d : Datatype} {column : Column}
    {start count row : Nat} {e : DecodeError} (hstart : start ≤ row)
    (hrow : row < start + count) (herror : d.readRow column row = .error e)
    (hearlier : forall earlier, start ≤ earlier -> earlier < row ->
      exists i, d.readRow column earlier = .ok i) :
    d.readRows column start count = .error e := by
  induction count generalizing start with
  | zero => omega
  | succ count ih =>
      rw [readRows]
      rcases Nat.eq_or_lt_of_le hstart with rfl | hlt
      · rw [herror]
        rfl
      · rcases hearlier start (Nat.le_refl start) hlt with ⟨i, hi⟩
        rw [hi, ih hlt (by omega) fun earlier hle =>
          hearlier earlier (by omega)]
        rfl

section

variable {d : Datatype} {column : Column}

theorem decode_of_badRow (htype : column.type = d.columnType) {row : Nat}
    {e : DecodeError} (hrow : row < column.length)
    (herror : d.readRow column row = .error e)
    (hearlier : forall earlier, earlier < row ->
      exists i, d.readRow column earlier = .ok i) :
    d.decode column = .error (.context d.name e) := by
  have hrows : d.readRows column 0 column.length = .error e :=
    readRows_eq_error (Nat.zero_le row) (by omega) herror fun earlier _ =>
      hearlier earlier
  rw [decode, if_pos htype, hrows]
  rfl

theorem exists_decode_iff (hwell : column.WellFormed)
    (htype : column.type = d.columnType) :
    (exists rows, d.decode column = .ok rows) ↔
      forall row, row < column.length -> ¬ d.BadRow column row := by
  rw [decode, if_pos htype]
  simp only [inContext_eq_ok_iff]
  constructor
  · intro h row hrow hbad
    rcases h with ⟨rows, hrows⟩
    rcases exists_readRow_of_readRows hrows (Nat.zero_le row) (by omega) with
      ⟨i, hi⟩
    rcases readRow_of_badRow hwell htype hrow hbad with ⟨hmissing, hstray⟩
    cases hnull : column.isNull row with
    | true =>
        rw [hmissing hnull] at hi
        cases hi
    | false =>
        rcases hstray hnull with ⟨first, _, _, herror⟩
        rw [herror] at hi
        cases hi
  · intro h
    apply exists_readRows
    intro row _ hrow
    rw [Nat.zero_add] at hrow
    exact exists_readRow_of_not_badRow hwell htype hrow (h row hrow)

theorem decode_eq_mismatch_iff {expected found : ColumnType} :
    d.decode column = .error (.datatypeMismatch expected found) ↔
      column.type ≠ d.columnType ∧ expected = d.columnType ∧
        found = column.type := by
  rw [decode]
  split
  · next htype =>
      cases d.readRows column 0 column.length <;> simp [inContext, htype]
  · next htype => simp [htype, eq_comm]

/--
A well-formed column is read exactly when it has the type of the datatype and no
bad row.  If the type differs, that is all there is to say; otherwise the first
bad row is reported under the name of the datatype, as data that are missing, or
as the first byte in it that is astray.
-/
theorem decode_reports_first_bad_row (hwell : column.WellFormed) :
    (forall expected found, d.decode column =
      .error (.datatypeMismatch expected found) ↔
      column.type ≠ d.columnType ∧ expected = d.columnType ∧
        found = column.type) ∧
    (column.type = d.columnType ->
      ((exists rows, d.decode column = .ok rows) ↔
        forall row, row < column.length -> ¬ d.BadRow column row) ∧
      forall row, row < column.length -> d.BadRow column row ->
        (forall earlier, earlier < row -> ¬ d.BadRow column earlier) ->
          (column.isNull row = true ->
            d.decode column = .error (.context d.name .missingData)) ∧
          (column.isNull row = false -> exists first others,
            d.strays (column.cell row) = first :: others ∧
              d.decode column = .error (.context d.name first.error))) := by
  refine ⟨fun _ _ => decode_eq_mismatch_iff, ?_⟩
  intro htype
  refine ⟨exists_decode_iff hwell htype, ?_⟩
  intro row hrow hbad hfirst
  have hearlier : forall earlier, earlier < row ->
      exists i, d.readRow column earlier = .ok i :=
    fun earlier hlt => exists_readRow_of_not_badRow hwell htype (by omega)
      (hfirst earlier hlt)
  rcases readRow_of_badRow hwell htype hrow hbad with ⟨hmissing, hstray⟩
  constructor
  · intro hnull
    exact decode_of_badRow htype hrow (hmissing hnull) hearlier
  · intro hpresent
    rcases hstray hpresent with ⟨first, others, hstrays, herror⟩
    exact ⟨first, others, hstrays, decode_of_badRow htype hrow herror hearlier⟩

end

namespace Sample

def switch : Datatype where
  name := "sample.Switch"
  nullable := true
  shape := .struct [
    ⟨"mode", enumeration "sample.Mode" [⟨"Fast", 1⟩, ⟨"Slow", 2⟩]⟩,
    ⟨"lamp", struct "sample.Lamp" [
      ⟨"level", primitive "sample.Level" .u8⟩,
      ⟨"tint", enumeration "sample.Tint" [⟨"Red", 4⟩]⟩,
      ⟨"mode", enumeration "sample.Mode" [⟨"Fast", 1⟩, ⟨"Slow", 2⟩]⟩]⟩]

def strayLamps : Column :=
  .struct 4 [
    ({ name := "mode", nullable := false },
      .leaf (.element .u8) ([1, 9, 2, 9] : List UInt8) none),
    ({ name := "lamp", nullable := false },
      .struct 4 [
        ({ name := "level", nullable := false },
          .leaf (.element .u8) ([9, 9, 9, 9] : List UInt8) none),
        ({ name := "tint", nullable := false },
          .leaf (.element .u8) ([4, 9, 5, 9] : List UInt8) none),
        ({ name := "mode", nullable := false },
          .leaf (.element .u8) ([1, 9, 3, 9] : List UInt8) none)] none)]
    (some [true, false, true, true])

end Sample

open Sample in
theorem decode_reports_first_bad_row_strayLamps :
    switch.decode strayLamps =
        .error (.context "sample.Switch" (.context "lamp" (.context "tint"
          (.invalidEnumValue "sample.Tint" 5)))) ∧
      { switch with nullable := false }.decode strayLamps =
        .error (.context "sample.Switch" .missingData) := by
  have hwell : strayLamps.WellFormed := by decide
  constructor
  · rcases (decode_reports_first_bad_row (d := switch) hwell).2 rfl with
      ⟨_, hfirst⟩
    rcases (hfirst 2 (by decide) (by decide) (by decide)).2 rfl with
      ⟨first, others, hstrays, herror⟩
    cases hstrays
    exact herror
  · rcases (decode_reports_first_bad_row
      (d := { switch with nullable := false }) hwell).2 rfl with ⟨_, hfirst⟩
    exact (hfirst 1 (by decide) (by decide) (by decide)).1 rfl

end Datatype
end Columnar
