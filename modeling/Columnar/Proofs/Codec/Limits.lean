import Mathlib.Algebra.Ring.Nat
import Columnar.Codec.Layout

/-!
# What fits a column

The size of a fixed row and the ends of list rows are signed 32-bit words, so a
datatype with a greater arity has no columns, and neither have instances that
put too many elements into one list column.  A list inside an absent struct
holds nothing and does not count.
-/

namespace Columnar
namespace Datatype

def wordLimit : Nat := 2 ^ 31

mutual

def fixedArities : Datatype -> List Nat
  | ⟨_, shape, _, _, _⟩ =>
      match shape with
      | .primitive _ | .list _ | .enumeration _ => []
      | .fixedList _ arity => [arity.toNat]
      | .struct fields => fieldArities fields

def fieldArities : List (Field Datatype) -> List Nat
  | [] => []
  | ⟨_, datatype⟩ :: rest => fixedArities datatype ++ fieldArities rest

end

mutual

/-- The number of elements in each list column, at any depth. -/
def listTotals : Datatype -> List Instance -> List Nat
  | ⟨_, shape, _, _, _⟩, rows =>
      match shape with
      | .primitive _ | .fixedList _ _ | .enumeration _ => []
      | .list _ => [(rows.map fun row => row.count?.getD 0).sum]
      | .struct fields => fieldTotals fields (rows.filterMap Instance.fields?)

def fieldTotals : List (Field Datatype) -> List (List Instance) -> List Nat
  | [], _ => []
  | ⟨_, datatype⟩ :: rest, structs =>
      listTotals datatype (structs.filterMap List.head?) ++
        fieldTotals rest (structs.map List.tail)

end

theorem le_maxRowSize_iff {size : Nat} : size ≤ maxRowSize ↔ size < wordLimit :=
  Nat.lt_succ_iff.symm

theorem offsetLimit_eq_wordLimit : Column.offsetLimit = wordLimit := rfl

def AritiesFit (d : Datatype) : Prop :=
  forall arity, arity ∈ d.fixedArities -> arity < wordLimit

def TotalsFit (d : Datatype) (rows : List Instance) : Prop :=
  forall total, total ∈ d.listTotals rows -> total < wordLimit

instance (d : Datatype) : Decidable d.AritiesFit :=
  inferInstanceAs
    (Decidable (forall arity, arity ∈ d.fixedArities -> arity < wordLimit))

instance (d : Datatype) (rows : List Instance) : Decidable (d.TotalsFit rows) :=
  inferInstanceAs
    (Decidable (forall total, total ∈ d.listTotals rows -> total < wordLimit))

theorem aritiesFit_of_nil {d : Datatype} (h : d.fixedArities = []) :
    d.AritiesFit := by
  intro arity harity
  rw [h] at harity
  cases harity

theorem totalsFit_of_nil {d : Datatype} {rows : List Instance}
    (h : d.listTotals rows = []) :
    d.TotalsFit rows := by
  intro total htotal
  rw [h] at htotal
  cases htotal

section

variable {name : String} {nullable broadcast nonEmpty : Bool}
  {rows : List Instance}

theorem aritiesFit_fixedList_iff {kind : ElementKind} {arity : UInt32} :
    AritiesFit ⟨name, .fixedList kind arity, nullable, broadcast, nonEmpty⟩ ↔
      arity.toNat < wordLimit := by
  rw [AritiesFit, fixedArities, List.forall_mem_singleton]

theorem aritiesFit_struct_iff {fields : List (Field Datatype)} :
    AritiesFit ⟨name, .struct fields, nullable, broadcast, nonEmpty⟩ ↔
      forall arity, arity ∈ fieldArities fields -> arity < wordLimit := by
  rw [AritiesFit, fixedArities]

theorem totalsFit_list_iff {kind : ElementKind} :
    TotalsFit ⟨name, .list kind, nullable, broadcast, nonEmpty⟩ rows ↔
      (rows.map fun row => row.count?.getD 0).sum < wordLimit := by
  rw [TotalsFit, listTotals, List.forall_mem_singleton]

theorem totalsFit_struct_iff {fields : List (Field Datatype)} :
    TotalsFit ⟨name, .struct fields, nullable, broadcast, nonEmpty⟩ rows ↔
      forall total,
        total ∈ fieldTotals fields (rows.filterMap Instance.fields?) ->
        total < wordLimit := by
  rw [TotalsFit, listTotals]

end

end Datatype

/-! ## Fillers do not count

Encoding puts a filler into the column of a field wherever a struct is absent.
-/

/-- The first list is the second with fillers put in anywhere. -/
inductive Padded (filler : α) : List α -> List α -> Prop
  | nil : Padded filler [] []
  | fill : Padded filler xs ys -> Padded filler (filler :: xs) ys
  | keep : Padded filler xs ys -> Padded filler (x :: xs) (x :: ys)

namespace Padded

variable {filler : α} {xs ys : List α}

theorem map (f : α -> β) (h : Padded filler xs ys) :
    Padded (f filler) (xs.map f) (ys.map f) := by
  induction h with
  | nil => exact Padded.nil
  | fill _ ih => exact Padded.fill ih
  | keep _ ih => exact Padded.keep ih

theorem filterMap {f : α -> Option β} {filler' : β}
    (hf : f filler = some filler') (h : Padded filler xs ys) :
    Padded filler' (xs.filterMap f) (ys.filterMap f) := by
  induction h with
  | nil => exact Padded.nil
  | fill _ ih =>
      rw [List.filterMap_cons_some hf]
      exact Padded.fill ih
  | @keep _ _ x _ ih =>
      cases hx : f x with
      | none =>
          rw [List.filterMap_cons_none hx, List.filterMap_cons_none hx]
          exact ih
      | some y =>
          rw [List.filterMap_cons_some hx, List.filterMap_cons_some hx]
          exact Padded.keep ih

theorem sum_map {weight : α -> Nat} (hweight : weight filler = 0)
    (h : Padded filler xs ys) :
    (xs.map weight).sum = (ys.map weight).sum := by
  induction h with
  | nil => rfl
  | fill _ ih =>
      rw [List.map_cons, List.sum_cons, hweight, Nat.zero_add, ih]
  | keep _ ih =>
      rw [List.map_cons, List.map_cons, List.sum_cons, List.sum_cons, ih]

end Padded

namespace Datatype

mutual

theorem listTotals_padded :
    forall (d : Datatype) {rows present : List Instance},
    Padded d.filler rows present -> d.listTotals rows = d.listTotals present
  | ⟨_, .primitive _, _, _, _⟩, _, _, _ => by
      rw [listTotals, listTotals]
  | ⟨_, .fixedList _ _, _, _, _⟩, _, _, _ => by
      rw [listTotals, listTotals]
  | ⟨_, .enumeration _, _, _, _⟩, _, _, _ => by
      rw [listTotals, listTotals]
  | ⟨_, .list kind, _, _, _⟩, rows, present, h => by
      rw [filler] at h
      rw [listTotals, listTotals]
      congr 1
      exact h.sum_map rfl
  | ⟨_, .struct fields, _, _, _⟩, rows, present, h => by
      rw [filler] at h
      rw [listTotals, listTotals]
      exact fieldTotals_padded fields (h.filterMap rfl)

theorem fieldTotals_padded : forall (fields : List (Field Datatype))
    {structs present : List (List Instance)},
      Padded (fieldFillers fields) structs present ->
      fieldTotals fields structs = fieldTotals fields present
  | [], _, _, _ => by
      rw [fieldTotals, fieldTotals]
  | ⟨_, datatype⟩ :: rest, structs, present, h => by
      rw [fieldFillers] at h
      have hvalues : Padded datatype.filler (structs.filterMap List.head?)
          (present.filterMap List.head?) := h.filterMap rfl
      have hrest : Padded (fieldFillers rest) (structs.map List.tail)
          (present.map List.tail) :=
        h.map List.tail
      rw [fieldTotals, fieldTotals, listTotals_padded datatype hvalues,
        fieldTotals_padded rest hrest]

end

end Datatype
end Columnar
