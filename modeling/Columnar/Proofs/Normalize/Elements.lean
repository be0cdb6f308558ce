import Columnar.Proofs.Normalize.Instances

/-!
# Values read as elements

A value becomes elements exactly when it is regular, has as many scalars as the
arity asks for, and every scalar can be coerced.  The elements are then its
scalars, coerced one by one in their order.
-/

namespace Columnar

theorem Scalar.coerceAll_append {config : Config} {kind : ElementKind}
    {xs ys : List Scalar} {values others : List kind.Carrier}
    (hxs : coerceAll config kind xs = .ok values)
    (hys : coerceAll config kind ys = .ok others) :
    coerceAll config kind (xs ++ ys) = .ok (values ++ others) :=
  coerceAll_eq_ok_iff.mpr
    (List.rel_append (coerceAll_eq_ok_iff.mp hxs) (coerceAll_eq_ok_iff.mp hys))

theorem Scalar.length_of_coerceAll {config : Config} {kind : ElementKind}
    {scalars : List Scalar} {values : List kind.Carrier}
    (h : coerceAll config kind scalars = .ok values) :
    values.length = scalars.length :=
  (coerceAll_eq_ok_iff.mp h).length_eq.symm

namespace NativeValue

theorem spread_false (arity : Arity) (value : NativeValue) :
    value.spread arity false = value.scalars := by
  cases value with
  | scalar s => cases arity <;> rfl
  | _ => rfl

theorem toElements_eq_ok_iff {config : Config} {kind : ElementKind}
    {arity : Arity} {value : NativeValue} {i : Instance} :
    value.toElements config kind arity false = .ok i ↔
      (exists shape, value.dimensions kind = .ok shape) ∧
        arity.accepts value.scalars.length = true ∧ exists values,
          Scalar.coerceAll config kind value.scalars = .ok values ∧
            i = .elements ⟨kind, values⟩ := by
  rw [toElements, bind_eq_ok_iff]
  simp only [spread_false]
  constructor
  · intro h
    rcases h with ⟨shape, hshape, h⟩
    split at h
    · next hcount =>
        rcases bind_eq_ok_iff.mp h with ⟨values, hvalues, hi⟩
        exact ⟨⟨shape, hshape⟩, hcount, values, hvalues, pure_eq_ok_iff.mp hi⟩
    · cases h
  · intro h
    rcases h with ⟨⟨shape, hshape⟩, hcount, values, hvalues, rfl⟩
    refine ⟨shape, hshape, ?_⟩
    rw [if_pos hcount, hvalues]
    rfl

end NativeValue

namespace Datatype

/--
An instance is made of elements of one kind, each read from a scalar of its own.
-/
inductive Plain (kind : ElementKind) : Arity -> Datatype -> Prop
  | primitive {name : String} {nullable broadcast nonEmpty : Bool} :
      Plain kind (.fixed 1)
        ⟨name, .primitive kind, nullable, broadcast, nonEmpty⟩
  | fixedList {name : String} {arity : UInt32} {nullable nonEmpty : Bool} :
      Plain kind (.fixed arity.toNat)
        ⟨name, .fixedList kind arity, nullable, false, nonEmpty⟩
  | list {name : String} {nullable broadcast nonEmpty : Bool} :
      Plain kind .variable ⟨name, .list kind, nullable, broadcast, nonEmpty⟩

namespace Plain

variable {kind : ElementKind} {arity : Arity} {d : Datatype} {config : Config}

theorem normalize_eq (h : Plain kind arity d) {value : NativeValue}
    (hvalue : value.isNull = false) :
    d.normalize config value = value.toElements config kind arity false := by
  cases h with
  | primitive => exact normalize_primitive hvalue
  | fixedList => exact normalize_fixedList hvalue
  | list => exact normalize_list hvalue

theorem exists_runs (h : Plain kind arity d) {values : List NativeValue}
    {rows : List Instance} (hrows : d.Normalized config values rows) :
    exists runs : List (List kind.Carrier),
      rows.filter (fun row => !row.isNull) = runs.map
        (fun run => .elements ⟨kind, run⟩) ∧
      (forall run, run ∈ runs -> arity.accepts run.length = true) ∧
      Scalar.coerceAll config kind (values.flatMap NativeValue.scalars) =
        .ok runs.flatten := by
  induction hrows with
  | nil => exact ⟨[], rfl, nofun, rfl⟩
  | @cons value row values rows hrow _ ih =>
      rcases ih with ⟨runs, hruns, haccepts, hcoerced⟩
      cases hvalue : value.isNull with
      | true =>
          rw [eq_null_of_isNull hvalue] at hrow ⊢
          rw [normalize_null] at hrow
          split at hrow
          · cases hrow
            exact ⟨runs, hruns, haccepts, hcoerced⟩
          · cases hrow
      | false =>
          rw [h.normalize_eq hvalue] at hrow
          rcases NativeValue.toElements_eq_ok_iff.mp hrow with
            ⟨_, hcount, run, hrun, rfl⟩
          refine ⟨run :: runs, ?_, ?_, ?_⟩
          · rw [List.map_cons, ← hruns]
            rfl
          · intro other hother
            rcases List.mem_cons.mp hother with rfl | hother
            · rw [Scalar.length_of_coerceAll hrun]
              exact hcount
            · exact haccepts other hother
          · rw [List.flatMap_cons, List.flatten_cons]
            exact Scalar.coerceAll_append hrun hcoerced

end Plain
end Datatype
end Columnar
