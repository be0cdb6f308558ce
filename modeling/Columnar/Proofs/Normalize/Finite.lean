import Columnar.Proofs.Normalize.Instances

/-!
# Refusing floats that are not finite

One configuration lets every float through, another refuses those that are not
finite.  They are two runs of one normalization, and the refusing run is the
other cut down to the instances whose floats are all finite.  What it refuses
beyond that it refuses for a float that the other run keeps.
-/

namespace Columnar

/-! ## The floats of an instance -/

def Elements.floats : Elements -> List Binary32
  | ⟨.f32, values⟩ => values
  | _ => []

theorem Elements.floats_cons {kind : ElementKind} (value : kind.Carrier)
    (values : List kind.Carrier) :
    floats ⟨kind, value :: values⟩ = floats ⟨kind, [value]⟩ ++ floats
      ⟨kind, values⟩ := by
  cases kind <;> rfl

namespace Instance

mutual

def floats : Instance -> List Binary32
  | .null => []
  | .elements data => data.floats
  | .struct fields => floatsOfFields fields

def floatsOfFields : List Instance -> List Binary32
  | [] => []
  | field :: rest => floats field ++ floatsOfFields rest

end

end Instance

/-! ## Two runs of one computation -/

/--
How a run that refuses some floats may end beside one that does not: with the
same result, whose floats are all finite, or with the same error, or with an
error about a float that is not finite and stands in the result of the other
run, if it has one.
-/
inductive Restricts (floats : α -> List Binary32) :
    Except ConversionError α -> Except ConversionError α -> Prop
  | kept {a : α} :
      (forall x, x ∈ floats a -> x.isFinite = true) ->
        Restricts floats (.ok a) (.ok a)
  | failed {e : ConversionError} : Restricts floats (.error e) (.error e)
  | refused {lenient : Except ConversionError α} {e : ConversionError}
      {x : Binary32} :
      e.root = .nonFinite x -> x.isFinite = false ->
        (forall a, lenient = .ok a -> x ∈ floats a) ->
          Restricts floats lenient (.error e)

namespace Restricts

variable {floats : α -> List Binary32} {x y : Except ConversionError α}

theorem refl (h : forall a, x = .ok a -> floats a = []) :
    Restricts floats x x := by
  cases x with
  | error e => exact failed
  | ok a =>
      apply kept
      rw [h a rfl]
      exact nofun

theorem bind {others : β -> List Binary32} {f g : α -> Except ConversionError β}
    (h : Restricts floats x y)
    (hnext : forall a, (forall x, x ∈ floats a -> x.isFinite = true) ->
      Restricts others (f a) (g a))
    (hfloats : forall a b, f a = .ok b -> floats a ⊆ others b) :
    Restricts others (x >>= f) (y >>= g) := by
  cases h with
  | kept hfinite => exact hnext _ hfinite
  | failed => exact failed
  | refused hroot hinfinite hstands =>
      refine refused hroot hinfinite ?_
      intro b hb
      rcases bind_eq_ok_iff.mp hb with ⟨a, ha, hfa⟩
      exact hfloats a b hfa (hstands a ha)

theorem map {others : β -> List Binary32} {f : α -> β}
    (h : Restricts floats x y) (hfloats : forall a, others (f a) = floats a) :
    Restricts others (x.map f) (y.map f) := by
  cases h with
  | @kept a hfinite =>
      apply kept
      rw [hfloats a]
      exact hfinite
  | failed => exact failed
  | refused hroot hinfinite hstands =>
      refine refused hroot hinfinite ?_
      intro b hb
      rcases map_eq_ok_iff.mp hb with ⟨a, ha, rfl⟩
      rw [hfloats a]
      exact hstands a ha

theorem inField (field : String) (h : Restricts floats x y) :
    Restricts floats (Columnar.inField field x) (Columnar.inField field y) := by
  cases h with
  | kept hfinite => exact kept hfinite
  | failed => exact failed
  | refused hroot hinfinite hstands =>
      refine refused hroot hinfinite ?_
      intro a ha
      exact hstands a (inField_eq_ok_iff.mp ha)

theorem cons {all : List α -> List Binary32}
    {xs ys : Except ConversionError (List α)}
    (hcons : forall a rest, all (a :: rest) = floats a ++ all rest)
    (h : Restricts floats x y) (hrest : Restricts all xs ys) :
    Restricts all (do let a <- x; let rest <- xs; return a :: rest)
      (do let a <- y; let rest <- ys; return a :: rest) := by
  apply h.bind
  · intro a ha
    apply hrest.bind
    · intro rest hrest
      apply kept
      rw [hcons]
      exact List.forall_mem_append.mpr ⟨ha, hrest⟩
    · intro rest values hvalues
      rw [pure_eq_ok_iff.mp hvalues, hcons]
      exact List.subset_append_right _ _
  · intro a values hvalues
    rcases bind_eq_ok_iff.mp hvalues with ⟨rest, _, hvalues⟩
    rw [pure_eq_ok_iff.mp hvalues, hcons]
    exact List.subset_append_left _ _

theorem eq_ok_iff (h : Restricts floats x y) {a : α} :
    y = .ok a ↔ x = .ok a ∧ forall x, x ∈ floats a -> x.isFinite = true := by
  cases h with
  | @kept b hfinite =>
      constructor
      · intro ha
        cases ha
        exact ⟨rfl, hfinite⟩
      · exact fun ha => ha.1
  | failed => exact iff_of_false nofun nofun
  | @refused _ e z _ hinfinite hstands =>
      refine iff_of_false nofun ?_
      rintro ⟨ha, hfinite⟩
      have hz : z.isFinite = true := hfinite z (hstands a ha)
      rw [hinfinite] at hz
      cases hz

theorem root_of_eq_error (h : Restricts floats x y) {a : α}
    {e : ConversionError} (hx : x = .ok a) (hy : y = .error e) :
    exists z, z ∈ floats a ∧ z.isFinite = false ∧ e.root = .nonFinite z := by
  cases h with
  | kept _ => cases hy
  | failed => cases hx
  | refused hroot hinfinite hstands =>
      cases hy
      exact ⟨_, hstands a hx, hinfinite, hroot⟩

end Restricts

section

variable {strict lenient : Config} (hstrict : strict.nonFinite = .reject)
  (hlenient : lenient.nonFinite = .passThrough)

include hstrict hlenient

/-! ## Scalars -/

namespace Scalar

theorem restricts_toF32 (s : Scalar) :
    Restricts (fun value => [value]) (s.toF32 lenient) (s.toF32 strict) := by
  unfold toF32
  cases s.float? with
  | none => exact .failed
  | some value =>
      simp only [hstrict, hlenient, reduceCtorEq, false_and, if_false, true_and]
      cases hvalue : value.isFinite with
      | true =>
          rw [if_neg Bool.true_eq_false.mp]
          exact .kept (List.forall_mem_singleton.mpr hvalue)
      | false =>
          rw [if_pos rfl]
          refine .refused rfl hvalue ?_
          intro a ha
          cases ha
          exact List.mem_singleton_self value

theorem restricts_coerce (kind : ElementKind) (s : Scalar) :
    Restricts (fun value => Elements.floats ⟨kind, [value]⟩)
      (s.coerce lenient kind)
      (s.coerce strict kind) := by
  cases kind with
  | f32 => exact restricts_toF32 hstrict hlenient s
  | u8 => exact .refl fun _ _ => rfl
  | u32 => exact .refl fun _ _ => rfl
  | bool => exact .refl fun _ _ => rfl

theorem restricts_coerceAll (kind : ElementKind) (scalars : List Scalar) :
    Restricts (fun values => Elements.floats ⟨kind, values⟩)
      (coerceAll lenient kind scalars)
      (coerceAll strict kind scalars) := by
  induction scalars with
  | nil =>
      apply Restricts.refl
      intro values hvalues
      cases hvalues
      cases kind <;> rfl
  | cons s rest ih =>
      exact Restricts.cons Elements.floats_cons
        (restricts_coerce hstrict hlenient kind s) ih

end Scalar

/-! ## Values -/

theorem NativeValue.restricts_toElements (kind : ElementKind) (arity : Arity)
    (broadcast : Bool) (value : NativeValue) :
    Restricts Instance.floats (value.toElements lenient kind arity broadcast)
      (value.toElements strict kind arity broadcast) := by
  unfold toElements
  have hdimensions : Restricts (fun _ => []) (value.dimensions kind)
      (value.dimensions kind) :=
    .refl fun _ _ => rfl
  apply hdimensions.bind
  · intro _ _
    dsimp only
    split
    · exact (Scalar.restricts_coerceAll hstrict hlenient kind _).map fun _ =>
        rfl
    · exact .failed
  · exact fun _ _ _ => List.nil_subset _

end

theorem NativeValue.restricts_toVariant (datatype : String)
    (variants : List Variant) (value : NativeValue) :
    Restricts Instance.floats (value.toVariant datatype variants)
      (value.toVariant datatype variants) := by
  apply Restricts.refl
  intro i hi
  rcases declared_of_toVariant hi with ⟨v, _, rfl⟩
  rfl

/-! ## Datatypes -/

theorem Instance.restricts_null :
    Restricts Instance.floats (.ok .null) (.ok .null) :=
  .refl fun _ h => by
    cases h
    rfl

namespace Datatype

open Instance (restricts_null)

mutual

theorem restricts_normalize {strict lenient : Config}
    (hstrict : strict.nonFinite = .reject)
    (hlenient : lenient.nonFinite = .passThrough) :
    forall (d : Datatype) (value : NativeValue),
    Restricts Instance.floats (d.normalize lenient value)
      (d.normalize strict value)
  | ⟨name, shape, nullable, broadcast, nonEmpty⟩, value => by
      cases hvalue : value.isNull with
      | true =>
          rw [eq_null_of_isNull hvalue, normalize_null, normalize_null]
          split
          · exact restricts_null
          · exact .failed
      | false =>
          match shape with
          | .primitive kind =>
              rw [normalize_primitive hvalue, normalize_primitive hvalue]
              exact value.restricts_toElements hstrict hlenient kind _ false
          | .fixedList kind arity =>
              rw [normalize_fixedList hvalue, normalize_fixedList hvalue]
              exact value.restricts_toElements hstrict hlenient kind _ broadcast
          | .list kind =>
              rw [normalize_list hvalue, normalize_list hvalue]
              exact value.restricts_toElements hstrict hlenient kind _ false
          | .enumeration variants =>
              rw [normalize_enumeration hvalue, normalize_enumeration hvalue]
              exact value.restricts_toVariant name variants
          | .struct fields =>
              match value with
              | .record pairs =>
                  rw [normalize, normalize]
                  split
                  · exact .failed
                  · have hfields :=
                      restricts_normalizeNamed hstrict hlenient
                        name pairs fields
                    exact hfields.map fun _ => rfl
              | .sequence items =>
                  rw [normalize, normalize]
                  split
                  · have hfields :=
                      restricts_normalizePositional hstrict
                        hlenient fields items
                    exact hfields.map fun _ => rfl
                  · exact .failed
              | .scalar _ | .array _ => exact .failed
              | .null => cases hvalue

theorem restricts_normalizeNamed {strict lenient : Config}
    (hstrict : strict.nonFinite = .reject)
    (hlenient : lenient.nonFinite = .passThrough) (owner : String)
    (pairs : List (String × NativeValue)) :
    forall fields : List (Field Datatype), Restricts Instance.floatsOfFields
      (normalizeNamed lenient owner pairs fields)
        (normalizeNamed strict owner pairs fields)
  | [] => by
      rw [normalizeNamed, normalizeNamed]
      exact .kept nofun
  | ⟨name, datatype⟩ :: rest => by
      have hrest := restricts_normalizeNamed hstrict hlenient owner pairs rest
      rw [normalizeNamed_cons, normalizeNamed_cons]
      refine Restricts.cons (fun _ _ => rfl) ?_ hrest
      cases NativeValue.named? pairs name with
      | some value =>
          exact (restricts_normalize hstrict hlenient datatype value).inField
            name
      | none =>
          -- Whether a field may be left out is not a matter of configuration.
          rw [readNamed, readNamed]
          split
          · exact restricts_null
          · exact .failed

theorem restricts_normalizePositional {strict lenient : Config}
    (hstrict : strict.nonFinite = .reject)
    (hlenient : lenient.nonFinite = .passThrough) :
    forall (fields : List (Field Datatype)) (items : List NativeValue),
      Restricts Instance.floatsOfFields
        (normalizePositional lenient fields items)
        (normalizePositional strict fields items)
  | [], _ => .kept nofun
  | _ :: _, [] => .kept nofun
  | ⟨name, datatype⟩ :: fields, item :: items => by
      rw [normalizePositional, normalizePositional]
      have hfield := restricts_normalize hstrict hlenient datatype item
      have hrest := restricts_normalizePositional hstrict hlenient fields items
      exact Restricts.cons (fun _ _ => rfl) (hfield.inField name) hrest

end

/--
Refusing floats that are not finite leaves exactly the instances that letting
them through gives and whose floats are all finite.  A value that is only
refused then is refused for a float of the instance it would have become.
-/
theorem normalize_reject_restricts {strict lenient : Config}
    (hstrict : strict.nonFinite = .reject)
    (hlenient : lenient.nonFinite = .passThrough) (d : Datatype)
    (value : NativeValue) :
    (forall i, d.normalize strict value = .ok i ↔
      d.normalize lenient value = .ok i ∧ forall x, x ∈ i.floats ->
      x.isFinite = true) ∧
    forall i e, d.normalize lenient value = .ok i ->
      d.normalize strict value = .error e ->
      exists x, x ∈ i.floats ∧ x.isFinite = false ∧ e.root = .nonFinite x := by
  have hruns := restricts_normalize hstrict hlenient d value
  exact ⟨fun i => hruns.eq_ok_iff, fun i e => hruns.root_of_eq_error⟩

namespace Sample

def gauge : Datatype := .struct "sample.Gauge" [
  ⟨"limit", .primitive "sample.Limit" .u32⟩,
  ⟨"levels", .list "sample.Levels" .f32⟩]

def measured (level : Binary64) : NativeValue := .record [
  ("levels", .sequence
    [.scalar (.f64 ⟨0x3ff8000000000000⟩), .scalar (.f64 level)]),
  ("limit", .scalar (.f64 ⟨0x4008000000000000⟩))]

def gauged (level : Binary32) : Instance :=
  .struct
    [.one .u32 3, .elements ⟨.f32, ([⟨0x3fc00000⟩, level] : List Binary32)⟩]

end Sample

open Sample in
/--
The double 2 ^ 128 is finite and too large for a float; the double 2 is not.
-/
theorem normalize_reject_restricts_gauge :
    gauge.normalize { nonFinite := .reject } (measured ⟨0x4000000000000000⟩) =
        .ok (gauged ⟨0x40000000⟩) ∧
      gauge.normalize {} (measured ⟨0x47f0000000000000⟩) =
        .ok (gauged (Binary32.infinite false)) ∧
      exists e x, gauge.normalize { nonFinite := .reject }
        (measured ⟨0x47f0000000000000⟩) =
          .error e ∧
        x ∈ (gauged (Binary32.infinite false)).floats ∧ x.isFinite = false ∧
          e.root = .nonFinite x := by
  have hstrict : ({ nonFinite := .reject } : Config).nonFinite = .reject := rfl
  have hlenient : ({} : Config).nonFinite = .passThrough := rfl
  have hmeasured : gauge.normalize {} (measured ⟨0x47f0000000000000⟩) =
      .ok (gauged (Binary32.infinite false)) := rfl
  refine ⟨?_, hmeasured, ?_⟩
  · rcases normalize_reject_restricts hstrict hlenient gauge
      (measured ⟨0x4000000000000000⟩) with ⟨hok, _⟩
    exact (hok _).mpr ⟨rfl, by decide⟩
  · rcases normalize_reject_restricts hstrict hlenient gauge
      (measured ⟨0x47f0000000000000⟩) with ⟨_, hrefused⟩
    refine ⟨.inField "levels" (.nonFinite (Binary32.infinite false)), ?_⟩
    rcases hrefused _ _ hmeasured rfl with ⟨x, hx⟩
    exact ⟨x, rfl, hx⟩

end Datatype
end Columnar
