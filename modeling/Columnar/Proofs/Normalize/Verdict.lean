import Columnar.Proofs.Normalize.Nested
import Columnar.Proofs.Normalize.Regular

/-!
# The verdict on values read as elements

Three things are looked at, one after the other: whether the value is regular,
whether it has as many scalars as the arity asks for, and whether each scalar
can be coerced.  What comes later has no say while something before it fails.
A lone scalar that may be repeated stands for a sequence of its copies.
-/

namespace Columnar

/-! ## Runs of scalars -/

namespace Scalar

variable {config : Config} {kind : ElementKind}

theorem coerceAll_of_firstFault {scalars : List Scalar} {position : Nat}
    {e : ConversionError}
    (h : FirstFault (coerce config kind) scalars position e) :
    coerceAll config kind scalars = .error e := by
  induction scalars generalizing position with
  | nil =>
      rcases h.fails with ⟨s, hs, _⟩
      cases hs
  | cons s rest ih =>
      rcases h.fails with ⟨bad, hbad, herror⟩
      cases position with
      | zero =>
          cases hbad
          rw [coerceAll, herror]
          rfl
      | succ position =>
          rcases h.earlier 0 (Nat.succ_pos _) with ⟨_, value, hs, hvalue⟩
          cases hs
          have hrest : FirstFault (coerce config kind) rest position e :=
            ⟨⟨bad, hbad, herror⟩, fun index hindex =>
              h.earlier _ (Nat.succ_lt_succ hindex)⟩
          rw [coerceAll, hvalue, ih hrest]
          rfl

theorem coerceAll_replicate (s : Scalar) (count : Nat) :
    coerceAll config kind (List.replicate (count + 1) s) =
      (s.coerce config kind).map (List.replicate (count + 1)) := by
  induction count with
  | zero =>
      rw [List.replicate_succ, List.replicate_zero, coerceAll, coerceAll]
      cases s.coerce config kind <;> rfl
  | succ count ih =>
      rw [List.replicate_succ, coerceAll, ih]
      cases s.coerce config kind <;> rfl

end Scalar

namespace NativeValue

/-! ## Lone scalars -/

/--
The value is a lone scalar, of which a fixed arity above one makes so many
copies.
-/
def Repeats (broadcast : Bool) (arity : Arity) (value : NativeValue)
    (s : Scalar) (count : Nat) : Prop :=
  value = .scalar s ∧ broadcast = true ∧ arity = .fixed count ∧ 1 < count

section

variable {config : Config} {kind : ElementKind} {arity : Arity}
  {broadcast : Bool} {value : NativeValue} {s : Scalar} {count : Nat}

theorem spread_of_repeats (h : Repeats broadcast arity value s count) :
    value.spread arity broadcast = List.replicate count s := by
  rcases h with ⟨rfl, rfl, rfl, hcount⟩
  rw [spread, decide_eq_true hcount]
  rfl

theorem spread_of_not_repeats
    (h : forall s count, ¬ Repeats broadcast arity value s count) :
    value.spread arity broadcast = value.scalars := by
  cases value with
  | scalar s =>
      cases arity with
      | fixed count =>
          rw [spread]
          split
          · next hrepeats =>
              rw [Bool.and_eq_true, decide_eq_true_eq] at hrepeats
              exact absurd ⟨rfl, hrepeats.1, rfl, hrepeats.2⟩ (h s count)
          · rfl
      | _ => rfl
  | _ => cases arity <;> rfl

theorem regular_replicate (s : Scalar) (count : Nat) :
    (sequence (List.replicate count (.scalar s))).Regular := by
  rw [← List.map_replicate]
  exact regular_map_scalar _

theorem scalars_replicate (s : Scalar) (count : Nat) :
    (sequence (List.replicate count (.scalar s))).scalars =
      List.replicate count s := by
  rw [← List.map_replicate, scalars_map_scalar]

/-! ## Elements -/

theorem toElements_of_regular (h : value.Regular) :
    value.toElements config kind arity broadcast =
      if arity.accepts (value.spread arity broadcast).length then
        (Scalar.coerceAll config kind (value.spread arity broadcast)).map
          fun values => .elements ⟨kind, values⟩
      else
        .error (.arityMismatch arity
          (value.spread arity broadcast).length) := by
  rw [toElements, dimensions_of_regular h]
  rfl

theorem toElements_of_misshapen {e : ConversionError}
    (h : Misshapen kind value e) :
    value.toElements config kind arity broadcast = .error e := by
  rw [toElements, dimensions_of_misshapen h]
  rfl

theorem regular_of_toElements {i : Instance}
    (h : value.toElements config kind arity broadcast = .ok i) :
    value.Regular := by
  rw [toElements, bind_eq_ok_iff] at h
  rcases h with ⟨_, hdimensions, _⟩
  exact (dimensions_eq_ok_iff.mp hdimensions).1

theorem toElements_replicate (h : Repeats broadcast arity value s count) :
    value.toElements config kind arity broadcast =
      (sequence (List.replicate count (.scalar s))).toElements config kind arity
        broadcast := by
  have hregular : value.Regular := h.1 ▸ regular_scalar s
  rw [toElements_of_regular hregular,
    toElements_of_regular (regular_replicate s count), spread_of_repeats h,
    spread_sequence, scalars_replicate]

theorem toElements_of_repeats (h : Repeats broadcast arity value s count) :
    value.toElements config kind arity broadcast =
      (s.coerce config kind).map fun element =>
        .elements ⟨kind, List.replicate count element⟩ := by
  have hregular : value.Regular := h.1 ▸ regular_scalar s
  have haccepts : arity.accepts count = true := by
    rw [h.2.2.1, Arity.accepts_fixed_iff]
  rcases Nat.exists_eq_add_of_lt h.2.2.2 with ⟨more, rfl⟩
  rw [toElements_of_regular hregular, spread_of_repeats h,
    List.length_replicate, if_pos haccepts, Scalar.coerceAll_replicate]
  cases s.coerce config kind <;> rfl

theorem toElements_of_not_repeats (hregular : value.Regular)
    (h : forall s count, ¬ Repeats broadcast arity value s count) :
    value.toElements config kind arity broadcast =
      if arity.accepts value.scalars.length then
        (Scalar.coerceAll config kind value.scalars).map fun values =>
          .elements ⟨kind, values⟩
      else .error (.arityMismatch arity value.scalars.length) := by
  rw [toElements_of_regular hregular, spread_of_not_repeats h]

theorem Repeats.accepts_eq_false (h : Repeats broadcast arity value s count) :
    arity.accepts value.scalars.length = false := by
  rcases h with ⟨rfl, _, rfl, hcount⟩
  exact beq_false_of_ne hcount.ne'

theorem not_repeats_of_accepts (h : arity.accepts value.scalars.length = true)
    (s : Scalar) (count : Nat) : ¬ Repeats broadcast arity value s count := by
  intro hrepeats
  rw [hrepeats.accepts_eq_false] at h
  cases h

theorem toElements_eq_ok_iff_or_repeats {i : Instance} :
    value.toElements config kind arity broadcast = .ok i ↔
      (value.Regular ∧ arity.accepts value.scalars.length = true ∧
        exists values,
          List.Forall₂ (fun s element => s.coerce config kind = .ok element)
            value.scalars values ∧
          .elements ⟨kind, values⟩ = i) ∨
      exists s count element, Repeats broadcast arity value s count ∧
        s.coerce config kind = .ok element ∧
          .elements ⟨kind, List.replicate count element⟩ = i := by
  simp only [← Scalar.coerceAll_eq_ok_iff]
  constructor
  · intro h
    by_cases hrepeats : exists s count, Repeats broadcast arity value s count
    · rcases hrepeats with ⟨s, count, hrepeats⟩
      rw [toElements_of_repeats hrepeats, map_eq_ok_iff] at h
      rcases h with ⟨element, helement, hi⟩
      exact Or.inr ⟨s, count, element, hrepeats, helement, hi⟩
    · have hregular := regular_of_toElements h
      rw [toElements_of_not_repeats hregular fun s count h => hrepeats
          ⟨s, count, h⟩] at h
      split at h
      · next hcount => exact Or.inl ⟨hregular, hcount, map_eq_ok_iff.mp h⟩
      · cases h
  · intro h
    rcases h with
      ⟨hregular, hcount, hvalues⟩ | ⟨s, count, element, hrepeats, helement, hi⟩
    · rw [toElements_of_not_repeats hregular (not_repeats_of_accepts hcount),
        if_pos hcount]
      exact map_eq_ok_iff.mpr hvalues
    · rw [toElements_of_repeats hrepeats]
      exact map_eq_ok_iff.mpr ⟨element, helement, hi⟩

theorem toElements_of_firstFault {position : Nat} {e : ConversionError}
    (hregular : value.Regular)
    (hcount : arity.accepts value.scalars.length = true ∨
      exists s count, Repeats broadcast arity value s count)
    (h : FirstFault (Scalar.coerce config kind) value.scalars position e) :
    value.toElements config kind arity broadcast = .error e := by
  rcases hcount with hcount | ⟨s, count, hrepeats⟩
  · rw [toElements_of_not_repeats hregular (not_repeats_of_accepts hcount),
      if_pos hcount, Scalar.coerceAll_of_firstFault h]
    rfl
  · rcases h.fails with ⟨bad, hbad, herror⟩
    have hmem : bad ∈ value.scalars := List.mem_of_getElem? hbad
    rw [hrepeats.1, scalars, List.mem_singleton] at hmem
    rw [toElements_of_repeats hrepeats, ← hmem, herror]
    rfl

end
end NativeValue

namespace Datatype

/--
An instance is a run of elements, a lone scalar repeated if `broadcast` says so.
-/
inductive ReadsRun (kind : ElementKind) : Arity -> Bool -> Datatype -> Prop
  | primitive {name : String} {nullable broadcast nonEmpty : Bool} :
      ReadsRun kind (.fixed 1) false
        ⟨name, .primitive kind, nullable, broadcast, nonEmpty⟩
  | fixedList {name : String} {arity : UInt32}
      {nullable broadcast nonEmpty : Bool} :
      ReadsRun kind (.fixed arity.toNat) broadcast
        ⟨name, .fixedList kind arity, nullable, broadcast, nonEmpty⟩
  | list {name : String} {nullable broadcast nonEmpty : Bool} :
      ReadsRun kind .variable false
        ⟨name, .list kind, nullable, broadcast, nonEmpty⟩

theorem ReadsRun.normalize_eq {kind : ElementKind} {arity : Arity}
    {broadcast : Bool} {d : Datatype} (h : ReadsRun kind arity broadcast d)
    {config : Config} {value : NativeValue} (hvalue : value.isNull = false) :
    d.normalize config value = value.toElements config kind arity
      broadcast := by
  cases h with
  | primitive => exact normalize_primitive hvalue
  | fixedList => exact normalize_fixedList hvalue
  | list => exact normalize_list hvalue

open NativeValue in
/--
A value is read as elements exactly when it is regular, its scalars are as many
as the arity asks for and all of them can be coerced, or when it is a lone
scalar that can be coerced and repeated.  A fault of the shape comes before one
of the count, and that before the first scalar that is refused.
-/
theorem normalize_verdict {kind : ElementKind} {arity : Arity}
    {broadcast : Bool} {d : Datatype} (hd : ReadsRun kind arity broadcast d)
    (config : Config) (value : NativeValue) (hvalue : value.isNull = false) :
    (forall i, d.normalize config value = .ok i ↔
      (value.Regular ∧ arity.accepts value.scalars.length = true ∧
        exists values,
          List.Forall₂ (fun s element => s.coerce config kind = .ok element)
            value.scalars values ∧
          .elements ⟨kind, values⟩ = i) ∨
      exists s count element, Repeats broadcast arity value s count ∧
        s.coerce config kind = .ok element ∧
          .elements ⟨kind, List.replicate count element⟩ = i) ∧
    (forall s count, Repeats broadcast arity value s count ->
      d.normalize config value =
        d.normalize config (.sequence (List.replicate count (.scalar s)))) ∧
    (¬ value.Regular -> exists e, Misshapen kind value e ∧
      forall (arity : Arity) (broadcast : Bool) (d : Datatype),
        ReadsRun kind arity broadcast d ->
        forall (config : Config) (other : NativeValue),
          value.outline = other.outline ->
          d.normalize config other = .error e) ∧
    (value.Regular -> arity.accepts value.scalars.length = false ->
      (forall s count, ¬ Repeats broadcast arity value s count) ->
        d.normalize config value =
          .error (.arityMismatch arity value.scalars.length)) ∧
    (forall position e, value.Regular ->
      (arity.accepts value.scalars.length = true ∨
        exists s count, Repeats broadcast arity value s count) ->
      FirstFault (Scalar.coerce config kind) value.scalars position e ->
        d.normalize config value = .error e) := by
  rw [hd.normalize_eq hvalue]
  refine ⟨fun i => toElements_eq_ok_iff_or_repeats, ?_, ?_, ?_, ?_⟩
  · intro s count hrepeats
    rw [hd.normalize_eq rfl]
    exact toElements_replicate hrepeats
  · intro hirregular
    rcases exists_misshapen hirregular with ⟨e, he⟩
    refine ⟨e, he, ?_⟩
    intro arity broadcast d hd config other houtline
    rw [hd.normalize_eq (isNull_congr houtline ▸ hvalue)]
    apply toElements_of_misshapen
    rw [← dimensions_eq_error_iff] at he ⊢
    rw [← dimensions_congr houtline, he]
  · intro hregular hcount hrepeats
    rw [toElements_of_not_repeats hregular hrepeats, hcount]
    rfl
  · intro position e hregular hcount hfault
    exact toElements_of_firstFault hregular hcount hfault

namespace Sample

def gray : Datatype :=
  { Datatype.fixedList "sample.Gray" .u8 3 with broadcastScalar := true }

def ragged : NativeValue :=
  .sequence [.sequence [.u64 1, .u64 2], .sequence [.scalar (.text "three")]]

end Sample

open Sample in
theorem normalize_gray :
    gray.normalize {} (.u64 7) = .ok (.elements ⟨.u8, [7, 7, 7]⟩) ∧
      gray.normalize {} (.sequence [.u64 7]) =
        .error (.arityMismatch (.fixed 3) 1) ∧
      gray.normalize {} ragged = .error (.irregular 2 1) := by
  have hgray : ReadsRun .u8 (.fixed (3 : UInt32).toNat) true gray := .fixedList
  have hragged : NativeValue.Misshapen .u8 ragged (.irregular 2 1) :=
    NativeValue.dimensions_eq_error_iff.mp rfl
  refine ⟨?_, ?_, ?_⟩
  · rcases normalize_verdict hgray {} (.u64 7) rfl with ⟨hok, _⟩
    exact (hok _).mpr
      (Or.inr ⟨.u64 7, 3, 7, ⟨rfl, rfl, rfl, by decide⟩, rfl, rfl⟩)
  · rcases normalize_verdict hgray {} (.sequence [.u64 7]) rfl with
      ⟨_, _, _, hmiscounted, _⟩
    exact hmiscounted (NativeValue.regular_replicate (.u64 7) 1) rfl
      fun _ _ h => nomatch h.1
  · rcases normalize_verdict hgray {} ragged rfl with ⟨_, _, hirregular, _⟩
    rcases hirregular hragged.not_regular with ⟨e, he, herror⟩
    have hfault := NativeValue.dimensions_of_misshapen hragged
    rw [NativeValue.dimensions_of_misshapen he] at hfault
    rw [herror _ _ _ hgray {} ragged rfl, Except.error.inj hfault]

end Datatype
end Columnar
