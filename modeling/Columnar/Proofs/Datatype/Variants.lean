import Mathlib.Data.List.Find
import Mathlib.Data.List.Pairwise
import Columnar.Proofs.Datatype.Validity

/-!
# Variants that stand apart

No two variants of a valid enumeration share a byte, or a name up to case.  So
whatever picks variants by either of them picks at most one, and it does not
matter in which order they were declared.
-/

namespace Columnar
namespace Variant

/-- The two can stand in one enumeration. -/
def Apart (a b : Variant) : Prop :=
  a.value ≠ b.value ∧ Text.sameUpToCase a.name b.name = false

theorem Apart.symm {a b : Variant} (h : a.Apart b) : b.Apart a := by
  refine ⟨h.1.symm, ?_⟩
  rw [← h.2, Text.sameUpToCase, Text.sameUpToCase, Bool.beq_comm]

instance : Std.Symm Apart := ⟨fun _ _ => Apart.symm⟩

theorem clash?_eq_none_iff {a : Variant} {rest : List Variant} :
    a.clash? rest = none ↔ forall b, b ∈ rest -> a.Apart b := by
  induction rest with
  | nil => simp [clash?]
  | cons b rest ih =>
      rw [clash?, List.forall_mem_cons, Apart]
      split
      · next hvalue => simp [hvalue]
      · next hvalue =>
          split
          · next hname => simp [hname]
          · next hname =>
              rw [ih, and_iff_right ⟨hvalue, Bool.eq_false_iff.mpr hname⟩]

theorem firstClash?_eq_none_iff {variants : List Variant} :
    firstClash? variants = none ↔ variants.Pairwise Apart := by
  induction variants with
  | nil => simp [firstClash?]
  | cons a rest ih =>
      rw [firstClash?, List.pairwise_cons, ← clash?_eq_none_iff]
      cases a.clash? rest with
      | some fault => simp
      | none => simp [ih]

/-! ## Exactly one -/

/-- The variant has the property, and none declared before or after it has. -/
def Sole (P : Variant -> Prop) (variants : List Variant) (v : Variant) : Prop :=
  exists earlier later, variants = earlier ++ v :: later ∧ P v ∧
    forall other, other ∈ earlier ++ later -> ¬ P other

section

variable {P : Variant -> Prop} {variants others : List Variant} {v : Variant}

theorem sole_of_mem (hP : forall a b, P a -> P b -> ¬ a.Apart b)
    (h : variants.Pairwise Apart) (hv : v ∈ variants) (hpicked : P v) :
    Sole P variants v := by
  rcases List.append_of_mem hv with ⟨earlier, later, rfl⟩
  rw [List.pairwise_append, List.pairwise_cons] at h
  rcases h with ⟨_, ⟨hlater, _⟩, hearlier⟩
  refine ⟨earlier, later, rfl, hpicked, ?_⟩
  intro other hother hpickedOther
  rcases List.mem_append.mp hother with hother | hother
  · exact hP other v hpickedOther hpicked
      (hearlier other hother v List.mem_cons_self)
  · exact hP v other hpicked hpickedOther (hlater other hother)

theorem find?_eq_some_iff_sole {p : Variant -> Bool}
    (hp : forall v, p v = true ↔ P v)
    (hP : forall a b, P a -> P b -> ¬ a.Apart b) (h : variants.Pairwise Apart) :
    variants.find? p = some v ↔ Sole P variants v := by
  constructor
  · intro hfind
    exact sole_of_mem hP h (List.mem_of_find?_eq_some hfind)
      ((hp v).mp (List.find?_some hfind))
  · rintro ⟨earlier, later, rfl, hpicked, hnone⟩
    refine List.find?_eq_some_iff_append.mpr
      ⟨(hp v).mpr hpicked, earlier, later, rfl, ?_⟩
    intro other hother
    rw [Bool.not_eq_true', ← Bool.not_eq_true, hp]
    exact hnone other (List.mem_append_left _ hother)

theorem find?_perm {p : Variant -> Bool}
    (hp : forall a b, p a = true -> p b = true -> ¬ a.Apart b)
    (h : variants.Pairwise Apart) (hperm : variants.Perm others) :
    variants.find? p = others.find? p := by
  apply List.find?_eq_find?_of_perm hperm
  rintro a ⟨ha, hpicked⟩ b ⟨hb, hpickedOther⟩
  by_contra hne
  exact hp a b hpicked hpickedOther (h.forall ha hb hne)

end
end Variant

namespace Datatype

theorem validate_enumeration_iff {name : String} {variants : List Variant}
    {nullable broadcast nonEmpty : Bool} :
    validate
      ⟨name, .enumeration variants, nullable, broadcast, nonEmpty⟩ = .ok () ↔
      Text.isBlank name = false ∧ variants ≠ [] ∧
        variants.Pairwise Variant.Apart := by
  rw [validate_eq_ok_iff]
  dsimp only
  rw [Variant.firstClash?_eq_none_iff]

end Datatype
end Columnar
