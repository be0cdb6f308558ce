import Mathlib.Data.List.Forall2
import Columnar.Batch.Builder

/-!
# Outcomes of checked computations

A computation made of steps has a result exactly when every step has one.  The
wrappers that say where an error was found change errors only, and a conversion
applied to every member of a list either succeeds on all of them or reports the
first that fails.
-/

namespace Columnar

/-! ## Single steps -/

theorem bind_eq_ok_iff {x : Except ε α} {f : α -> Except ε β} {b : β} :
    (x >>= f) = .ok b ↔ exists a, x = .ok a ∧ f a = .ok b := by
  cases x with
  | error e => simp [bind, Except.bind]
  | ok a => simp [bind, Except.bind]

theorem pure_eq_ok_iff {a b : α} : (pure a : Except ε α) = .ok b ↔ b = a := by
  simp [pure, Except.pure, eq_comm]

theorem map_eq_ok_iff {x : Except ε α} {f : α -> β} {b : β} :
    x.map f = .ok b ↔ exists a, x = .ok a ∧ f a = b := by
  cases x with
  | error e => simp [Except.map]
  | ok a => simp [Except.map]

theorem atIndex_eq_ok_iff {index : Nat} {x : Except ConversionError α} {a : α} :
    atIndex index x = .ok a ↔ x = .ok a := by
  cases x with
  | error e => simp [atIndex]
  | ok a => simp [atIndex]

theorem inField_eq_ok_iff {field : String} {x : Except ConversionError α}
    {a : α} :
    inField field x = .ok a ↔ x = .ok a := by
  cases x with
  | error e => simp [inField]
  | ok a => simp [inField]

theorem inContext_eq_ok_iff {location : String} {x : Except DecodeError α}
    {a : α} :
    inContext location x = .ok a ↔ x = .ok a := by
  cases x with
  | error e => simp [inContext]
  | ok a => simp [inContext]

theorem converted_eq_ok_iff {x : Except ConversionError α} {a : α} :
    BatchBuilder.converted x = .ok a ↔ x = .ok a := by
  cases x with
  | error e => simp [BatchBuilder.converted]
  | ok a => simp [BatchBuilder.converted]

/-! ## Steps that fail -/

theorem bind_eq_error_iff {x : Except ε α} {f : α -> Except ε β} {e : ε} :
    (x >>= f) = .error e ↔ x = .error e ∨ exists a, x = .ok a ∧
      f a = .error e := by
  cases x with
  | error e => simp [bind, Except.bind]
  | ok a => simp [bind, Except.bind]

theorem map_eq_error_iff {x : Except ε α} {f : α -> β} {e : ε} :
    x.map f = .error e ↔ x = .error e := by
  cases x with
  | error e => simp [Except.map]
  | ok a => simp [Except.map]

theorem inField_eq_error_iff {field : String} {x : Except ConversionError α}
    {e : ConversionError} :
    inField field x = .error e ↔ exists source, x = .error source ∧
      e = .inField field source := by
  cases x with
  | error e => simp [inField, eq_comm]
  | ok a => simp [inField]

/-! ## Conversion of every member -/

theorem mapM_eq_some_map {step : α -> Option β} {result : α -> β} {xs : List α}
    (h : forall x, x ∈ xs -> step x = some (result x)) :
    xs.mapM step = some (xs.map result) := by
  induction xs with
  | nil => rfl
  | cons x rest ih =>
      rw [List.forall_mem_cons] at h
      rw [List.mapM_cons, h.1, ih h.2]
      rfl

theorem exists_forall₂_iff {R : α -> β -> Prop} {xs : List α} :
    (exists ys, List.Forall₂ R xs ys) ↔ forall x, x ∈ xs ->
      exists y, R x y := by
  induction xs with
  | nil => exact iff_of_true ⟨[], .nil⟩ nofun
  | cons x rest ih =>
      rw [List.forall_mem_cons, ← ih]
      constructor
      · intro h
        rcases h with ⟨_, _ | ⟨hy, hys⟩⟩
        exact ⟨⟨_, hy⟩, _, hys⟩
      · intro h
        rcases h with ⟨⟨y, hy⟩, ys, hys⟩
        exact ⟨y :: ys, .cons hy hys⟩

theorem forall₂_iff_eq_map {R : α -> β -> Prop} {f : α -> β} {xs : List α}
    {ys : List β} (h : forall x, x ∈ xs -> forall y, R x y ↔ y = f x) :
    List.Forall₂ R xs ys ↔ ys = xs.map f := by
  induction xs generalizing ys with
  | nil => rw [List.forall₂_nil_left_iff, List.map_nil]
  | cons x rest ih =>
      rw [List.forall_mem_cons] at h
      rw [List.forall₂_cons_left_iff, List.map_cons]
      constructor
      · intro hys
        rcases hys with ⟨y, others, hy, hothers, rfl⟩
        rw [(h.1 y).mp hy, (ih h.2).mp hothers]
      · rintro rfl
        exact ⟨f x, rest.map f, (h.1 _).mpr rfl, (ih h.2).mpr rfl, rfl⟩

theorem exists_eq_map_of_forall₂ {R : α -> γ -> Prop} {f : γ -> β} {xs : List α}
    {ys : List β}
    (h : List.Forall₂ (fun x y => exists z, R x z ∧ y = f z) xs ys) :
    exists zs, List.Forall₂ R xs zs ∧ ys = zs.map f := by
  induction h with
  | nil => exact ⟨[], .nil, rfl⟩
  | cons hhead _ ih =>
      rcases hhead with ⟨z, hz, rfl⟩
      rcases ih with ⟨zs, hzs, rfl⟩
      exact ⟨z :: zs, .cons hz hzs, rfl⟩

theorem exists_partner {R : α -> β -> Prop} {xs : List α} {ys : List β}
    (h : List.Forall₂ R xs ys) {position : Nat} {x : α}
    (hx : xs[position]? = some x) :
    exists y, ys[position]? = some y ∧ R x y := by
  induction h generalizing position with
  | nil => cases hx
  | cons hhead _ ih =>
      cases position with
      | zero =>
          cases hx
          exact ⟨_, rfl, hhead⟩
      | succ position => exact ih hx

/--
The first member of a list on which a conversion fails, with its position and
the error.
-/
structure FirstFault (convert : α -> Except ConversionError β) (xs : List α)
    (position : Nat) (fault : ConversionError) : Prop where
  fails : exists x, xs[position]? = some x ∧ convert x = .error fault
  earlier : forall index, index < position ->
    exists x y, xs[index]? = some x ∧ convert x = .ok y

namespace FirstFault

variable {convert : α -> Except ConversionError β} {x : α} {xs : List α}

theorem head {fault : ConversionError} (h : convert x = .error fault) :
    FirstFault convert (x :: xs) 0 fault where
  fails := ⟨x, rfl, h⟩
  earlier := by
    intro index hindex
    exact absurd hindex (Nat.not_lt_zero index)

theorem cons {position : Nat} {fault : ConversionError} {y : β}
    (hx : convert x = .ok y) (h : FirstFault convert xs position fault) :
    FirstFault convert (x :: xs) (position + 1) fault where
  fails := h.fails
  earlier := by
    intro index hindex
    cases index with
    | zero => exact ⟨x, y, rfl, hx⟩
    | succ index => exact h.earlier index (Nat.lt_of_succ_lt_succ hindex)

end FirstFault

theorem convertEach_eq_ok_iff {convert : α -> Except ConversionError β}
    {index : Nat} {xs : List α} {ys : List β} :
    convertEach convert index xs = .ok ys ↔
      List.Forall₂ (fun x y => convert x = .ok y) xs ys := by
  induction xs generalizing index ys with
  | nil =>
      simp [convertEach, eq_comm]
  | cons x rest ih =>
      simp only [convertEach, bind_eq_ok_iff, pure_eq_ok_iff, atIndex_eq_ok_iff,
        ih, List.forall₂_cons_left_iff]
      constructor
      · intro h
        rcases h with ⟨y, hy, ys', hys, rfl⟩
        exact ⟨y, ys', hy, hys, rfl⟩
      · intro h
        rcases h with ⟨y, ys', hy, hys, rfl⟩
        exact ⟨y, hy, ys', hys, rfl⟩

theorem convertEach_eq_ok_map_iff {convert : α -> Except ConversionError β}
    {Accepted : α -> Prop} {result : α -> β}
    (h : forall x y, convert x = .ok y ↔ Accepted x ∧ result x = y)
    {index : Nat} {xs : List α} {ys : List β} :
    convertEach convert index xs = .ok ys ↔
      (forall x, x ∈ xs -> Accepted x) ∧ xs.map result = ys := by
  have hresult : List.Forall₂ (fun x y => result x = y) xs ys ↔
      xs.map result = ys := by
    rw [← List.forall₂_map_left_iff (R := fun y z => y = z),
      List.forall₂_eq_eq_eq]
  simp only [convertEach_eq_ok_iff, h, List.forall₂_and_left, hresult]

theorem convertEach_congr {convert : α -> Except ConversionError β}
    {index : Nat} {xs ys : List α} (h : xs.map convert = ys.map convert) :
    convertEach convert index xs = convertEach convert index ys := by
  induction xs generalizing index ys with
  | nil => rw [List.map_eq_nil_iff.mp h.symm]
  | cons x rest ih =>
      rcases List.map_eq_cons_iff.mp h.symm with ⟨y, others, rfl, hy, hothers⟩
      unfold convertEach
      rw [hy, ih hothers.symm]

theorem exists_firstFault {convert : α -> Except ConversionError β}
    (index : Nat) {xs : List α}
    (h : exists x, x ∈ xs ∧ exists e, convert x = .error e) :
    exists position fault, FirstFault convert xs position fault ∧
      convertEach convert index xs =
        .error (.atIndex (index + position) fault) := by
  induction xs generalizing index with
  | nil =>
      rcases h with ⟨x, hx, _⟩
      cases hx
  | cons x rest ih =>
      cases hx : convert x with
      | error fault =>
          refine ⟨0, fault, FirstFault.head hx, ?_⟩
          rw [convertEach, hx]
          rfl
      | ok y =>
          have hrest : exists x, x ∈ rest ∧ exists e, convert x = .error e := by
            rcases h with ⟨bad, hbad, e, he⟩
            rcases List.mem_cons.mp hbad with rfl | hbad
            · rw [hx] at he
              cases he
            · exact ⟨bad, hbad, e, he⟩
          rcases ih (index + 1) hrest with ⟨position, fault, hfirst, herror⟩
          refine ⟨position + 1, fault, hfirst.cons hx, ?_⟩
          rw [convertEach, hx, herror, Nat.add_assoc, Nat.add_comm 1 position]
          rfl

theorem firstFault_of_convertEach {convert : α -> Except ConversionError β}
    {index : Nat} {xs : List α} {e : ConversionError}
    (h : convertEach convert index xs = .error e) :
    exists position fault, FirstFault convert xs position fault ∧
      e = .atIndex (index + position) fault := by
  have hfails : exists x, x ∈ xs ∧ exists fault, convert x = .error fault := by
    by_contra hnone
    have hall : forall x, x ∈ xs -> exists y, convert x = .ok y := by
      intro x hx
      cases hy : convert x with
      | ok y => exact ⟨y, rfl⟩
      | error fault => exact absurd ⟨x, hx, fault, hy⟩ hnone
    rcases exists_forall₂_iff.mpr hall with ⟨ys, hys⟩
    rw [convertEach_eq_ok_iff.mpr hys] at h
    cases h
  rcases exists_firstFault index hfails with ⟨position, fault, hfirst, herror⟩
  rw [herror] at h
  exact ⟨position, fault, hfirst, (Except.error.inj h).symm⟩

end Columnar
