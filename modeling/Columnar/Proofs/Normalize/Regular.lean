import Columnar.Proofs.Array.Nested

/-!
# Regular values

A value is regular when nothing in it is absent or a record and each of its
sequences has items of one extent.  Then it has dimensions, which are its
extent.  Otherwise the first item that stands out from those before it decides
the error, and the scalars have no say in that.
-/

namespace Columnar
namespace NativeValue

@[elab_as_elim]
theorem induction_items {motive : NativeValue -> Prop} (null : motive .null)
    (scalar : forall s, motive (.scalar s))
    (array : forall a, motive (.array a))
    (record : forall pairs, motive (.record pairs))
    (sequence : forall items, (forall item, item ∈ items -> motive item) ->
      motive (.sequence items)) :
    forall value, motive value
  | .null => null
  | .scalar s => scalar s
  | .array a => array a
  | .record pairs => record pairs
  | .sequence items => sequence items fun item _ =>
      induction_items null scalar array record sequence item

/-! ## Regularity -/

/--
How long the value is in each direction, the outermost first, if its first items
tell.
-/
def extent : NativeValue -> List Nat
  | .array a => a.shape
  | .sequence [] => [0]
  | .sequence (first :: rest) => (rest.length + 1) :: first.extent
  | _ => []

inductive Within (value : NativeValue) : NativeValue -> Prop
  | self : Within value value
  | item {items : List NativeValue} {item : NativeValue} :
      item ∈ items -> Within value item -> Within value (.sequence items)

/--
Nothing inside is absent or a record, and the items of each sequence have one
extent.
-/
structure Regular (value : NativeValue) : Prop where
  present : forall inner, Within inner value ->
    inner.isNull = false ∧ inner.isRecord = false
  even : forall items, Within (.sequence items) value ->
    forall first, first ∈ items -> forall other, other ∈ items ->
      first.extent = other.extent

def Even (items : List NativeValue) : Prop :=
  (forall item, item ∈ items -> item.Regular) ∧
    forall first, first ∈ items -> forall other, other ∈ items ->
      first.extent = other.extent

theorem regular_scalar (s : Scalar) : (scalar s).Regular where
  present := by
    intro inner h
    cases h
    exact ⟨rfl, rfl⟩
  even := by
    intro items h
    cases h

theorem regular_array (a : NdArray) : (array a).Regular where
  present := by
    intro inner h
    cases h
    exact ⟨rfl, rfl⟩
  even := by
    intro items h
    cases h

theorem not_regular_null : ¬ null.Regular :=
  fun h => nomatch (h.present null .self).1

theorem not_regular_record (pairs : List (String × NativeValue)) :
    ¬ (record pairs).Regular :=
  fun h => nomatch (h.present (record pairs) .self).2

theorem regular_sequence_iff {items : List NativeValue} :
    (sequence items).Regular ↔ Even items := by
  constructor
  · intro h
    refine ⟨?_, h.even items .self⟩
    intro item hitem
    exact ⟨fun inner hinner => h.present inner (.item hitem hinner),
      fun others hothers => h.even others (.item hitem hothers)⟩
  · intro h
    refine ⟨?_, ?_⟩
    · intro inner hinner
      cases hinner with
      | self => exact ⟨rfl, rfl⟩
      | item hitem hinner => exact (h.1 _ hitem).present inner hinner
    · intro others hothers
      cases hothers with
      | self => exact h.2
      | item hitem hothers => exact (h.1 _ hitem).even others hothers

theorem regular_map_scalar (run : List Scalar) :
    (sequence (run.map .scalar)).Regular := by
  rw [regular_sequence_iff]
  refine ⟨?_, ?_⟩
  · rw [List.forall_mem_map]
    intro s _
    exact regular_scalar s
  · rw [List.forall_mem_map]
    intro s _
    rw [List.forall_mem_map]
    intro other _
    rfl

theorem scalars_map_scalar (run : List Scalar) :
    (sequence (run.map .scalar)).scalars = run := by
  rw [scalars_sequence, List.flatMap_map]
  exact List.flatMap_singleton' run

theorem even_nil : Even [] := ⟨nofun, nofun⟩

theorem even_concat {earlier : List NativeValue} {item : NativeValue}
    (h : Even earlier) (hitem : item.Regular)
    (hextent : forall other, other ∈ earlier -> other.extent = item.extent) :
    Even (earlier ++ [item]) := by
  have hall : forall other, other ∈ earlier ++ [item] ->
      other.extent = item.extent := by
    rw [List.forall_mem_append, List.forall_mem_singleton]
    exact ⟨hextent, rfl⟩
  refine ⟨?_, fun first hfirst other hother => (hall first hfirst).trans
    (hall other hother).symm⟩
  rw [List.forall_mem_append, List.forall_mem_singleton]
  exact ⟨h.1, hitem⟩

theorem dimensions_of_regular {kind : ElementKind} {value : NativeValue}
    (h : value.Regular) :
    value.dimensions kind = .ok value.extent := by
  induction value using induction_items with
  | null => exact absurd h not_regular_null
  | record pairs => exact absurd h (not_regular_record pairs)
  | scalar s => rfl
  | array a => rfl
  | sequence items ih =>
      rcases regular_sequence_iff.mp h with ⟨hregular, heven⟩
      cases items with
      | nil => rfl
      | cons first rest =>
          rw [extent]
          apply dimensions_sequence
          intro other hother
          rw [ih other hother (hregular other hother),
            heven other hother first List.mem_cons_self]

/-! ## The first item that stands out -/

/--
The fault of a value that is not regular: that of the first item that is at
fault itself or, else, is not of the extent of those before it.
-/
inductive Misshapen (kind : ElementKind) :
    NativeValue -> ConversionError -> Prop
  | null : Misshapen kind .null (.nonNumeric kind .null)
  | record {pairs : List (String × NativeValue)} :
      Misshapen kind (.record pairs) (.nonNumeric kind .record)
  | item {earlier later : List NativeValue} {item : NativeValue}
      {e : ConversionError} :
      Even earlier -> Misshapen kind item e ->
      Misshapen kind (.sequence (earlier ++ item :: later)) e
  | mixed {earlier later : List NativeValue} {first item : NativeValue} :
      Even (first :: earlier) -> item.Regular ->
      first.extent.length ≠ item.extent.length ->
        Misshapen kind (.sequence (first :: earlier ++ item :: later))
          .mixedNesting
  | uneven {earlier later : List NativeValue} {first item : NativeValue}
      {common inner others : List Nat} {expected found : Nat} :
      Even (first :: earlier) -> item.Regular ->
      first.extent = common ++ expected :: inner ->
        item.extent = common ++ found :: others ->
        inner.length = others.length ->
        expected ≠ found ->
        Misshapen kind (.sequence (first :: earlier ++ item :: later))
          (.irregular expected found)

theorem ne_of_first_difference {common inner others : List Nat}
    {expected found : Nat} (h : expected ≠ found) :
    common ++ expected :: inner ≠ common ++ found :: others :=
  fun heq => h (List.cons.inj (List.append_cancel_left heq)).1

theorem Misshapen.not_regular {kind : ElementKind} {value : NativeValue}
    {e : ConversionError} (h : Misshapen kind value e) : ¬ value.Regular := by
  induction h with
  | null => exact not_regular_null
  | record => exact not_regular_record _
  | item _ _ ih =>
      intro h
      exact ih ((regular_sequence_iff.mp h).1
        _ (List.mem_append_right _ List.mem_cons_self))
  | mixed _ _ hlength =>
      intro h
      apply hlength
      rw [(regular_sequence_iff.mp h).2 _ List.mem_cons_self _
        (List.mem_append_right _ List.mem_cons_self)]
  | uneven _ _ hfirst hitem _ hne =>
      intro h
      have hextent := (regular_sequence_iff.mp h).2 _ List.mem_cons_self _
        (List.mem_append_right _ List.mem_cons_self)
      rw [hfirst, hitem] at hextent
      exact ne_of_first_difference hne hextent

theorem exists_first_difference {first other : List Nat}
    (hlength : first.length = other.length) (hne : first ≠ other) :
    exists common expected found inner others,
      first = common ++ expected :: inner ∧
      other = common ++ found :: others ∧ inner.length = others.length ∧
      expected ≠ found := by
  induction first generalizing other with
  | nil => exact absurd (List.eq_nil_of_length_eq_zero hlength.symm).symm hne
  | cons x xs ih =>
      cases other with
      | nil => cases hlength
      | cons y ys =>
          have htails : xs.length = ys.length := Nat.succ.inj hlength
          by_cases hheads : x = y
          · have hrest : xs ≠ ys := fun h => hne (by rw [hheads, h])
            rcases ih htails hrest with
              ⟨common, expected, found, inner, others, rfl, rfl, hparts⟩
            exact ⟨x :: common, expected, found, inner, others, rfl,
              hheads ▸ rfl, hparts⟩
          · exact ⟨[], x, y, xs, ys, rfl, rfl, htails, hheads⟩

theorem exists_misshapen_of_extent_ne {kind : ElementKind}
    {first item : NativeValue} {earlier later : List NativeValue}
    (hearlier : Even (first :: earlier)) (hitem : item.Regular)
    (hextent : first.extent ≠ item.extent) :
    exists e, Misshapen kind (.sequence (first :: earlier ++ item :: later))
      e := by
  by_cases hlength : first.extent.length = item.extent.length
  · rcases exists_first_difference hlength hextent with
      ⟨_, _, _, _, _, hfirst, hother, hrest, hne⟩
    exact ⟨_, .uneven hearlier hitem hfirst hother hrest hne⟩
  · exact ⟨_, .mixed hearlier hitem hlength⟩

theorem exists_misshapen_of_not_even {kind : ElementKind}
    {earlier rest : List NativeValue} (hearlier : Even earlier)
    (hrest : forall item, item ∈ rest -> ¬ item.Regular ->
      exists e, Misshapen kind item e)
    (h : ¬ Even (earlier ++ rest)) :
    exists e, Misshapen kind (.sequence (earlier ++ rest)) e := by
  induction rest generalizing earlier with
  | nil =>
      rw [List.append_nil] at h
      exact absurd hearlier h
  | cons item later ih =>
      by_cases hitem : item.Regular
      · by_cases hextent : forall other, other ∈ earlier ->
          other.extent = item.extent
        · rw [List.append_cons] at h ⊢
          exact ih (even_concat hearlier hitem hextent)
            (fun other hother => hrest other (List.mem_cons_of_mem _ hother)) h
        · cases earlier with
          | nil => exact absurd (fun _ => nofun) hextent
          | cons first earlier =>
              apply exists_misshapen_of_extent_ne hearlier hitem
              intro hfirst
              apply hextent
              intro other hother
              rw [hearlier.2 other hother first List.mem_cons_self, hfirst]
      · rcases hrest item List.mem_cons_self hitem with ⟨e, he⟩
        exact ⟨e, .item hearlier he⟩

theorem exists_misshapen {kind : ElementKind} {value : NativeValue}
    (h : ¬ value.Regular) :
    exists e, Misshapen kind value e := by
  induction value using induction_items with
  | null => exact ⟨_, .null⟩
  | record pairs => exact ⟨_, .record⟩
  | scalar s => exact absurd (regular_scalar s) h
  | array a => exact absurd (regular_array a) h
  | sequence items ih =>
      rw [regular_sequence_iff] at h
      exact exists_misshapen_of_not_even even_nil ih h

/-! ## What the dimensions tell -/

theorem commonDimensions_of_even {kind : ElementKind}
    {earlier : List NativeValue} (h : Even earlier) (rest : List NativeValue) :
    commonDimensions kind none (earlier ++ rest) =
      commonDimensions kind (earlier.head?.map extent) rest := by
  cases earlier with
  | nil => rfl
  | cons first earlier =>
      have hfirst : first.dimensions kind = .ok first.extent :=
        dimensions_of_regular (h.1 first List.mem_cons_self)
      have hsame : forall item, item ∈ earlier ->
          item.dimensions kind = .ok first.extent := by
        intro item hitem
        have hmem := List.mem_cons_of_mem first hitem
        rw [dimensions_of_regular (h.1 item hmem),
          h.2 item hmem first List.mem_cons_self]
      rw [List.head?_cons, Option.map_some, List.cons_append,
        ← commonDimensions_append hsame rest]
      simp only [commonDimensions, hfirst]

theorem commonDimensions_of_extent_ne {kind : ElementKind} {expected : List Nat}
    {item : NativeValue} (hitem : item.Regular) (hne : expected ≠ item.extent)
    (later : List NativeValue) :
    commonDimensions kind (some expected) (item :: later) =
      .error (disagreement expected item.extent) := by
  simp only [commonDimensions, dimensions_of_regular hitem, if_neg hne]

theorem disagreement_of_length_ne {first other : List Nat}
    (h : first.length ≠ other.length) :
    disagreement first other = .mixedNesting := by
  rw [disagreement, if_pos h]

theorem find?_zip_of_first_difference {common inner others : List Nat}
    {expected found : Nat} (hne : expected ≠ found) :
    ((common ++ expected :: inner).zip (common ++ found :: others)).find?
      (fun (a, b) => a != b) = some (expected, found) := by
  induction common with
  | nil => exact List.find?_cons_of_pos (bne_iff_ne.mpr hne)
  | cons x common ih =>
      rw [List.cons_append, List.cons_append, List.zip_cons_cons,
        List.find?_cons_of_neg (by simp),
        ih]

theorem disagreement_of_first_difference {common inner others : List Nat}
    {expected found : Nat} (hlength : inner.length = others.length)
    (hne : expected ≠ found) :
    disagreement (common ++ expected :: inner) (common ++ found :: others) =
      .irregular expected found := by
  have hlengths : (common ++ expected :: inner).length =
      (common ++ found :: others).length := by
    rw [List.length_append, List.length_append, List.length_cons,
      List.length_cons, hlength]
  rw [disagreement, if_neg (not_not.mpr hlengths),
    find?_zip_of_first_difference hne]

theorem dimensions_of_misshapen {kind : ElementKind} {value : NativeValue}
    {e : ConversionError} (h : Misshapen kind value e) :
    value.dimensions kind = .error e := by
  induction h with
  | null => rfl
  | record => rfl
  | item hearlier _ ih =>
      rw [dimensions, commonDimensions_of_even hearlier]
      simp only [commonDimensions, ih]
      rfl
  | mixed hearlier hitem hlength =>
      rw [dimensions, commonDimensions_of_even hearlier, List.head?_cons,
        Option.map_some,
        commonDimensions_of_extent_ne hitem
          (fun h => hlength (congrArg List.length h)),
        disagreement_of_length_ne hlength]
      rfl
  | uneven hearlier hitem hfirst hother hrest hne =>
      rw [dimensions, commonDimensions_of_even hearlier, List.head?_cons,
        Option.map_some, commonDimensions_of_extent_ne hitem, hfirst, hother,
        disagreement_of_first_difference hrest hne]
      · rfl
      · rw [hfirst, hother]
        exact ne_of_first_difference hne

theorem dimensions_eq_ok_iff {kind : ElementKind} {value : NativeValue}
    {shape : List Nat} :
    value.dimensions kind = .ok shape ↔
      value.Regular ∧ value.extent = shape := by
  by_cases h : value.Regular
  · rw [dimensions_of_regular h, Except.ok.injEq, and_iff_right h]
  · rcases @exists_misshapen kind value h with ⟨e, he⟩
    rw [dimensions_of_misshapen he]
    exact iff_of_false nofun fun hregular => h hregular.1

theorem dimensions_eq_error_iff {kind : ElementKind} {value : NativeValue}
    {e : ConversionError} :
    value.dimensions kind = .error e ↔ Misshapen kind value e := by
  refine ⟨?_, dimensions_of_misshapen⟩
  intro he
  by_cases h : value.Regular
  · rw [dimensions_of_regular h] at he
    cases he
  · rcases @exists_misshapen kind value h with ⟨other, hother⟩
    rw [dimensions_of_misshapen hother] at he
    cases he
    exact hother

/-! ## Outlines -/

/-- What is left of a value without its scalars. -/
inductive Outline
  | null
  | scalar
  | array (shape : List Nat)
  | sequence (items : List Outline)
  | record

mutual

def outline : NativeValue -> Outline
  | .null => .null
  | .scalar _ => .scalar
  | .array a => .array a.shape
  | .sequence items => .sequence (outlinesOfItems items)
  | .record _ => .record

def outlinesOfItems : List NativeValue -> List Outline
  | [] => []
  | item :: rest => outline item :: outlinesOfItems rest

end

theorem outline_sequence (items : List NativeValue) :
    (sequence items).outline = .sequence (items.map outline) := by
  have hitems : outlinesOfItems items = items.map outline := by
    induction items with
    | nil => rfl
    | cons item rest ih => rw [outlinesOfItems, ih, List.map_cons]
  rw [outline, hitems]

theorem isNull_congr {value other : NativeValue}
    (h : value.outline = other.outline) :
    value.isNull = other.isNull := by
  cases value <;> cases other <;> first | rfl | cases h

theorem commonDimensions_congr {kind : ElementKind}
    {items others : List NativeValue}
    (h : List.Forall₂
      (fun item other => item.dimensions kind = other.dimensions kind)
      items others)
    (first : Option (List Nat)) :
    commonDimensions kind first items = commonDimensions kind first others := by
  induction h generalizing first with
  | nil => rfl
  | cons hitem _ ih => simp only [commonDimensions, hitem, ih]

theorem dimensions_congr {kind : ElementKind} {value other : NativeValue}
    (h : value.outline = other.outline) :
    value.dimensions kind = other.dimensions kind := by
  induction value using induction_items generalizing other with
  | sequence items ih =>
      cases other with
      | sequence others =>
          rw [outline_sequence, outline_sequence, Outline.sequence.injEq,
            ← List.forall₂_eq_eq_eq, List.forall₂_map_left_iff,
            List.forall₂_map_right_iff] at h
          have hitems : List.Forall₂
              (fun item other => item.dimensions kind = other.dimensions kind)
                items others :=
            ((List.forall₂_and_left _ _).mpr ⟨ih, h⟩).imp fun _ _ hitem =>
              hitem.1 hitem.2
          rw [dimensions, dimensions, commonDimensions_congr hitems,
            h.length_eq]
      | _ => cases h
  | array a =>
      cases other with
      | array b => rw [dimensions, dimensions, Outline.array.inj h]
      | _ => cases h
  | _ => cases other <;> first | rfl | cases h

end NativeValue
end Columnar
