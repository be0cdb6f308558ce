import Columnar.Component.Name

/-!
# The grammar of component names

A component name is a scope and a short name with a dot between them.  The scope
is two segments or more, none of them empty, and the short name is a capital and
any number of letters and digits.  As no dot is among those, the short name is
what follows the last dot, and a text is a name in one way at most.
-/

namespace Columnar
namespace ComponentName

/-! ## Segments -/

theorem segments_eq_splitOn (cs : List Char) :
    segments cs = cs.splitOn '.' := by
  induction cs with
  | nil => rfl
  | cons c rest ih =>
      rw [segments, List.splitOn_cons_eq_if_modifyHead, ih]
      split
      · next hdot => rw [if_pos (beq_iff_eq.mpr hdot)]
      · next hdot =>
          rw [if_neg fun h => hdot (beq_iff_eq.mp h)]
          cases h : rest.splitOn '.' with
          | nil => exact absurd h (List.splitOn_ne_nil '.' rest)
          | cons first others => rfl

section

variable {scope short cs : List Char}

theorem segments_append_dot (h : '.' ∉ short) :
    segments (scope ++ '.' :: short) = scope.splitOn '.' ++ [short] := by
  rw [segments_eq_splitOn, List.splitOn_append_cons_self,
    List.splitOn_eq_singleton h]

theorem segments_of_no_dot (h : '.' ∉ cs) : segments cs = [cs] := by
  rw [segments_eq_splitOn, List.splitOn_eq_singleton h]

theorem exists_last_dot (h : '.' ∈ cs) :
    exists scope short, cs = scope ++ '.' :: short ∧ '.' ∉ short := by
  rcases List.eq_append_cons_of_mem (List.mem_reverse.mpr h) with
    ⟨later, earlier, hcs, hlater⟩
  refine ⟨earlier.reverse, later.reverse, ?_, fun hdot => hlater
    (List.mem_reverse.mp hdot)⟩
  rw [← List.reverse_reverse cs, hcs, List.reverse_append, List.reverse_cons,
    List.append_assoc, List.singleton_append]

end

/-! ## The grammar -/

/--
The text is a scope and a short name with a dot between them.  Capitals, letters
and digits are the ASCII ones.
-/
structure Spells (scope short text : String) : Prop where
  text_eq : text = scope ++ "." ++ short
  segmented : 2 ≤ (scope.toList.splitOn '.').length
  filled : [] ∉ scope.toList.splitOn '.'
  capital : exists first, short.toList.head? = some first ∧ first.isUpper = true
  alphanumeric : forall c, c ∈ short.toList -> c.isAlphanum = true

variable {text other scope short scope' short' : String}

theorem Spells.toList_eq (h : Spells scope short text) :
    text.toList = scope.toList ++ '.' :: short.toList := by
  rw [h.text_eq, String.toList_append, String.toList_append, List.append_assoc]
  rfl

theorem Spells.dot_notMem (h : Spells scope short text) :
    '.' ∉ short.toList := by
  intro hdot
  have hplain := h.alphanumeric '.' hdot
  revert hplain
  decide

theorem Spells.shortName_eq (h : Spells scope short text) :
    shortName ⟨text⟩ = short := by
  have hplain : forall c, c ∈ short.toList.reverse -> (c != '.') = true := by
    intro c hc
    rw [bne_iff_ne]
    rintro rfl
    exact h.dot_notMem (List.mem_reverse.mp hc)
  rw [shortName, h.toList_eq, List.reverse_append, List.reverse_cons,
    List.append_assoc, List.takeWhile_append_of_pos hplain]
  simp

theorem Spells.unique (h : Spells scope short text)
    (h' : Spells scope' short' text) :
    scope = scope' ∧ short = short' := by
  have hshort : short = short' := h.shortName_eq.symm.trans h'.shortName_eq
  have htext := h.toList_eq.symm.trans h'.toList_eq
  rw [hshort] at htext
  exact ⟨String.toList_inj.mp (List.append_cancel_right htext), hshort⟩

/-! ## What is accepted -/

theorem fault?_eq_none_iff_of_segments {front : List (List Char)}
    {last : List Char} (h : segments text.toList = front ++ [last]) :
    fault? text = none ↔
      2 ≤ front.length ∧ [] ∉ front ∧ last.head?.any Char.isUpper = true ∧
        last.all Char.isAlphanum = true := by
  rw [fault?, h, List.getLastD_concat, List.length_append,
    List.length_singleton]
  split
  · next hfew => exact iff_of_false nofun fun hall => absurd hall.1 (by omega)
  · next hmany =>
      rw [and_iff_right (show 2 ≤ front.length by omega)]
      split
      · next hempty =>
          refine iff_of_false nofun fun hall => ?_
          rcases List.any_eq_true.mp hempty with ⟨segment, hsegment, hnil⟩
          rw [List.isEmpty_iff.mp hnil] at hsegment
          rcases List.mem_append.mp hsegment with hfront | hlast
          · exact hall.1 hfront
          · have hcapital := hall.2.1
            rw [← List.mem_singleton.mp hlast] at hcapital
            cases hcapital
      · next hfilled =>
          have hfront : [] ∉ front := fun hmem =>
            hfilled (List.any_eq_true.mpr
              ⟨[], List.mem_append_left [last] hmem, rfl⟩)
          rw [and_iff_right hfront]
          cases last.head?.any Char.isUpper with
          | false => simp
          | true =>
              cases last.all Char.isAlphanum with
              | false => simp
              | true => simp

theorem fault?_eq_none_iff_spells (htext : text = scope ++ "." ++ short)
    (hdot : '.' ∉ short.toList) :
    fault? text = none ↔ Spells scope short text := by
  have hsegments : segments text.toList = scope.toList.splitOn '.' ++
      [short.toList] := by
    rw [htext, String.toList_append, String.toList_append, List.append_assoc]
    exact segments_append_dot hdot
  rw [fault?_eq_none_iff_of_segments hsegments, Option.any_eq_true,
    List.all_eq_true]
  constructor
  · intro h
    rcases h with ⟨hsegmented, hfilled, hcapital, halphanumeric⟩
    exact ⟨htext, hsegmented, hfilled, hcapital, halphanumeric⟩
  · intro h
    exact ⟨h.segmented, h.filled, h.capital, h.alphanumeric⟩

theorem fault?_eq_none_iff :
    fault? text = none ↔ exists scope short, Spells scope short text := by
  -- A text without a fault has dots, and is divided at the last one.
  constructor
  · intro h
    by_cases hdot : '.' ∈ text.toList
    · rcases exists_last_dot hdot with ⟨scope, short, hdivided, hshort⟩
      have htext : text = String.ofList scope ++ "." ++
          String.ofList short := by
        rw [← String.toList_inj, hdivided]
        simp
      rw [← String.toList_ofList (l := short)] at hshort
      exact ⟨_, _, (fault?_eq_none_iff_spells htext hshort).mp h⟩
    · have hsegments : segments text.toList = [] ++ [text.toList] :=
        segments_of_no_dot hdot
      have hcount := ((fault?_eq_none_iff_of_segments hsegments).mp h).1
      exact absurd hcount (by decide)
  · intro h
    rcases h with ⟨scope, short, hspells⟩
    exact (fault?_eq_none_iff_spells hspells.text_eq hspells.dot_notMem).mpr
      hspells

theorem parse_eq_ok_iff {name : ComponentName} :
    parse text = .ok name ↔ fault? text = none ∧ name = ⟨text⟩ := by
  rw [parse]
  cases fault? text with
  | some fault => simp
  | none => simp [eq_comm]

theorem exists_parse_iff :
    (exists name, parse text = .ok name) ↔ fault? text = none := by
  simp only [parse_eq_ok_iff, exists_and_left, exists_eq, and_true]

/--
A text is accepted exactly when it is a scope and a short name with a dot
between them.  The name is then written as the text was, and the two parts can
be told from it: no others spell the text, and any other name that is accepted
is the same one exactly when both of its parts are the same.
-/
theorem parse_grammar (text : String) :
    ((exists name, parse text = .ok name) ↔
      exists scope short, Spells scope short text) ∧
    forall name, parse text = .ok name ->
      name.text = text ∧ exists scope, Spells scope name.shortName text ∧
        (forall scope' short', Spells scope' short' text ->
          scope' = scope ∧ short' = name.shortName) ∧
        forall other name' scope' short', parse other = .ok name' ->
          Spells scope' short' other ->
          (name = name' ↔ scope = scope' ∧ name.shortName = short') := by
  refine ⟨exists_parse_iff.trans fault?_eq_none_iff, ?_⟩
  intro name hname
  rcases parse_eq_ok_iff.mp hname with ⟨hfault, rfl⟩
  rcases fault?_eq_none_iff.mp hfault with ⟨scope, short, hspells⟩
  rw [hspells.shortName_eq]
  refine ⟨rfl, scope, hspells, fun scope' short' h => h.unique hspells, ?_⟩
  intro other name' scope' short' hother hspells'
  rcases parse_eq_ok_iff.mp hother with ⟨_, rfl⟩
  constructor
  · intro heq
    cases heq
    exact hspells.unique hspells'
  · intro hparts
    rw [hspells.text_eq, hspells'.text_eq, hparts.1, hparts.2]

namespace Sample

def strengthText : String := "rerun.blueprint.components.ForceStrength"

theorem spells_strengthText :
    Spells "rerun.blueprint.components" "ForceStrength" strengthText where
  text_eq := by decide
  segmented := by decide
  filled := by decide
  capital := ⟨'F', rfl, rfl⟩
  alphanumeric := List.all_eq_true.mp rfl

end Sample

open Sample in
theorem parse_grammar_strength :
    (exists name, parse strengthText = .ok name ∧
      name.shortName = "ForceStrength") ∧
      ¬ exists scope short,
        Spells scope short "rerun..components.ForceStrength" := by
  constructor
  · rcases (parse_grammar strengthText).1.mpr ⟨_, _, spells_strengthText⟩ with
      ⟨name, hname⟩
    rcases (parse_grammar strengthText).2 name hname with ⟨_, _, _, hunique, _⟩
    exact ⟨name, hname, (hunique _ _ spells_strengthText).2.symm⟩
  · rw [← (parse_grammar _).1]
    rintro ⟨name, hname⟩
    cases hname

end ComponentName
end Columnar
