import Mathlib.Data.List.Nodup
import Mathlib.Logic.Relation
import Columnar.Builtin.Colormap

/-!
# Loose names of colormaps

Two texts spell the same name when one becomes the other by putting separators
in, taking separators out and exchanging the two cases of ASCII letters.  A text
is read as the colormap whose name it spells, and no two names are spelled
alike.
-/

namespace Columnar
namespace Components
namespace Colormap

/-! ## Spellings -/

/-- One separator more or less anywhere, or one letter in its other case. -/
inductive Respells : List Char -> List Char -> Prop
  | insert {before after : List Char} {c : Char} : isSeparator c = true ->
      Respells (before ++ after) (before ++ c :: after)
  | delete {before after : List Char} {c : Char} : isSeparator c = true ->
      Respells (before ++ c :: after) (before ++ after)
  | recase {before after : List Char} {c other : Char} :
      c.toLower = other.toLower ->
      Respells (before ++ c :: after) (before ++ other :: after)

def Respelled (text other : String) : Prop :=
  Relation.ReflTransGen Respells text.toList other.toList

theorem isSeparator_toLower (c : Char) :
    isSeparator c.toLower = isSeparator c := by
  by_cases hcapital : 'A'.val ≤ c.val ∧ c.val ≤ 'Z'.val
  · have hlowered : c.toLower.val = c.val + 32 :=
      congrArg Char.val (dif_pos hcapital)
    rw [Bool.eq_iff_iff]
    simp only [isSeparator, Bool.or_eq_true, beq_iff_eq, Char.ext_iff, hlowered]
    grind
  · have hkept : c.toLower = c := dif_neg hcapital
    rw [hkept]

theorem isSeparator_eq_of_toLower_eq {c other : Char}
    (h : c.toLower = other.toLower) :
    isSeparator c = isSeparator other := by
  rw [← isSeparator_toLower c, h, isSeparator_toLower]

def core (chars : List Char) : List Char :=
  (chars.filter fun c => !isSeparator c).map Char.toLower

theorem core_append (before after : List Char) :
    core (before ++ after) = core before ++ core after := by
  rw [core, List.filter_append, List.map_append, core, core]

theorem core_cons_of_separator {c : Char} (h : isSeparator c = true)
    (rest : List Char) :
    core (c :: rest) = core rest := by
  rw [core, List.filter_cons_of_neg (by simp [h]), core]

theorem core_cons_of_letter {c : Char} (h : isSeparator c = false)
    (rest : List Char) :
    core (c :: rest) = c.toLower :: core rest := by
  rw [core, List.filter_cons_of_pos (by simp [h]), List.map_cons, core]

theorem core_cons_congr {c other : Char} (h : c.toLower = other.toLower)
    (rest : List Char) :
    core (c :: rest) = core (other :: rest) := by
  have hseparator := isSeparator_eq_of_toLower_eq h
  cases hc : isSeparator c with
  | true =>
      rw [core_cons_of_separator hc,
        core_cons_of_separator (hseparator.symm.trans hc)]
  | false =>
      rw [core_cons_of_letter hc,
        core_cons_of_letter (hseparator.symm.trans hc), h]

theorem Respells.core_eq {chars others : List Char}
    (h : Respells chars others) :
    core chars = core others := by
  cases h with
  | insert hc => rw [core_append, core_append, core_cons_of_separator hc]
  | delete hc => rw [core_append, core_append, core_cons_of_separator hc]
  | recase hcase => rw [core_append, core_append, core_cons_congr hcase]

theorem Respells.cons {chars others : List Char} (c : Char)
    (h : Respells chars others) :
    Respells (c :: chars) (c :: others) := by
  cases h with
  | @insert before after other hother =>
      exact @insert (c :: before) after other hother
  | @delete before after other hother =>
      exact @delete (c :: before) after other hother
  | @recase before after letter other hcase =>
      exact @recase (c :: before) after letter other hcase

theorem core_eq_of_respells {chars others : List Char}
    (h : Relation.ReflTransGen Respells chars others) :
    core chars = core others := by
  induction h with
  | refl => rfl
  | tail _ hstep ih => exact ih.trans hstep.core_eq

theorem respells_cons {chars others : List Char} (c : Char)
    (h : Relation.ReflTransGen Respells chars others) :
    Relation.ReflTransGen Respells (c :: chars) (c :: others) :=
  h.lift (c :: ·) fun _ _ hstep => hstep.cons c

theorem respells_letters (chars : List Char) :
    Relation.ReflTransGen Respells chars
      (chars.filter fun c => !isSeparator c) ∧
      Relation.ReflTransGen Respells
        (chars.filter fun c => !isSeparator c) chars := by
  induction chars with
  | nil => exact ⟨.refl, .refl⟩
  | cons c rest ih =>
      cases hc : isSeparator c with
      | true =>
          rw [List.filter_cons_of_neg (by simp [hc])]
          exact ⟨.head (@Respells.delete [] rest c hc) ih.1,
            ih.2.tail (@Respells.insert [] rest c hc)⟩
      | false =>
          rw [List.filter_cons_of_pos (by simp [hc])]
          exact ⟨respells_cons c ih.1, respells_cons c ih.2⟩

theorem respells_of_map_toLower_eq {chars others : List Char}
    (h : chars.map Char.toLower = others.map Char.toLower) :
    Relation.ReflTransGen Respells chars others := by
  induction chars generalizing others with
  | nil =>
      rw [List.map_nil, eq_comm, List.map_eq_nil_iff] at h
      rw [h]
  | cons c rest ih =>
      rw [List.map_cons, eq_comm, List.map_eq_cons_iff] at h
      rcases h with ⟨other, others, rfl, hcase, hrest⟩
      exact .head (@Respells.recase [] rest c other hcase.symm)
        (respells_cons other (ih hrest.symm))

/--
Texts differ in separators and case only exactly when one is respelled as the
other.
-/
theorem respelled_iff {text other : String} :
    Respelled text other ↔ reduced text = reduced other := by
  constructor
  · exact core_eq_of_respells
  · intro h
    have hletters := respells_of_map_toLower_eq h
    exact ((respells_letters text.toList).1.trans hletters).trans
      (respells_letters other.toList).2

theorem respelled_of_sameUpToCase {text other : String}
    (h : Text.sameUpToCase text other = true) : Respelled text other := by
  rw [Text.sameUpToCase, beq_iff_eq] at h
  exact respells_of_map_toLower_eq h

/-! ## Names -/

def Names (c : Colormap) (text : String) : Prop := reduced text = reduced c.name

theorem mem_all (c : Colormap) : c ∈ all := by
  cases c <;> decide

theorem Names.unique {c other : Colormap} {text : String} (h : c.Names text)
    (hother : other.Names text) : c = other := by
  have hdistinct : (all.map fun c => reduced c.name).Nodup := by
    decide
  exact List.inj_on_of_nodup_map hdistinct (mem_all c) (mem_all other)
    (h.symm.trans hother)

theorem Respelled.names_iff {c : Colormap} {text other : String}
    (h : Respelled text other) :
    c.Names text ↔ c.Names other := by
  rw [Names, Names, respelled_iff.mp h]

theorem parse_eq_ok_iff {text : String} {c : Colormap} :
    parse text = .ok c ↔ c.Names text := by
  rw [parse]
  cases hfind : all.find? fun c => reduced c.name == reduced text with
  | none =>
      refine iff_of_false nofun fun hnames => ?_
      have hnone := List.find?_eq_none.mp hfind c (mem_all c)
      exact hnone (beq_iff_eq.mpr hnames.symm)
  | some found =>
      have hsame := List.find?_some hfind
      have hfound : found.Names text := (beq_iff_eq.mp hsame).symm
      rw [Except.ok.injEq]
      exact ⟨fun heq => heq ▸ hfound, hfound.unique⟩

/-- Separators and case in the middle of a name are no matter. -/
example : Names .cyanToYellow " CYAN_to--yellow" := by
  rfl

end Colormap
end Components
end Columnar
