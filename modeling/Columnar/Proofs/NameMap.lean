import Mathlib.Data.List.Sort
import Mathlib.Logic.Function.Basic
import Columnar.NameMap

/-!
# Looking up entries

Insertion changes what is found under its own name and nothing else.  A name
has one entry at most, so looking up finds exactly the entries, and two maps in
which the same is found are the same map.
-/

namespace Columnar
namespace NameMap

theorem find?_insertEntry (name : String) (value : α)
    (entries : List (String × α)) (other : String) :
    (insertEntry name value entries).find? (fun entry => entry.1 == other) =
      if other = name then some (name, value)
      else entries.find? fun entry => entry.1 == other := by
  induction entries with
  | nil =>
      by_cases h : other = name
      · simp [insertEntry, h]
      · simp [insertEntry, h, Ne.symm h]
  | cons head rest ih =>
      rcases head with ⟨kept, stored⟩
      rw [insertEntry]
      by_cases hlt : name < kept
      · rw [if_pos hlt]
        by_cases h : other = name
        · simp [h]
        · simp [h, List.find?_cons, Ne.symm h]
      · rw [if_neg hlt]
        by_cases hgt : kept < name
        · have hne : kept ≠ name := fun heq => String.lt_irrefl _ (heq ▸ hgt)
          rw [if_pos hgt, List.find?_cons, List.find?_cons, ih]
          by_cases h : other = name
          · simp [h, beq_false_of_ne hne]
          · rw [if_neg h, if_neg h]
        · have heq : name = kept :=
            String.le_antisymm (String.not_lt.mp hgt) (String.not_lt.mp hlt)
          rw [if_neg hgt, ← heq]
          by_cases h : other = name
          · simp [h]
          · simp [h, Ne.symm h]

theorem find?_insert (m : NameMap α) (name : String) (value : α)
    (other : String) :
    (m.insert name value).find? other =
      if other = name then some value else m.find? other := by
  rw [find?, insert, find?_insertEntry]
  by_cases h : other = name
  · rw [if_pos h, if_pos h]
    rfl
  · rw [if_neg h, if_neg h]
    rfl

theorem find?_empty (name : String) : (empty : NameMap α).find? name = none :=
  rfl

theorem nodup_names (m : NameMap α) : m.names.Nodup := by
  rw [names, List.nodup_iff_pairwise_ne, List.pairwise_map]
  exact m.sorted.imp String.ne_of_lt

theorem find?_eq_some_iff {m : NameMap α} {name : String} {value : α} :
    m.find? name = some value ↔ (name, value) ∈ m.entries := by
  have hfound : forall entry : String × α,
      m.entries.find? (fun entry => entry.1 == name) = some entry ->
        entry.1 = name ∧ entry ∈ m.entries := by
    intro entry hfind
    have hname := List.find?_some hfind
    exact ⟨beq_iff_eq.mp hname, List.mem_of_find?_eq_some hfind⟩
  rw [find?, Option.map_eq_some_iff]
  constructor
  · intro h
    rcases h with ⟨entry, hfind, rfl⟩
    rw [← (hfound entry hfind).1]
    exact (hfound entry hfind).2
  · intro h
    have hsome : (m.entries.find? fun entry => entry.1 == name).isSome = true :=
      List.find?_isSome.mpr ⟨(name, value), h, beq_iff_eq.mpr rfl⟩
    rcases Option.isSome_iff_exists.mp hsome with ⟨entry, hfind⟩
    rcases hfound entry hfind with ⟨hname, hmem⟩
    -- The name stands in one entry only, so the entry found is the given one.
    have hentry := List.inj_on_of_nodup_map m.nodup_names hmem h hname
    exact ⟨entry, hfind, by rw [hentry]⟩

theorem mem_names_iff {m : NameMap α} {name : String} :
    name ∈ m.names ↔ exists value, m.find? name = some value := by
  rw [names, List.mem_map]
  constructor
  · intro h
    rcases h with ⟨⟨_, value⟩, hentry, rfl⟩
    exact ⟨value, find?_eq_some_iff.mpr hentry⟩
  · intro h
    rcases h with ⟨value, hvalue⟩
    exact ⟨(name, value), find?_eq_some_iff.mp hvalue, rfl⟩

theorem ext_find? {m other : NameMap α}
    (h : forall name, m.find? name = other.find? name) :
    m = other := by
  have hmem : forall entry, entry ∈ m.entries ↔ entry ∈ other.entries := by
    intro entry
    rw [← find?_eq_some_iff, ← find?_eq_some_iff, h]
  have hantisymm : Std.Antisymm fun a b : String × α => a.1 < b.1 :=
    ⟨fun _ _ hab hba => absurd hba (String.lt_asymm hab)⟩
  have hirrefl : Std.Irrefl fun a b : String × α => a.1 < b.1 :=
    ⟨fun a => String.lt_irrefl a.1⟩
  have hentries : m.entries = other.entries :=
    m.sorted.eq_of_mem_iff other.sorted hmem
  rcases m with ⟨entries, sorted⟩
  cases hentries
  rfl

/-! ## Maps that follow a function -/

/-- Exactly these names are found, each with the value the function gives it. -/
def Follows (m : NameMap α) (names : List String) (value : String -> α) :
    Prop :=
  forall name, m.find? name = if name ∈ names then some (value name) else none

theorem follows_empty {value : String -> α} :
    (empty : NameMap α).Follows [] value := by
  intro name
  rw [find?_empty, if_neg List.not_mem_nil]

namespace Follows

variable {m : NameMap α} {names : List String} {value : String -> α}

theorem contains_iff (h : m.Follows names value) {name : String} :
    m.contains name = true ↔ name ∈ names := by
  rw [contains, h name]
  by_cases hname : name ∈ names
  · simp [hname]
  · simp [hname]

theorem insert (h : m.Follows names value) (name : String) (new : α) :
    (m.insert name new).Follows (names ++ [name])
    (Function.update value name new) := by
  intro other
  rw [find?_insert, h other]
  by_cases heq : other = name
  · simp [heq]
  · simp [heq]

theorem mem_names_iff (h : m.Follows names value) {name : String} :
    name ∈ m.names ↔ name ∈ names := by
  rw [NameMap.mem_names_iff, h name]
  by_cases hname : name ∈ names
  · simp [hname]
  · simp [hname]

theorem perm_names (h : m.Follows names value) (hnames : names.Nodup) :
    m.names.Perm names :=
  (List.perm_ext_iff_of_nodup m.nodup_names hnames).mpr fun _ => h.mem_names_iff

theorem values_eq (h : m.Follows names value) :
    m.values = m.names.map value := by
  rw [values, NameMap.names, List.map_map]
  apply List.map_congr_left
  intro entry hentry
  have hfound := find?_eq_some_iff.mpr hentry
  rw [h entry.1] at hfound
  split at hfound
  · exact (Option.some.inj hfound).symm
  · cases hfound

end Follows
end NameMap
end Columnar
