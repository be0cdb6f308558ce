/-!
# Maps keyed by names

Entries stand in increasing order of their names, compared character by
character, so two maps with the same entries are the same map.
-/

namespace Columnar

/-- Entries in strictly increasing order of their names. -/
structure NameMap (α : Type u) where
  entries : List (String × α)
  sorted : entries.Pairwise fun a b => a.1 < b.1

namespace NameMap

def empty : NameMap α := ⟨[], List.Pairwise.nil⟩

instance : Inhabited (NameMap α) := ⟨empty⟩

def find? (m : NameMap α) (name : String) : Option α :=
  (m.entries.find? fun entry => entry.1 == name).map Prod.snd

def contains (m : NameMap α) (name : String) : Bool := (m.find? name).isSome

def size (m : NameMap α) : Nat := m.entries.length

def names (m : NameMap α) : List String := m.entries.map Prod.fst

def values (m : NameMap α) : List α := m.entries.map Prod.snd

/-! ## Insertion -/

/-- Puts an entry in its place; an entry of the same name gives way. -/
def insertEntry (name : String) (value : α) :
    List (String × α) -> List (String × α)
  | [] => [(name, value)]
  | (other, kept) :: rest =>
      if name < other then (name, value) :: (other, kept) :: rest
      else if other < name then (other, kept) :: insertEntry name value rest
      else (name, value) :: rest

theorem mem_insertEntry {name : String} {value : α}
    {entries : List (String × α)} {entry : String × α}
    (h : entry ∈ insertEntry name value entries) :
    entry = (name, value) ∨ entry ∈ entries := by
  induction entries with
  | nil =>
      simpa [insertEntry] using h
  | cons head rest ih =>
      unfold insertEntry at h
      split at h
      · simpa using h
      · split at h
        · rcases List.mem_cons.mp h with h | h
          · exact Or.inr (h ▸ List.mem_cons_self)
          · exact (ih h).imp id fun h => List.mem_cons_of_mem _ h
        · rcases List.mem_cons.mp h with h | h
          · exact Or.inl h
          · exact Or.inr (List.mem_cons_of_mem _ h)

theorem pairwise_insertEntry {name : String} {value : α}
    {entries : List (String × α)} (h : entries.Pairwise fun a b => a.1 < b.1) :
    (insertEntry name value entries).Pairwise fun a b => a.1 < b.1 := by
  induction entries with
  | nil =>
      simp [insertEntry]
  | cons head rest ih =>
      obtain ⟨hhead, hrest⟩ := List.pairwise_cons.mp h
      unfold insertEntry
      split
      · next hlt =>
          refine List.pairwise_cons.mpr ⟨?_, h⟩
          intro entry hentry
          rcases List.mem_cons.mp hentry with rfl | hentry
          · exact hlt
          · exact String.lt_trans hlt (hhead entry hentry)
      · split
        · next hlt =>
            refine List.pairwise_cons.mpr ⟨?_, ih hrest⟩
            intro entry hentry
            rcases mem_insertEntry hentry with rfl | hentry
            · exact hlt
            · exact hhead entry hentry
        · next hnot hnot' =>
            have hname : name = head.1 :=
              String.le_antisymm (String.not_lt.mp hnot')
                (String.not_lt.mp hnot)
            refine List.pairwise_cons.mpr ⟨?_, hrest⟩
            intro entry hentry
            simpa [hname] using hhead entry hentry

def insert (m : NameMap α) (name : String) (value : α) : NameMap α :=
  ⟨insertEntry name value m.entries, pairwise_insertEntry m.sorted⟩

end NameMap
end Columnar
