import Mathlib.Data.List.Nodup
import Columnar.Json.Fields

/-!
# Plain values

What the printers are given is plainer than JSON allows: every string is a
text, and every number is natural and fits one word.  Such a value is within
every limit but that on nesting, and the members of a record are found under
their keys.
-/

namespace Columnar

theorem Numeral.isFinite_of_lt {n : Nat} (h : n < UInt64.size) :
    isFinite { whole := n } = true := by
  have hdigits : digits { whole := n } = n := by
    simp [digits]
  have hexcess : excess n = 0 := by
    have hpos : (Nat.toDigits 10 n).length ≠ 0 := by
      simp [List.length_eq_zero_iff, Nat.toDigits_ne_nil]
    rcases Nat.exists_eq_succ_of_ne_zero hpos with ⟨count, hcount⟩
    rw [excess, hcount, List.range_succ_eq_map, List.find?_cons_of_pos
      (by simpa using h)]
    rfl
  unfold isFinite
  rw [hdigits, hexcess]
  simp

namespace Json

/-- Every string is a text and every number is natural and of one word. -/
inductive Plain : Json -> Prop
  | null : Plain .null
  | bool (b : Bool) : Plain (.bool b)
  | nat {n : Nat} : n < UInt64.size -> Plain (.nat n)
  | text (s : String) : Plain (.text s)
  | array {items : List Json} :
      (forall item, item ∈ items -> Plain item) -> Plain (.array items)
  | record {members : List (String × Json)} :
      (forall member, member ∈ members -> Plain member.2) ->
        Plain (.record members)

def keyed (members : List (String × Json)) : List (Option String × Json) :=
  members.map fun member => (some member.1, member.2)

/-! ## Limits -/

theorem areSoundItems_of_forall {items : List Json}
    (h : forall item, item ∈ items -> isSound item = true) :
    areSoundItems items = true := by
  induction items with
  | nil => rfl
  | cons item rest ih =>
      rw [areSoundItems, h item List.mem_cons_self, Bool.true_and]
      apply ih
      intro other hother
      exact h other (List.mem_cons_of_mem _ hother)

theorem areSoundMembers_of_forall {members : List (String × Json)}
    (h : forall member, member ∈ members -> isSound member.2 = true) :
    areSoundMembers (keyed members) = true := by
  induction members with
  | nil => rfl
  | cons member rest ih =>
      show (true && isSound member.2 && areSoundMembers (keyed rest)) = true
      rw [h member List.mem_cons_self, Bool.true_and, Bool.true_and]
      apply ih
      intro other hother
      exact h other (List.mem_cons_of_mem _ hother)

theorem Plain.isSound {json : Json} (h : Plain json) : json.isSound = true := by
  induction h with
  | null => rfl
  | bool b => rfl
  | nat hn => exact Numeral.isFinite_of_lt hn
  | text s => rfl
  | array _ ih => exact areSoundItems_of_forall ih
  | record _ ih => exact areSoundMembers_of_forall ih

theorem depthOfItems_le_iff {items : List Json} {n : Nat} :
    depthOfItems items ≤ n ↔ forall item, item ∈ items -> item.depth ≤ n := by
  induction items with
  | nil => simp [depthOfItems]
  | cons item rest ih => rw [depthOfItems, Nat.max_le, ih, List.forall_mem_cons]

theorem depthOfMembers_le_iff {members : List (String × Json)} {n : Nat} :
    depthOfMembers (keyed members) ≤ n ↔ forall member, member ∈ members ->
    member.2.depth ≤ n := by
  induction members with
  | nil => simp [keyed, depthOfMembers]
  | cons member rest ih =>
      show max (depth member.2) (depthOfMembers (keyed rest)) ≤ n ↔ _
      rw [Nat.max_le, ih, List.forall_mem_cons]

theorem depth_lt_array {items : List Json} {item : Json} (h : item ∈ items) :
    item.depth < (Json.array items).depth := by
  rw [depth, Nat.add_comm, Nat.lt_succ_iff]
  exact depthOfItems_le_iff.mp (Nat.le_refl _) item h

theorem depth_record (members : List (String × Json)) :
    (record members).depth = depthOfMembers (keyed members) + 1 :=
  Nat.add_comm 1 _

theorem depth_lt_record {members : List (String × Json)} {key : String}
    {item : Json} (h : (key, item) ∈ members) :
    item.depth < (record members).depth := by
  rw [depth_record, Nat.lt_succ_iff]
  exact depthOfMembers_le_iff.mp (Nat.le_refl _) (key, item) h

/-! ## Members -/

theorem textMembers?_keyed (members : List (String × Json)) :
    textMembers? (keyed members) = some members := by
  induction members with
  | nil => rfl
  | cons member rest ih =>
      show (textMembers? (keyed rest)).map ((member.1, member.2) :: ·) = _
      rw [ih]
      rfl

theorem filter_key_eq_nil {members : List (String × Json)} {key : String}
    (h : key ∉ members.map Prod.fst) :
    members.filter (fun member => member.1 == key) = [] := by
  apply List.filter_eq_nil_iff.mpr
  intro member hmember heq
  rw [← beq_iff_eq.mp heq] at h
  exact h (List.mem_map_of_mem hmember)

theorem unique?_of_mem {members : List (String × Json)}
    (hnodup : (members.map Prod.fst).Nodup) {key : String} {item : Json}
    (h : (key, item) ∈ members) :
    unique? members key = some (some item) := by
  have hfilter : members.filter (fun member => member.1 == key) =
      [(key, item)] := by
    induction members with
    | nil => cases h
    | cons member rest ih =>
        rw [List.map_cons, List.nodup_cons] at hnodup
        rcases List.mem_cons.mp h with rfl | hrest
        · rw [List.filter_cons_of_pos (by simp), filter_key_eq_nil hnodup.1]
        · have hne : ¬ (member.1 == key) = true := by
            intro heq
            apply hnodup.1
            rw [beq_iff_eq.mp heq]
            exact List.mem_map_of_mem hrest
          rw [List.filter_cons, if_neg hne]
          exact ih hnodup.2 hrest
  rw [unique?, hfilter]

theorem fields?_record (names : List String) (members : List (String × Json)) :
    (record members).fields? names = names.mapM (unique? members) := by
  show (textMembers? (keyed members) >>= fun members => names.mapM
    (unique? members)) = _
  rw [textMembers?_keyed]
  rfl

theorem natBelow?_nat {n bound : Nat} (h : n < bound) :
    natBelow? bound (.nat n) = some n := by
  simp [natBelow?, nat, Numeral.natural?, h]

end Json
end Columnar
