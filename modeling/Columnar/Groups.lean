/-!
# Consecutive groups

A list cut into runs of one size, from the front; the last run may be shorter.
-/

namespace Columnar

def group (size : Nat) (xs : List α) (index : Nat) : List α :=
  (xs.drop (index * size)).take size

theorem length_group {size index : Nat} {xs : List α}
    (h : (index + 1) * size ≤ xs.length) :
    (group size xs index).length = size := by
  rw [Nat.add_mul, Nat.one_mul] at h
  simp only [group, List.length_take, List.length_drop]
  omega

def groups (size : Nat) (xs : List α) : List (List α) :=
  (List.range ((xs.length + size - 1) / size)).map (group size xs)

end Columnar
