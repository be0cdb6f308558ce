import Mathlib.Algebra.Ring.Nat

/-!
# The order of bytes

Text is compared character by character.  Its bytes in UTF-8 compare the same
way: of two characters the later one has the greater first byte, or the same
first byte and a greater number in the bytes that follow.
-/

namespace Columnar
namespace Text

def bytes (text : String) : List UInt8 := text.toUTF8.data.toList

theorem bytes_eq_flatMap (text : String) :
    bytes text = text.toList.flatMap String.utf8EncodeChar := by
  rw [bytes, String.toUTF8_eq_toByteArray, ← String.utf8Encode_toList,
    List.utf8Encode, List.toList_data_toByteArray]

/-! ## One character -/

theorem byte_cons_lt_byte_cons {a b : Nat} {xs ys : List UInt8} (hb : b < 256)
    (h : a < b ∨ a = b ∧ xs < ys) :
    UInt8.ofNat a :: xs < UInt8.ofNat b :: ys := by
  rw [List.cons_lt_cons_iff]
  rcases h with hlt | ⟨rfl, hrest⟩
  · left
    rw [UInt8.lt_iff_toNat_lt, UInt8.toNat_ofNat', UInt8.toNat_ofNat']
    omega
  · exact Or.inr ⟨rfl, hrest⟩

/-- The last digits of a code point to base 64, each in a byte of its own. -/
def trailing (codePoint : Nat) : Nat -> List UInt8
  | 0 => []
  | count + 1 =>
      UInt8.ofNat (codePoint / 64 ^ count % 64 + 128) ::
        trailing codePoint count

theorem digit_lt_or_eq {m n count : Nat}
    (h : m % 64 ^ (count + 1) < n % 64 ^ (count + 1)) :
    m / 64 ^ count % 64 < n / 64 ^ count % 64 ∨
      m / 64 ^ count % 64 = n / 64 ^ count % 64 ∧
        m % 64 ^ count < n % 64 ^ count := by
  rw [Nat.mod_pow_succ, Nat.mod_pow_succ] at h
  have hn : n % 64 ^ count < 64 ^ count :=
    Nat.mod_lt _ (Nat.pow_pos (by decide))
  rcases Nat.lt_trichotomy (m / 64 ^ count % 64) (n / 64 ^ count % 64) with
    hlt | heq | hgt
  · exact Or.inl hlt
  · rw [heq] at h
    exact Or.inr ⟨heq, Nat.lt_of_add_lt_add_right h⟩
  · have hcarry := Nat.mul_le_mul_left (64 ^ count) hgt
    rw [Nat.mul_succ] at hcarry
    omega

theorem trailing_append_lt {m n count : Nat}
    (h : m % 64 ^ count < n % 64 ^ count) (xs ys : List UInt8) :
    trailing m count ++ xs < trailing n count ++ ys := by
  induction count with
  | zero =>
      rw [Nat.pow_zero, Nat.mod_one, Nat.mod_one] at h
      exact absurd h (Nat.lt_irrefl 0)
  | succ count ih =>
      rw [trailing, trailing, List.cons_append, List.cons_append]
      apply byte_cons_lt_byte_cons
      · omega
      · rcases digit_lt_or_eq h with hlt | ⟨heq, hrest⟩
        · exact Or.inl (Nat.add_lt_add_right hlt 128)
        · exact Or.inr ⟨by rw [heq], ih hrest⟩

/-- The digits before those, above a mark that tells how many bytes follow. -/
def leading (codePoint : Nat) : Nat :=
  if codePoint ≤ 127 then codePoint
  else if codePoint ≤ 2047 then codePoint / 64 + 192
  else if codePoint ≤ 65535 then codePoint / 4096 + 224
  else codePoint / 262144 + 240

def trailingCount (codePoint : Nat) : Nat :=
  if codePoint ≤ 127 then 0
  else if codePoint ≤ 2047 then 1
  else if codePoint ≤ 65535 then 2
  else 3

theorem toNat_lt_limit (c : Char) : c.toNat < 1114112 := by
  rcases c.valid with hlow | hhigh
  · exact Nat.lt_trans hlow (by decide)
  · exact hhigh.2

theorem utf8EncodeChar_eq (c : Char) :
    String.utf8EncodeChar c =
      UInt8.ofNat (leading c.toNat) ::
        trailing c.toNat (trailingCount c.toNat) := by
  have hlimit : c.val.toNat < 1114112 := toNat_lt_limit c
  simp only [String.utf8EncodeChar, leading, trailingCount, Char.toNat]
  split
  · rfl
  · split
    · rw [Nat.mod_eq_of_lt (by omega)]
      simp [trailing]
    · split
      · rw [Nat.mod_eq_of_lt (a := c.val.toNat / 4096) (by omega)]
        simp [trailing]
      · rw [Nat.mod_eq_of_lt (a := c.val.toNat / 262144) (by omega)]
        simp [trailing]

theorem leading_lt {n : Nat} (h : n < 1114112) : leading n < 256 := by
  unfold leading
  repeat' split
  all_goals omega

theorem leading_lt_or_eq {m n : Nat} (h : m < n) (hn : n < 1114112) :
    leading m < leading n ∨ leading m = leading n ∧
      trailingCount m = trailingCount n ∧
      m % 64 ^ trailingCount n < n % 64 ^ trailingCount n := by
  unfold leading trailingCount
  repeat' split
  all_goals omega

theorem utf8EncodeChar_append_lt {c d : Char} (h : c < d) (xs ys : List UInt8) :
    String.utf8EncodeChar c ++ xs < String.utf8EncodeChar d ++ ys := by
  have hlimit : d.toNat < 1114112 := toNat_lt_limit d
  have hlt : c.toNat < d.toNat := h
  rw [utf8EncodeChar_eq, utf8EncodeChar_eq, List.cons_append, List.cons_append]
  apply byte_cons_lt_byte_cons (leading_lt hlimit)
  rcases leading_lt_or_eq hlt hlimit with hleading | ⟨hleading, hcount, hrest⟩
  · exact Or.inl hleading
  · rw [hcount]
    exact Or.inr ⟨hleading, trailing_append_lt hrest xs ys⟩

/-! ## Texts -/

theorem flatMap_utf8EncodeChar_lt {cs ds : List Char} (h : cs < ds) :
    cs.flatMap String.utf8EncodeChar < ds.flatMap String.utf8EncodeChar := by
  induction cs generalizing ds with
  | nil =>
      cases ds with
      | nil => exact absurd h (List.lt_irrefl [])
      | cons d ds =>
          rw [List.flatMap_nil, List.flatMap_cons, utf8EncodeChar_eq,
            List.cons_append]
          exact List.nil_lt_cons _ _
  | cons c cs ih =>
      cases ds with
      | nil => exact absurd h (List.not_lt_nil _)
      | cons d ds =>
          rw [List.flatMap_cons, List.flatMap_cons]
          rcases List.cons_lt_cons_iff.mp h with hlt | ⟨rfl, hrest⟩
          · exact utf8EncodeChar_append_lt hlt _ _
          · exact List.append_left_lt (ih hrest)

theorem bytes_lt_bytes {a b : String} (h : a < b) : bytes a < bytes b := by
  rw [bytes_eq_flatMap, bytes_eq_flatMap]
  exact flatMap_utf8EncodeChar_lt h

end Text
end Columnar
