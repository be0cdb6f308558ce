import Mathlib.Data.List.TakeWhile
import Columnar.Json.Printer
import Columnar.Json.Reader

/-!
# Scanning what was written

A written string is scanned back character by character: most stand for
themselves, some follow a backslash, and the other control characters are named
by their code.  A written number is a run of digits without a leading zero, and
it is scanned whole when no digit, point or exponent follows it.
-/

namespace Columnar
namespace Json

/-! ## Strings -/

/--
A character, a way to write it inside a string, and the piece that is scanned
there.
-/
inductive Written (c : Char) : List Char -> Piece -> Prop
  | short (e : Char) : shortEscape? e = some c -> Written c ['\\', e] (.char c)
  | control : c.toNat < 0x20 ->
      Written c
        ['\\', 'u', '0', '0', Nat.digitChar (c.toNat / 16),
          Nat.digitChar (c.toNat % 16)]
        (.unit c.toNat)
  | plain : c ≠ '"' -> c ≠ '\\' -> 0x20 ≤ c.toNat -> Written c [c] (.char c)

theorem exists_written (c : Char) :
    exists piece, Written c (escapeChar c) piece := by
  by_cases hshort : c ∈ ['"', '\\', '\x08', '\x0c', '\n', '\r', '\t']
  · simp only [List.mem_cons, List.not_mem_nil, or_false] at hshort
    rcases hshort with rfl | rfl | rfl | rfl | rfl | rfl | rfl
    · exact ⟨_, Written.short '"' rfl⟩
    · exact ⟨_, Written.short '\\' rfl⟩
    · exact ⟨_, Written.short 'b' rfl⟩
    · exact ⟨_, Written.short 'f' rfl⟩
    · exact ⟨_, Written.short 'n' rfl⟩
    · exact ⟨_, Written.short 'r' rfl⟩
    · exact ⟨_, Written.short 't' rfl⟩
  · simp only [List.mem_cons, List.not_mem_nil, or_false, not_or] at hshort
    rcases hshort with ⟨hquote, hbackslash, hback, hfeed, hline, hreturn, htab⟩
    rw [escapeChar, if_neg hquote, if_neg hbackslash, if_neg hback,
      if_neg hfeed, if_neg hline, if_neg hreturn, if_neg htab]
    by_cases hcontrol : c.toNat < 0x20
    · rw [if_pos hcontrol]
      exact ⟨_, Written.control hcontrol⟩
    · rw [if_neg hcontrol]
      exact ⟨_, Written.plain hquote hbackslash (Nat.le_of_not_lt hcontrol)⟩

theorem hexUnit?_of_control {n : Nat} (h : n < 0x20) :
    hexUnit? '0' '0' (Nat.digitChar (n / 16)) (Nat.digitChar (n % 16)) =
      some n := by
  have hall : forall n, n < 0x20 ->
      hexUnit? '0' '0' (Nat.digitChar (n / 16)) (Nat.digitChar (n % 16)) =
        some n := by
    decide
  exact hall n h

variable {c : Char} {cs : List Char} {piece : Piece}

theorem scanPieces?_written (h : Written c cs piece) (rest : List Char) :
    scanPieces? (cs ++ rest) =
      (scanPieces? rest).map fun scanned =>
        (piece :: scanned.1, scanned.2) := by
  cases h with
  | short e hescape =>
      rw [List.cons_append, List.singleton_append, scanPieces?, hescape]
      · cases scanPieces? rest with
        | none => rfl
        | some scanned => rfl
      · -- The letter that announces a code names no character by itself.
        intro a b d d' rest' h
        rw [h] at hescape
        cases hescape
  | control hcontrol =>
      simp only [List.cons_append, List.nil_append]
      rw [scanPieces?, hexUnit?_of_control hcontrol]
      cases scanPieces? rest with
      | none => rfl
      | some scanned => rfl
  | plain hquote hbackslash hcontrol =>
      have hkept : ¬ (decide (c.toNat < 0x20) || c == '\\') = true := by
        simp [hbackslash, hcontrol]
      rw [List.singleton_append, scanPieces?, if_neg hkept]
      · cases scanPieces? rest with
        | none => rfl
        | some scanned => rfl
      · exact hquote
      · intro a b d e rest' h
        exact absurd h hbackslash
      · intro d rest' h
        exact absurd h hbackslash

theorem joinPieces?_unit {u : Nat} (h : u < 0x20) (pieces : List Piece) :
    joinPieces? (.unit u :: pieces) = (joinPieces? pieces).map
      (Char.ofNat u :: ·) := by
  have hhigh : ¬ ((decide (0xd800 ≤ u) && decide (u < 0xdc00)) = true) := by
    simp; omega
  have hlow : ¬ ((decide (0xdc00 ≤ u) && decide (u < 0xe000)) = true) := by
    simp; omega
  have heither : ¬ ((decide (0xd800 ≤ u) && decide (u < 0xe000)) = true) := by
    simp; omega
  cases pieces with
  | nil =>
      rw [joinPieces?.eq_def]
      exact if_neg heither
  | cons piece rest =>
      cases piece with
      | char d =>
          rw [joinPieces?.eq_def]
          exact if_neg heither
      | unit v => rw [joinPieces?, if_neg hhigh, if_neg hlow]

theorem joinPieces?_written (h : Written c cs piece) (pieces : List Piece) :
    joinPieces? (piece :: pieces) = (joinPieces? pieces).map (c :: ·) := by
  cases h with
  | short e _ => rw [joinPieces?]
  | control hcontrol => rw [joinPieces?_unit hcontrol, Char.ofNat_toNat]
  | plain _ _ _ => rw [joinPieces?]

theorem scanString?_written (text : String) (rest : List Char) :
    scanString? (text.toList.flatMap escapeChar ++ '"' :: rest) =
      some (some text, rest) := by
  have hpieces : forall cs : List Char, exists pieces,
      scanPieces? (cs.flatMap escapeChar ++ '"' :: rest) = some (pieces, rest) ∧
        joinPieces? pieces = some cs := by
    intro cs
    induction cs with
    | nil =>
        exact ⟨[], by rw [List.flatMap_nil, List.nil_append, scanPieces?], rfl⟩
    | cons c cs ih =>
        rcases ih with ⟨pieces, hscan, hjoin⟩
        rcases exists_written c with ⟨piece, hwritten⟩
        refine ⟨piece :: pieces, ?_, ?_⟩
        · rw [List.flatMap_cons, List.append_assoc,
            scanPieces?_written hwritten, hscan]
          rfl
        · rw [joinPieces?_written hwritten, hjoin]
          rfl
  rcases hpieces text.toList with ⟨pieces, hscan, hjoin⟩
  rw [scanString?, hscan]
  show some ((joinPieces? pieces).map String.ofList, rest) =
    some (some text, rest)
  rw [hjoin, Option.map_some, String.ofList_toList]

/-! ## Numbers -/

def EndsNumber (cs : List Char) : Prop :=
  forall c, cs.head? = some c -> c.isDigit = false ∧ c ≠ '.' ∧ c ≠ 'e' ∧ c ≠ 'E'

theorem scanDigits?_append {digits rest : List Char} (hne : digits ≠ [])
    (hdigits : forall c, c ∈ digits -> c.isDigit = true)
    (hrest : EndsNumber rest) :
    scanDigits? (digits ++ rest) = some (digits, rest) := by
  have hspan : rest.takeWhile Char.isDigit = [] ∧
      rest.dropWhile Char.isDigit = rest := by
    cases rest with
    | nil => exact ⟨rfl, rfl⟩
    | cons c cs =>
        have hc : ¬ c.isDigit = true := by simp [(hrest c rfl).1]
        exact ⟨List.takeWhile_cons_of_neg hc, List.dropWhile_cons_of_neg hc⟩
  unfold scanDigits?
  rw [List.takeWhile_append_of_pos hdigits,
    List.dropWhile_append_of_pos hdigits, hspan.1, hspan.2, List.append_nil]
  cases digits with
  | nil => exact absurd rfl hne
  | cons c cs => rfl

theorem toDigits_zero_or_head_ne (n : Nat) :
    n = 0 ∨ exists c cs, Nat.toDigits 10 n = c :: cs ∧ c ≠ '0' := by
  induction n using Nat.strong_induction_on with
  | _ n ih =>
      rcases Nat.eq_zero_or_pos n with hzero | hpos
      · exact Or.inl hzero
      · right
        rw [Nat.toDigits_eq_if (by decide)]
        by_cases hlt : n < 10
        · rw [if_pos hlt]
          refine ⟨_, [], rfl, ?_⟩
          intro h
          have := Nat.digitChar_eq_zero.mp h
          omega
        · rw [if_neg hlt]
          rcases ih (n / 10) (by omega) with hzero | ⟨c, cs, hcs, hc⟩
          · omega
          · exact ⟨c, cs ++ [Nat.digitChar (n % 10)], by rw [hcs]; rfl, hc⟩

theorem isDigit_of_mem_toDigits {n : Nat} {c : Char}
    (h : c ∈ Nat.toDigits 10 n) :
    c.isDigit = true :=
  Nat.isDigit_of_mem_toDigits (by decide) (by decide) h

theorem scanWhole?_toDigits (n : Nat) {rest : List Char}
    (hrest : EndsNumber rest) :
    scanWhole? (Nat.toDigits 10 n ++ rest) = some (n, rest) := by
  have hscan : scanDigits? (Nat.toDigits 10 n ++ rest) =
      some (Nat.toDigits 10 n, rest) :=
    scanDigits?_append Nat.toDigits_ne_nil
      (fun _ => isDigit_of_mem_toDigits) hrest
  have hvalue := Nat.ofDigitChars_ten_toDigits (n := n)
  rw [scanWhole?, hscan]
  rcases toDigits_zero_or_head_ne n with rfl | ⟨c, cs, hcs, hc⟩
  · rfl
  · rw [hcs] at hvalue ⊢
    split
    · next h =>
        cases h
        exact absurd rfl hc
    · next h =>
        cases h
        exact absurd rfl hc
    · next h =>
        cases h
        rw [hvalue]
    · next h => cases h

theorem scanFraction?_of_endsNumber {rest : List Char} (h : EndsNumber rest) :
    scanFraction? rest = some ([], rest) := by
  cases rest with
  | nil => rfl
  | cons c cs =>
      rw [scanFraction?]
      intro cs' hcs
      exact (h c rfl).2.1 (List.cons.inj hcs).1

theorem scanExponent?_of_endsNumber {rest : List Char} (h : EndsNumber rest) :
    scanExponent? rest = some (none, rest) := by
  cases rest with
  | nil => rfl
  | cons c cs =>
      rcases (h c rfl).2.2 with ⟨hlower, hupper⟩
      rw [scanExponent?.eq_def]
      exact if_neg (by simp [hlower, hupper])

theorem scanNumeral?_toDigits (n : Nat) {rest : List Char}
    (hrest : EndsNumber rest) :
    scanNumeral? (Nat.toDigits 10 n ++ rest) = some ({ whole := n }, rest) := by
  have hunsigned : scanNumeral? (Nat.toDigits 10 n ++ rest) =
      scanUnsigned? false (Nat.toDigits 10 n ++ rest) := by
    rcases List.exists_cons_of_ne_nil (Nat.toDigits_ne_nil (b := 10) (n := n))
      with ⟨c, cs, hcs⟩
    rw [hcs, List.cons_append, scanNumeral?]
    intro cs' h
    cases h
    have hdigit : Char.isDigit '-' = true :=
      isDigit_of_mem_toDigits (hcs ▸ List.mem_cons_self)
    cases hdigit
  rw [hunsigned, scanUnsigned?, scanWhole?_toDigits n hrest]
  show (scanFraction? rest >>= _) = _
  rw [scanFraction?_of_endsNumber hrest]
  show (scanExponent? rest >>= _) = _
  rw [scanExponent?_of_endsNumber hrest]
  rfl

end Json
end Columnar
