import Mathlib.Data.List.DropRight
import Columnar.Proofs.Json.Plain
import Columnar.Proofs.Json.Scanning

/-!
# Reading back what was printed

A text reads as a value when the scanner takes exactly that text off the front
of whatever follows and returns the value, given one unit of fuel for each
character.  Texts that read as the parts of a value are put together, with
blanks between them, to one that reads as the value; both printed forms are put
together in this way.
-/

namespace Columnar
namespace Json

variable {cs blanks text rest : List Char} {json item : Json}
  {items : List Json} {members : List (Option String × Json)}

/-! ## Blanks -/

def AllBlank (cs : List Char) : Prop := forall c, c ∈ cs -> isBlankChar c = true

theorem allBlank_nil : AllBlank [] := by
  intro c hc
  cases hc

theorem isBlankChar_iff {c : Char} :
    isBlankChar c = true ↔ c ∈ [' ', '\n', '\t', '\r'] := by
  simp [isBlankChar, or_assoc]

theorem skipBlanks_append (h : AllBlank blanks) :
    skipBlanks (blanks ++ cs) = skipBlanks cs :=
  List.dropWhile_append_of_pos h

theorem skipBlanks_of_not_blank {c : Char} (h : isBlankChar c = false)
    (cs : List Char) :
    skipBlanks (c :: cs) = c :: cs :=
  List.dropWhile_cons_of_neg (by simp [h])

theorem skipBlanks_skipBlanks : skipBlanks (skipBlanks cs) = skipBlanks cs :=
  List.dropWhile_idempotent isBlankChar cs

theorem scanValue?_skipBlanks (fuel : Nat) :
    scanValue? fuel (skipBlanks cs) = scanValue? fuel cs := by
  cases fuel with
  | zero => rfl
  | succ fuel => rw [scanValue?, scanValue?, skipBlanks_skipBlanks]

theorem scanItems?_skipBlanks (fuel : Nat) :
    scanItems? fuel (skipBlanks cs) = scanItems? fuel cs := by
  cases fuel with
  | zero => rfl
  | succ fuel => rw [scanItems?, scanItems?, scanValue?_skipBlanks]

theorem scanMembers?_skipBlanks (fuel : Nat) :
    scanMembers? fuel (skipBlanks cs) = scanMembers? fuel cs := by
  cases fuel with
  | zero => rfl
  | succ fuel => rw [scanMembers?, scanMembers?, skipBlanks_skipBlanks]

theorem endsNumber_append (hblanks : AllBlank blanks) {mark : Char}
    (hmark : mark ∈ [',', ']', '}']) (rest : List Char) :
    EndsNumber (blanks ++ mark :: rest) := by
  have hends : forall c, c ∈ [' ', '\n', '\t', '\r'] ++ [',', ']', '}'] ->
      c.isDigit = false ∧ c ≠ '.' ∧ c ≠ 'e' ∧ c ≠ 'E' := by
    intro c hc
    simp only [List.cons_append, List.nil_append, List.mem_cons,
      List.not_mem_nil, or_false] at hc
    rcases hc with rfl | rfl | rfl | rfl | rfl | rfl | rfl
    all_goals decide
  intro c hc
  apply hends
  cases blanks with
  | nil =>
      cases hc
      exact List.mem_append_right _ hmark
  | cons blank others =>
      cases hc
      exact List.mem_append_left _ (isBlankChar_iff.mp
        (hblanks _ List.mem_cons_self))

/-! ## The first character decides -/

theorem scanValue?_quote (fuel : Nat) (cs : List Char) :
    scanValue? (fuel + 1) ('"' :: cs) =
      (scanString? cs).map fun (text, rest) => (.string text, rest) := rfl

theorem isBlankChar_of_isDigit {c : Char} (h : c.isDigit = true) :
    isBlankChar c = false := by
  cases hblank : isBlankChar c with
  | false => rfl
  | true =>
      have hmem := isBlankChar_iff.mp hblank
      simp only [List.mem_cons, List.not_mem_nil, or_false] at hmem
      rcases hmem with rfl | rfl | rfl | rfl
      all_goals cases h

theorem scanValue?_digit {c : Char} (hc : c.isDigit = true) (fuel : Nat)
    (cs : List Char) :
    scanValue? (fuel + 1) (c :: cs) =
      (scanNumeral? (c :: cs)).map fun (numeral, rest) =>
        (.number numeral, rest) := by
  rw [scanValue?.eq_def]
  simp only [skipBlanks_of_not_blank (isBlankChar_of_isDigit hc)]
  split
  case h_7 => rfl
  all_goals
    next h =>
      cases h
      cases hc

theorem scanItems?_bracket (fuel : Nat) (cs : List Char) :
    scanItems? fuel (']' :: cs) = none := by
  cases fuel with
  | zero => rfl
  | succ fuel =>
      cases fuel with
      | zero => rfl
      | succ fuel => rfl

theorem scanMembers?_brace (fuel : Nat) (cs : List Char) :
    scanMembers? fuel ('}' :: cs) = none := by
  cases fuel with
  | zero => rfl
  | succ fuel => rfl

theorem scanValue?_array {fuel : Nat} {scanned : List Json × List Char}
    (h : scanItems? fuel cs = some scanned) :
    scanValue? (fuel + 1) ('[' :: cs) = some (.array scanned.1, scanned.2) := by
  rw [scanValue?.eq_def]
  simp only [skipBlanks_of_not_blank (c := '[') rfl]
  split
  · next rest hrest =>
      rw [← scanItems?_skipBlanks, hrest, scanItems?_bracket] at h
      cases h
  · rw [scanItems?_skipBlanks, h]
    rfl

theorem scanValue?_object {fuel : Nat}
    {scanned : List (Option String × Json) × List Char}
    (h : scanMembers? fuel cs = some scanned) :
    scanValue? (fuel + 1) ('{' :: cs) =
      some (.object scanned.1, scanned.2) := by
  rw [scanValue?.eq_def]
  simp only [skipBlanks_of_not_blank (c := '{') rfl]
  split
  · next rest hrest =>
      rw [← scanMembers?_skipBlanks, hrest, scanMembers?_brace] at h
      cases h
  · rw [scanMembers?_skipBlanks, h]
    rfl

/-! ## Texts that read as values -/

/--
In front of anything that does not carry a number on, the text is scanned as the
value.
-/
def Reads (cs : List Char) (json : Json) : Prop :=
  forall fuel rest, cs.length ≤ fuel -> EndsNumber rest ->
    scanValue? fuel (cs ++ rest) = some (json, rest)

def ReadsItems (cs : List Char) (items : List Json) : Prop :=
  forall fuel rest, cs.length ≤ fuel ->
    scanItems? fuel (cs ++ rest) = some (items, rest)

def ReadsMembers (cs : List Char) (members : List (Option String × Json)) :
    Prop :=
  forall fuel rest, cs.length ≤ fuel ->
    scanMembers? fuel (cs ++ rest) = some (members, rest)

theorem exists_succ_of_length_cons_le {c : Char} {fuel : Nat}
    (h : (c :: cs).length ≤ fuel) :
    exists left, fuel = left + 1 ∧ cs.length ≤ left := by
  cases fuel with
  | zero => cases h
  | succ left => exact ⟨left, rfl, Nat.le_of_succ_le_succ h⟩

theorem reads_null : Reads "null".toList .null := by
  intro fuel rest hfuel _
  rcases exists_succ_of_length_cons_le hfuel with ⟨fuel, rfl, _⟩
  rfl

theorem reads_bool (b : Bool) : Reads (renderBool b) (.bool b) := by
  intro fuel rest hfuel _
  cases b with
  | false =>
      rcases exists_succ_of_length_cons_le hfuel with ⟨fuel, rfl, _⟩
      rfl
  | true =>
      rcases exists_succ_of_length_cons_le hfuel with ⟨fuel, rfl, _⟩
      rfl

theorem renderString_some (s : String) :
    renderString (some s) = '"' :: (s.toList.flatMap escapeChar ++ ['"']) := rfl

theorem reads_text (s : String) : Reads (renderString (some s)) (.text s) := by
  intro fuel rest hfuel _
  rw [renderString_some] at hfuel ⊢
  rcases exists_succ_of_length_cons_le hfuel with ⟨fuel, rfl, _⟩
  rw [List.cons_append, List.append_assoc, List.singleton_append,
    scanValue?_quote, scanString?_written]
  rfl

theorem reads_nat (n : Nat) : Reads (Nat.toDigits 10 n) (.nat n) := by
  intro fuel rest hfuel hrest
  have hscan := scanNumeral?_toDigits n hrest
  rcases List.exists_cons_of_ne_nil (Nat.toDigits_ne_nil (b := 10) (n := n))
    with ⟨c, cs, hcs⟩
  have hc : c.isDigit = true :=
    isDigit_of_mem_toDigits (hcs ▸ List.mem_cons_self)
  rw [hcs] at hfuel hscan ⊢
  rcases exists_succ_of_length_cons_le hfuel with ⟨fuel, rfl, _⟩
  rw [List.cons_append] at hscan ⊢
  rw [scanValue?_digit hc, hscan]
  rfl

theorem Reads.after_blanks (h : Reads cs json) (hblanks : AllBlank blanks) :
    Reads (blanks ++ cs) json := by
  intro fuel rest hfuel hrest
  rw [List.length_append] at hfuel
  rw [List.append_assoc, ← scanValue?_skipBlanks, skipBlanks_append hblanks,
    scanValue?_skipBlanks]
  exact h fuel rest (by omega) hrest

/-! ## Arrays -/

theorem reads_array_nil : Reads ['[', ']'] (.array []) := by
  intro fuel rest hfuel _
  rcases exists_succ_of_length_cons_le hfuel with ⟨fuel, rfl, _⟩
  rfl

theorem Reads.array (h : ReadsItems cs items) :
    Reads ('[' :: cs) (.array items) := by
  intro fuel rest hfuel _
  rcases exists_succ_of_length_cons_le hfuel with ⟨fuel, rfl, hleft⟩
  exact scanValue?_array (h fuel rest hleft)

theorem ReadsItems.after_blanks (h : ReadsItems cs items)
    (hblanks : AllBlank blanks) :
    ReadsItems (blanks ++ cs) items := by
  intro fuel rest hfuel
  rw [List.length_append] at hfuel
  rw [List.append_assoc, ← scanItems?_skipBlanks, skipBlanks_append hblanks,
    scanItems?_skipBlanks]
  exact h fuel rest (by omega)

theorem ReadsItems.last (h : Reads cs item) (hblanks : AllBlank blanks) :
    ReadsItems (cs ++ (blanks ++ [']'])) [item] := by
  intro fuel rest hfuel
  cases fuel with
  | zero => simp at hfuel
  | succ fuel =>
      simp only [List.length_append, List.length_singleton] at hfuel
      have hitem := h fuel (blanks ++ ']' :: rest) (by omega)
        (endsNumber_append hblanks (by decide) rest)
      have hclose : skipBlanks (blanks ++ ']' :: rest) = ']' :: rest := by
        rw [skipBlanks_append hblanks, skipBlanks_of_not_blank rfl]
      rw [scanItems?, List.append_assoc, List.append_assoc,
        List.singleton_append, hitem]
      simp only [Option.bind_eq_bind, Option.bind_some, hclose]
      rfl

theorem ReadsItems.cons (h : Reads cs item) (hrest : ReadsItems text items) :
    ReadsItems (cs ++ ',' :: text) (item :: items) := by
  intro fuel rest hfuel
  cases fuel with
  | zero => simp at hfuel
  | succ fuel =>
      simp only [List.length_append, List.length_cons] at hfuel
      have hitem := h fuel (',' :: (text ++ rest)) (by omega)
        (endsNumber_append allBlank_nil (by decide) _)
      have hcomma := skipBlanks_of_not_blank (c := ',') rfl (text ++ rest)
      rw [scanItems?, List.append_assoc, List.cons_append, hitem]
      simp only [Option.bind_eq_bind, Option.bind_some, hcomma,
        hrest fuel rest (by omega)]
      rfl

/-! ## Objects -/

theorem reads_object_nil : Reads ['{', '}'] (.object []) := by
  intro fuel rest hfuel _
  rcases exists_succ_of_length_cons_le hfuel with ⟨fuel, rfl, _⟩
  rfl

theorem Reads.object (h : ReadsMembers cs members) :
    Reads ('{' :: cs) (.object members) := by
  intro fuel rest hfuel _
  rcases exists_succ_of_length_cons_le hfuel with ⟨fuel, rfl, hleft⟩
  exact scanValue?_object (h fuel rest hleft)

theorem ReadsMembers.after_blanks (h : ReadsMembers cs members)
    (hblanks : AllBlank blanks) :
    ReadsMembers (blanks ++ cs) members := by
  intro fuel rest hfuel
  rw [List.length_append] at hfuel
  rw [List.append_assoc, ← scanMembers?_skipBlanks, skipBlanks_append hblanks,
    scanMembers?_skipBlanks]
  exact h fuel rest (by omega)

theorem ReadsMembers.last (key : String) (h : Reads cs item)
    (hblanks : AllBlank blanks) :
    ReadsMembers (renderString (some key) ++ ':' :: (cs ++ (blanks ++ ['}'])))
      [(some key, item)] := by
  intro fuel rest hfuel
  cases fuel with
  | zero => simp at hfuel
  | succ fuel =>
      simp only [List.length_append, List.length_cons, List.length_nil] at hfuel
      have hitem := h fuel (blanks ++ '}' :: rest) (by omega)
        (endsNumber_append hblanks (by decide) rest)
      have hclose : skipBlanks (blanks ++ '}' :: rest) = '}' :: rest := by
        rw [skipBlanks_append hblanks, skipBlanks_of_not_blank rfl]
      have hcolon :=
        skipBlanks_of_not_blank (c := ':') rfl (cs ++ (blanks ++ '}' :: rest))
      rw [scanMembers?, renderString_some]
      simp only [List.cons_append, List.append_assoc, List.nil_append,
        skipBlanks_of_not_blank (c := '"') rfl, scanString?_written,
        Option.bind_eq_bind, Option.bind_some, hcolon, hitem, hclose]
      rfl

theorem ReadsMembers.cons (key : String) (h : Reads cs item)
    (hrest : ReadsMembers text members) :
    ReadsMembers (renderString (some key) ++ ':' :: (cs ++ ',' :: text))
      ((some key, item) :: members) := by
  intro fuel rest hfuel
  cases fuel with
  | zero => simp at hfuel
  | succ fuel =>
      simp only [List.length_append, List.length_cons] at hfuel
      have hitem := h fuel (',' :: (text ++ rest)) (by omega)
        (endsNumber_append allBlank_nil (by decide) _)
      have hcomma := skipBlanks_of_not_blank (c := ',') rfl (text ++ rest)
      have hcolon :=
        skipBlanks_of_not_blank (c := ':') rfl (cs ++ ',' :: (text ++ rest))
      rw [scanMembers?, renderString_some]
      simp only [List.cons_append, List.append_assoc, List.nil_append,
        skipBlanks_of_not_blank (c := '"') rfl, scanString?_written,
          Option.bind_eq_bind,
        Option.bind_some, hcolon, hitem, hcomma, hrest fuel rest (by omega)]
      rfl

/-! ## Printed values -/

theorem renderNumeral_nat (n : Nat) :
    renderNumeral { whole := n } = Nat.toDigits 10 n := by
  simp [renderNumeral]

/-! ### The compact form -/

theorem readsItems_renderItems (hne : items ≠ [])
    (h : forall item, item ∈ items -> Reads (render item) item) :
    ReadsItems (renderItems items) items := by
  induction items with
  | nil => exact absurd rfl hne
  | cons item rest ih =>
      have hitem := h item List.mem_cons_self
      cases rest with
      | nil => exact ReadsItems.last hitem allBlank_nil
      | cons next others =>
          apply ReadsItems.cons hitem
          apply ih (List.cons_ne_nil _ _)
          intro other hother
          exact h other (List.mem_cons_of_mem _ hother)

theorem readsMembers_renderMembers {members : List (String × Json)}
    (hne : members ≠ [])
    (h : forall member, member ∈ members -> Reads (render member.2) member.2) :
    ReadsMembers (renderMembers (keyed members)) (keyed members) := by
  induction members with
  | nil => exact absurd rfl hne
  | cons member rest ih =>
      have hmember := h member List.mem_cons_self
      cases rest with
      | nil => exact ReadsMembers.last member.1 hmember allBlank_nil
      | cons next others =>
          apply ReadsMembers.cons member.1 hmember
          apply ih (List.cons_ne_nil _ _)
          intro other hother
          exact h other (List.mem_cons_of_mem _ hother)

theorem Plain.reads_render (h : Plain json) : Reads (render json) json := by
  induction h with
  | null => exact reads_null
  | bool b => exact reads_bool b
  | @nat n _ =>
      show Reads (renderNumeral { whole := n }) (.nat n)
      rw [renderNumeral_nat]
      exact reads_nat n
  | text s => exact reads_text s
  | @array items _ ih =>
      cases items with
      | nil => exact reads_array_nil
      | cons item rest =>
          exact Reads.array (readsItems_renderItems (List.cons_ne_nil _ _) ih)
  | @record members _ ih =>
      cases members with
      | nil => exact reads_object_nil
      | cons member rest =>
          exact Reads.object
            (readsMembers_renderMembers (List.cons_ne_nil _ _) ih)

/-! ### The indented form -/

theorem allBlank_newLine (level : Nat) : AllBlank (newLine level) := by
  intro c hc
  rcases List.mem_cons.mp hc with rfl | hc
  · rfl
  · rw [List.eq_of_mem_replicate hc]
    rfl

theorem readsItems_indentItems {level : Nat} (hne : items ≠ [])
    (h : forall item, item ∈ items -> Reads (indent (level + 1) item) item) :
    ReadsItems (indentItems level items) items := by
  induction items with
  | nil => exact absurd rfl hne
  | cons item rest ih =>
      have hitem := h item List.mem_cons_self
      cases rest with
      | nil =>
          rw [indentItems, List.append_assoc]
          exact ReadsItems.last hitem (allBlank_newLine level)
      | cons next others =>
          apply ReadsItems.cons hitem
          apply ReadsItems.after_blanks _ (allBlank_newLine (level + 1))
          apply ih (List.cons_ne_nil _ _)
          intro other hother
          exact h other (List.mem_cons_of_mem _ hother)

theorem readsMembers_indentMembers {level : Nat}
    {members : List (String × Json)} (hne : members ≠ [])
    (h : forall member, member ∈ members ->
      Reads (indent (level + 1) member.2) member.2) :
    ReadsMembers (indentMembers level (keyed members)) (keyed members) := by
  have hspace : AllBlank [' '] := by
    intro c hc
    rw [List.mem_singleton.mp hc]
    rfl
  induction members with
  | nil => exact absurd rfl hne
  | cons member rest ih =>
      have hmember := (h member List.mem_cons_self).after_blanks hspace
      cases rest with
      | nil =>
          show ReadsMembers (renderString (some member.1) ++ ':' :: ' ' ::
            (indent (level + 1) member.2 ++ newLine level ++ ['}'])) _
          rw [List.append_assoc]
          exact ReadsMembers.last member.1 hmember (allBlank_newLine level)
      | cons next others =>
          apply ReadsMembers.cons member.1 hmember
          apply ReadsMembers.after_blanks _ (allBlank_newLine (level + 1))
          apply ih (List.cons_ne_nil _ _)
          intro other hother
          exact h other (List.mem_cons_of_mem _ hother)

theorem Plain.reads_indent (h : Plain json) (level : Nat) :
    Reads (indent level json) json := by
  induction h generalizing level with
  | null => exact reads_null
  | bool b => exact reads_bool b
  | @nat n _ =>
      show Reads (renderNumeral { whole := n }) (.nat n)
      rw [renderNumeral_nat]
      exact reads_nat n
  | text s => exact reads_text s
  | @array items _ ih =>
      cases items with
      | nil => exact reads_array_nil
      | cons item rest =>
          apply Reads.array
          apply ReadsItems.after_blanks _ (allBlank_newLine (level + 1))
          apply readsItems_indentItems (List.cons_ne_nil _ _)
          intro item hitem
          exact ih item hitem (level + 1)
  | @record members _ ih =>
      cases members with
      | nil => exact reads_object_nil
      | cons member rest =>
          apply Reads.object
          apply ReadsMembers.after_blanks _ (allBlank_newLine (level + 1))
          apply readsMembers_indentMembers (List.cons_ne_nil _ _)
          intro member hmember
          exact ih member hmember (level + 1)

/-! ### Whole texts -/

theorem parse?_of_reads (h : Reads cs json) :
    parse? (String.ofList cs) = some json := by
  have hscan := h (2 * cs.length + 2) [] (by omega) (by
    intro c hc
    cases hc)
  rw [List.append_nil] at hscan
  rw [parse?, String.toList_ofList]
  simp only [hscan]
  rfl

/-- Either printed form of a plain value reads back as the value. -/
theorem parse?_compact (h : Plain json) : parse? json.compact = some json :=
  parse?_of_reads h.reads_render

theorem parse?_pretty (h : Plain json) : parse? json.pretty = some json :=
  parse?_of_reads (h.reads_indent 0)

end Json
end Columnar
