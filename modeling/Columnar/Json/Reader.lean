import Columnar.Json.Basic

/-!
# Reading JSON text

The grammar is the standard one: four blank characters, no leading zeros, no
trailing commas, no control characters inside strings, and nothing but blanks
after the value.
-/

namespace Columnar
namespace Json

/-! ## Scanning

Each scanner takes one thing off the front of the text and returns the rest.
-/

def isBlankChar (c : Char) : Bool :=
  c == ' ' || c == '\n' || c == '\t' || c == '\r'

def skipBlanks (cs : List Char) : List Char :=
  cs.dropWhile isBlankChar

def scanDigits? (cs : List Char) : Option (List Char × List Char) :=
  match cs.takeWhile Char.isDigit with
  | [] => none
  | digits => some (digits, cs.dropWhile Char.isDigit)

/--
The whole part of a number: zero alone, or digits that start with another one.
-/
def scanWhole? (cs : List Char) : Option (Nat × List Char) :=
  match scanDigits? cs with
  | some (['0'], rest) => some (0, rest)
  | some ('0' :: _, _) => none
  | some (digits, rest) => some (Nat.ofDigitChars 10 digits 0, rest)
  | none => none

def scanFraction? (cs : List Char) : Option (List Char × List Char) :=
  match cs with
  | '.' :: rest => scanDigits? rest
  | _ => some ([], cs)

def scanExponentDigits? (negative : Bool) (cs : List Char) :
    Option (Option Int × List Char) :=
  (scanDigits? cs).map fun (digits, rest) =>
    let magnitude : Int := Nat.ofDigitChars 10 digits 0
    (some (if negative then -magnitude else magnitude), rest)

def scanExponent? (cs : List Char) : Option (Option Int × List Char) :=
  match cs with
  | e :: rest =>
      if e == 'e' || e == 'E' then
        match rest with
        | '-' :: digits => scanExponentDigits? true digits
        | '+' :: digits => scanExponentDigits? false digits
        | digits => scanExponentDigits? false digits
      else
        some (none, cs)
  | [] => some (none, [])

def scanUnsigned? (negative : Bool) (cs : List Char) :
    Option (Numeral × List Char) := do
  let (whole, cs) <- scanWhole? cs
  let (fraction, cs) <- scanFraction? cs
  let (exponent, cs) <- scanExponent? cs
  return (⟨negative, whole, fraction, exponent⟩, cs)

def scanNumeral? (cs : List Char) : Option (Numeral × List Char) :=
  match cs with
  | '-' :: rest => scanUnsigned? true rest
  | _ => scanUnsigned? false cs

def hexUnit? (a b c d : Char) : Option Nat := do
  let digit (c : Char) : Option Nat :=
    if c.isDigit then some (c.toNat - '0'.toNat)
    else if 'a' ≤ c && c ≤ 'f' then some (c.toNat - 'a'.toNat + 10)
    else if 'A' ≤ c && c ≤ 'F' then some (c.toNat - 'A'.toNat + 10)
    else none
  return (((<- digit a) * 16 + (<- digit b)) * 16 + (<- digit c)) *
    16 + (<- digit d)

/-- A piece of a string: a character, or a code unit named by an escape. -/
inductive Piece
  | char (c : Char)
  | unit (u : Nat)
deriving DecidableEq, Repr

def shortEscape? (c : Char) : Option Char :=
  if c = '"' then some '"'
  else if c = '\\' then some '\\'
  else if c = '/' then some '/'
  else if c = 'b' then some '\x08'
  else if c = 'f' then some '\x0c'
  else if c = 'n' then some '\n'
  else if c = 'r' then some '\r'
  else if c = 't' then some '\t'
  else none

def scanPieces? : List Char -> Option (List Piece × List Char)
  | [] => none
  | '"' :: rest => some ([], rest)
  | '\\' :: 'u' :: a :: b :: c :: d :: rest => do
      let u <- hexUnit? a b c d
      let (pieces, rest) <- scanPieces? rest
      return (.unit u :: pieces, rest)
  | '\\' :: c :: rest => do
      let c <- shortEscape? c
      let (pieces, rest) <- scanPieces? rest
      return (.char c :: pieces, rest)
  | c :: rest =>
      if c.toNat < 0x20 || c == '\\' then none
      else do
        let (pieces, rest) <- scanPieces? rest
        return (.char c :: pieces, rest)

/--
Joins code units into characters.  A high surrogate needs a low one right after
it, and a low one cannot stand by itself.
-/
def joinPieces? : List Piece -> Option (List Char)
  | [] => some []
  | .char c :: rest => (joinPieces? rest).map (c :: ·)
  | .unit u :: .unit v :: rest =>
      if 0xd800 ≤ u && u < 0xdc00 then
        if 0xdc00 ≤ v && v < 0xe000 then
          (joinPieces? rest).map
            (Char.ofNat (0x10000 + (u - 0xd800) * 0x400 + (v - 0xdc00)) :: ·)
        else none
      else if 0xdc00 ≤ u && u < 0xe000 then none
      else (joinPieces? (.unit v :: rest)).map (Char.ofNat u :: ·)
  | .unit u :: rest =>
      if 0xd800 ≤ u && u < 0xe000 then none
      else (joinPieces? rest).map (Char.ofNat u :: ·)

def scanString? (cs : List Char) : Option (Option String × List Char) :=
  (scanPieces? cs).map fun (pieces, rest) =>
    ((joinPieces? pieces).map String.ofList, rest)

/-! ## Values

Reading a value spends one unit of fuel, and so does each further item or
member; every such step consumes a character, so a text of length `n` needs no
more than `2 * n + 2`.
-/

mutual

def scanValue? : Nat -> List Char -> Option (Json × List Char)
  | 0, _ => none
  | fuel + 1, cs =>
      match skipBlanks cs with
      | 'n' :: 'u' :: 'l' :: 'l' :: rest => some (.null, rest)
      | 't' :: 'r' :: 'u' :: 'e' :: rest => some (.bool true, rest)
      | 'f' :: 'a' :: 'l' :: 's' :: 'e' :: rest => some (.bool false, rest)
      | '"' :: rest =>
          (scanString? rest).map fun (text, rest) => (.string text, rest)
      | '[' :: rest =>
          match skipBlanks rest with
          | ']' :: rest => some (.array [], rest)
          | rest =>
              (scanItems? fuel rest).map fun (items, rest) =>
                (.array items, rest)
      | '{' :: rest =>
          match skipBlanks rest with
          | '}' :: rest => some (.object [], rest)
          | rest =>
              (scanMembers? fuel rest).map fun (members, rest) =>
                (.object members, rest)
      | rest =>
          (scanNumeral? rest).map fun (numeral, rest) => (.number numeral, rest)

def scanItems? : Nat -> List Char -> Option (List Json × List Char)
  | 0, _ => none
  | fuel + 1, cs => do
      let (item, rest) <- scanValue? fuel cs
      match skipBlanks rest with
      | ',' :: rest =>
          let (items, rest) <- scanItems? fuel rest
          return (item :: items, rest)
      | ']' :: rest => return ([item], rest)
      | _ => none

def scanMembers? :
    Nat -> List Char -> Option (List (Option String × Json) × List Char)
  | 0, _ => none
  | fuel + 1, cs =>
      match skipBlanks cs with
      | '"' :: rest => do
          let (key, rest) <- scanString? rest
          match skipBlanks rest with
          | ':' :: rest =>
              let (item, rest) <- scanValue? fuel rest
              match skipBlanks rest with
              | ',' :: rest =>
                  let (members, rest) <- scanMembers? fuel rest
                  return ((key, item) :: members, rest)
              | '}' :: rest => return ([(key, item)], rest)
              | _ => none
          | _ => none
      | _ => none

end

def parse? (text : String) : Option Json :=
  let cs := text.toList
  match scanValue? (2 * cs.length + 2) cs with
  | some (json, rest) => if (skipBlanks rest).isEmpty then some json else none
  | none => none

end Json
end Columnar
