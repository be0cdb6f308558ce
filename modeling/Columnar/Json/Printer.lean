import Columnar.Json.Basic

/-!
# Writing JSON text

The compact form has no blanks at all; the indented form puts every item and
member on a line of its own, two spaces deeper than what encloses it.  Only
what must be escaped inside a string is escaped.
-/

namespace Columnar
namespace Json

def escapeChar (c : Char) : List Char :=
  if c = '"' then ['\\', '"']
  else if c = '\\' then ['\\', '\\']
  else if c = '\x08' then ['\\', 'b']
  else if c = '\x0c' then ['\\', 'f']
  else if c = '\n' then ['\\', 'n']
  else if c = '\r' then ['\\', 'r']
  else if c = '\t' then ['\\', 't']
  else if c.toNat < 0x20 then
    ['\\', 'u', '0', '0', Nat.digitChar (c.toNat / 16),
      Nat.digitChar (c.toNat % 16)]
  else [c]

def quote (text : List Char) : List Char :=
  '"' :: (text.flatMap escapeChar ++ ['"'])

/-- A string; one that is no text is written as a lone surrogate. -/
def renderString : Option String -> List Char
  | some text => quote text.toList
  | none => "\"\\ud800\"".toList

def renderNumeral (n : Numeral) : List Char :=
  (if n.negative then ['-'] else []) ++ Nat.toDigits 10 n.whole
    ++ (if n.fraction.isEmpty then [] else '.' :: n.fraction)
    ++ match n.exponent with
      | none => []
      | some exponent =>
          'e' :: ((if exponent < 0 then ['-'] else []) ++
            Nat.toDigits 10 exponent.natAbs)

def renderBool (b : Bool) : List Char :=
  if b then "true".toList else "false".toList

mutual

def render : Json -> List Char
  | .null => "null".toList
  | .bool b => renderBool b
  | .number numeral => renderNumeral numeral
  | .string text => renderString text
  | .array items => '[' :: renderItems items
  | .object members => '{' :: renderMembers members

def renderItems : List Json -> List Char
  | [] => [']']
  | [item] => render item ++ [']']
  | item :: rest => render item ++ ',' :: renderItems rest

def renderMembers : List (Option String × Json) -> List Char
  | [] => ['}']
  | [(key, item)] => renderString key ++ ':' :: (render item ++ ['}'])
  | (key, item) :: rest =>
      renderString key ++ ':' :: (render item ++ ',' :: renderMembers rest)

end

def newLine (level : Nat) : List Char :=
  '\n' :: List.replicate (2 * level) ' '

mutual

def indent (level : Nat) : Json -> List Char
  | .array [] => ['[', ']']
  | .array items => '[' :: (newLine (level + 1) ++ indentItems level items)
  | .object [] => ['{', '}']
  | .object members =>
      '{' :: (newLine (level + 1) ++ indentMembers level members)
  | .null => "null".toList
  | .bool b => renderBool b
  | .number numeral => renderNumeral numeral
  | .string text => renderString text

def indentItems (level : Nat) : List Json -> List Char
  | [] => newLine level ++ [']']
  | [item] => indent (level + 1) item ++ newLine level ++ [']']
  | item :: rest =>
      indent (level + 1) item ++ ',' ::
        (newLine (level + 1) ++ indentItems level rest)

def indentMembers (level : Nat) : List (Option String × Json) -> List Char
  | [] => newLine level ++ ['}']
  | [(key, item)] =>
      renderString key ++ ':' :: ' ' ::
        (indent (level + 1) item ++ newLine level ++ ['}'])
  | (key, item) :: rest =>
      renderString key ++ ':' :: ' ' ::
        (indent (level + 1) item ++ ',' ::
          (newLine (level + 1) ++ indentMembers level rest))

end

def compact (json : Json) : String := String.ofList (render json)

def pretty (json : Json) : String := String.ofList (indent 0 json)

end Json
end Columnar
