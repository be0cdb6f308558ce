import Columnar.Json.Basic

/-!
# Reading records from JSON

A record is an object with its fields under their names, in any order, or an
array of its fields in declared order.  In an object unknown keys are passed
over and a known key may be written once only; an array may leave out fields at
its end and holds no more than there are.
-/

namespace Columnar
namespace Json

/-- Containers may not nest deeper than this wherever their contents matter. -/
def nestingLimit : Nat := 127

def textMembers? : List (Option String × Json) -> Option (List (String × Json))
  | [] => some []
  | (some key, item) :: rest => (textMembers? rest).map ((key, item) :: ·)
  | (none, _) :: _ => none

/-- The value under a key, absent or written once; a repeated key has none. -/
def unique? (members : List (String × Json)) (key : String) :
    Option (Option Json) :=
  match members.filter fun member => member.1 == key with
  | [] => some none
  | [member] => some (some member.2)
  | _ => none

/-- The fields of a record by name, or by position from the front. -/
def fields? (names : List String) : Json -> Option (List (Option Json))
  | .array items =>
      if items.length ≤ names.length then
        some (items.map some ++ List.replicate
          (names.length - items.length) none)
      else none
  | .object members => do
      let members <- textMembers? members
      names.mapM (unique? members)
  | _ => none

def text? : Json -> Option String
  | .string text => text
  | _ => none

def natBelow? (bound : Nat) : Json -> Option Nat
  | .number numeral => numeral.natural?.filter fun n => decide (n < bound)
  | _ => none

def bool? : Json -> Option Bool
  | .bool b => some b
  | _ => none

def items? : Json -> Option (List Json)
  | .array items => some items
  | _ => none

/--
A word by itself, or as the only key of an object that says nothing about it.
-/
def word? : Json -> Option String
  | .string text => text
  | .object [(key, .null)] => key
  | _ => none

end Json
end Columnar
