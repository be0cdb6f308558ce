import Columnar.Json.Numeral

/-!
# JSON values

A value keeps what its text says and no more: a number stays the numeral it was
written as, an object keeps every member in order, and a string may hold half
of a surrogate pair, which is no text.  Readers of documents decide what each
part has to be.
-/

namespace Columnar

inductive Json
  | null
  | bool (value : Bool)
  | number (numeral : Numeral)
  /-- A string; `none` when an escape names a surrogate without its partner. -/
  | string (text : Option String)
  | array (items : List Json)
  /-- Members in the order written, repeated keys included. -/
  | object (members : List (Option String × Json))
deriving Repr

namespace Json

def nat (n : Nat) : Json := .number { whole := n }

def text (s : String) : Json := .string (some s)

def record (members : List (String × Json)) : Json :=
  .object (members.map fun member => (some member.1, member.2))

mutual

/--
How many arrays and objects enclose the most deeply nested place, the value
itself included.
-/
def depth : Json -> Nat
  | .array items => 1 + depthOfItems items
  | .object members => 1 + depthOfMembers members
  | _ => 0

def depthOfItems : List Json -> Nat
  | [] => 0
  | item :: rest => max (depth item) (depthOfItems rest)

def depthOfMembers : List (Option String × Json) -> Nat
  | [] => 0
  | (_, item) :: rest => max (depth item) (depthOfMembers rest)

end

mutual

/-- Every string and key is a text, and every number is finite as a float. -/
def isSound : Json -> Bool
  | .number numeral => numeral.isFinite
  | .string text => text.isSome
  | .array items => areSoundItems items
  | .object members => areSoundMembers members
  | _ => true

def areSoundItems : List Json -> Bool
  | [] => true
  | item :: rest => isSound item && areSoundItems rest

def areSoundMembers : List (Option String × Json) -> Bool
  | [] => true
  | (key, item) :: rest => key.isSome && isSound item && areSoundMembers rest

end

end Json
end Columnar
