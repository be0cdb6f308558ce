import Columnar.Digest.Blake3
import Columnar.Text.Quoted

/-!
# Component names

A name is a dotted path of at least three segments, none empty; the last one is
the short name, which starts with an ASCII capital and holds ASCII letters and
digits only.  Every name has an identifier, a digest that depends on the name
and on nothing else.
-/

namespace Columnar

inductive NameFault
  | tooFewSegments
  | emptySegment
  | noCapital
  | notAlphanumeric
deriving DecidableEq, Repr

def NameFault.message : NameFault -> String
  | .tooFewSegments => "expected <namespace>.<category>.<ComponentName>"
  | .emptySegment => "empty segment"
  | .noCapital => "component name must start with an uppercase letter"
  | .notAlphanumeric => "component name must be alphanumeric"

structure ComponentName where
  text : String
deriving DecidableEq, Repr

namespace ComponentName

def segments : List Char -> List (List Char)
  | [] => [[]]
  | c :: rest =>
      if c = '.' then [] :: segments rest
      else
        match segments rest with
        | [] => [[c]]
        | first :: others => (c :: first) :: others

def fault? (text : String) : Option NameFault :=
  let parts := segments text.toList
  let short := parts.getLastD []
  if parts.length < 3 then some .tooFewSegments
  else if parts.any List.isEmpty then some .emptySegment
  else if !(short.head?.any Char.isUpper) then some .noCapital
  else if !(short.all Char.isAlphanum) then some .notAlphanumeric
  else none

def parse (text : String) : Except NameFault ComponentName :=
  match fault? text with
  | some fault => .error fault
  | none => .ok ⟨text⟩

def shortName (n : ComponentName) : String :=
  String.ofList ((n.text.toList.reverse.takeWhile fun c => c != '.').reverse)

def idOf (text : String) : Digest :=
  Blake3.hash ("component:" ++ text).toUTF8.toList

def id (n : ComponentName) : Digest := idOf n.text

end ComponentName
end Columnar
