/-!
# Comparison up to ASCII case

Only the letters `A` to `Z` have a case here; every other character equals
itself alone.
-/

namespace Columnar
namespace Text

def foldAscii (text : String) : List Char :=
  text.toList.map Char.toLower

def sameUpToCase (a b : String) : Bool :=
  foldAscii a == foldAscii b

end Text
end Columnar
