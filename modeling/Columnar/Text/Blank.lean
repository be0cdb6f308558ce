import Columnar.Text.CodePoints

/-!
# Blank text

A text is blank when every character has the Unicode property `White_Space`;
there are twenty-five such characters.
-/

namespace Columnar
namespace Text

def whiteSpace : CodePoints :=
  [(0x9, 0xd), (0x20, 0x20), (0x85, 0x85), (0xa0, 0xa0), (0x1680, 0x1680),
    (0x2000, 0x200a),
    (0x2028, 0x2029), (0x202f, 0x202f), (0x205f, 0x205f), (0x3000, 0x3000)]

def isBlank (text : String) : Bool :=
  text.toList.all whiteSpace.contains

end Text
end Columnar
