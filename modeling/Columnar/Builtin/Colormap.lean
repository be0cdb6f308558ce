import Columnar.Builtin.Datatypes

/-!
# Colormaps

A colormap is a choice among named maps from numbers to colors, stored as one
byte that is never zero.  Its extension takes names with any case and with
separators anywhere.
-/

namespace Columnar
namespace Components

inductive Colormap
  | grayscale
  | inferno
  | magma
  | plasma
  | turbo
  | viridis
  | cyanToYellow
deriving DecidableEq, Repr

structure UnknownColormap where
  text : String
deriving DecidableEq, Repr

def UnknownColormap.message (e : UnknownColormap) : String :=
  "unknown colormap " ++ Text.quoted e.text

namespace Colormap

def all : List Colormap :=
  [grayscale, inferno, magma, plasma, turbo, viridis, cyanToYellow]

def name : Colormap -> String
  | .grayscale => "Grayscale"
  | .inferno => "Inferno"
  | .magma => "Magma"
  | .plasma => "Plasma"
  | .turbo => "Turbo"
  | .viridis => "Viridis"
  | .cyanToYellow => "CyanToYellow"

def discriminant : Colormap -> UInt8
  | .grayscale => 1
  | .inferno => 2
  | .magma => 3
  | .plasma => 4
  | .turbo => 5
  | .viridis => 6
  | .cyanToYellow => 7

instance : Inhabited Colormap := ⟨grayscale⟩

def ofDiscriminant? (value : UInt8) : Option Colormap :=
  all.find? fun c => c.discriminant == value

/-! ## Loose names -/

def isSeparator (c : Char) : Bool := c == '_' || c == '-' || c == ' '

def reduced (text : String) : List Char :=
  (text.toList.filter fun c => !isSeparator c).map Char.toLower

def parse (text : String) : Except UnknownColormap Colormap :=
  match all.find? fun c => reduced c.name == reduced text with
  | some c => .ok c
  | none => .error ⟨text⟩

/-! ## The component -/

def datatypeName : String := "rerun.components.Colormap"

instance : Component Colormap where
  datatype :=
    .enumeration datatypeName (all.map fun c => ⟨c.name, c.discriminant⟩)
  toNative c := .u64 c.discriminant.toUInt64
  ofInstance i := do
    let value : UInt8 <- i.expectOne .u8
    match ofDiscriminant? value with
    | some c => .ok c
    | none => .error (.invalidEnumValue datatypeName value)
  name := "rerun.components.Colormap"

def looseText? : NativeValue -> Option String
  | .scalar (.text text) => some text
  | .sequence [.scalar (.text text)] => some text
  | _ => none

/-- Takes loose names where the default conversion wants the exact ones. -/
def extension : Extension where
  normalize _ d value :=
    (looseText? value).map fun text =>
      match parse text with
      | .ok c => .ok (.one .u8 c.discriminant)
      | .error e => .error (.invalidEnumValue d.name (.name e.text))

end Colormap
end Components
end Columnar
