import Columnar.Normalize.Basic
import Columnar.NameMap

/-!
# Component extensions

An extension may convert the native values of one component itself and may
check a whole batch before it is encoded.  What it does not handle is left to
the default conversion.
-/

namespace Columnar

structure Extension where
  /-- Converts one native value, or leaves it to the default conversion. -/
  normalize : Config -> Datatype -> NativeValue ->
    Option (Except ConversionError Instance) :=
    fun _ _ _ => none
  validate : List Instance -> Except ConversionError Unit := fun _ => .ok ()

structure DuplicateExtension where
  name : String
deriving DecidableEq, Repr

def DuplicateExtension.message (e : DuplicateExtension) : String :=
  "extension for component " ++ e.name ++ " is already registered"

structure ExtensionTable where
  entries : NameMap Extension

namespace ExtensionTable

def empty : ExtensionTable := ⟨.empty⟩

def register (t : ExtensionTable) (component : String) (extension : Extension) :
    Except DuplicateExtension ExtensionTable :=
  if t.entries.contains component then .error ⟨component⟩
  else .ok ⟨t.entries.insert component extension⟩

def find? (t : ExtensionTable) (component : String) : Option Extension :=
  t.entries.find? component

def contains (t : ExtensionTable) (component : String) : Bool :=
  t.entries.contains component

def size (t : ExtensionTable) : Nat := t.entries.size

def text (t : ExtensionTable) : String :=
  "\x7b" ++ ", ".intercalate (t.entries.names.map Text.quoted) ++ "\x7d"

end ExtensionTable
end Columnar
