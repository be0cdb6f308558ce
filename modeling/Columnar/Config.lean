import Columnar.Json.Fields
import Columnar.Json.Reader
import Columnar.Json.Printer

/-!
# Engine configuration

How conversion treats floats that are not finite, and how many instances one
batch may hold.  A configuration is kept as an indented JSON object; a missing
key takes its default.
-/

namespace Columnar

inductive NonFinitePolicy
  | passThrough
  | reject
deriving DecidableEq, Repr

def NonFinitePolicy.label : NonFinitePolicy -> String
  | .passThrough => "pass_through"
  | .reject => "reject"

def NonFinitePolicy.ofLabel? (label : String) : Option NonFinitePolicy :=
  [passThrough, reject].find? fun policy => policy.label == label

structure Config where
  nonFinite : NonFinitePolicy := .passThrough
  maxBatchLength : Option UInt64 := none
deriving DecidableEq, Repr

namespace Config

/-! ## JSON form -/

def policyOfJson? (json : Json) : Option NonFinitePolicy :=
  json.word?.bind NonFinitePolicy.ofLabel?

def limitOfJson? : Json -> Option (Option UInt64)
  | .null => some none
  | json => (json.natBelow? UInt64.size).map fun n => some (UInt64.ofNat n)

def ofJson? (json : Json) : Option Config :=
  match json.fields? ["non_finite", "max_batch_len"] with
  | some [policy, limit] => do
      let nonFinite <- policy.elim (some .passThrough) policyOfJson?
      let maxBatchLength <- limit.elim (some none) limitOfJson?
      return { nonFinite, maxBatchLength }
  | _ => none

def toJson (c : Config) : Json :=
  Json.record
    [("non_finite", .text c.nonFinite.label),
      ("max_batch_len", c.maxBatchLength.elim .null fun limit =>
        .nat limit.toNat)]

def parse? (text : String) : Option Config := (Json.parse? text).bind ofJson?

def print (c : Config) : String := c.toJson.pretty

end Config
end Columnar
