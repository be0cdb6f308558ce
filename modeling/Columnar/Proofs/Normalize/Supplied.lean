import Columnar.Proofs.Normalize.Instances

/-!
# What becomes of the values supplied

Where a value is normalized, every value that is read for a field, however deep,
has its normal form in the place of the field.  In a record that is the first
value of each name, and no name goes unread.  A later value of the same name is
read for no field.
-/

namespace Columnar

namespace Instance

def part? : Instance -> List Nat -> Option Instance
  | i, [] => some i
  | .struct fields, position :: path =>
      fields[position]?.bind fun field => field.part? path
  | _, _ :: _ => none

theorem part?_struct {fields : List Instance} {position : Nat}
    {field : Instance} (h : fields[position]? = some field) (path : List Nat) :
    (struct fields).part? (position :: path) = field.part? path := by
  rw [part?, h, Option.bind_some]

end Instance

namespace Datatype

open NativeValue (First)

/--
A value within a value is read for a datatype within a datatype.  The path has
the position of the field for each struct that is gone into.
-/
inductive Supplies :
    Datatype -> NativeValue -> List Nat -> Datatype -> NativeValue -> Prop
  | self {d : Datatype} {value : NativeValue} : Supplies d value [] d value
  | named {name : String} {fields : List (Field Datatype)}
      {nullable broadcast nonEmpty : Bool} {pairs : List (String × NativeValue)}
      {position : Nat} {field : Field Datatype} {value inner : NativeValue}
      {path : List Nat} {holder : Datatype} :
      fields[position]? = some field -> First pairs field.name value ->
        Supplies field.datatype value path holder inner ->
          Supplies ⟨name, .struct fields, nullable, broadcast, nonEmpty⟩
            (.record pairs)
            (position :: path) holder inner
  | positional {name : String} {fields : List (Field Datatype)}
      {nullable broadcast nonEmpty : Bool} {items : List NativeValue}
      {position : Nat} {field : Field Datatype} {value inner : NativeValue}
      {path : List Nat} {holder : Datatype} :
      fields[position]? = some field -> items[position]? = some value ->
        Supplies field.datatype value path holder inner ->
          Supplies ⟨name, .struct fields, nullable, broadcast, nonEmpty⟩
            (.sequence items)
            (position :: path) holder inner

theorem Supplies.append {d middle holder : Datatype}
    {value inside inner : NativeValue} {path rest : List Nat}
    (h : Supplies d value path middle inside)
    (hrest : Supplies middle inside rest holder inner) :
    Supplies d value (path ++ rest) holder inner := by
  induction h with
  | self => exact hrest
  | named hfield hfirst _ ih => exact .named hfield hfirst (ih hrest)
  | positional hfield hitem _ ih => exact .positional hfield hitem (ih hrest)

section

variable {config : Config} {name : String} {nullable broadcast nonEmpty : Bool}
  {fields : List (Field Datatype)} {pairs : List (String × NativeValue)}
  {position : Nat} {field : Field Datatype} {value : NativeValue} {i : Instance}

/-! ## Values of fields -/

theorem exists_part_of_first
    (hi : normalize config ⟨name, .struct fields, nullable, broadcast, nonEmpty⟩
      (.record pairs) = .ok i)
    (hfield : fields[position]? = some field)
    (hfirst : First pairs field.name value) :
    exists values part, i = .struct values ∧ values[position]? = some part ∧
      field.datatype.normalize config value = .ok part := by
  rcases normalize_struct rfl hi with
    ⟨values, rfl, ⟨_, hrecord, hvalues⟩ | ⟨_, hsequence, _⟩⟩
  · cases hrecord
    rcases exists_partner (normalizeNamed_eq_ok_iff.mp hvalues) hfield with
      ⟨part, hpart, hread⟩
    rw [NativeValue.named?_eq_some_iff.mpr hfirst, readNamed, inField_eq_ok_iff]
      at hread
    exact ⟨values, part, rfl, hpart, hread⟩
  · cases hsequence

theorem exists_part_of_position {items : List NativeValue}
    (hi : normalize config ⟨name, .struct fields, nullable, broadcast, nonEmpty⟩
      (.sequence items) = .ok i)
    (hfield : fields[position]? = some field)
    (hitem : items[position]? = some value) :
    exists values part, i = .struct values ∧ values[position]? = some part ∧
      field.datatype.normalize config value = .ok part := by
  rcases normalize_struct rfl hi with
    ⟨values, rfl, ⟨_, hrecord, _⟩ | ⟨_, hsequence, hcount, hvalues⟩⟩
  · cases hrecord
  · cases hsequence
    have hzip : (fields.zip items)[position]? = some (field, value) :=
      List.getElem?_zip_eq_some.mpr ⟨hfield, hitem⟩
    rcases exists_partner ((normalizePositional_eq_ok_iff hcount).mp hvalues)
      hzip with ⟨part, hpart, hread⟩
    exact ⟨values, part, rfl, hpart, hread⟩

theorem declared_of_normalize
    (hi : normalize config ⟨name, .struct fields, nullable, broadcast, nonEmpty⟩
      (.record pairs) = .ok i)
    {key : String} (hkey : key ∈ pairs.map Prod.fst) :
    exists (position : Nat) (field : Field Datatype),
      fields[position]? = some field ∧ field.name = key := by
  rw [normalize_record] at hi
  split at hi
  · cases hi
  · next hdeclared =>
      rcases List.mem_map.mp (undeclared?_eq_none_iff.mp hdeclared key hkey)
        with ⟨field, hfield, hname⟩
      rcases List.getElem?_of_mem hfield with ⟨position, hposition⟩
      exact ⟨position, field, hposition, hname⟩

/-! ## Repeated names -/

theorem normalize_record_shadowed {earlier later : List (String × NativeValue)}
    {key : String} (hkey : key ∈ earlier.map Prod.fst)
    (supplied : NativeValue) :
    normalize config ⟨name, .struct fields, nullable, broadcast, nonEmpty⟩
        (.record (earlier ++ (key, supplied) :: later)) =
      normalize config ⟨name, .struct fields, nullable, broadcast, nonEmpty⟩
        (.record (earlier ++ later)) := by
  have hnames : undeclared? fields
        ((earlier ++ (key, supplied) :: later).map Prod.fst) =
      undeclared? fields ((earlier ++ later).map Prod.fst) := by
    rw [List.map_append, List.map_append, List.map_cons]
    exact undeclared?_append_cons_of_mem hkey
  have hnamed :
      normalizeNamed config name (earlier ++ (key, supplied) :: later) fields =
        normalizeNamed config name (earlier ++ later) fields := by
    apply normalizeNamed_congr
    intro field _
    rw [NativeValue.named?_append_cons_of_mem hkey]
  rw [normalize_record, normalize_record, hnames, hnamed]

end

/-! ## Values at any depth -/

theorem exists_part_of_supplies {config : Config} {d holder : Datatype}
    {value inner : NativeValue} {path : List Nat}
    (h : Supplies d value path holder inner) {i : Instance}
    (hi : d.normalize config value = .ok i) :
    exists part, i.part? path = some part ∧
      holder.normalize config inner = .ok part := by
  induction h generalizing i with
  | self => exact ⟨i, rfl, hi⟩
  | named hfield hfirst _ ih =>
      rcases exists_part_of_first hi hfield hfirst with
        ⟨values, part, rfl, hpart, hvalue⟩
      rw [Instance.part?_struct hpart]
      exact ih hvalue
  | positional hfield hitem _ ih =>
      rcases exists_part_of_position hi hfield hitem with
        ⟨values, part, rfl, hpart, hvalue⟩
      rw [Instance.part?_struct hpart]
      exact ih hvalue

/--
What is normalized holds the normal form of every value that is read.  Each name
in a record is that of a field, and the first value of the name is the one held
in its place.
-/
theorem normalize_holds_first {config : Config} {d : Datatype}
    {value : NativeValue} {i : Instance}
    (hi : d.normalize config value = .ok i) :
    (forall path holder inner, Supplies d value path holder inner ->
      exists part, i.part? path = some part ∧
        holder.normalize config inner = .ok part) ∧
    forall path holder fields pairs, Supplies d value path holder
      (.record pairs) ->
      holder.shape = .struct fields ->
        forall earlier key supplied later,
          pairs = earlier ++ (key, supplied) :: later ->
          exists (position : Nat) (field : Field Datatype),
            fields[position]? = some field ∧
            field.name = key ∧ (key ∉ earlier.map Prod.fst ->
              exists part, i.part? (path ++ [position]) = some part ∧
                field.datatype.normalize config supplied = .ok part) := by
  refine ⟨fun path holder inner h => exists_part_of_supplies h hi, ?_⟩
  intro path holder fields pairs h hshape earlier key supplied later hpairs
  rcases exists_part_of_supplies h hi with ⟨record, _, hrecord⟩
  rcases holder with ⟨name, shape, nullable, broadcast, nonEmpty⟩
  cases hshape
  have hkey : key ∈ pairs.map Prod.fst := by
    rw [hpairs]
    exact List.mem_map_of_mem (List.mem_append_right _ List.mem_cons_self)
  rcases declared_of_normalize hrecord hkey with ⟨position, field, hfield, rfl⟩
  refine ⟨position, field, hfield, rfl, ?_⟩
  intro hfirst
  exact exists_part_of_supplies
    (h.append (.named hfield ⟨earlier, later, hpairs, hfirst⟩ .self)) hi

namespace Sample

def boxFields : List (Field Datatype) :=
  [⟨"width", primitive "sample.Width" .u8⟩]

def crateFields : List (Field Datatype) :=
  [⟨"box", struct "sample.Box" boxFields⟩]

def widths : List (String × NativeValue) :=
  [("width", .u64 3), ("width", .u64 4)]

end Sample

open Sample in
theorem normalize_holds_first_width :
    (struct "sample.Crate" crateFields).normalize {}
    (.record [("box", .record widths)]) =
        .ok (.struct [.struct [.one .u8 (3 : UInt8)]]) ∧
      exists part, (Instance.struct [.struct [.one .u8 (3 : UInt8)]]).part?
        [0, 0] = some part ∧
        (primitive "sample.Width" .u8).normalize {} (.u64 3) = .ok part := by
  have hcrate : (struct "sample.Crate" crateFields).normalize {}
      (.record [("box", .record widths)]) =
        .ok (.struct [.struct [.one .u8 (3 : UInt8)]]) := rfl
  have hbox : Supplies (struct "sample.Crate" crateFields)
    (.record [("box", .record widths)]) [0]
      (struct "sample.Box" boxFields) (.record widths) :=
    .named rfl ⟨[], [], rfl, by decide⟩ .self
  refine ⟨hcrate, ?_⟩
  rcases normalize_holds_first hcrate with ⟨_, hheld⟩
  rcases hheld _ _ _ _ hbox rfl [] "width" (.u64 3) _ rfl with
    ⟨position, field, hfield, _, hpart⟩
  cases position with
  | zero =>
      cases hfield
      exact hpart (by decide)
  | succ position => cases hfield

open Sample in
/--
A box is accepted although its width is repeated, and the second width is held
nowhere.
-/
theorem normalize_drops_repeated_width :
    exists i, (struct "sample.Box" boxFields).normalize {} (.record widths) =
      .ok i ∧
      ¬ (widths.map Prod.fst).Nodup ∧ ("width", .u64 4) ∈ widths ∧
        forall (position : Nat) (field : Field Datatype) (part : Instance),
          boxFields[position]? = some field -> i.part? [position] = some part ->
            field.datatype.normalize {} (.u64 4) ≠ .ok part := by
  refine ⟨.struct [.one .u8 (3 : UInt8)], ?_, by decide, ?_, ?_⟩
  · calc (struct "sample.Box" boxFields).normalize {} (.record widths)
        = (struct "sample.Box" boxFields).normalize {}
          (.record [("width", .u64 3)]) :=
          @normalize_record_shadowed {} "sample.Box" false false false boxFields
            [("width", .u64 3)] [] "width" (by decide) (.u64 4)
      _ = .ok (.struct [.one .u8 (3 : UInt8)]) := rfl
  · exact List.mem_cons_of_mem _ List.mem_cons_self
  · intro position field part hfield hpart hheld
    cases position with
    | zero =>
        cases hfield
        cases hpart
        have hfour : (primitive "sample.Width" .u8).normalize {} (.u64 4) =
            .ok (.one .u8 (4 : UInt8)) := rfl
        have hone := Except.ok.inj (hheld.symm.trans hfour)
        cases hone
    | succ position => cases hfield

end Datatype
end Columnar
