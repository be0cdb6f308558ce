import Columnar.Proofs.Batch.Extended
import Columnar.Proofs.Builtin.LooseNames
import Columnar.Proofs.Normalize.Variants
import Columnar.Proofs.Storable.Export

/-!
# What the built-in extension adds

The built-in extension answers for one component and for texts only, and there
it takes every spelling of a name of which the default takes only some.  So
nothing that could be built is built differently, other components do not
notice, and what is added are the spellings of colormaps.
-/

namespace Columnar

theorem BatchBuilder.build_congr_extensions {b : BatchBuilder}
    {one other : Option ExtensionTable} {descriptor : Descriptor}
    (h : { b with extensions := one }.extension? descriptor.component.text =
      { b with extensions := other }.extension? descriptor.component.text)
    (input : BatchInput) :
    { b with extensions := one }.build descriptor input =
      { b with extensions := other }.build descriptor input := by
  simp only [build, convert, h]
  rfl

namespace Components
namespace Colormap

/-! ## Values -/

/-- The value is the text, bare or alone in a sequence. -/
inductive Loose (text : String) : NativeValue -> Prop
  | bare : Loose text (.scalar (.text text))
  | alone : Loose text (.sequence [.scalar (.text text)])

theorem Loose.wraps {text : String} {value : NativeValue}
    (h : Loose text value) :
    NativeValue.Wraps (.text text) value := by
  cases h with
  | bare => exact .bare
  | alone => exact .sequence .bare

theorem looseText?_eq_some_iff {text : String} {value : NativeValue} :
    looseText? value = some text ↔ Loose text value := by
  constructor
  · intro h
    unfold looseText? at h
    split at h
    · cases h
      exact .bare
    · cases h
      exact .alone
    · cases h
  · intro h
    cases h <;> rfl

theorem looseText?_eq_none_iff {value : NativeValue} :
    looseText? value = none ↔ forall text, ¬ Loose text value := by
  simp only [← looseText?_eq_some_iff]
  exact Option.eq_none_iff_forall_ne_some

theorem Loose.unique {text other : String} {value : NativeValue}
    (h : Loose text value) (hother : Loose other value) : text = other := by
  rw [← looseText?_eq_some_iff] at h hother
  exact Option.some.inj (h.symm.trans hother)

/--
What a value is taken for: what it spells if it is a text, or else what it is by
default.
-/
inductive Takes (config : Config) : NativeValue -> Colormap -> Prop
  | spelled {text : String} {value : NativeValue} {c : Colormap} :
      Loose text value -> c.Names text -> Takes config value c
  | default {value : NativeValue} {c : Colormap} :
      (forall text, ¬ Loose text value) ->
      (Storable.datatype Colormap).normalize config value =
        .ok (.one .u8 c.discriminant) ->
        Takes config value c

theorem takes_iff_of_loose {config : Config} {text : String}
    {value : NativeValue} {c : Colormap} (h : Loose text value) :
    Takes config value c ↔ c.Names text := by
  constructor
  · intro htakes
    cases htakes with
    | spelled hother hnames => exact h.unique hother ▸ hnames
    | default hnone _ => exact absurd h (hnone text)
  · exact .spelled h

/-! ## The answers of the extension -/

section

variable {config : Config} {d : Datatype} {text : String} {value : NativeValue}
  {row : Instance} {c : Colormap}

theorem extension_normalize_eq_none_iff :
    extension.normalize config d value = none ↔
      forall text, ¬ Loose text value :=
  Option.map_eq_none_iff.trans looseText?_eq_none_iff

theorem extension_normalize_of_loose (h : Loose text value) :
    extension.normalize config d value = some (.ok row) ↔
      exists c : Colormap, c.Names text ∧ row = .one .u8 c.discriminant := by
  show (looseText? value).map _ = _ ↔ _
  rw [looseText?_eq_some_iff.mpr h, Option.map_some, Option.some.injEq]
  cases hparse : parse text with
  | error e =>
      refine iff_of_false nofun ?_
      rintro ⟨c, hnames, _⟩
      cases hparse.symm.trans (parse_eq_ok_iff.mpr hnames)
  | ok found =>
      constructor
      · intro hrow
        cases hrow
        exact ⟨found, parse_eq_ok_iff.mp hparse, rfl⟩
      · rintro ⟨c, hnames, rfl⟩
        cases hparse.symm.trans (parse_eq_ok_iff.mpr hnames)
        rfl

theorem answers_iff :
    extension.Answers config (Storable.datatype Colormap) value row ↔
      exists c : Colormap, Takes config value c ∧
        row = .one .u8 c.discriminant := by
  constructor
  · intro h
    cases h with
    | hook hanswer =>
        by_cases hloose : exists text, Loose text value
        · rcases hloose with ⟨text, hloose⟩
          rcases (extension_normalize_of_loose hloose).mp hanswer with
            ⟨c, hnames, hrow⟩
          exact ⟨c, .spelled hloose hnames, hrow⟩
        · rw [extension_normalize_eq_none_iff.mpr (not_exists.mp hloose)]
            at hanswer
          cases hanswer
    | default hnone hdefault =>
        rcases @Storable.Faithful.exists_value Colormap _ _ _
          (Datatype.conforms_of_normalize _ hdefault) with ⟨c, rfl⟩
        exact ⟨c, .default (extension_normalize_eq_none_iff.mp hnone) hdefault,
          rfl⟩
  · rintro ⟨c, htakes, rfl⟩
    cases htakes with
    | spelled hloose hnames =>
        exact .hook ((extension_normalize_of_loose hloose).mpr ⟨c, hnames, rfl⟩)
    | default hnone hdefault =>
        exact .default (extension_normalize_eq_none_iff.mpr hnone) hdefault

theorem exists_names_of_normalize (hloose : Loose text value)
    (h : (Storable.datatype Colormap).normalize config value = .ok row) :
    exists c : Colormap, c.Names text ∧ row = .one .u8 c.discriminant := by
  have hvalid := (Datatype.validate_enumeration_iff.mp
    (@Storable.Faithful.validate_eq Colormap _ _)).2.2
  have hvariant :=
    (Datatype.normalize_enumeration_wraps hloose.wraps).symm.trans h
  rcases map_eq_ok_iff.mp hvariant with ⟨byte, hbyte, rfl⟩
  rcases (NativeValue.variantOf_eq_ok_iff hvalid).mp hbyte with
    ⟨v, ⟨earlier, later, hvariants, hselects, _⟩, rfl⟩
  have hv : v ∈ all.map fun c => (⟨c.name, c.discriminant⟩ : Variant) :=
    hvariants ▸ List.mem_append_right _ List.mem_cons_self
  rcases List.mem_map.mp hv with ⟨c, _, rfl⟩
  exact ⟨c, (respelled_iff.mp (respelled_of_sameUpToCase hselects)).symm, rfl⟩

theorem answers_of_normalize
    (h : (Storable.datatype Colormap).normalize config value = .ok row) :
    extension.Answers config (Storable.datatype Colormap) value row := by
  by_cases hloose : exists text, Loose text value
  · rcases hloose with ⟨text, hloose⟩
    exact .hook ((extension_normalize_of_loose hloose).mpr
      (exists_names_of_normalize hloose h))
  · exact .default
      (extension_normalize_eq_none_iff.mpr (not_exists.mp hloose)) h

end

/-! ## Values that spell the same -/

/-- The same value, or a text that is spelled in another way. -/
inductive Alike : NativeValue -> NativeValue -> Prop
  | same (value : NativeValue) : Alike value value
  | respelled {text other : String} {value instead : NativeValue} :
      Loose text value ->
      Loose other instead -> Respelled text other -> Alike value instead

section

variable {config : Config} {values others : List NativeValue}
  {maps : List Colormap}

theorem Alike.takes_iff {value instead : NativeValue} {c : Colormap}
    (h : Alike value instead) :
    Takes config value c ↔ Takes config instead c := by
  cases h with
  | same => rfl
  | respelled hvalue hinstead hrespelled =>
      rw [takes_iff_of_loose hvalue, takes_iff_of_loose hinstead,
        hrespelled.names_iff]

theorem forall₂_takes_iff (h : List.Forall₂ Alike values others) :
    List.Forall₂ (Takes config) values maps ↔
      List.Forall₂ (Takes config) others maps := by
  induction h generalizing maps with
  | nil => rfl
  | cons hhead _ ih =>
      simp only [List.forall₂_cons_left_iff, hhead.takes_iff, ih]

end

/-! ## Batches -/

def columnOf (maps : List Colormap) : Column :=
  .ofElements ⟨.u8, maps.map discriminant⟩ none

theorem encode_instances (maps : List Colormap) :
    (Storable.datatype Colormap).encode
        (maps.map fun c => .one .u8 c.discriminant) =
      .ok (columnOf maps) := by
  have hpresence :
      Instance.presence (maps.map fun c => .one .u8 c.discriminant) = none := by
    refine if_neg fun hany => ?_
    rcases List.any_eq_true.mp hany with ⟨row, hrow, hnull⟩
    rcases List.mem_map.mp hrow with ⟨c, _, rfl⟩
    cases hnull
  have hslots : (maps.map fun c => .one .u8 c.discriminant).flatMap
      (Instance.slots .u8 (.fixed 1)) = maps.map discriminant := by
    rw [List.flatMap_map, List.map_eq_flatMap]
    rfl
  have hencode := Datatype.encode_of_encodable
    (@Storable.Faithful.validate_eq Colormap _ _)
    (Storable.encodable_instances maps)
  rw [columnOf, ← hslots, ← hpresence]
  exact hencode

section

variable {b : BatchBuilder} {descriptor : Descriptor} {input : BatchInput}
  {values : List NativeValue} {batch : Batch}

theorem handle_eq (hbuiltin : b.registry.WithBuiltin)
    (hname : descriptor.component.text = Component.name Colormap) :
    b.registry.handle descriptor.component.text =
      .ok (Registry.handleOf (Component.definition Colormap)) := by
  rw [hname]
  exact hbuiltin.handle_eq .colormap

theorem build_extended_eq_ok_iff (hbuiltin : b.registry.WithBuiltin)
    (hname : descriptor.component.text = Component.name Colormap)
    (hextension : b.extension? descriptor.component.text = some extension)
    (hvalues : input.values? (Storable.datatype Colormap) = some values) :
    b.build descriptor input = .ok batch ↔
      b.config.Admits (Storable.datatype Colormap) values.length ∧
        exists maps, List.Forall₂ (Takes b.config) values maps ∧
          batch = ⟨descriptor, columnOf maps, false⟩ := by
  rw [BatchBuilder.build_eq_ok_iff hbuiltin.reachable
      (handle_eq hbuiltin hname) hvalues, hextension]
  constructor
  · rintro ⟨hsize, rows, hrows, _, hencode, hbatch⟩
    have htaken := hrows.imp fun _ _ hrow =>
      answers_iff.mp (BatchBuilder.instanceOf_eq_ok_iff.mp hrow)
    rcases exists_eq_map_of_forall₂ htaken with ⟨maps, hmaps, rfl⟩
    rw [Except.ok.inj (hencode.symm.trans (encode_instances maps))] at hbatch
    exact ⟨hsize, maps, hmaps, hbatch.symm⟩
  · rintro ⟨hsize, maps, hmaps, rfl⟩
    have hrows := hmaps.imp fun _ c htakes =>
      BatchBuilder.instanceOf_eq_ok_iff.mpr (answers_iff.mpr ⟨c, htakes, rfl⟩)
    refine ⟨hsize, _, List.forall₂_map_right_iff.mpr hrows, ?_,
      encode_instances maps, rfl⟩
    intro e he
    cases he
    rfl

theorem build_extended_of_build {loose : BatchBuilder}
    (hregistry : loose.registry = b.registry)
    (hconfig : loose.config = b.config) (hbuiltin : b.registry.WithBuiltin)
    (hname : descriptor.component.text = Component.name Colormap)
    (hplain : b.extension? descriptor.component.text = none)
    (hextension : loose.extension? descriptor.component.text = some extension)
    (hvalues : input.values? (Storable.datatype Colormap) = some values)
    (h : b.build descriptor input = .ok batch) :
    loose.build descriptor input = .ok batch := by
  have hloose : loose.registry.WithBuiltin := hregistry ▸ hbuiltin
  rw [BatchBuilder.build_eq_ok_iff hbuiltin.reachable
      (handle_eq hbuiltin hname) hvalues, hplain] at h
  rw [BatchBuilder.build_eq_ok_iff hloose.reachable
      (handle_eq hloose hname) hvalues, hextension, hconfig]
  rcases h with ⟨hsize, rows, hrows, _, hencode, hbatch⟩
  refine ⟨hsize, rows, hrows.imp fun _ _ hrow => ?_, ?_, hencode, hbatch⟩
  · rw [BatchBuilder.instanceOf_eq_ok_iff, hconfig]
    exact answers_of_normalize hrow
  · intro e he
    cases he
    rfl

end

/-- How a builder that takes spellings of colormaps differs from a plain one. -/
structure AddsSpellings (plain loose : BatchBuilder) : Prop where
  /-- What is built is built as before. -/
  keeps : forall descriptor input batch,
    plain.build descriptor input = .ok batch ->
    loose.build descriptor input = .ok batch
  /-- Other components are built or refused as before. -/
  others : forall descriptor input, descriptor.component.text ≠
    Component.name Colormap ->
    loose.build descriptor input = plain.build descriptor input
  /-- A batch holds the colormaps the values are taken for. -/
  holds : forall descriptor input values, descriptor.component.text =
    Component.name Colormap ->
    input.values? (Storable.datatype Colormap) = some values -> forall batch,
      loose.build descriptor input = .ok batch ↔
        loose.config.Admits (Storable.datatype Colormap) values.length ∧
          exists maps, List.Forall₂ (Takes loose.config) values maps ∧
            batch = ⟨descriptor, columnOf maps, false⟩
  /-- A text is taken for the colormap whose name it spells. -/
  texts : forall text value c, Loose text value ->
    (Takes loose.config value c ↔ c.Names text)
  /-- It does not matter how the texts are spelled. -/
  alike : forall descriptor input other values others,
    descriptor.component.text = Component.name Colormap ->
    input.values? (Storable.datatype Colormap) = some values ->
    other.values? (Storable.datatype Colormap) = some others ->
    List.Forall₂ Alike values others -> forall batch,
      loose.build descriptor input = .ok batch ↔
        loose.build descriptor other = .ok batch

theorem addsSpellings {b : BatchBuilder} (hbuiltin : b.registry.WithBuiltin)
    {table : ExtensionTable} (htable : Components.extensions = .ok table) :
    AddsSpellings { b with extensions := none }
      { b with extensions := some table } := by
  have hextension : forall component,
      { b with extensions := some table }.extension? component =
        if component = Component.name Colormap then some extension else none :=
    BatchBuilder.extension?_builtin htable rfl
  have hholds : forall descriptor input values,
      descriptor.component.text = Component.name Colormap ->
      input.values? (Storable.datatype Colormap) = some values -> forall batch,
        { b with extensions := some table }.build descriptor input = .ok batch ↔
          b.config.Admits (Storable.datatype Colormap) values.length ∧
            exists maps, List.Forall₂ (Takes b.config) values maps ∧
              batch = ⟨descriptor, columnOf maps, false⟩ := by
    intro descriptor input values hname hvalues batch
    exact build_extended_eq_ok_iff hbuiltin hname
      ((hextension _).trans (if_pos hname)) hvalues
  have hothers : forall descriptor input,
      descriptor.component.text ≠ Component.name Colormap ->
        { b with extensions := some table }.build descriptor input =
          { b with extensions := none }.build descriptor input := by
    intro descriptor input hname
    exact BatchBuilder.build_congr_extensions
      ((hextension _).trans (if_neg hname)) input
  refine ⟨?_, hothers, hholds, fun _ _ _ => takes_iff_of_loose, ?_⟩
  · intro descriptor input batch hbatch
    by_cases hname : descriptor.component.text = Component.name Colormap
    · cases hvalues : input.values? (Storable.datatype Colormap) with
      | some values =>
          exact build_extended_of_build (b := { b with extensions := none }) rfl
            rfl hbuiltin hname rfl ((hextension _).trans (if_pos hname))
            hvalues hbatch
      | none =>
          cases input with
          | column column => exact hbatch
          | _ => cases hvalues
    · rw [hothers descriptor input hname]
      exact hbatch
  · intro descriptor input other values others hname hvalues
      hinstead halike batch
    rw [hholds descriptor input values hname hvalues,
      hholds descriptor other others hname hinstead, halike.length_eq]
    simp only [forall₂_takes_iff halike]

/--
The built-in extensions only add spellings of colormaps: whatever is built
without them is built with them, other components are not concerned, and a text
is taken for the one colormap whose name it spells, wherever it has separators
or capitals.
-/
theorem builtin_extensions_add_spellings {b : BatchBuilder}
    (hbuiltin : b.registry.WithBuiltin) :
    (exists table, Components.extensions = .ok table ∧
      AddsSpellings { b with extensions := none }
        { b with extensions := some table }) ∧
    (forall (text : String) (c other : Colormap), c.Names text ->
      other.Names text -> c = other) ∧
    (forall text other, Respelled text other -> forall c : Colormap,
      c.Names text ↔ c.Names other) :=
  ⟨⟨_, rfl, addsSpellings hbuiltin rfl⟩, fun _ _ _ => Names.unique,
    fun _ _ hrespelled _ => hrespelled.names_iff⟩

namespace Sample

def builtinBuilder : BatchBuilder where
  registry := Registry.Sample.builtinRegistry

end Sample

open Sample in
theorem build_cyan_to_yellow :
    exists table, Components.extensions = .ok table ∧
      { builtinBuilder with extensions := some table }.build
        (.bare ⟨Component.name Colormap⟩)
            (.single (.scalar (.text "cyan_to_yellow"))) =
          .ok ⟨.bare ⟨Component.name Colormap⟩, columnOf [.cyanToYellow],
            false⟩ := by
  have hbuiltin : builtinBuilder.registry.WithBuiltin :=
    Registry.Sample.withBuiltin_builtinRegistry
  rcases builtin_extensions_add_spellings hbuiltin with
    ⟨⟨table, htable, hadds⟩, _⟩
  have hnames : cyanToYellow.Names "cyan_to_yellow" := rfl
  have hsize : builtinBuilder.config.Admits (Storable.datatype Colormap) 1 :=
    ⟨nofun, nofun⟩
  have hvalues : (BatchInput.single (.scalar (.text "cyan_to_yellow"))).values?
      (Storable.datatype Colormap) = some [.scalar (.text "cyan_to_yellow")] :=
    rfl
  refine ⟨table, htable, (hadds.holds _ _ _ rfl hvalues _).mpr
    ⟨hsize, [.cyanToYellow], ?_, rfl⟩⟩
  exact .cons ((hadds.texts _ _ _ .bare).mpr hnames) .nil

end Colormap
end Components
end Columnar
