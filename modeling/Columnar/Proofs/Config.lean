import Columnar.Config
import Columnar.Proofs.Json.Reading

/-!
# Configurations read back from JSON

A configuration is printed as a record of its policy by name and its limit, a
number or null.  Both are words of the reader, which finds each of them again
under its key, so what is read back from the indented text is the configuration,
and no two configurations are printed alike.
-/

namespace Columnar

theorem NonFinitePolicy.ofLabel?_label (policy : NonFinitePolicy) :
    ofLabel? policy.label = some policy := by
  cases policy with
  | passThrough => rfl
  | reject => rfl

namespace Config

/-! ## The printed record -/

def limitToJson (limit : Option UInt64) : Json :=
  limit.elim .null fun limit => .nat limit.toNat

def members (c : Config) : List (String × Json) :=
  [("non_finite", .text c.nonFinite.label),
    ("max_batch_len", limitToJson c.maxBatchLength)]

theorem toJson_eq (c : Config) : c.toJson = Json.record c.members := rfl

theorem nodup_members (c : Config) : (c.members.map Prod.fst).Nodup := by
  simp [members]

theorem plain_limitToJson (limit : Option UInt64) :
    (limitToJson limit).Plain := by
  cases limit with
  | none => exact Json.Plain.null
  | some limit => exact Json.Plain.nat limit.toNat_lt

theorem plain_toJson (c : Config) : c.toJson.Plain := by
  rw [toJson_eq]
  apply Json.Plain.record
  simp [members, Json.Plain.text, plain_limitToJson]

/-! ## Reading the parts -/

theorem policyOfJson?_label (policy : NonFinitePolicy) :
    policyOfJson? (.text policy.label) = some policy :=
  policy.ofLabel?_label

theorem limitOfJson?_limitToJson (limit : Option UInt64) :
    limitOfJson? (limitToJson limit) = some limit := by
  cases limit with
  | none => rfl
  | some limit =>
      show (Json.natBelow? UInt64.size (.nat limit.toNat)).map
        (fun n => some (UInt64.ofNat n)) = _
      rw [Json.natBelow?_nat limit.toNat_lt, Option.map_some,
        UInt64.ofNat_toNat]

theorem fields?_members (c : Config) :
    (Json.record c.members).fields? ["non_finite", "max_batch_len"] =
      some [some (.text c.nonFinite.label),
        some (limitToJson c.maxBatchLength)] := by
  have hpolicy := Json.unique?_of_mem c.nodup_members List.mem_cons_self
  have hlimit := Json.unique?_of_mem c.nodup_members
    (List.mem_cons_of_mem _ List.mem_cons_self)
  rw [Json.fields?_record, List.mapM_cons, hpolicy, List.mapM_cons, hlimit]
  rfl

theorem ofJson?_toJson (c : Config) : ofJson? c.toJson = some c := by
  rw [toJson_eq, ofJson?, fields?_members]
  show (policyOfJson? (.text c.nonFinite.label) >>= fun policy => _) = _
  rw [policyOfJson?_label]
  show (limitOfJson? (limitToJson c.maxBatchLength) >>= fun limit => _) = _
  rw [limitOfJson?_limitToJson]
  rfl

/--
Every configuration is read back from its indented text as it was, whatever its
policy and with or without a limit, so different configurations have different
texts.
-/
theorem print_reads_back :
    (forall c : Config, parse? c.print = some c) ∧
      Function.Injective print := by
  have hread : forall c : Config, parse? c.print = some c := by
    intro c
    rw [parse?, print, Json.parse?_pretty c.plain_toJson]
    exact ofJson?_toJson c
  refine ⟨hread, ?_⟩
  intro c other h
  have hother := hread other
  rw [← h, hread c] at hother
  exact Option.some.inj hother

end Config
end Columnar
