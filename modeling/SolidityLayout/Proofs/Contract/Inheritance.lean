import SolidityLayout.Proofs.Contract.Outcome

/-!
# Layouts under inheritance

A derived contract lists its own ancestors before those of its base, and the
list is turned round before anything is laid out.  The layout of the base is
therefore computed on the way to that of the derived contract, and what the
derived contract adds comes behind it.
-/

namespace SolidityLayout

open Ast Attempt

/-- The locations lead to the definition of a contract that lists the given
entries as its ancestors, the most derived one first. -/
def NodeLookup.ListsAncestors
    (lookup : NodeLookup) (code : List Location) (entries : List Json) : Prop :=
  ∃ contract, lookup.definition code = .ok contract ∧
    contract.attribute? "linearizedBaseContracts" = some (.arr entries)

namespace Ancestry

theorem ofContract_of_listed {contract : Node} {entries : List Json}
    (hlisted : contract.attribute? "linearizedBaseContracts" = some (.arr entries)) :
    ofContract contract = (entries.mapM idOfEntry).map List.reverse := by
  rw [ofContract, hlisted]

theorem idOfEntry_int {n : Int} (hn : Number.Binary64.isTooLarge n = false) :
    idOfEntry (.int n) = .ok n := by
  simp [idOfEntry, hn]

end Ancestry

namespace Layout

variable {lookup : NodeLookup} {reader : TypeReader}
variable {code baseCode : List Location} {own bases : List Json}

theorem ofLocations_of_definition {contract : Node} {entries : List Json}
    (hdefinition : lookup.definition code = .ok contract)
    (hlisted : contract.attribute? "linearizedBaseContracts" = some (.arr entries)) :
    ofLocations lookup reader code =
      (entries.mapM Ancestry.idOfEntry).bind fun ids =>
        (ids.reverse.mapM (variablesOf lookup reader)).map fun groups =>
          ⟨contract.name?, ids.reverse, groups.flatten⟩ := by
  rw [ofLocations, hdefinition]
  simp only [Ancestry.ofContract_of_listed hlisted]
  cases entries.mapM Ancestry.idOfEntry <;> rfl

/-- A contract without bases has the layout of its own variables. -/
theorem ofLocations_of_lone {location : Location} {contract : Node} {id : Int}
    {vs : List StorageVariable}
    (hlocated : lookup.atLocation? location = some contract)
    (hshow : contract.isShowable = true)
    (hlisted : contract.attribute? "linearizedBaseContracts" = some (.arr [.int id]))
    (hid : Number.Binary64.isTooLarge id = false)
    (hvs : DeclaresVariables lookup reader id vs) :
    ofLocations lookup reader [location] = .ok ⟨contract.name?, [id], vs⟩ := by
  have hentries : [Json.int id].mapM Ancestry.idOfEntry = .ok [id] :=
    mapM_eq_ok_iff.mpr (.cons (Ancestry.idOfEntry_int hid) .nil)
  have hids : Ancestry.ofContract contract = .ok [id] := by
    rw [Ancestry.ofContract_of_listed hlisted, hentries]
    rfl
  rw [ofLocations_eq (definition_of_located hlocated hshow) hids, map_eq_ok_iff]
  refine ⟨[vs], mapM_eq_ok_iff.mpr (.cons (variablesOf_eq_ok_iff.mpr hvs) .nil), ?_⟩
  rw [List.flatten_singleton]

/-- A derived contract is laid out like its base, and the variables of its
further ancestors follow. -/
theorem ofLocations_derived
    (reader : TypeReader)
    (hbase : lookup.ListsAncestors baseCode bases)
    (hderived : lookup.ListsAncestors code (own ++ bases)) :
    ∃ name?, ofLocations lookup reader code =
      (own.mapM Ancestry.idOfEntry).bind fun ids =>
        (ofLocations lookup reader baseCode).bind fun base =>
          (ids.reverse.mapM (variablesOf lookup reader)).map fun groups =>
            ⟨name?, base.ancestors ++ ids.reverse,
              base.contents ++ groups.flatten⟩ := by
  obtain ⟨base, hbaseDefinition, hbases⟩ := hbase
  obtain ⟨contract, hdefinition, hlisted⟩ := hderived
  refine ⟨contract.name?, ?_⟩
  rw [ofLocations_of_definition hdefinition hlisted,
    ofLocations_of_definition hbaseDefinition hbases, mapM_append_eq]
  cases own.mapM Ancestry.idOfEntry with
  | error failure => rfl
  | ok ownIds =>
      cases bases.mapM Ancestry.idOfEntry with
      | error failure => rfl
      | ok baseIds =>
          -- Turned round, the list has the ids of the base in front.
          have hreverse : (ownIds ++ baseIds).reverse =
              baseIds.reverse ++ ownIds.reverse := List.reverse_append
          simp only [Except.bind, Except.map, hreverse, mapM_append_eq]
          cases baseIds.reverse.mapM (variablesOf lookup reader) with
          | error failure => rfl
          | ok baseGroups =>
              cases ownIds.reverse.mapM (variablesOf lookup reader) with
              | error failure => rfl
              | ok groups => simp

theorem exists_base_of_ofLocations_eq_ok {layout : Layout}
    (hbase : lookup.ListsAncestors baseCode bases)
    (hderived : lookup.ListsAncestors code (own ++ bases))
    (hlayout : ofLocations lookup reader code = .ok layout) :
    ∃ base, ofLocations lookup reader baseCode = .ok base ∧
      base.contents <+: layout.contents := by
  obtain ⟨name?, heq⟩ := ofLocations_derived reader hbase hderived
  rw [heq, bind_eq_ok_iff] at hlayout
  obtain ⟨ids, -, hlayout⟩ := hlayout
  obtain ⟨base, hbaseLayout, hlayout⟩ := bind_eq_ok_iff.mp hlayout
  obtain ⟨groups, -, rfl⟩ := map_eq_ok_iff.mp hlayout
  exact ⟨base, hbaseLayout, List.prefix_append _ _⟩

/-- If a base has no layout, then neither has a derived contract, and its
failure is that of the base unless one of its own entries is no id. -/
theorem ofLocations_eq_error_of_base {failure : Failure}
    (hbase : lookup.ListsAncestors baseCode bases)
    (hderived : lookup.ListsAncestors code (own ++ bases))
    (hfailure : ofLocations lookup reader baseCode = .error failure) :
    ofLocations lookup reader code =
      (own.mapM Ancestry.idOfEntry).bind fun _ => .error failure := by
  obtain ⟨name?, heq⟩ := ofLocations_derived reader hbase hderived
  rw [heq, hfailure]
  cases own.mapM Ancestry.idOfEntry <;> rfl

/-- The layout of a base is the beginning of the layout of every contract
derived from it.  Two contracts derived from one base share that beginning, and
where the base has no layout no derived contract has one. -/
theorem contents_isPrefix_of_base
    (lookup : NodeLookup) (reader : TypeReader)
    {bases : List Json} {baseCode : List Location}
    (hbase : lookup.ListsAncestors baseCode bases) :
    (∀ own code layout, lookup.ListsAncestors code (own ++ bases) →
      ofLocations lookup reader code = .ok layout →
      ∃ base, ofLocations lookup reader baseCode = .ok base ∧
        base.contents <+: layout.contents) ∧
    (∀ own₁ own₂ code₁ code₂ layout₁ layout₂,
      lookup.ListsAncestors code₁ (own₁ ++ bases) →
      lookup.ListsAncestors code₂ (own₂ ++ bases) →
      ofLocations lookup reader code₁ = .ok layout₁ →
      ofLocations lookup reader code₂ = .ok layout₂ →
      ∃ base, ofLocations lookup reader baseCode = .ok base ∧
        layout₁.contents.take base.contents.length = base.contents ∧
        layout₂.contents.take base.contents.length = base.contents) ∧
    (∀ failure, ofLocations lookup reader baseCode = .error failure →
      ∀ own code, lookup.ListsAncestors code (own ++ bases) →
        (∃ first, ofLocations lookup reader code = .error first) ∧
        ((∃ ids, own.mapM Ancestry.idOfEntry = .ok ids) →
          ofLocations lookup reader code = .error failure)) := by
  refine ⟨?_, ?_, ?_⟩
  · intro own code layout hderived hlayout
    exact exists_base_of_ofLocations_eq_ok hbase hderived hlayout
  · intro own₁ own₂ code₁ code₂ layout₁ layout₂ hderived₁ hderived₂ hlayout₁ hlayout₂
    obtain ⟨base, hbaseLayout, hbegin₁⟩ :=
      exists_base_of_ofLocations_eq_ok hbase hderived₁ hlayout₁
    obtain ⟨base', hbaseLayout', hbegin₂⟩ :=
      exists_base_of_ofLocations_eq_ok hbase hderived₂ hlayout₂
    obtain rfl : base = base' := Except.ok.inj (hbaseLayout.symm.trans hbaseLayout')
    exact ⟨base, hbaseLayout, (List.prefix_iff_eq_take.mp hbegin₁).symm,
      (List.prefix_iff_eq_take.mp hbegin₂).symm⟩
  · intro failure hfailure own code hderived
    have hcode := ofLocations_eq_error_of_base hbase hderived hfailure
    constructor
    · cases hown : own.mapM Ancestry.idOfEntry with
      | error first =>
          rw [hown] at hcode
          exact ⟨first, hcode⟩
      | ok ids =>
          rw [hown] at hcode
          exact ⟨failure, hcode⟩
    · rintro ⟨ids, hids⟩
      rw [hids] at hcode
      exact hcode

/-- The two contracts with a truth value each, the derived one defined at the
start of the source and the base behind it. -/
def flagSource : NodeLookup where
  withId? := flagLookup.withId?
  atLocation? location :=
    if location.offset = 0 then some (flagContract "Token" [.int 2, .int 1] "open")
    else some (flagContract "Base" [.int 1] "paused")

/-- The variable of the base comes first in the layout of the derived contract,
and if no type can be read both contracts fail alike. -/
theorem contents_isPrefix_of_base_flags :
    (∃ base, ofLocations flagSource (fun name => .ok (.elementary name)) [⟨9, 9, 0⟩] =
        .ok base ∧
      base.contents <+: [⟨"paused", "Base", .ofValue (.elementary "bool")⟩,
        ⟨"open", "Token", .ofValue (.elementary "bool")⟩]) ∧
    ofLocations flagSource (fun _ => .error .abstractType) [⟨9, 9, 0⟩] =
      .error .abstractType ∧
    ofLocations flagSource (fun _ => .error .abstractType) [⟨0, 9, 0⟩] =
      .error .abstractType := by
  have hbase : flagSource.ListsAncestors [⟨9, 9, 0⟩] [.int 1] := ⟨_, rfl, rfl⟩
  have hderived : flagSource.ListsAncestors [⟨0, 9, 0⟩] ([.int 2] ++ [.int 1]) :=
    ⟨_, rfl, rfl⟩
  constructor
  · obtain ⟨hbegin, -, -⟩ := contents_isPrefix_of_base flagSource
      (fun name => .ok (.elementary name)) hbase
    exact hbegin _ _ _ hderived (ofLocations_flagContract rfl rfl rfl)
  · have hone : [Json.int 1].mapM Ancestry.idOfEntry = .ok [1] :=
      mapM_eq_ok_iff.mpr (.cons (Ancestry.idOfEntry_int (by decide +kernel)) .nil)
    have htwo : [Json.int 2].mapM Ancestry.idOfEntry = .ok [2] :=
      mapM_eq_ok_iff.mpr (.cons (Ancestry.idOfEntry_int (by decide +kernel)) .nil)
    have hfailure : ofLocations flagSource (fun _ => .error .abstractType)
        [⟨9, 9, 0⟩] = .error .abstractType := by
      have hdefinition : flagSource.definition [⟨9, 9, 0⟩] =
          .ok (flagContract "Base" [.int 1] "paused") := rfl
      rw [ofLocations_of_definition hdefinition rfl, hone]
      rfl
    obtain ⟨-, -, hfails⟩ := contents_isPrefix_of_base flagSource
      (fun _ => .error .abstractType) hbase
    obtain ⟨-, hsame⟩ := hfails _ hfailure _ _ hderived
    exact ⟨hfailure, hsame ⟨_, htwo⟩⟩

end Layout

end SolidityLayout
