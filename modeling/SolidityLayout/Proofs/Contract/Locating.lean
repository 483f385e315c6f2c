import SolidityLayout.Proofs.Ast.IndexContents
import SolidityLayout.Proofs.Source.LocationSpelling

/-!
# Locating a definition by a source map

A node is found under the first entry of a source map that begins with the node's
own spelling of its location, as long as no later node stands at the same place.
The two formats are read by different rules, but they agree on every spelling of a
location.  A node that is found is noted, which fails for an id beyond the digit
limit.
-/

namespace SolidityLayout.Ast

/-- A node whose source location is given as a text can be shown if its id can. -/
theorem Node.isShowable_of_source?_eq_str {n : Node} {source : String}
    (h : n.header.source? = some (.str source)) :
    n.isShowable = n.id?.all Number.isShowable := by
  have hsource : (Json.str source).isShowable = true := rfl
  rw [isShowable, Header.isShowable, h, Option.all_some, hsource, Bool.and_true, id?]

namespace Index

/-- The definition is the node at the first location of a source map. -/
theorem definition_lookup_of_head?
    {index : Index} {locations : List Location} {location : Location} {o : Occurrence}
    (hhead : locations.head? = some location)
    (hfound : index.byLocation.get? location = some o) :
    index.lookup.definition locations = noting o.node.isShowable (.ok o.node) := by
  obtain ⟨rest, rfl⟩ := List.head?_eq_some_iff.mp hhead
  have hat : index.lookup.atLocation? location = some o.node := by
    change (index.byLocation.get? location).map (·.node) = some o.node
    rw [hfound]
    rfl
  rw [NodeLookup.definition, hat]

/-- A source map that begins with the source location of a node, as it is spelled
there, has its first entry at that location and finds the node, if no later node
of the forest in pre-order stands at the location too.  The spelling by itself is
such a source map.  The node is the definition unless its id is beyond the digit
limit; the index of the ids does not matter. -/
theorem definition_of_spelling
    {trees : List Node} {before after : List Occurrence} {o : Occurrence}
    (hlisted : Forest.preorderOfAll [] trees 0 = before ++ o :: after)
    {source : String} {location : Location}
    (hsource : o.node.header.source? = some (.str source))
    (hlocation : Location.parse? source = some location)
    (hlast : ∀ later ∈ after, later.node.location? ≠ some location) :
    SourceMap.decode source = .ok [⟨location, "-", 0⟩] ∧
    ∀ (rest : String) (entries : List SourceMapEntry),
      (∀ c ∈ rest.toList.head?, c = ':' ∨ c = ';') →
      SourceMap.decode (source ++ rest) = .ok entries →
      (entries.map (·.location)).head? = some location ∧
      (lastByLocation (Forest.nodes trees)).get? location = some o ∧
      ∀ byId, let index : Index := ⟨byId, lastByLocation (Forest.nodes trees)⟩
        (o.node.id?.all Number.isShowable = true →
          index.lookup.definition (entries.map (·.location)) = .ok o.node) ∧
        (o.node.id?.all Number.isShowable = false →
          index.lookup.definition (entries.map (·.location)) = .error .longNumber) := by
  have hown : o.node.location? = some location := by
    rw [Node.location?, hsource]
    exact hlocation
  have hnodes := (Forest.nodes_eq_preorderOfAll trees).trans hlisted
  have hfound := get?_byLocation_eq_some_iff.mpr ⟨before, after, hnodes, hown, hlast⟩
  constructor
  · exact SourceMap.decode_of_parse? hlocation
  · intro rest entries hrest hdecode
    have hhead := SourceMap.head?_map_location_of_decode hlocation hrest hdecode
    refine ⟨hhead, hfound, ?_⟩
    intro byId index
    have hdefinition : index.lookup.definition (entries.map (·.location)) =
        noting (o.node.id?.all Number.isShowable) (.ok o.node) := by
      rw [definition_lookup_of_head? hhead hfound, Node.isShowable_of_source?_eq_str hsource]
    rw [hdefinition]
    constructor
    · intro hshow
      rw [hshow, noting_true]
    · intro hlong
      rw [hlong, noting_false]

/-- A source unit that is filled by its only contract, whose location is spelled
with a sign, a blank, an underscore and a digit of another script. -/
def filledUnit : Node :=
  .mk ⟨some "SourceUnit", some 2, some (.str "0:12:0"), []⟩
    [.mk ⟨some "ContractDefinition", some 1, some (.str "+0: 1_2:٠"), []⟩ []]

/-- The contract is found in place of the unit, by a source map that goes on with
a jump and two further entries. -/
theorem definition_of_spelling_filledUnit :
    ∃ entries, SourceMap.decode "+0: 1_2:٠:i;;3" = .ok entries ∧ entries.length = 3 ∧
      (Index.mk ∅ (lastByLocation (Forest.nodes [filledUnit]))).lookup.definition
          (entries.map (·.location)) =
        .ok (.mk ⟨some "ContractDefinition", some 1, some (.str "+0: 1_2:٠"), []⟩ []) := by
  have hlocation : Location.parse? "+0: 1_2:٠" = some ⟨0, 12, 0⟩ := by decide +kernel
  have hdecode : SourceMap.decode ("+0: 1_2:٠" ++ ":i;;3") =
      .ok [⟨⟨0, 12, 0⟩, "i", 0⟩, ⟨⟨0, 12, 0⟩, "i", 0⟩, ⟨⟨3, 12, 0⟩, "i", 0⟩] := by
    rfl
  have hlisted : Forest.preorderOfAll [] [filledUnit] 0 =
      [⟨[0], filledUnit⟩] ++ ⟨[0, 0], filledUnit.children[0]⟩ :: [] := rfl
  obtain ⟨-, hall⟩ := definition_of_spelling hlisted rfl hlocation (by simp)
  have hend : ∀ c ∈ ":i;;3".toList.head?, c = ':' ∨ c = ';' := by
    rintro c ⟨⟩
    exact Or.inl rfl
  obtain ⟨-, -, hdefinition⟩ := hall ":i;;3" _ hend hdecode
  exact ⟨_, hdecode, rfl, (hdefinition ∅).1 (by decide +kernel)⟩

/-- A contract that has an id beyond the digit limit. -/
def longContract : Node :=
  .mk ⟨some "ContractDefinition", some Number.leastLong, some (.str "0:9:0"), []⟩ []

/-- Not every node is found by the spelling of its location, even if it is the only node. -/
theorem not_all_spellings_find_the_node :
    ¬∀ (node : Node) (source : String) (location : Location) (index : Index)
      (entries : List SourceMapEntry), node.children = [] →
      node.header.source? = some (.str source) → Location.parse? source = some location →
      Index.ofForest [node] = .ok index → SourceMap.decode source = .ok entries →
      index.lookup.definition (entries.map (·.location)) = .ok node := by
  intro hall
  have hnodes : Forest.nodes [longContract] = [⟨[0], longContract⟩] :=
    Forest.nodes_eq_preorderOfAll [longContract]
  have hlocation : Location.parse? "0:9:0" = some ⟨0, 9, 0⟩ := by decide +kernel
  obtain ⟨index, hindex⟩ := exists_ofForest_eq_ok_iff.mpr
    (show Forest.IsIndexable [longContract] by
      rw [Forest.IsIndexable, hnodes]
      exact List.pairwise_singleton _ _)
  have hfound : index.byLocation.get? ⟨0, 9, 0⟩ = some ⟨[0], longContract⟩ := by
    rw [← (ofForest_eq_ok_iff.mp hindex).2, get?_byLocation_eq_some_iff, hnodes]
    exact ⟨[], [], rfl, hlocation, by simp⟩
  have hshow : longContract.isShowable = false := by
    rw [Node.isShowable_of_source?_eq_str rfl]
    simp only [longContract, Node.id?, Node.header, Option.all_some, Number.isShowable_leastLong]
  have hdecode : SourceMap.decode "0:9:0" = .ok [⟨⟨0, 9, 0⟩, "-", 0⟩] :=
    SourceMap.decode_of_parse? hlocation
  have hdefinition := hall longContract "0:9:0" _ index _ rfl rfl hlocation hindex hdecode
  rw [definition_lookup_of_head? rfl hfound, hshow, noting_false] at hdefinition
  cases hdefinition

end Index

end SolidityLayout.Ast
