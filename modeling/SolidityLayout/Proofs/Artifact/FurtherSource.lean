import SolidityLayout.Proofs.Artifact.MemberOrder
import SolidityLayout.Proofs.Contract.Correspondence

/-!
# A further source

A source file that is added behind the others cannot take an id away from their
nodes, since an id refers to the first node that has it.  It can take a location.
A layout that is there stays as it is, whatever ids the new file uses, as long as
it has no node where the definition of the contract stands.  Only if an id beyond
the digit limit comes again does the output lose its index.
-/

namespace SolidityLayout

open Ast Attempt

/-! ## Indices that grow -/

/-- The second lookup knows the ids of the first one, and refers with them to the
same nodes. -/
def NodeLookup.Extends (lookup other : NodeLookup) : Prop :=
  ∀ id n, lookup.withId? id = some n → other.withId? id = some n

namespace Ast.Index

section Append

variable {trees : List Node} {tree : Node} {index index' : Index}
variable (hindex : ofForest trees = .ok index)
variable (hindex' : ofForest (trees ++ [tree]) = .ok index')

include hindex hindex'

theorem extends_append : index.lookup.Extends index'.lookup := by
  intro id n h
  have hfound : index.withId? id = some n := h
  change index'.withId? id = some n
  rw [withId?_eq_find? hindex] at hfound
  rw [withId?_eq_find? hindex', List.flatMap_append, List.find?_append, hfound, Option.some_or]

theorem atLocation?_append {location : Location} (h : ¬tree.HasLocation location) :
    index'.atLocation? location = index.atLocation? location := by
  rw [atLocation?_eq_find? hindex, atLocation?_eq_find? hindex', List.flatMap_append,
    List.flatMap_singleton, List.reverse_append, List.find?_append,
    Node.find?_eq_none_of_not_hasLocation h, Option.none_or]

end Append

end Ast.Index

namespace Layout

variable {lookup other : NodeLookup} {reader : TypeReader}

theorem variablesOf_of_extends (h : lookup.Extends other) {id : Int}
    {vs : List StorageVariable} (hvs : variablesOf lookup reader id = .ok vs) :
    variablesOf other reader id = .ok vs := by
  obtain ⟨contract, owner, hfound, hdeclares⟩ := variablesOf_eq_ok_iff.mp hvs
  exact variablesOf_eq_ok_iff.mpr ⟨contract, owner, h id contract hfound, hdeclares⟩

/-- A layout is the same with a lookup that knows more ids and locates the
definition alike. -/
theorem ofLocations_of_extends (h : lookup.Extends other) {locations : List Location}
    (hlocated : ∀ location ∈ locations.head?,
      other.atLocation? location = lookup.atLocation? location)
    {layout : Layout} (hlayout : ofLocations lookup reader locations = .ok layout) :
    ofLocations other reader locations = .ok layout := by
  have hdefinition : other.definition locations = lookup.definition locations := by
    cases locations with
    | nil => rfl
    | cons location rest =>
        rw [NodeLookup.definition, NodeLookup.definition, hlocated location rfl]
  rw [ofLocations_eq_bind, bind_eq_ok_iff] at hlayout
  obtain ⟨contract, hcontract, hlayout⟩ := hlayout
  obtain ⟨ids, hids, hlayout⟩ := bind_eq_ok_iff.mp hlayout
  obtain ⟨groups, hgroups, rfl⟩ := map_eq_ok_iff.mp hlayout
  have hgroups' : ids.mapM (variablesOf other reader) = .ok groups := by
    rw [mapM_eq_ok_iff] at hgroups ⊢
    exact hgroups.imp fun _ _ => variablesOf_of_extends h
  rw [ofLocations_eq_bind, hdefinition]
  apply bind_eq_ok_iff.mpr
  refine ⟨contract, hcontract, bind_eq_ok_iff.mpr ⟨ids, hids, ?_⟩⟩
  exact map_eq_ok_iff.mpr ⟨groups, hgroups', rfl⟩

end Layout

/-! ## Output with a further source -/

namespace Artifacts

variable {output output' : Json} {members members' sources entries : Json.Members}
variable {source : String × Json} {trees : List Node} {tree : Node}

theorem hasTrees_append
    (h : HasTrees output members sources entries trees)
    (h' : HasSections output' members' (sources ++ [source]) entries)
    (htree : treeOf source.1 source.2 = .ok tree) :
    HasTrees output' members' (sources ++ [source]) entries (trees ++ [tree]) :=
  ⟨h', List.rel_append h.isTreeOf (.cons (treeOf_eq_ok_iff.mp htree) .nil)⟩

/-- Output with a further source behind the others is loaded too, unless some id
beyond the digit limit comes again in the tree of that source.  The layouts that
were there are there again, whatever ids the tree uses, except where one of its
nodes stands at the first location of the creation code. -/
theorem layout_of_append
    {a : Artifacts}
    (h : HasSections output members sources entries)
    (h' : HasSections output' members' (sources ++ [source]) entries)
    (hlisted : members'.get? "sourceList" = members.get? "sourceList")
    (htrees : (sources.mapM fun source => treeOf source.1 source.2) = .ok trees)
    (htree : treeOf source.1 source.2 = .ok tree)
    (hload : load output = .ok a) :
    (Forest.IsIndexable (trees ++ [tree]) → ∃ a', load output' = .ok a') ∧
    (¬Forest.IsIndexable (trees ++ [tree]) → load output' = .error .longNumber) ∧
    ∀ a', load output' = .ok a' → ∀ reader name layout, a.layout reader name = .ok layout →
      (∀ c, find a.contracts name = .ok c →
        ∀ location ∈ c.creationLocations.head?, ¬tree.HasLocation location) →
      a'.layout reader name = .ok layout := by
  have hall : HasTrees output members sources entries trees := ⟨h, trees_eq_ok_iff.mp htrees⟩
  have hall' := hasTrees_append hall h' htree
  obtain ⟨index, contracts, hindex, hcontracts, hshow, rfl⟩ :=
    (load_eq_ok_iff_of_hasTrees hall).mp hload
  refine ⟨?_, ?_, ?_⟩
  · intro hindexable
    obtain ⟨index', hindex'⟩ := Index.exists_ofForest_eq_ok_iff.mpr hindexable
    exact ⟨_, (load_eq_ok_iff_of_hasTrees hall').mpr ⟨index', contracts, hindex', hcontracts,
      isShowable_of_mem_listedSources _ hlisted hshow, rfl⟩⟩
  · intro hlost
    exact (load_eq_error_iff hall').mpr (Or.inl ⟨rfl, hlost⟩)
  · intro a' hload' reader name layout hlayout hfresh
    obtain ⟨index', contracts', hindex', hcontracts', -, rfl⟩ :=
      (load_eq_ok_iff_of_hasTrees hall').mp hload'
    obtain rfl := Except.ok.inj (hcontracts.symm.trans hcontracts')
    rw [Artifacts.layout] at hlayout ⊢
    cases hfound : find (contracts.foldl addContract []) name with
    | error f =>
        rw [hfound] at hlayout
        cases hlayout
    | ok c =>
        rw [hfound] at hlayout
        apply Layout.ofLocations_of_extends (Index.extends_append hindex hindex') _ hlayout
        intro location hlocation
        exact Index.atLocation?_append hindex hindex' (hfresh c hfound location hlocation)

/-- The tree of a source file of which nothing is known but an id beyond the digit
limit. -/
def longTree : Json.Members :=
  [("id", .int Number.leastLong), ("name", .str "SourceUnit")]

theorem isIndexable_openTree_longTree :
    Forest.IsIndexable [.ofJson (.obj openTree), .ofJson (.obj longTree)] := by
  decide +kernel

theorem not_isIndexable_openTree_longTree_longTree :
    ¬Forest.IsIndexable
      [.ofJson (.obj openTree), .ofJson (.obj longTree), .ofJson (.obj longTree)] := by
  decide +kernel

/-- The first contract keeps its layout when a file is added that uses its id again. -/
theorem layout_of_append_pausedTree :
    ∃ a', load (.obj (tokenOutput
        [tokenFile "a.sol" openTree, tokenFile "b.sol" (pausedTree 1)]
        [tokenEntry "a.sol:Token" "0:80:0"])) = .ok a' ∧
      a'.layout (fun name => .ok (.elementary name)) "a.sol:Token" =
        .ok ⟨some "Token", [1], [⟨"open", "Token", .ofValue (.elementary "bool")⟩]⟩ := by
  have hsections := hasSections_tokenOutput [tokenFile "a.sol" openTree]
    [tokenEntry "a.sol:Token" "0:80:0"]
  have hlonger := hasSections_tokenOutput
    ([tokenFile "a.sol" openTree] ++ [tokenFile "b.sol" (pausedTree 1)])
    [tokenEntry "a.sol:Token" "0:80:0"]
  have hindexable : Forest.IsIndexable
      [.ofJson (.obj openTree), .ofJson (.obj (pausedTree 1))] := by decide +kernel
  obtain ⟨index, hindex⟩ := Index.exists_ofForest_eq_ok_iff.mpr
    (Forest.IsIndexable.of_append_left hindexable : Forest.IsIndexable [.ofJson (.obj openTree)])
  obtain ⟨hloads, -, hkept⟩ := layout_of_append hsections hlonger rfl rfl rfl
    (load_tokenOutput rfl hindex rfl)
  obtain ⟨a', ha'⟩ := hloads hindexable
  refine ⟨a', ha', hkept a' ha' _ _ _ ?_ ?_⟩
  · exact ofLocations_openTree (Index.atLocation?_eq_find? hindex _)
      (Index.withId?_eq_find? hindex _)
  · intro c hc location hlocation hfurther
    cases hc
    cases hlocation
    exact absurd hfurther (by decide +kernel)

/-- Not every layout that is there stays when a source is added, even if the nodes of
the new source have no location at all. -/
theorem not_all_appended_sources_keep_layouts :
    ¬∀ (sources entries : Json.Members) (source : String × Json) (tree : Node) (a : Artifacts),
      treeOf source.1 source.2 = .ok tree →
      load (.obj (tokenOutput sources entries)) = .ok a →
      (∀ location, ¬tree.HasLocation location) →
      ∀ reader name layout, a.layout reader name = .ok layout →
        ∃ a', load (.obj (tokenOutput (sources ++ [source]) entries)) = .ok a' ∧
          a'.layout reader name = .ok layout := by
  intro hall
  obtain ⟨index, hindex⟩ := Index.exists_ofForest_eq_ok_iff.mpr isIndexable_openTree_longTree
  have hload := @load_tokenOutput [tokenFile "a.sol" openTree, tokenFile "b.sol" longTree] _
    index _ [tokenEntry "a.sol:Token" "0:80:0"] rfl hindex rfl
  have hlocation (location : Location) : ¬(Node.ofJson (.obj longTree)).HasLocation location := by
    have hnone : ∀ n ∈ (Node.ofJson (.obj longTree)).listing, n.location? = none := by
      decide +kernel
    rintro ⟨n, hn, h⟩
    rw [hnone n hn] at h
    cases h
  obtain ⟨a', ha', -⟩ := hall [tokenFile "a.sol" openTree, tokenFile "b.sol" longTree]
    [tokenEntry "a.sol:Token" "0:80:0"] (tokenFile "c.sol" longTree) _ _ rfl hload hlocation
    (fun name => .ok (.elementary name)) "a.sol:Token" _
    (ofLocations_openTree (Index.atLocation?_eq_find? hindex _)
      (Index.withId?_eq_find? hindex _))
  have hlonger := hasSections_tokenOutput
    [tokenFile "a.sol" openTree, tokenFile "b.sol" longTree, tokenFile "c.sol" longTree]
    [tokenEntry "a.sol:Token" "0:80:0"]
  have hfails := (load_eq_error_iff ⟨hlonger, trees_eq_ok_iff.mp rfl⟩).mpr
    (Or.inl ⟨rfl, not_isIndexable_openTree_longTree_longTree⟩)
  cases hfails.symm.trans ha'

end Artifacts

end SolidityLayout
