import Mathlib.Data.List.Nodup
import SolidityLayout.Proofs.Ast.Lookup
import SolidityLayout.Proofs.Ast.Preorder
import SolidityLayout.Proofs.Ast.TreeOrder
import SolidityLayout.Proofs.Number.Range

/-!
# The contents of an index

An index holds the first node of every id and the last node of every location, in
pre-order, and nothing else.  The last node of a location lies inside all others on one
path, because the nodes below a node come behind it.  The index of the ids fails for an
id beyond the digit limit that comes twice, and for no other reason.
-/

namespace SolidityLayout.Ast

/-! ## First and last nodes -/

/-- A node is the first one in a list with a property. -/
def Occurrence.IsFirst (P : Occurrence → Prop) (listing : List Occurrence) (o : Occurrence) :
    Prop :=
  ∃ before after, listing = before ++ o :: after ∧ P o ∧ ∀ p ∈ before, ¬P p

/-- A node is the last one in a list with a property. -/
def Occurrence.IsLast (P : Occurrence → Prop) (listing : List Occurrence) (o : Occurrence) :
    Prop :=
  ∃ before after, listing = before ++ o :: after ∧ P o ∧ ∀ p ∈ after, ¬P p

/-- Nodes of a list are shared with none but themselves exactly if no two items of the list are
shared, provided that the items stand at different places. -/
theorem Occurrence.pairwise_not_iff {R : Node → Node → Prop} (hsymm : ∀ n m, R n m → R m n)
    {listing : List Occurrence} (hplaces : (listing.map (·.place)).Nodup) :
    (listing.Pairwise fun o p => ¬R o.node p.node) ↔
      ∀ o ∈ listing, ∀ p ∈ listing, R o.node p.node → o.place = p.place := by
  constructor
  · intro h o ho p hp hR
    by_contra hplace
    have : Std.Symm fun o p : Occurrence => ¬R o.node p.node :=
      ⟨fun _ _ hnot hback => hnot (hsymm _ _ hback)⟩
    exact h.forall ho hp (fun heq => hplace (congrArg Occurrence.place heq)) hR
  · intro h
    apply (List.Nodup.of_map _ hplaces).pairwise_of_forall_ne
    intro o ho p hp hne hR
    exact hne (List.inj_on_of_nodup_map hplaces ho hp (h o ho p hp hR))

theorem Node.ShareLongId.symm {n m : Node} (h : n.ShareLongId m) : m.ShareLongId n := by
  obtain ⟨id, hn, hm, hlong⟩ := h
  exact ⟨id, hm, hn, hlong⟩

namespace Index

variable {trees : List Node} {o p : Occurrence} {id : Int} {location : Location}
variable {byId : Std.TreeMap Int Occurrence}

theorem get?_byId_eq_some_iff (h : firstById (Forest.nodes trees) = .ok byId) :
    byId.get? id = some o ↔
      Occurrence.IsFirst (·.node.id? = some id) (Forest.nodes trees) o := by
  rw [Std.TreeMap.get?_eq_getElem?, getElem?_of_firstById h, List.find?_eq_some_iff_append]
  constructor
  · rintro ⟨ho, before, after, hsplit, hbefore⟩
    exact ⟨before, after, hsplit, by simpa using ho, by simpa using hbefore⟩
  · rintro ⟨before, after, hsplit, ho, hbefore⟩
    exact ⟨by simpa using ho, before, after, hsplit, by simpa using hbefore⟩

theorem get?_byLocation_eq_some_iff :
    (lastByLocation (Forest.nodes trees)).get? location = some o ↔
      Occurrence.IsLast (·.node.location? = some location) (Forest.nodes trees) o := by
  rw [Std.TreeMap.get?_eq_getElem?, getElem?_lastByLocation, List.findRev?_eq_find?_reverse,
    List.find?_eq_some_iff_append]
  constructor
  · rintro ⟨ho, after, before, hsplit, hafter⟩
    refine ⟨before.reverse, after.reverse, ?_, by simpa using ho, by simpa using hafter⟩
    rw [← List.reverse_reverse (Forest.nodes trees), hsplit]
    simp
  · rintro ⟨before, after, hsplit, ho, hafter⟩
    refine ⟨by simpa using ho, after.reverse, before.reverse, ?_, by simpa using hafter⟩
    rw [hsplit]
    simp

theorem mem_byId_iff (h : firstById (Forest.nodes trees) = .ok byId) :
    id ∈ byId ↔ ∃ o ∈ Forest.nodes trees, o.node.id? = some id := by
  rw [Std.TreeMap.mem_iff_isSome_getElem?, getElem?_of_firstById h, List.find?_isSome]
  simp

theorem mem_byLocation_iff :
    location ∈ lastByLocation (Forest.nodes trees) ↔
      ∃ o ∈ Forest.nodes trees, o.node.location? = some location := by
  rw [Std.TreeMap.mem_iff_isSome_getElem?, getElem?_lastByLocation,
    List.findRev?_eq_find?_reverse, List.find?_isSome]
  simp

/-! ## Nodes inside others -/

/-- The node that is kept at a location has no other node of that location below it. -/
theorem location?_ne_of_isBelow
    (ho : (lastByLocation (Forest.nodes trees)).get? location = some o) (hp : p.IsBelow o) :
    p.node.location? ≠ some location := by
  obtain ⟨before, after, hsplit, -, hafter⟩ := get?_byLocation_eq_some_iff.mp ho
  exact hafter p (Forest.mem_after_of_isBelow hsplit hp)

/-- On a path that holds all nodes of a location, the node that is kept there is the
deepest of them. -/
theorem eq_or_isBelow_of_isChain
    (ho : (lastByLocation (Forest.nodes trees)).get? location = some o) {path : List Occurrence}
    (hpath : path.IsChain fun o p => p.IsChild o)
    (hall : ∀ p ∈ Forest.nodes trees, p.node.location? = some location → p ∈ path)
    (hp : p ∈ Forest.nodes trees) (hlocation : p.node.location? = some location) :
    p = o ∨ o.IsBelow p := by
  obtain ⟨before, after, hsplit, hown, -⟩ := get?_byLocation_eq_some_iff.mp ho
  have hoPath := hall o (by rw [hsplit]; simp) hown
  rcases Forest.isBelow_or_isBelow_of_isChain hpath hoPath (hall p hp hlocation) with
    rfl | hbelow | hbelow
  · exact Or.inl rfl
  · exact (location?_ne_of_isBelow ho hbelow hlocation).elim
  · exact Or.inr hbelow

/-- What the two indices of a forest hold, with nodes told apart by their places: the first
node in pre-order of every id, and the last one of every location, which is an innermost
one.  There is no index of the ids if nodes at two places share one that is beyond the
digit limit. -/
theorem contents_of_indices (trees : List Node) :
    let listing := Forest.preorderOfAll [] trees 0
    let byLocation := lastByLocation (Forest.nodes trees)
    (listing.map (·.place)).Nodup ∧
      (∀ byId, firstById (Forest.nodes trees) = .ok byId →
        (∀ id, id ∈ byId ↔ ∃ o ∈ listing, o.node.id? = some id) ∧
        ∀ id o, byId.get? id = some o ↔
          Occurrence.IsFirst (·.node.id? = some id) listing o) ∧
      ((∃ byId, firstById (Forest.nodes trees) = .ok byId) ↔
        ∀ o ∈ listing, ∀ p ∈ listing, o.node.ShareLongId p.node → o.place = p.place) ∧
      (∀ failure, firstById (Forest.nodes trees) = .error failure → failure = .longNumber) ∧
      (∀ location, location ∈ byLocation ↔
        ∃ o ∈ listing, o.node.location? = some location) ∧
      (∀ location o, byLocation.get? location = some o ↔
        Occurrence.IsLast (·.node.location? = some location) listing o) ∧
      ∀ location o, byLocation.get? location = some o →
        (∀ p : Occurrence, p.IsBelow o → p.node.location? ≠ some location) ∧
        ∀ path : List Occurrence, path.IsChain (fun o p => p.IsChild o) →
          (∀ p ∈ listing, p.node.location? = some location → p ∈ path) →
          ∀ p ∈ listing, p.node.location? = some location → p = o ∨ o.IsBelow p := by
  intro listing byLocation
  have hlisting : listing = Forest.nodes trees := (Forest.nodes_eq_preorderOfAll trees).symm
  have hplaces := Forest.nodup_place_nodes trees
  rw [hlisting]
  refine ⟨hplaces, fun _ h => ⟨fun _ => mem_byId_iff h, fun _ _ => get?_byId_eq_some_iff h⟩, ?_,
    fun _ => eq_longNumber_of_firstById, fun _ => mem_byLocation_iff,
    fun _ _ => get?_byLocation_eq_some_iff, ?_⟩
  · rw [exists_firstById_eq_ok_iff]
    exact Occurrence.pairwise_not_iff (fun _ _ h => h.symm) hplaces
  · intro location o ho
    refine ⟨fun p hp => location?_ne_of_isBelow ho hp, ?_⟩
    intro path hpath hall p hp hlocation
    exact eq_or_isBelow_of_isChain ho hpath hall hp hlocation

/-- A contract definition at the location of the source unit around it. -/
def filledBy : Node :=
  .mk ⟨some "ContractDefinition", some 1, some (.str "0:9:0"), []⟩ []

/-- A source unit that is filled by its only contract. -/
def filled : Node :=
  .mk ⟨some "SourceUnit", some 2, some (.str "0:9:0"), []⟩ [filledBy]

/-- Another source unit, with the id of the contract. -/
def unplaced : Node :=
  .mk ⟨some "SourceUnit", some 1, none, []⟩ []

theorem contents_of_indices_filled :
    let byLocation := lastByLocation (Forest.nodes [filled, unplaced])
    let unit : Occurrence := ⟨[0], filled⟩
    let contract : Occurrence := ⟨[0, 0], filledBy⟩
    (∃ byId, firstById (Forest.nodes [filled, unplaced]) = .ok byId ∧
      byId.get? 1 = some contract) ∧
      byLocation.get? ⟨0, 9, 0⟩ = some contract ∧ contract.IsBelow unit := by
  intro byLocation unit contract
  obtain ⟨-, hid, hexists, -, -, hlocation, hinner⟩ := contents_of_indices [filled, unplaced]
  let other : Occurrence := ⟨[1], unplaced⟩
  have hlisting : Forest.preorderOfAll [] [filled, unplaced] 0 = [unit, contract, other] := rfl
  rw [hlisting] at hid hexists hlocation hinner
  have hunitAt : unit.node.location? = some ⟨0, 9, 0⟩ := rfl
  have hcontractAt : contract.node.location? = some ⟨0, 9, 0⟩ := rfl
  have hotherAt : other.node.location? = none := rfl
  have hshow : ∀ o ∈ [(⟨[0], filled⟩ : Occurrence), ⟨[0, 0], filledBy⟩, ⟨[1], unplaced⟩],
      o.node.id?.all Number.isShowable = true := by decide +kernel
  obtain ⟨byId, hbyId⟩ := hexists.mpr fun o ho p _ hshared => by
    obtain ⟨id, hown, -, hlong⟩ := hshared
    have hshort := hshow o ho
    rw [hown, Option.all_some, hlong] at hshort
    cases hshort
  have hfirst := ((hid byId hbyId).2 1 contract).mpr ⟨[unit], [other], rfl, rfl, by decide⟩
  have hlast : byLocation.get? ⟨0, 9, 0⟩ = some contract :=
    (hlocation _ contract).mpr ⟨[unit], [other], rfl, hcontractAt, by simp [hotherAt]⟩
  have hchild : contract.IsChild unit := List.mem_singleton.mpr rfl
  have hpath : [unit, contract].IsChain fun o p => p.IsChild o :=
    .cons_cons hchild (.singleton _)
  have hall : ∀ p ∈ [unit, contract, other], p.node.location? = some ⟨0, 9, 0⟩ →
      p ∈ [unit, contract] := by
    simp [hotherAt]
  refine ⟨⟨byId, hbyId, hfirst⟩, hlast, ?_⟩
  rcases (hinner _ contract hlast).2 _ hpath hall unit (by simp) hunitAt with heq | hbelow
  · exact absurd (congrArg Occurrence.place heq) (by decide)
  · exact hbelow

/-- A node of which nothing is known but an id beyond the digit limit. -/
def longNode : Node :=
  .mk ⟨none, some Number.leastLong, none, []⟩ []

/-- Not every forest has an index of the first node of every id. -/
theorem not_all_forests_have_id_index :
    ¬∀ trees : List Node, ∃ byId, firstById (Forest.nodes trees) = .ok byId ∧
      ∀ id o, byId.get? id = some o ↔
        Occurrence.IsFirst (·.node.id? = some id) (Forest.preorderOfAll [] trees 0) o := by
  intro hall
  obtain ⟨byId, hbyId, -⟩ := hall [longNode, longNode]
  have hnodes : Forest.nodes [longNode, longNode] = [⟨[0], longNode⟩, ⟨[1], longNode⟩] :=
    Forest.nodes_eq_preorderOfAll _
  have hapart := exists_firstById_eq_ok_iff.mp ⟨byId, hbyId⟩
  rw [hnodes, List.pairwise_pair] at hapart
  exact hapart ⟨Number.leastLong, rfl, rfl, Number.isShowable_leastLong⟩

end Index

end SolidityLayout.Ast
