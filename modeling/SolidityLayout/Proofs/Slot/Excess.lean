import SolidityLayout.Proofs.Ast.Lookup
import SolidityLayout.Proofs.Slot.NormalForm

/-!
# Numbers beyond a limit

The slot type of a node can be shown and is read without any failure but the
errors of a layout computation, unless some number in the tree of the node is
beyond a limit.  Each way in which that can happen is a way for a node to exceed
a limit, and every step of the classification passes it on to the whole tree.
-/

namespace SolidityLayout

open Ast Text Number Attempt

/-! ## Excesses of nodes -/

namespace Ast.Node

/-- A node accounts for a failure that is no error of a layout computation by a
number beyond a limit. -/
inductive Exceeds (node : Node) : Failure → Prop
  /-- An ancestor's id is outside the range of floating-point numbers. -/
  | ancestor {entries : List Json} {id : Int} :
      node.attribute? "linearizedBaseContracts" = some (.arr entries) →
      .int id ∈ entries → Binary64.isTooLarge id = true → Exceeds node .tooLarge
  /-- A type name has a number beyond the digit limit. -/
  | typeName {text : String} {word : List Char} :
      node.textAttribute? "type" = some text → firstWord? text.toList = some word →
      Abi.Grammar.hasLongNumber (Abi.expandAliases word) = true →
      Exceeds node .longTypeNumber
  /-- The length of an array is beyond the digit limit. -/
  | length {value : Json} {length : Int} :
      node.attribute? "value" = some value → ArrayLength.integer? value = some length →
      Number.isShowable length = false → Exceeds node .longNumber
  /-- An attribute holds an integer beyond the digit limit. -/
  | attribute {key : String} {value : Json} :
      node.attribute? key = some value → value.isShowable = false →
      Exceeds node .longNumber
  /-- The id or the source location holds an integer beyond the digit limit. -/
  | label : node.isShowable = false → Exceeds node .longNumber

/-- A failure is an error of a layout computation, or some node in a tree
accounts for it. -/
def Admits (tree : Node) (failure : Failure) : Prop :=
  (∃ error, failure = .layout error) ∨
    ∃ node : Node, node.IsWithin tree ∧ node.Exceeds failure

variable {node tree child : Node} {failure : Failure}

theorem Exceeds.admits (h : node.Exceeds failure) : node.Admits failure :=
  Or.inr ⟨node, .root node, h⟩

theorem Admits.of_isWithin (h : node.Admits failure) (hnode : node.IsWithin tree) :
    tree.Admits failure := by
  rcases h with herror | ⟨inner, hinner, hexceeds⟩
  · exact Or.inl herror
  · exact Or.inr ⟨inner, hinner.trans hnode, hexceeds⟩

/-- The failure for an error is admitted if the node holds whatever keeps the
error from being put into words. -/
theorem admits_failure {error : LayoutError}
    (h : error.isShowable = false → node.Exceeds .longNumber) :
    node.Admits error.failure := by
  rw [LayoutError.failure]
  split
  · exact Or.inl ⟨error, rfl⟩
  · rename_i hshow
    exact (h (Bool.eq_false_iff.mpr hshow)).admits

/-- An attempt ends with a failure that a tree admits, or with a value that
satisfies `Q` unless the tree holds a number that is too long. -/
def Bounds {α : Type} (tree : Node) (Q : α → Prop) (attempt : Except Failure α) : Prop :=
  Ends (fun a => Q a ∨ tree.Admits .longNumber) tree.Admits attempt

namespace Bounds

variable {α β : Type} {Q Q' : α → Prop} {attempt : Except Failure α}

theorem of_isWithin (h : node.Bounds Q attempt) (hnode : node.IsWithin tree) :
    tree.Bounds Q attempt :=
  h.mono (fun _ ha => ha.imp_right fun hlong => hlong.of_isWithin hnode)
    fun _ hfailure => hfailure.of_isWithin hnode

theorem imp (h : node.Bounds Q attempt)
    (hQ : ∀ a, Q a → Q' a ∨ node.Admits .longNumber) : node.Bounds Q' attempt :=
  h.mono (fun a ha => ha.elim (hQ a) Or.inr) fun _ => id

theorem map {f : α → β} {R : β → Prop}
    (h : node.Bounds (fun a => R (f a)) attempt) : node.Bounds R (attempt.map f) :=
  Ends.map h

end Bounds

/-- A node that is noted admits the failure of the note. -/
theorem bounds_noting {α : Type} {Q : α → Prop} {attempt : Except Failure α}
    (h : node.Bounds Q attempt) : node.Bounds Q (noting node.isShowable attempt) := by
  cases hshow : node.isShowable with
  | true => exact h
  | false => exact (Exceeds.label hshow).admits

end Ast.Node

/-! ## Types of nodes -/

theorem ArrayLength.bounds_ofNode (node : Node) :
    node.Bounds (fun n : Nat => Number.isShowable n = true) (ofNode node) := by
  unfold ofNode
  split
  · exact Node.admits_failure fun hshow => .label hshow
  · split
    · exact Node.admits_failure fun hshow => .label hshow
    · exact Node.admits_failure fun hshow => .label hshow
    · rename_i value _ _ hvalue
      unfold ofValue
      split
      · exact Node.admits_failure fun hshow => .attribute hvalue hshow
      · rename_i length hlength
        by_cases hshow : Number.isShowable length = true
        · exact Or.inl hshow
        · exact Or.inr (Node.Exceeds.length hvalue hlength
            (Bool.eq_false_iff.mpr hshow)).admits
      · rename_i length _ hlength
        exact Node.admits_failure fun hshow => .length hvalue hlength hshow

namespace AbiType

theorem bounds_ofUnknown (header : Header) (children : List Node) :
    (Node.mk header children).Bounds (fun t => t.isShowable = true) (ofUnknown header) :=
  Node.bounds_noting (Or.inl ⟨_, rfl⟩)

theorem bounds_ofLeaf (header : Header) (children : List Node) :
    (Node.mk header children).Bounds (fun t => t.isShowable = true)
      (ofLeaf Abi.readName header) := by
  unfold ofLeaf
  split
  · split
    · rename_i word hword
      obtain ⟨text, htext, hfirst⟩ := Option.bind_eq_some_iff.mp hword
      have htype : (Node.mk header children).textAttribute? "type" = some text := htext
      cases hread : Abi.readName (String.ofList word) with
      | ok t => exact Or.inl (Abi.readName_sound hread).2
      | error failure =>
          rcases Abi.readName_eq_error hread with ⟨reason, rfl⟩ | ⟨rfl, hlong⟩
          · exact Or.inl ⟨_, rfl⟩
          · rw [String.toList_ofList] at hlong
            exact (Node.Exceeds.typeName htype hfirst hlong).admits
    · exact bounds_ofUnknown header children
  · exact Or.inl rfl
  · exact bounds_ofUnknown header children

theorem bounds_ofNode (node : Node) :
    node.Bounds (fun t => t.isShowable = true) (ofNode Abi.readName node) := by
  induction node using ofNode.induct with
  | case1 header element htag ih =>
      have helement : element.IsWithin (.mk header [element]) :=
        Node.isWithin_of_mem_children (by simp [Node.children])
      rw [ofNode, if_pos htag]
      exact Node.Bounds.map (ih.of_isWithin helement)
  | case2 header element htag =>
      rw [ofNode, if_neg htag]
      exact bounds_ofLeaf header _
  | case3 header element size htag failure hsize =>
      have hwithin : size.IsWithin (.mk header [element, size]) :=
        Node.isWithin_of_mem_children (by simp [Node.children])
      have hlength := (ArrayLength.bounds_ofNode size).of_isWithin hwithin
      rw [ofNode, if_pos htag, hsize]
      exact hlength.of_eq_error hsize
  | case4 header element size htag length hsize ih =>
      have helement : element.IsWithin (.mk header [element, size]) :=
        Node.isWithin_of_mem_children (by simp [Node.children])
      have hwithin : size.IsWithin (.mk header [element, size]) :=
        Node.isWithin_of_mem_children (by simp [Node.children])
      have hlength := (ArrayLength.bounds_ofNode size).of_isWithin hwithin
      rw [ofNode, if_pos htag, hsize]
      refine Node.Bounds.map ((ih.of_isWithin helement).imp fun t ht => ?_)
      -- The array can be shown if its length can be shown too.
      refine (hlength.of_eq_ok hsize).imp_left fun hn => ?_
      rw [isShowable, ht, hn]
      rfl
  | case5 header element size htag =>
      rw [ofNode, if_neg htag]
      exact bounds_ofLeaf header _
  | case6 header children hone htwo =>
      rw [ofNode]
      · exact bounds_ofLeaf header _
      · exact hone
      · exact htwo

end AbiType

namespace SlotType

theorem bounds_ofNode (node : Node) :
    node.Bounds (fun t => t.isShowable = true) (ofNode Abi.readName node) := by
  cases node with
  | mk header children =>
      unfold ofNode
      split
      · exact Node.admits_failure fun hshow => .label hshow
      · split
        · unfold ofMappingNodes
          split
          · rename_i key value
            have hkeyWithin : key.IsWithin (.mk header [key, value]) :=
              Node.isWithin_of_mem_children (by simp [Node.children])
            have hvalueWithin : value.IsWithin (.mk header [key, value]) :=
              Node.isWithin_of_mem_children (by simp [Node.children])
            have hkey := (bounds_ofNode key).of_isWithin hkeyWithin
            have hvalue := (bounds_ofNode value).of_isWithin hvalueWithin
            split
            · rename_i failure hk
              exact hkey.of_eq_error hk
            · rename_i failure hv
              exact hvalue.of_eq_error hv
            · rename_i k v hk hv
              split
              · exact Or.inl ⟨_, rfl⟩
              · rcases hkey.of_eq_ok hk with hkeyShow | hlong
                · exact (hvalue.of_eq_ok hv).imp_left (isShowable_nest hkeyShow)
                · exact Or.inr hlong
          · exact Or.inl ⟨_, rfl⟩
        · refine Node.Bounds.map
            ((AbiType.bounds_ofNode (.mk header children)).imp fun t ht => Or.inl ?_)
          rw [isShowable, ofValue, ht]
          rfl

theorem bounds_ofDeclaration (node : Node) :
    node.Bounds (fun t => t.isShowable = true) (ofDeclaration Abi.readName node) := by
  unfold ofDeclaration
  split
  · exact Node.admits_failure fun hshow => .label hshow
  · rename_i type rest hchildren
    have htype : type.IsWithin node :=
      Node.isWithin_of_mem_children (by simp [hchildren])
    exact (bounds_ofNode type).of_isWithin htype

end SlotType

end SolidityLayout
