import SolidityLayout.Proofs.Number.LiteralSpelling
import SolidityLayout.Proofs.Slot.Balance
import SolidityLayout.Proofs.Slot.Classification
import SolidityLayout.Proofs.Slot.RoundTrip

/-!
# Trees of types

A tree of types is built from value types and mappings, which may stand in each
other's key and value.  It can be written as a syntax tree and as a text, and
the classifier of nodes and the reader of texts make the same of it: the slot
type it stands for, or the failure that a mapping is used as a key.
-/

namespace SolidityLayout

open Ast Text Number

/-! ## Lengths of arrays -/

/-- A value in a syntax tree gives a length: as an integer, as a row of decimal
digits within the digit limit, or as hexadecimal digits behind their mark. -/
inductive IsLengthValue (n : Nat) : Json → Prop
  | integer : IsLengthValue n (.int n)
  | decimal {digits : List Char} (hne : digits ≠ [])
      (hdigits : ∀ c ∈ digits, isDigit c = true)
      (hlength : digits.length ≤ digitLimit)
      (hvalue : Nat.ofDigitChars 10 digits 0 = n) :
      IsLengthValue n (.str (String.ofList digits))
  | hexadecimal {x : Char} {digits : List Char} (hx : x = 'x' ∨ x = 'X')
      (hne : digits ≠ [])
      (hdigits : ∀ c ∈ digits, (hexDigitValue? c).isSome = true)
      (hvalue : ofDigits 16 (digits.filterMap hexDigitValue?) = n) :
      IsLengthValue n (.str (String.ofList ('0' :: x :: digits)))

/-- A node is a literal that gives a length. -/
def IsLengthNode (n : Nat) (node : Node) : Prop :=
  node.tag? = some "Literal" ∧
    ∃ value, node.attribute? "value" = some value ∧ IsLengthValue n value

namespace ArrayLength

theorem ofValue_str
    {cs : List Char} {n : Nat}
    (hascii : ∀ c ∈ cs, 33 ≤ c.toNat ∧ c.toNat ≤ 126)
    (hliteral : literal? cs = some n) :
    ofValue (.str (String.ofList cs)) = .ok n := by
  have hstrip : strip cs = cs :=
    trim_eq_self_of_forall fun c hc =>
      isBlank_eq_false_of_toNat (hascii c hc).1 (hascii c hc).2
  have hall : isAscii cs = true := by
    rw [isAscii, List.all_eq_true]
    intro c hc
    have h := hascii c hc
    simp only [decide_eq_true_eq]
    omega
  have hinteger : integer? (.str (String.ofList cs)) = some n := by
    simp only [integer?, String.toList_ofList, hall, hstrip, hliteral, if_true]
  rw [ofValue, hinteger]
  rfl

theorem ofValue_of_isLengthValue {n : Nat} {value : Json}
    (h : IsLengthValue n value) : ofValue value = .ok n := by
  cases h with
  | integer => rfl
  | decimal hne hdigits hlength hvalue =>
      apply ofValue_str
      · intro c hc
        have h := toNat_of_isDigit (hdigits c hc)
        omega
      · rw [literal?_of_forall_isDigit hne hdigits hlength, hvalue]
  | @hexadecimal x digits hx hne hdigits hvalue =>
      apply ofValue_str
      · intro c hc
        rcases List.mem_cons.mp hc with rfl | hc
        · decide
        · rcases List.mem_cons.mp hc with rfl | hc
          · rcases hx with rfl | rfl <;> decide
          · have h := toNat_of_hexDigitValue? (hdigits c hc)
            omega
      · rw [literal?_of_forall_hexDigitValue? hx hne hdigits, hvalue]

theorem ofNode_of_isLengthNode {n : Nat} {node : Node}
    (h : IsLengthNode n node) : ofNode node = .ok n := by
  obtain ⟨htag, value, hvalue, hlength⟩ := h
  have htagged : node.isTagged "Literal" = true := by
    rw [Node.isTagged, htag]
    rfl
  have hofValue := ofValue_of_isLengthValue hlength
  rw [ofNode, htagged, hvalue]
  cases hlength <;> exact hofValue

end ArrayLength

/-! ## Value types as nodes -/

namespace AbiType

/-- A node describes a value type.  An elementary type is named by the first
word of an attribute. -/
inductive IsDescribedBy : AbiType → Node → Prop
  | elementary {name text : String} {rest : List Char}
      {header : Header} {children : List Node}
      (htag : header.tag? = some "ElementaryTypeName")
      (htext : header.attributes.get? "type" = some (.str text))
      (hname : text.toList = name.toList ++ rest)
      (hrest : ∀ c ∈ rest.head?, isBlank c = true) :
      IsDescribedBy (.elementary name) (.mk header children)
  | dynamicArray {element : AbiType} {header : Header} {node : Node}
      (htag : header.tag? = some "ArrayTypeName")
      (helement : IsDescribedBy element node) :
      IsDescribedBy (.dynamicArray element) (.mk header [node])
  | fixedArray {size : Nat} {element : AbiType} {header : Header} {node literal : Node}
      (htag : header.tag? = some "ArrayTypeName")
      (helement : IsDescribedBy element node)
      (hsize : IsLengthNode size literal) :
      IsDescribedBy (.fixedArray size element) (.mk header [node, literal])

/-- The plainest node that describes a value type. -/
def node : AbiType → Node
  | elementary name =>
    .mk ⟨some "ElementaryTypeName", none, none, [("type", .str name)]⟩ []
  | dynamicArray element =>
    .mk ⟨some "ArrayTypeName", none, none, []⟩ [element.node]
  | fixedArray size element =>
    .mk ⟨some "ArrayTypeName", none, none, []⟩
      [element.node, .mk ⟨some "Literal", none, none, [("value", .int size)]⟩ []]

theorem isDescribedBy_node (t : AbiType) : t.IsDescribedBy t.node := by
  induction t with
  | elementary name =>
      exact .elementary rfl rfl (List.append_nil _).symm (by simp)
  | dynamicArray element ih => exact .dynamicArray rfl ih
  | fixedArray size element ih =>
      exact .fixedArray rfl ih ⟨rfl, _, rfl, .integer⟩

/-- The node of a value type with a name of the catalogue is classified as that
type. -/
theorem ofNode_of_isDescribedBy {t : AbiType} {node : Node}
    (ht : Abi.IsCatalogueName t.baseName) (h : t.IsDescribedBy node) :
    ofNode Abi.readName node = .ok t := by
  induction h with
  | @elementary name text rest header children htag htext hname hrest =>
      obtain ⟨e, rfl⟩ := ht
      have hword : firstWord? text.toList = some e.name.toList := by
        rw [hname]
        refine firstWord?_append e.name_toList_ne_nil ?_ hrest
        · exact fun _ hc => (e.isNameCharacter_of_mem_name hc).isBlank_eq_false
      rw [ofNode_of_tag_ne (by simp [htag]), ofLeaf, htag]
      simp only [htext, Option.bind_some, Header.text?, hword, String.ofList_toList]
      exact e.readName_name
  | dynamicArray htag _ ih =>
      rw [ofNode, if_pos htag, ih ht]
      rfl
  | fixedArray htag _ hsize ih =>
      rw [ofNode, if_pos htag, ArrayLength.ofNode_of_isLengthNode hsize, ih ht]
      rfl

end AbiType

/-! ## Trees -/

/-- A value type is legal if its name is in the catalogue and its sizes are
within the digit limit. -/
structure AbiType.IsLegal (t : AbiType) : Prop where
  listed : Abi.IsCatalogueName t.baseName
  sizes_lt : ∀ n ∈ t.sizes, n < Nat.pow 10 digitLimit

/-- A tree of legal value types and mappings. -/
inductive TypeTree
  | value (type : AbiType) (legal : type.IsLegal)
  | mapping (key inner : TypeTree)

namespace TypeTree

/-- The text of a tree. -/
def spelling : TypeTree → List Char
  | value type _ => type.spelling
  | mapping key inner => SlotType.mappingText key.spelling inner.spelling

/-- Whether a tree is a mapping. -/
def isMapping : TypeTree → Bool
  | value .. => false
  | mapping .. => true

/-- Whether a mapping stands in the position of a key. -/
def hasMappingKey : TypeTree → Bool
  | value .. => false
  | mapping key inner => key.isMapping || inner.hasMappingKey

/-- The value type at the end of a tree. -/
def core : TypeTree → AbiType
  | value type _ => type
  | mapping _ inner => inner.core

/-- The keys of the mappings in a tree from the outermost to the innermost. -/
def keys : TypeTree → List TypeTree
  | value .. => []
  | mapping key inner => key :: inner.keys

/-- The slot type of a tree whose keys are value types. -/
def slotType (tree : TypeTree) : SlotType :=
  ⟨tree.keys.map core, tree.core⟩

/-- A node describes a tree. -/
inductive IsDescribedBy : TypeTree → Node → Prop
  | value {type : AbiType} {legal : type.IsLegal} {node : Node}
      (htype : type.IsDescribedBy node) :
      IsDescribedBy (.value type legal) node
  | mapping {key inner : TypeTree} {header : Header} {keyNode innerNode : Node}
      (htag : header.tag? = some "Mapping")
      (hkey : key.IsDescribedBy keyNode) (hinner : inner.IsDescribedBy innerNode) :
      IsDescribedBy (.mapping key inner) (.mk header [keyNode, innerNode])

/-- The plainest node that describes a tree. -/
def node : TypeTree → Node
  | value type _ => type.node
  | mapping key inner =>
    .mk ⟨some "Mapping", none, none, []⟩ [key.node, inner.node]

theorem isDescribedBy_node (tree : TypeTree) : tree.IsDescribedBy tree.node := by
  induction tree with
  | value type legal => exact .value type.isDescribedBy_node
  | mapping key inner ihKey ihInner => exact .mapping rfl ihKey ihInner

/-! ## Outcomes -/

/-- What is made of a tree: its slot type, or the failure that a mapping is
used as a key. -/
def outcome (tree : TypeTree) : Except Failure SlotType :=
  if tree.hasMappingKey then .error (.layout (.mappingKey .mapping))
  else .ok tree.slotType

theorem isMapping_slotType (tree : TypeTree) :
    tree.slotType.isMapping = tree.isMapping := by
  cases tree <;> rfl

theorem isMapping_of_hasMappingKey {tree : TypeTree}
    (h : tree.hasMappingKey = true) : tree.isMapping = true := by
  cases tree with
  | value => cases h
  | mapping => rfl

/-- The outcome of a mapping from those of its parts: a failure in the key
comes first, then the rule for keys, and then the value. -/
theorem outcome_mapping (key inner : TypeTree) :
    (mapping key inner).outcome =
      key.outcome.bind fun k =>
        if k.isMapping then .error (.layout (.mappingKey .mapping))
        else inner.outcome.map (SlotType.nest k.value) := by
  cases hkey : key.isMapping with
  | true =>
      -- Whether the key fails or is read as a mapping, the failure is the same.
      have hwhole : (mapping key inner).hasMappingKey = true := by
        rw [hasMappingKey, hkey]
        rfl
      rw [outcome, if_pos hwhole, outcome]
      split
      · rfl
      · simp [Except.bind, isMapping_slotType, hkey]
  | false =>
      have hpart : key.hasMappingKey = false := by
        cases h : key.hasMappingKey with
        | false => rfl
        | true => rw [← hkey, isMapping_of_hasMappingKey h]
      have hwhole : (mapping key inner).hasMappingKey = inner.hasMappingKey := by
        rw [hasMappingKey, hkey]
        rfl
      rw [outcome, hwhole, outcome, hpart, outcome]
      simp only [Except.bind, Bool.false_eq_true, if_false, isMapping_slotType,
        hkey]
      split <;> rfl

/-! ## Texts -/

/-- The text of a tree can stand as the key of a mapping, whether or not it is
allowed there. -/
theorem isBalanced_spelling (tree : TypeTree) :
    SlotType.IsBalanced tree.spelling ∧ SlotType.IsEnclosed tree.spelling := by
  induction tree with
  | value type legal =>
      have hplain := SlotType.isPlainName_of_isCatalogueName legal.listed
      refine ⟨?_, SlotType.isEnclosed_spelling hplain⟩
      exact SlotType.isBalanced_of_not_mem
        (SlotType.not_mem_spelling hplain.noOpening (by decide) (by decide) (by decide))
        (SlotType.not_mem_spelling hplain.noClosing (by decide) (by decide) (by decide))
  | mapping key inner ihKey ihInner =>
      exact SlotType.isBalanced_mappingText ihKey.1 ihInner.1

/-- The text of a tree is read with the outcome of the tree. -/
theorem ofSpelling_spelling (tree : TypeTree) :
    SlotType.ofSpelling Abi.readName tree.spelling = tree.outcome := by
  induction tree with
  | value type legal =>
      obtain ⟨hread, hplain⟩ := SlotType.readName_of_isCatalogueName legal.listed
      have hshow := (AbiType.isShowable_iff type).mpr legal.sizes_lt
      exact SlotType.ofSpelling_spelling_ofValue hread hplain hshow
  | mapping key inner ihKey ihInner =>
      rw [spelling, SlotType.ofSpelling_mappingText _ _ key.isBalanced_spelling.2,
        ihKey, outcome_mapping]
      simp only [SlotType.nestRead, ihInner]

/-! ## Nodes -/

theorem tag?_of_isDescribedBy {t : AbiType} {header : Header} {children : List Node}
    (h : t.IsDescribedBy (.mk header children)) :
    header.tag? = some "ElementaryTypeName" ∨ header.tag? = some "ArrayTypeName" := by
  cases h with
  | elementary htag => exact Or.inl htag
  | dynamicArray htag => exact Or.inr htag
  | fixedArray htag => exact Or.inr htag

theorem ofNode_of_isDescribedBy_value {t : AbiType} {node : Node}
    (h : t.IsDescribedBy node) (reader : TypeReader) :
    SlotType.ofNode reader node =
      (AbiType.ofNode reader node).map SlotType.ofValue := by
  cases node with
  | mk header children =>
      rcases tag?_of_isDescribedBy h with htag | htag
      · rw [SlotType.ofNode, htag]
        rfl
      · rw [SlotType.ofNode, htag]
        rfl

/-- A node that describes a tree is classified with the outcome of the tree.
The value is classified before the rule for keys is applied, but it has no
failure of its own to bring forward. -/
theorem ofNode_of_isDescribedBy {tree : TypeTree} {node : Node}
    (h : tree.IsDescribedBy node) :
    SlotType.ofNode Abi.readName node = tree.outcome := by
  induction h with
  | @value type legal node htype =>
      rw [ofNode_of_isDescribedBy_value htype,
        AbiType.ofNode_of_isDescribedBy legal.listed htype]
      rfl
  | @mapping key inner header keyNode innerNode htag hkey hinner ihKey ihInner =>
      rw [SlotType.ofNode_mapping htag, ihKey, ihInner, outcome_mapping]
      cases key.outcome with
      | error failure => rfl
      | ok k =>
          -- A failure of the value overtakes the rule for keys, but it is the
          -- failure that the rule would have given.
          by_cases hkeys : inner.hasMappingKey = true
          · rw [outcome, if_pos hkeys]
            cases hk : k.isMapping <;> simp [Except.bind, Except.map, hk]
          · rw [outcome, if_neg hkeys]
            cases hk : k.isMapping <;> simp [Except.bind, Except.map, hk]

/-! ## Agreement -/

/-- The text of a tree without mappings as keys is the one in which its slot
type is rendered. -/
theorem spelling_eq_slotType_spelling {tree : TypeTree}
    (h : tree.hasMappingKey = false) : tree.spelling = tree.slotType.spelling := by
  induction tree with
  | value type legal => rfl
  | mapping key inner _ ihInner =>
      rw [hasMappingKey, Bool.or_eq_false_iff] at h
      obtain ⟨hkey, hinner⟩ := h
      cases key with
      | mapping => cases hkey
      | value type legal =>
          calc
            (mapping (value type legal) inner).spelling =
                SlotType.mappingText type.spelling inner.spelling := rfl
            _ = SlotType.mappingText type.spelling inner.slotType.spelling := by
              rw [ihInner hinner]
            _ = (mapping (value type legal) inner).slotType.spelling :=
              (SlotType.spelling_cons _ _ _).symm

/-- The classifier of nodes and the reader of texts agree on every tree: both
give the slot type with the keys of the tree from the outermost to the
innermost, or both report that a mapping is used as a key. -/
theorem classification_eq_reading
    (tree : TypeTree) (node : Node) (hnode : tree.IsDescribedBy node) :
    (tree.hasMappingKey = false →
      SlotType.ofNode Abi.readName node = .ok ⟨tree.keys.map core, tree.core⟩ ∧
      SlotType.ofSpelling Abi.readName tree.spelling =
        .ok ⟨tree.keys.map core, tree.core⟩ ∧
      tree.spelling = SlotType.spelling ⟨tree.keys.map core, tree.core⟩) ∧
    (tree.hasMappingKey = true →
      SlotType.ofNode Abi.readName node =
        .error (.layout (.mappingKey .mapping)) ∧
      SlotType.ofSpelling Abi.readName tree.spelling =
        .error (.layout (.mappingKey .mapping))) := by
  have hclassified := ofNode_of_isDescribedBy hnode
  have hread := tree.ofSpelling_spelling
  constructor
  · intro hkeys
    have houtcome : tree.outcome = .ok ⟨tree.keys.map core, tree.core⟩ := by
      rw [outcome, hkeys]
      rfl
    rw [houtcome] at hclassified hread
    exact ⟨hclassified, hread, spelling_eq_slotType_spelling hkeys⟩
  · intro hkeys
    have houtcome : tree.outcome = .error (.layout (.mappingKey .mapping)) := by
      rw [outcome, if_pos hkeys]
    rw [houtcome] at hclassified hread
    exact ⟨hclassified, hread⟩

/-- Agreement on an array with a size in hexadecimal behind a name with further
words, and on a mapping with a mapping as its key. -/
theorem classification_eq_reading_array :
    SlotType.ofNode Abi.readName
        (.mk ⟨some "ArrayTypeName", none, none, []⟩
          [.mk ⟨some "ElementaryTypeName", none, none,
              [("type", .str "address payable")]⟩ [],
            .mk ⟨some "Literal", none, none, [("value", .str "0x1F")]⟩ []]) =
      SlotType.ofSpelling Abi.readName "address[31]".toList ∧
    SlotType.ofSpelling Abi.readName
        "mapping(mapping(address => bool) => address)".toList =
      .error (.layout (.mappingKey .mapping)) := by
  have haddress : AbiType.IsLegal (.elementary "address") :=
    ⟨⟨⟨_, _, .address⟩, rfl⟩, fun n hn => nomatch hn⟩
  have hbool : AbiType.IsLegal (.elementary "bool") :=
    ⟨⟨⟨_, _, .bool⟩, rfl⟩, fun n hn => nomatch hn⟩
  have harray : AbiType.IsLegal (.fixedArray 31 (.elementary "address")) := by
    have hlimit : 31 < Nat.pow 10 digitLimit := by decide +kernel
    exact ⟨haddress.listed, by simpa [AbiType.sizes] using hlimit⟩
  constructor
  · have hdigits : ∀ c ∈ ['1', 'F'], (hexDigitValue? c).isSome = true :=
      List.all_eq_true.mp (by decide)
    have hvalue : IsLengthValue 31 (.str "0x1F") :=
      .hexadecimal (Or.inl rfl) (by decide) hdigits (by decide)
    have hlength : IsLengthNode 31
        (.mk ⟨some "Literal", none, none, [("value", .str "0x1F")]⟩ []) :=
      ⟨rfl, _, rfl, hvalue⟩
    have hrest : ∀ c ∈ " payable".toList.head?, isBlank c = true := by
      rintro c ⟨⟩
      rfl
    have hname : AbiType.IsDescribedBy (.elementary "address")
        (.mk ⟨some "ElementaryTypeName", none, none,
          [("type", .str "address payable")]⟩ []) :=
      .elementary rfl rfl rfl hrest
    have htag : Header.tag? ⟨some "ArrayTypeName", none, none, []⟩ =
        some "ArrayTypeName" := rfl
    have hagree := classification_eq_reading (.value _ harray) _
      (.value (.fixedArray htag hname hlength))
    obtain ⟨hnode, hread, -⟩ := hagree.1 rfl
    rw [hnode]
    exact hread.symm
  · have hagree := classification_eq_reading
      (.mapping (.mapping (.value _ haddress) (.value _ hbool)) (.value _ haddress)) _
      (isDescribedBy_node _)
    exact (hagree.2 rfl).2

end TypeTree

end SolidityLayout
