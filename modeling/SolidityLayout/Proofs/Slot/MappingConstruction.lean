import SolidityLayout.Proofs.Slot.DirectPrint
import SolidityLayout.Slot.Candidate

/-!
# Construction of mappings

A mapping is put together from a list of keys at once, or key by key around a plain
value.  Both ways check the keys in their order and then the value, and lead to the same
mapping, whose text puts each key around the text of what it leads to.  A mapping that
exists therefore has keys, and its keys and its value are value types, whichever way it
was built.
-/

namespace SolidityLayout

open Attempt

namespace Candidate

variable {c key value inner : Candidate} {keys : List Candidate}

/-! ## Refusals -/

theorem refuse_of_isShowable {reason : String → Failure} (h : c.isShowable = true) :
    c.refuse reason = reason c.display :=
  if_pos h

theorem isValueType_of_isSlotType (h : c.isSlotType = true) : c.isValueType = false := by
  cases c with
  | slotValue type => rfl
  | mapping keys value => rfl
  | _ => cases h

theorem keyFault?_eq_none_iff : key.keyFault? = none ↔ key.isValueType = true := by
  rw [keyFault?]
  split
  · rename_i hslot
    simp [isValueType_of_isSlotType hslot]
  · simp

theorem keyFault?_eq_some_iff {failure : Failure} (hshow : key.isShowable = true) :
    key.keyFault? = some failure ↔
      (key.isSlotType = true ∧ .layout (.mappingKey (.slotType key.display)) = failure) ∨
        (key.isSlotType = false ∧ key.isValueType = false ∧
          .refused (.mappingKey key.display) = failure) := by
  rw [keyFault?, refuse_of_isShowable hshow, refuse_of_isShowable hshow]
  cases key.isSlotType <;> cases key.isValueType <;> simp

theorem findSome?_keyFault?_eq_none_iff :
    keys.findSome? keyFault? = none ↔ ∀ k ∈ keys, k.isValueType = true := by
  simp only [List.findSome?_eq_none_iff, keyFault?_eq_none_iff]

/-- The first key with a fault decides what a mapping fails with. -/
theorem mapping?_of_keyFault {front back : List Candidate} {failure : Failure}
    (hkeys : keys = front ++ key :: back) (hfront : ∀ k ∈ front, k.isValueType = true)
    (hfault : key.keyFault? = some failure) : mapping? keys value = .error failure := by
  have hfirst : keys.findSome? keyFault? = some failure :=
    List.findSome?_eq_some_iff.mpr ⟨front, key, back, hkeys, hfault,
      fun k hk => keyFault?_eq_none_iff.mpr (hfront k hk)⟩
  rw [mapping?, if_neg (by simp [hkeys]), hfirst]

/-- If the keys have no fault, the value decides. -/
theorem mapping?_of_forall
    (hne : keys ≠ []) (hkeys : ∀ k ∈ keys, k.isValueType = true) :
    mapping? keys value =
      if value.isValueType then .ok (mapping keys value)
      else .error (value.refuse fun shown => .refused (.mappingValue shown)) := by
  rw [mapping?, if_neg (by simpa using hne), findSome?_keyFault?_eq_none_iff.mpr hkeys]

theorem mapping?_eq_ok_iff :
    mapping? keys value = .ok c ↔
      keys ≠ [] ∧ (∀ k ∈ keys, k.isValueType = true) ∧ value.isValueType = true ∧
        mapping keys value = c := by
  constructor
  · intro h
    have hne : keys ≠ [] := by
      rintro rfl
      cases h
    have hkeys : ∀ k ∈ keys, k.isValueType = true := by
      cases hfirst : keys.findSome? keyFault? with
      | none => exact findSome?_keyFault?_eq_none_iff.mp hfirst
      | some failure =>
          rw [mapping?, if_neg (by simpa using hne), hfirst] at h
          cases h
    rw [mapping?_of_forall hne hkeys] at h
    split at h
    · rename_i hvalue
      exact ⟨hne, hkeys, hvalue, Except.ok.inj h⟩
    · cases h
  · rintro ⟨hne, hkeys, hvalue, rfl⟩
    rw [mapping?_of_forall hne hkeys, if_pos hvalue]

/-- What comes of keys and a value that are offered for a mapping. -/
inductive MappingOutcome (keys : List Candidate) (value : Candidate) :
    Except Failure Candidate → Prop
  | noKeys (h : keys = []) : MappingOutcome keys value (.error (.refused .noMappingKeys))
  | slotKey {front back : List Candidate} {key : Candidate}
      (hkeys : keys = front ++ key :: back) (hfront : ∀ k ∈ front, k.isValueType = true)
      (hkey : key.isSlotType = true) :
      MappingOutcome keys value (.error (.layout (.mappingKey (.slotType key.display))))
  | otherKey {front back : List Candidate} {key : Candidate}
      (hkeys : keys = front ++ key :: back) (hfront : ∀ k ∈ front, k.isValueType = true)
      (hslot : key.isSlotType = false) (hkey : key.isValueType = false) :
      MappingOutcome keys value (.error (.refused (.mappingKey key.display)))
  | otherValue (hne : keys ≠ []) (hkeys : ∀ k ∈ keys, k.isValueType = true)
      (hvalue : value.isValueType = false) :
      MappingOutcome keys value (.error (.refused (.mappingValue value.display)))
  | built (hne : keys ≠ []) (hkeys : ∀ k ∈ keys, k.isValueType = true)
      (hvalue : value.isValueType = true) :
      MappingOutcome keys value (.ok (mapping keys value))

theorem mappingOutcome_mapping?
    (hkeys : ∀ k ∈ keys, k.isShowable = true) (hvalue : value.isShowable = true) :
    MappingOutcome keys value (mapping? keys value) := by
  by_cases hne : keys = []
  · subst hne
    exact .noKeys rfl
  · cases hfirst : keys.findSome? keyFault? with
    | some failure =>
        obtain ⟨front, key, back, hsplit, hfault, hnone⟩ :=
          List.findSome?_eq_some_iff.mp hfirst
        have hfront : ∀ k ∈ front, k.isValueType = true :=
          fun k hk => keyFault?_eq_none_iff.mp (hnone k hk)
        rw [mapping?_of_keyFault hsplit hfront hfault]
        rcases (keyFault?_eq_some_iff (hkeys key (by simp [hsplit]))).mp hfault with
          ⟨hslot, rfl⟩ | ⟨hslot, hother, rfl⟩
        · exact .slotKey hsplit hfront hslot
        · exact .otherKey hsplit hfront hslot hother
    | none =>
        have htypes := findSome?_keyFault?_eq_none_iff.mp hfirst
        rw [mapping?_of_forall hne htypes]
        split
        · rename_i htype
          exact .built hne htypes htype
        · rename_i hother
          rw [refuse_of_isShowable hvalue]
          exact .otherValue hne htypes (eq_false_of_ne_true hother)

theorem MappingOutcome.eq {outcome : Except Failure Candidate}
    (h : MappingOutcome keys value outcome)
    (hkeys : ∀ k ∈ keys, k.isShowable = true) (hvalue : value.isShowable = true) :
    mapping? keys value = outcome := by
  cases h with
  | noKeys hnil =>
      subst hnil
      rfl
  | @slotKey front back key hsplit hfront hslot =>
      have hshow : key.isShowable = true := hkeys key (by simp [hsplit])
      exact mapping?_of_keyFault hsplit hfront
        ((keyFault?_eq_some_iff hshow).mpr (.inl ⟨hslot, rfl⟩))
  | @otherKey front back key hsplit hfront hslot hother =>
      have hshow : key.isShowable = true := hkeys key (by simp [hsplit])
      exact mapping?_of_keyFault hsplit hfront
        ((keyFault?_eq_some_iff hshow).mpr (.inr ⟨hslot, hother, rfl⟩))
  | otherValue hne htypes hother =>
      rw [mapping?_of_forall hne htypes, if_neg (by simp [hother]),
        refuse_of_isShowable hvalue]
  | built hne htypes htype => rw [mapping?_of_forall hne htypes, if_pos htype]

/-! ## Nesting -/

/-- What a slot with a plain value holds; any other candidate stands for itself. -/
def unwrapped : Candidate → Candidate
  | slotValue type => type
  | c => c

/-- The keys of a slot type, outermost first. -/
def slotKeys : Candidate → List Candidate
  | mapping keys _ => keys
  | _ => []

/-- What a slot type holds behind its keys. -/
def content : Candidate → Candidate
  | slotValue type => type
  | mapping _ value => value
  | c => c

/-- The slot type with given keys and a given value; without keys it is a plain value. -/
def slotOf : List Candidate → Candidate → Candidate
  | [], value => slotValue value
  | key :: keys, value => mapping (key :: keys) value

@[simp] theorem isSlotType_slotOf : (slotOf keys value).isSlotType = true := by
  cases keys <;> rfl

@[simp] theorem slotKeys_slotOf : (slotOf keys value).slotKeys = keys := by
  cases keys <;> rfl

@[simp] theorem content_slotOf : (slotOf keys value).content = value := by
  cases keys <;> rfl

theorem nest?_eq_ok
    (h : key.nest? inner = .ok c) :
    mapping? (key.unwrapped :: inner.slotKeys) inner.content = .ok c := by
  cases key with
  | mapping keys value => cases h
  | _ =>
      cases inner with
      | slotValue type => exact h
      | mapping keys value => exact h
      | _ => cases h

theorem nest?_eq (hkey : key.unwrapped.isValueType = true) (hinner : inner.isSlotType = true) :
    key.nest? inner = mapping? (key.unwrapped :: inner.slotKeys) inner.content := by
  cases key with
  | mapping keys value => cases hkey
  | _ =>
      cases inner with
      | slotValue type => rfl
      | mapping keys value => rfl
      | _ => cases hinner

/-- Put keys around a plain value, the last one first. -/
def nestAll (keys : List Candidate) (value : Candidate) : Except Failure Candidate :=
  keys.foldr (fun key inner => inner.bind key.nest?) (slotValue? value)

theorem nestAll_eq
    (hkeys : ∀ k ∈ keys, k.unwrapped.isValueType = true) (hvalue : value.isValueType = true) :
    nestAll keys value = .ok (slotOf (keys.map unwrapped) value) := by
  induction keys with
  | nil => exact if_pos hvalue
  | cons key rest ih =>
      rw [List.forall_mem_cons] at hkeys
      have hrest : nestAll rest value = .ok (slotOf (rest.map unwrapped) value) := ih hkeys.2
      have hall : ∀ k ∈ key.unwrapped :: rest.map unwrapped, k.isValueType = true := by
        rw [List.forall_mem_cons, List.forall_mem_map]
        exact hkeys
      calc
        nestAll (key :: rest) value = (nestAll rest value).bind key.nest? := rfl
        _ = key.nest? (slotOf (rest.map unwrapped) value) := by
          rw [hrest]
          rfl
        _ = mapping? (key.unwrapped :: rest.map unwrapped) value := by
          rw [nest?_eq hkeys.1 isSlotType_slotOf, slotKeys_slotOf, content_slotOf]
        _ = .ok (slotOf ((key :: rest).map unwrapped) value) :=
          mapping?_eq_ok_iff.mpr ⟨List.cons_ne_nil _ _, hall, hvalue, rfl⟩

/-- Nesting keys around a value gives what the list of the keys gives. -/
theorem nestAll_eq_mapping?
    (hne : keys ≠ []) (hkeys : ∀ k ∈ keys, k.unwrapped.isValueType = true)
    (hvalue : value.isValueType = true) :
    nestAll keys value = mapping? (keys.map unwrapped) value ∧
      nestAll keys value = .ok (mapping (keys.map unwrapped) value) := by
  have hlist : mapping? (keys.map unwrapped) value = .ok (mapping (keys.map unwrapped) value) := by
    rw [mapping?_eq_ok_iff, List.forall_mem_map]
    exact ⟨by simpa using hne, hkeys, hvalue, rfl⟩
  have hnest := nestAll_eq hkeys hvalue
  cases keys with
  | nil => exact (hne rfl).elim
  | cons key rest => exact ⟨hnest.trans hlist.symm, hnest⟩

/-! ## What exists -/

/-- A candidate that the constructors put together from such candidates and any other
values. -/
inductive IsBuilt : Candidate → Prop
  | elementary (name : String) : IsBuilt (elementary name)
  | unspecified : IsBuilt unspecified
  | data (v : Json) : IsBuilt (data v)
  | dynamicArray {element : Candidate} (h : IsBuilt element) : IsBuilt (dynamicArray element)
  | fixedArray {element c : Candidate} {size : Json} (h : IsBuilt element)
      (hc : element.fixedArray? size = .ok c) : IsBuilt c
  | slotValue {type c : Candidate} (h : IsBuilt type) (hc : type.slotValue? = .ok c) :
      IsBuilt c
  | mapping {keys : List Candidate} {value c : Candidate} (hkeys : ∀ k ∈ keys, IsBuilt k)
      (hvalue : IsBuilt value) (hc : mapping? keys value = .ok c) : IsBuilt c
  | nest {key inner c : Candidate} (hkey : IsBuilt key) (hinner : IsBuilt inner)
      (hc : key.nest? inner = .ok c) : IsBuilt c

/-- A slot type has been built from value types, and a mapping has keys. -/
def HasBuiltParts : Candidate → Prop
  | slotValue type => type.IsBuilt ∧ type.isValueType = true
  | mapping keys value =>
    keys ≠ [] ∧ (∀ k ∈ keys, k.IsBuilt ∧ k.isValueType = true) ∧
      value.IsBuilt ∧ value.isValueType = true
  | _ => True

theorem HasBuiltParts.isBuilt_unwrapped (h : c.HasBuiltParts) (hc : c.IsBuilt) :
    c.unwrapped.IsBuilt := by
  cases c with
  | slotValue type => exact h.1
  | _ => exact hc

theorem HasBuiltParts.isBuilt_content (h : c.HasBuiltParts) (hc : c.IsBuilt) :
    c.content.IsBuilt := by
  cases c with
  | slotValue type => exact h.1
  | mapping keys value => exact h.2.2.1
  | _ => exact hc

theorem HasBuiltParts.isBuilt_slotKeys (h : c.HasBuiltParts) :
    ∀ k ∈ c.slotKeys, k.IsBuilt := by
  cases c with
  | mapping keys value => exact fun k hk => (h.2.1 k hk).1
  | _ => exact List.forall_mem_nil _

theorem HasBuiltParts.forall_isValueType (h : inner.HasBuiltParts)
    (hinner : inner.isSlotType = true) :
    (∀ k ∈ inner.slotKeys, k.isValueType = true) ∧ inner.content.isValueType = true := by
  cases inner with
  | slotValue type => exact ⟨List.forall_mem_nil _, h.2⟩
  | mapping keys value => exact ⟨fun k hk => (h.2.1 k hk).2, h.2.2.2⟩
  | _ => cases hinner

theorem hasBuiltParts_of_mapping?
    (hc : mapping? keys value = .ok c) (hkeys : ∀ k ∈ keys, k.IsBuilt)
    (hvalue : value.IsBuilt) : c.HasBuiltParts := by
  obtain ⟨hne, hkeyTypes, hvalueType, rfl⟩ := mapping?_eq_ok_iff.mp hc
  exact ⟨hne, fun k hk => ⟨hkeys k hk, hkeyTypes k hk⟩, hvalue, hvalueType⟩

theorem IsBuilt.hasBuiltParts (h : c.IsBuilt) : c.HasBuiltParts := by
  induction h with
  | elementary name => trivial
  | unspecified => trivial
  | data v => trivial
  | dynamicArray _ _ => trivial
  | @fixedArray element c size _ hc _ =>
      rw [fixedArray?.eq_def] at hc
      split at hc
      · cases hc
        trivial
      · cases hc
  | @slotValue type c h hc _ =>
      rw [slotValue?] at hc
      split at hc
      · rename_i htype
        cases hc
        exact ⟨h, htype⟩
      · cases hc
  | mapping hkeys hvalue hc _ _ => exact hasBuiltParts_of_mapping? hc hkeys hvalue
  | nest hkey hinner hc ihKey ihInner =>
      -- Nesting checks all keys again, also those that the inner mapping brings along.
      refine hasBuiltParts_of_mapping? (nest?_eq_ok hc) ?_ (ihInner.isBuilt_content hinner)
      rw [List.forall_mem_cons]
      exact ⟨ihKey.isBuilt_unwrapped hkey, ihInner.isBuilt_slotKeys⟩

/-- The mappings that exist are those with keys whose keys and value are value types. -/
theorem isBuilt_mapping_iff :
    (mapping keys value).IsBuilt ↔
      keys ≠ [] ∧ (∀ k ∈ keys, k.IsBuilt ∧ k.isValueType = true) ∧
        value.IsBuilt ∧ value.isValueType = true := by
  constructor
  · intro h
    exact h.hasBuiltParts
  · rintro ⟨hne, hkeys, hvalue, hvalueType⟩
    exact .mapping (fun k hk => (hkeys k hk).1) hvalue
      (mapping?_eq_ok_iff.mpr ⟨hne, fun k hk => (hkeys k hk).2, hvalueType, rfl⟩)

/-! ## Texts -/

/-- The text of a candidate that stands for a value type. -/
def renderType (c : Candidate) : Except Failure String :=
  c.toAbiType.bind AbiType.render

/-- The text of a candidate that stands for a slot type. -/
def renderSlot (c : Candidate) : Except Failure String :=
  c.toSlotType.bind SlotType.render

theorem toShowableAbiType_eq_ok_iff {type : AbiType} :
    c.toShowableAbiType = .ok type ↔ c.toAbiType = .ok type ∧ type.isShowable = true := by
  rw [toShowableAbiType]
  cases c.toAbiType with
  | error failure => simp
  | ok t =>
      simp only [Except.ok.injEq]
      constructor
      · intro h
        split at h
        · rename_i hshow
          cases h
          exact ⟨rfl, hshow⟩
        · cases h
      · rintro ⟨rfl, hshow⟩
        exact if_pos hshow

theorem renderType_eq_map (c : Candidate) :
    c.renderType = c.toShowableAbiType.map AbiType.text := by
  rw [renderType, toShowableAbiType]
  cases c.toAbiType with
  | error failure => rfl
  | ok type =>
      change type.render = _
      rw [AbiType.render]
      simp only
      split <;> rfl

/-- The type of what a slot holds is found first, then those of its keys from the
innermost one on. -/
theorem toSlotType_eq (h : c.isSlotType = true) :
    c.toSlotType = c.content.toShowableAbiType.bind fun type =>
      (c.slotKeys.reverse.mapM toShowableAbiType).map fun keys => ⟨keys.reverse, type⟩ := by
  cases c with
  | slotValue type =>
      change type.toShowableAbiType.map SlotType.ofValue = type.toShowableAbiType.bind _
      cases type.toShowableAbiType <;> rfl
  | mapping keys value =>
      rw [toSlotType]
      change _ = value.toShowableAbiType.bind _
      cases value.toShowableAbiType <;> rfl
  | _ => cases h

theorem isShowable_of_toSlotType (hc : c.isSlotType = true) {t : SlotType}
    (h : c.toSlotType = .ok t) : t.isShowable = true := by
  rw [toSlotType_eq hc] at h
  obtain ⟨type, htype, h⟩ := bind_eq_ok_iff.mp h
  obtain ⟨keys, hkeys, rfl⟩ := map_eq_ok_iff.mp h
  rw [SlotType.isShowable_iff_parts, SlotType.parts, List.forall_mem_append,
    List.forall_mem_singleton]
  refine ⟨?_, (toShowableAbiType_eq_ok_iff.mp htype).2⟩
  intro k hk
  obtain ⟨key, -, hkey⟩ := exists_of_mapM_eq_ok hkeys (List.mem_reverse.mp hk)
  exact (toShowableAbiType_eq_ok_iff.mp hkey).2

theorem toSlotType_mapping_cons (hinner : inner.isSlotType = true) :
    (mapping (key :: inner.slotKeys) inner.content).toSlotType =
      inner.toSlotType.bind fun t => key.toShowableAbiType.map (SlotType.nest · t) := by
  -- The new key is the outermost one, so it is looked at after all others.
  have hlast : [key].mapM toShowableAbiType = key.toShowableAbiType.map ([·]) := by
    rw [List.mapM_cons]
    cases key.toShowableAbiType <;> rfl
  rw [toSlotType_eq hinner, toSlotType_eq rfl]
  change inner.content.toShowableAbiType.bind (fun type =>
    ((key :: inner.slotKeys).reverse.mapM toShowableAbiType).map _) = _
  rw [List.reverse_cons, mapM_append_eq, hlast]
  cases inner.content.toShowableAbiType with
  | error failure => rfl
  | ok type =>
      cases inner.slotKeys.reverse.mapM toShowableAbiType with
      | error failure => rfl
      | ok types =>
          cases key.toShowableAbiType with
          | error failure => rfl
          | ok k =>
              change Except.ok (SlotType.mk (types ++ [k]).reverse type) = _
              rw [List.reverse_concat]
              rfl

/-- The text of a mapping from a key to a slot type, from their texts. -/
theorem renderSlot_mapping_cons (hinner : inner.isSlotType = true) :
    (mapping (key :: inner.slotKeys) inner.content).renderSlot =
      inner.renderSlot.bind fun shown => key.renderType.map fun k =>
        "mapping(" ++ k ++ " => " ++ shown ++ ")" := by
  rw [renderSlot, toSlotType_mapping_cons hinner, renderSlot, renderType_eq_map]
  cases ht : inner.toSlotType with
  | error failure => rfl
  | ok t =>
      have hshow := isShowable_of_toSlotType hinner ht
      have htext : t.render = .ok t.text := SlotType.render_eq_ok_iff.mpr ⟨hshow, rfl⟩
      change (key.toShowableAbiType.map (SlotType.nest · t)).bind SlotType.render =
        t.render.bind _
      rw [htext]
      cases hk : key.toShowableAbiType with
      | error failure => rfl
      | ok k =>
          have hkey := (toShowableAbiType_eq_ok_iff.mp hk).2
          exact SlotType.render_eq_ok_iff.mpr
            ⟨(SlotType.isShowable_nest_iff k t).mpr ⟨hkey, hshow⟩, SlotType.text_nest k t⟩

/-! ## Slot types that are known to be right -/

/-- A slot type as the constructors put it together. -/
def ofSlotType (t : SlotType) : Candidate :=
  slotOf (t.keys.map ofAbiType) (ofAbiType t.value)

theorem isValueType_ofAbiType (t : AbiType) : (ofAbiType t).isValueType = true := by
  cases t <;> rfl

theorem isBuilt_ofAbiType (t : AbiType) : (ofAbiType t).IsBuilt := by
  induction t with
  | elementary name => exact .elementary name
  | dynamicArray element ih => exact .dynamicArray ih
  | fixedArray size element ih =>
      exact @IsBuilt.fixedArray _ _ (.int (.ofNat size)) ih rfl

theorem isBuilt_ofSlotType (t : SlotType) : (ofSlotType t).IsBuilt := by
  obtain ⟨keys, value⟩ := t
  have hvalue := isValueType_ofAbiType value
  cases keys with
  | nil => exact .slotValue (isBuilt_ofAbiType value) (if_pos hvalue)
  | cons key keys =>
      refine isBuilt_mapping_iff.mpr ⟨List.cons_ne_nil _ _, ?_, isBuilt_ofAbiType value, hvalue⟩
      change ∀ k ∈ (key :: keys).map ofAbiType, _
      rw [List.forall_mem_map]
      exact fun k _ => ⟨isBuilt_ofAbiType k, isValueType_ofAbiType k⟩

/-- Slot types that are read or found in a tree are nested as the constructors nest
them. -/
theorem nest?_ofSlotType (key inner : SlotType) :
    (ofSlotType key).nest? (ofSlotType inner) =
      if key.isMapping then .error (.layout (.mappingKey .mapping))
      else .ok (ofSlotType (.nest key.value inner)) := by
  obtain ⟨keys, value⟩ := key
  cases keys with
  | cons k keys => rfl
  | nil =>
      have hvalue : (ofSlotType ⟨[], value⟩).unwrapped.isValueType = true :=
        isValueType_ofAbiType value
      have hkeys : ∀ k ∈ ofAbiType value :: inner.keys.map ofAbiType,
          k.isValueType = true := by
        rw [List.forall_mem_cons, List.forall_mem_map]
        exact ⟨hvalue, fun k _ => isValueType_ofAbiType k⟩
      have hinner : (ofSlotType inner).isSlotType = true := isSlotType_slotOf
      rw [nest?_eq hvalue hinner]
      simp only [ofSlotType, slotKeys_slotOf, content_slotOf]
      exact mapping?_eq_ok_iff.mpr
        ⟨List.cons_ne_nil _ _, hkeys, isValueType_ofAbiType inner.value, rfl⟩

/-! ## The construction of mappings -/

/-- Keys that are nested around a value give the mapping that their list gives, and each
puts its text around the text of what it is nested around.  A mapping is refused for want
of keys, else for the first key that is no value type, else for its value, and for nothing
else, so that those which exist, however they were built, have keys and hold value types
only; slot types that are read or found in a tree are nested in the same way. -/
theorem mapping_construction :
    (∀ keys value, keys ≠ [] → (∀ k ∈ keys, k.unwrapped.isValueType = true) →
      value.isValueType = true →
        nestAll keys value = mapping? (keys.map unwrapped) value ∧
          nestAll keys value = .ok (mapping (keys.map unwrapped) value)) ∧
      (∀ key inner : Candidate, key.unwrapped.isValueType = true → inner.IsBuilt →
        inner.isSlotType = true →
          ∃ c, key.nest? inner = .ok c ∧
            c.renderSlot = inner.renderSlot.bind fun shown =>
              key.unwrapped.renderType.map fun k =>
                "mapping(" ++ k ++ " => " ++ shown ++ ")") ∧
      (∀ keys value, (∀ k ∈ keys, k.isShowable = true) → value.isShowable = true →
        ∀ outcome, mapping? keys value = outcome ↔ MappingOutcome keys value outcome) ∧
      (∀ keys value, (mapping keys value).IsBuilt ↔
        keys ≠ [] ∧ (∀ k ∈ keys, k.IsBuilt ∧ k.isValueType = true) ∧
          value.IsBuilt ∧ value.isValueType = true) ∧
      ∀ key inner : SlotType, (ofSlotType inner).IsBuilt ∧
        (ofSlotType key).nest? (ofSlotType inner) =
          if key.isMapping then .error (.layout (.mappingKey .mapping))
          else .ok (ofSlotType (.nest key.value inner)) := by
  refine ⟨fun _ _ => nestAll_eq_mapping?, ?_, ?_, fun _ _ => isBuilt_mapping_iff,
    fun key inner => ⟨isBuilt_ofSlotType inner, nest?_ofSlotType key inner⟩⟩
  · intro key inner hkey hbuilt hinner
    obtain ⟨hkeys, hcontent⟩ := hbuilt.hasBuiltParts.forall_isValueType hinner
    refine ⟨_, ?_, renderSlot_mapping_cons hinner⟩
    rw [nest?_eq hkey hinner, mapping?_eq_ok_iff, List.forall_mem_cons]
    exact ⟨List.cons_ne_nil _ _, ⟨hkey, hkeys⟩, hcontent, rfl⟩
  · intro keys value hkeys hvalue outcome
    constructor
    · rintro rfl
      exact mappingOutcome_mapping? hkeys hvalue
    · intro h
      exact h.eq hkeys hvalue

theorem mapping_construction_mixedKeys :
    let flag : Candidate := elementary "bool"
    let owner : Candidate := elementary "address"
    nestAll [slotValue owner, flag] (dynamicArray flag) =
        .ok (mapping [owner, flag] (dynamicArray flag)) ∧
      (∃ c, (slotValue owner).nest? (slotValue flag) = .ok c ∧
        c.renderSlot = .ok "mapping(address => bool)") ∧
      mapping? [owner, slotValue flag, data .null] (data (.str "flag")) =
        .error (.layout (.mappingKey (.slotType
          "StorageValue(abi_type=ElementaryType(name='bool'))"))) ∧
      ¬(mapping [owner, slotValue flag] flag).IsBuilt := by
  intro flag owner
  obtain ⟨hnest, htext, houtcome, hbuilt, -⟩ := mapping_construction
  refine ⟨(hnest [slotValue owner, flag] (dynamicArray flag) (by simp)
    (by simp [flag, owner, unwrapped, isValueType]) rfl).2, ?_, ?_, ?_⟩
  · exact htext (slotValue owner) (slotValue flag) rfl (.slotValue (.elementary "bool") rfl) rfl
  · have howner : ∀ k ∈ [owner], k.isValueType = true := by decide
    have hfirst := @MappingOutcome.slotKey [owner, slotValue flag, data .null] (data (.str "flag"))
      [owner] [data .null] (slotValue flag) rfl howner rfl
    exact (houtcome _ _ (by decide) rfl _).mpr hfirst
  · intro h
    obtain ⟨-, hkeys, -⟩ := (hbuilt _ _).mp h
    cases (hkeys (slotValue flag) (by simp)).2

end Candidate

end SolidityLayout
