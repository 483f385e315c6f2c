import Mathlib.Data.List.Infix
import Mathlib.Data.List.Pairwise
import Mathlib.Logic.Relation
import SolidityLayout.Ast.Forest

/-!
# The order of visits

The nodes that are visited are the pending ones and those below them, each of them once.
No node is visited before one that it lies below.  This holds of the visit because no
pending node lies on the way to another one, which every step of the visit preserves.
-/

namespace SolidityLayout.Ast

namespace Occurrence

variable {o p q : Occurrence}

/-! ## Nodes below a node -/

/-- A node is a child of another one. -/
def IsChild (p o : Occurrence) : Prop :=
  p ∈ o.below

/-- A node lies below another one: it is a child of it, or a child of a node below it. -/
def IsBelow (p o : Occurrence) : Prop :=
  Relation.TransGen (fun o p => p.IsChild o) o p

/-- A node is another one or lies below it. -/
def IsAtOrBelow (p o : Occurrence) : Prop :=
  Relation.ReflTransGen (fun o p => p.IsChild o) o p

theorem isAtOrBelow_iff : p.IsAtOrBelow o ↔ p = o ∨ p.IsBelow o :=
  Relation.reflTransGen_iff_eq_or_transGen

/-! ## Places -/

/-- Subtrees at consecutive places differ in their last turn. -/
theorem exists_place_of_mem_numbered
    {place : Place} {nodes : List Node} {first : Nat} (hp : p ∈ numbered place nodes first) :
    ∃ i, first ≤ i ∧ p.place = i :: place := by
  obtain ⟨⟨node, i⟩, hi, rfl⟩ := List.mem_map.mp hp
  exact ⟨i, List.le_snd_of_mem_zipIdx hi, rfl⟩

theorem IsChild.exists_place (h : p.IsChild o) : ∃ i, p.place = i :: o.place := by
  obtain ⟨i, -, hplace⟩ := exists_place_of_mem_numbered h
  exact ⟨i, hplace⟩

theorem IsAtOrBelow.isSuffix (h : p.IsAtOrBelow o) : o.place <:+ p.place := by
  induction h with
  | refl => exact List.suffix_rfl
  | tail _ hchild ih =>
      obtain ⟨i, hplace⟩ := hchild.exists_place
      rw [hplace]
      exact ih.trans (List.suffix_cons _ _)

theorem IsBelow.isSuffix (h : p.IsBelow o) : o.place <:+ p.place :=
  (isAtOrBelow_iff.mpr (Or.inr h)).isSuffix

/-- A node has a longer way to it than the nodes that it lies below. -/
theorem IsBelow.length_lt (h : p.IsBelow o) : o.place.length < p.place.length := by
  obtain ⟨q, hq, hchild⟩ := Relation.TransGen.tail'_iff.mp h
  obtain ⟨i, hplace⟩ := IsChild.exists_place hchild
  rw [hplace, List.length_cons]
  exact Nat.lt_succ_of_le (IsAtOrBelow.isSuffix hq).length_le

/-- Neither node lies on the way to the other one. -/
def IsApart (o p : Occurrence) : Prop :=
  ¬o.place <:+ p.place ∧ ¬p.place <:+ o.place

theorem isApart_of_place_eq {place : Place} {i j : Nat} (hij : i ≠ j)
    (ho : o.place = i :: place) (hp : p.place = j :: place) : o.IsApart p := by
  rw [IsApart, ho, hp]
  constructor
  · intro h
    exact hij (List.cons.inj (h.eq_of_length rfl)).1
  · intro h
    exact hij (List.cons.inj (h.eq_of_length rfl)).1.symm

theorem pairwise_isApart_numbered (place : Place) (nodes : List Node) (first : Nat) :
    (numbered place nodes first).Pairwise IsApart := by
  induction nodes generalizing first with
  | nil => exact .nil
  | cons n rest ih =>
      rw [numbered, List.zipIdx_cons, List.map_cons, List.pairwise_cons]
      refine ⟨?_, ih (first + 1)⟩
      intro p hp
      obtain ⟨i, hi, hplace⟩ := exists_place_of_mem_numbered hp
      exact isApart_of_place_eq (Nat.ne_of_lt hi) rfl hplace

/-- A child is apart from whatever its parent is apart from. -/
theorem IsApart.of_isChild (h : o.IsApart q) (hp : p.IsChild o) : p.IsApart q := by
  obtain ⟨i, hplace⟩ := hp.exists_place
  obtain ⟨hoq, hqo⟩ := h
  rw [IsApart, hplace]
  constructor
  · intro hpq
    exact hoq ((List.suffix_cons _ _).trans hpq)
  · intro hqp
    rcases List.suffix_cons_iff.mp hqp with heq | hqo'
    · apply hoq
      rw [heq]
      exact List.suffix_cons _ _
    · exact hqo hqo'

end Occurrence

namespace Forest

open Occurrence

variable {pending : List Occurrence} {o p : Occurrence}

/-! ## What is visited -/

/-- The visit of pending trees reaches the nodes in them and no others. -/
theorem mem_visit_iff : p ∈ visit pending ↔ ∃ o ∈ pending, p.IsAtOrBelow o := by
  induction pending using visit.induct with
  | case1 => simp [visit]
  | case2 first pending ih =>
      rw [visit, List.mem_cons, ih]
      constructor
      · rintro (rfl | ⟨o, ho, hp⟩)
        · exact ⟨p, by simp, .refl⟩
        · rcases List.mem_append.mp ho with ho | ho
          · exact ⟨first, by simp, .head ho hp⟩
          · exact ⟨o, by simp [ho], hp⟩
      · rintro ⟨o, ho, hp⟩
        rcases List.mem_cons.mp ho with rfl | ho
        · rcases Relation.ReflTransGen.cases_head_iff.mp hp with rfl | ⟨child, hchild, hp⟩
          · exact Or.inl rfl
          · exact Or.inr ⟨child, List.mem_append_left _ hchild, hp⟩
        · exact Or.inr ⟨o, List.mem_append_right _ ho, hp⟩

/-- Every step of the visit leaves the pending nodes apart. -/
theorem pairwise_isApart_step (h : (o :: pending).Pairwise IsApart) :
    (o.below ++ pending).Pairwise IsApart := by
  obtain ⟨hfirst, hpending⟩ := List.pairwise_cons.mp h
  refine List.pairwise_append.mpr ⟨pairwise_isApart_numbered _ _ _, hpending, ?_⟩
  intro p hp q hq
  exact (hfirst q hq).of_isChild hp

/-- No node on the way to a node is visited behind it. -/
theorem pairwise_visit (h : pending.Pairwise IsApart) :
    (visit pending).Pairwise fun o p => ¬p.place <:+ o.place := by
  induction pending using visit.induct with
  | case1 =>
      rw [visit]
      exact .nil
  | case2 o pending ih =>
      rw [visit, List.pairwise_cons]
      refine ⟨?_, ih (pairwise_isApart_step h)⟩
      intro p hp hpo
      obtain ⟨q, hq, hpq⟩ := mem_visit_iff.mp hp
      have hqo := hpq.isSuffix.trans hpo
      rcases List.mem_append.mp hq with hq | hq
      · -- A child is further down than its parent.
        obtain ⟨i, hplace⟩ := IsChild.exists_place hq
        have hlength := hqo.length_le
        rw [hplace, List.length_cons] at hlength
        omega
      · exact (List.rel_of_pairwise_cons h hq).2 hqo

/-! ## The nodes of a forest -/

variable {trees : List Node}

theorem mem_nodes_iff : p ∈ nodes trees ↔ ∃ o ∈ roots trees, p.IsAtOrBelow o :=
  mem_visit_iff

theorem mem_nodes_of_isBelow (ho : o ∈ nodes trees) (hp : p.IsBelow o) : p ∈ nodes trees := by
  obtain ⟨root, hroot, ho⟩ := mem_nodes_iff.mp ho
  exact mem_nodes_iff.mpr ⟨root, hroot, ho.trans hp.to_reflTransGen⟩

theorem pairwise_nodes (trees : List Node) :
    (nodes trees).Pairwise fun o p => ¬p.place <:+ o.place :=
  pairwise_visit (pairwise_isApart_numbered _ _ _)

/-- Every place of a forest is visited once. -/
theorem nodup_place_nodes (trees : List Node) : ((nodes trees).map (·.place)).Nodup := by
  rw [List.Nodup, List.pairwise_map]
  refine (pairwise_nodes trees).imp ?_
  intro o p hop heq
  apply hop
  rw [heq]

/-- The nodes below a node are visited behind it. -/
theorem mem_after_of_isBelow {before after : List Occurrence}
    (hnodes : nodes trees = before ++ o :: after) (hp : p.IsBelow o) : p ∈ after := by
  have hmem : p ∈ before ++ o :: after := by
    rw [← hnodes]
    exact mem_nodes_of_isBelow (by rw [hnodes]; simp) hp
  have horder := pairwise_nodes trees
  rw [hnodes, List.pairwise_append] at horder
  rcases List.mem_append.mp hmem with hbefore | hafter
  · exact (horder.2.2 p hbefore o (by simp) hp.isSuffix).elim
  · rcases List.mem_cons.mp hafter with rfl | hafter
    · exact (Nat.lt_irrefl _ hp.length_lt).elim
    · exact hafter

/-! ## Paths -/

/-- Of two nodes on a path down a forest, one lies below the other one. -/
theorem isBelow_or_isBelow_of_isChain {path : List Occurrence}
    (hpath : path.IsChain fun o p => p.IsChild o) (ho : o ∈ path) (hp : p ∈ path) :
    p = o ∨ p.IsBelow o ∨ o.IsBelow p := by
  have hchain : path.IsChain (Relation.TransGen fun o p : Occurrence => p.IsChild o) :=
    hpath.imp fun _ _ => .single
  have hbelow : path.Pairwise fun o p => p.IsBelow o := hchain.pairwise
  let R (o p : Occurrence) : Prop := p = o ∨ p.IsBelow o ∨ o.IsBelow p
  have hforth : path.Pairwise R := hbelow.imp fun h => Or.inr (Or.inl h)
  have hback : path.Pairwise (flip R) := hbelow.imp fun h => Or.inr (Or.inr h)
  have hself : ∀ o ∈ path, R o o := fun o _ => Or.inl rfl
  exact hforth.forall_of_forall_of_flip hself hback ho hp

end Forest

end SolidityLayout.Ast
