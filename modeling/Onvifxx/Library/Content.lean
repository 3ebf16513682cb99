/-
This file gives the content of a document and the rewriting of its attributes.
-/

import Mathlib.Tactic

namespace Onvifxx

/-- The first node of some content comes before the rest, and only an element has content of its own. -/
inductive Content (Name Value Leaf : Type*) where
  | empty
  | element (name : Name) (attributes : List (Name × Value)) (children rest : Content Name Value Leaf)
  | leaf (node : Leaf) (rest : Content Name Value Leaf)
  deriving DecidableEq

namespace Content

variable {Name Value Leaf : Type*}

/-- Each attribute stands with the name of its element. -/
def attributes : Content Name Value Leaf → List (Name × Name × Value)
  | empty => []
  | element name own children rest =>
      own.map (Prod.mk name) ++ children.attributes ++ rest.attributes
  | leaf _ rest => rest.attributes

/-- A rule sees the name of the element, the name of the attribute and its value. -/
def rewrite (rule : Name → Name → Value → Value) : Content Name Value Leaf → Content Name Value Leaf
  | empty => empty
  | element name own children rest =>
      element name (own.map fun entry => (entry.1, rule name entry.1 entry.2))
        (children.rewrite rule) (rest.rewrite rule)
  | leaf node rest => leaf node (rest.rewrite rule)

/-- Two contents have one shape and the same names and leaves, and their values are related one by one. -/
inductive Corresponds (related : Name → Name → Value → Value → Prop) :
    Content Name Value Leaf → Content Name Value Leaf → Prop where
  | empty : Corresponds related empty empty
  | element {name : Name} {own others : List (Name × Value)}
      {children inside rest after : Content Name Value Leaf}
      (attributes : List.Forall₂ (fun before after => after.1 = before.1 ∧
        related name before.1 before.2 after.2) own others)
      (content : Corresponds related children inside) (next : Corresponds related rest after) :
      Corresponds related (element name own children rest) (element name others inside after)
  | leaf (node : Leaf) {rest after : Content Name Value Leaf}
      (next : Corresponds related rest after) :
      Corresponds related (leaf node rest) (leaf node after)

variable {first second : Name → Name → Value → Value}

/-- The attributes of one element correspond to the rewritten ones only. -/
theorem attributes_eq_iff {rule : Name → Name → Value → Value}
    {related : Name → Name → Value → Value → Prop}
    (graph : ∀ parent name before after, related parent name before after ↔
      after = rule parent name before) (parent : Name) (own others : List (Name × Value)) :
    List.Forall₂ (fun before after => after.1 = before.1 ∧
        related parent before.1 before.2 after.2) own others ↔
      (own.map fun entry => (entry.1, rule parent entry.1 entry.2)) = others := by
  have same : ∀ before after : Name × Value,
      after.1 = before.1 ∧ related parent before.1 before.2 after.2 ↔
        (before.1, rule parent before.1 before.2) = after := by
    intro before after
    rw [graph, Prod.ext_iff]
    exact and_congr eq_comm eq_comm
  simp only [same]
  rw [← List.forall₂_map_left_iff (f := fun entry : Name × Value =>
    (entry.1, rule parent entry.1 entry.2)), List.forall₂_eq_eq_eq]

/-- A content corresponds to its rewriting only, when the rule gives each related value. -/
theorem corresponds_iff {rule : Name → Name → Value → Value}
    {related : Name → Name → Value → Value → Prop}
    (graph : ∀ parent name before after, related parent name before after ↔
      after = rule parent name before) (content other : Content Name Value Leaf) :
    content.Corresponds related other ↔ content.rewrite rule = other := by
  constructor
  · intro corresponds
    induction corresponds with
    | empty => rfl
    | element attributes content next inside after =>
        rw [rewrite, (attributes_eq_iff graph _ _ _).mp attributes, inside, after]
    | leaf node next after => rw [rewrite, after]
  · rintro rfl
    induction content with
    | empty => exact .empty
    | element name own children rest inside after =>
        exact .element ((attributes_eq_iff graph name own _).mpr rfl) inside after
    | leaf node rest after => exact .leaf node after

/-- Two rewritings are one rewriting by both rules. -/
theorem rewrite_rewrite (content : Content Name Value Leaf) :
    (content.rewrite first).rewrite second =
      content.rewrite fun parent name value => second parent name (first parent name value) := by
  induction content with
  | empty => rfl
  | element name own children rest inside after => simp [rewrite, inside, after]
  | leaf node rest after => simp [rewrite, after]

/-- Two rules give the same content exactly when they agree on each of its attributes. -/
theorem rewrite_eq_iff (content : Content Name Value Leaf) :
    content.rewrite first = content.rewrite second ↔
      ∀ parent name value, (parent, name, value) ∈ content.attributes →
        first parent name value = second parent name value := by
  induction content with
  | empty => simp [rewrite, attributes]
  | element name own children rest inside after =>
      have here : (own.map fun entry => (entry.1, first name entry.1 entry.2)) =
          (own.map fun entry => (entry.1, second name entry.1 entry.2)) ↔
            ∀ entry ∈ own, first name entry.1 entry.2 = second name entry.1 entry.2 := by
        simp [List.map_inj_left]
      simp only [rewrite, element.injEq, true_and, here, inside, after, attributes, List.mem_append,
        List.mem_map, Prod.mk.injEq]
      constructor
      · rintro ⟨own', children', rest'⟩ parent label value ((⟨entry, member, rfl, rfl⟩ | member) | member)
        · exact own' _ member
        · exact children' parent label value member
        · exact rest' parent label value member
      · intro all
        refine ⟨fun entry member => ?_, fun parent label value member => ?_,
          fun parent label value member => ?_⟩
        · exact all name entry.1 entry.2 (Or.inl (Or.inl ⟨entry, member, rfl, rfl⟩))
        · exact all parent label value (Or.inl (Or.inr member))
        · exact all parent label value (Or.inr member)
  | leaf node rest after => simp [rewrite, attributes, after]

end Content
end Onvifxx
