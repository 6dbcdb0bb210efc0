/-
# CodeRetrieval.Proofs.SyntaxTree — trees whose nodes lie in each other in the order of the source.

The nodes of a parse nest: the children of a node lie in it, one behind the other.  Then a node lies in
every node above it, and of two children of a node one ends before the other starts.
-/
import CodeRetrieval.Chunking.Packing
import Mathlib.Data.List.Pairwise

namespace CodeRetrieval

/-- What holds of a node whenever it holds of all its children holds of every tree. -/
@[elab_as_elim, induction_eliminator]
theorem SyntaxTree.induction {P : SyntaxTree → Prop}
    (node : ∀ range children, (∀ c ∈ children, P c) → P (.node range children))
    (tree : SyntaxTree) : P tree :=
  @SyntaxTree.rec P (fun children => ∀ c ∈ children, P c) node (by simp)
    (fun _ _ hchild hrest => List.forall_mem_cons.mpr ⟨hchild, hrest⟩) tree

/-! ## Well-formed trees -/

/-- The children of every node lie inside it, in source order and disjoint. -/
inductive SyntaxTree.WellFormed : SyntaxTree → Prop
  | node {range : Span} {children : List SyntaxTree} :
      range.start ≤ range.stop →
      (∀ c ∈ children, range.start ≤ c.range.start ∧ c.range.stop ≤ range.stop) →
      children.Pairwise (fun a b => a.range.stop ≤ b.range.start) →
      (∀ c ∈ children, c.WellFormed) →
      WellFormed (.node range children)

/-- A node of a tree: the tree itself or a node of one of its children. -/
inductive SyntaxTree.NodeOf (n : SyntaxTree) : SyntaxTree → Prop
  | self : NodeOf n n
  | child {range : Span} {children : List SyntaxTree} {c : SyntaxTree} :
      c ∈ children → NodeOf n c → NodeOf n (.node range children)

namespace SyntaxTree

variable {tree n : SyntaxTree}

theorem WellFormed.start_le_stop (h : tree.WellFormed) : tree.range.start ≤ tree.range.stop := by
  cases h with
  | node hrange _ _ _ => exact hrange

theorem WellFormed.leaf {range : Span} (h : range.start ≤ range.stop) :
    (SyntaxTree.node range []).WellFormed :=
  .node h (by simp) .nil (by simp)

/-- A node lies in every node above it. -/
theorem NodeOf.inside (hn : NodeOf n tree) (h : tree.WellFormed) :
    tree.range.start ≤ n.range.start ∧ n.range.stop ≤ tree.range.stop := by
  induction hn with
  | self => exact ⟨Nat.le_refl _, Nat.le_refl _⟩
  | child hc _ ih =>
      cases h with
      | node _ hin _ hchildren =>
          obtain ⟨hstart, hstop⟩ := ih (hchildren _ hc)
          obtain ⟨hlow, hhigh⟩ := hin _ hc
          exact ⟨Nat.le_trans hlow hstart, Nat.le_trans hstop hhigh⟩

/-- Two children of a node are one or lie side by side. -/
theorem eq_or_disjoint {children : List SyntaxTree} {c d : SyntaxTree}
    (h : children.Pairwise fun a b => a.range.stop ≤ b.range.start) (hc : c ∈ children)
    (hd : d ∈ children) :
    c = d ∨ c.range.stop ≤ d.range.start ∨ d.range.stop ≤ c.range.start := by
  by_cases heq : c = d
  · exact .inl heq
  · right
    have hside : children.Pairwise fun a b =>
        a.range.stop ≤ b.range.start ∨ b.range.stop ≤ a.range.start := h.imp .inl
    have : Std.Symm fun a b : SyntaxTree =>
        a.range.stop ≤ b.range.start ∨ b.range.stop ≤ a.range.start := ⟨fun _ _ => Or.symm⟩
    exact hside.forall hc hd heq

/-- A node larger than ten bytes between two smaller ones; its own children are small. -/
def nested : SyntaxTree :=
  .node ⟨0, 30⟩
    [.node ⟨0, 4⟩ [], .node ⟨5, 25⟩ [.node ⟨6, 13⟩ [], .node ⟨15, 22⟩ []], .node ⟨26, 30⟩ []]

theorem wellFormed_nested : nested.WellFormed := by
  have hinner : (node ⟨5, 25⟩ [.node ⟨6, 13⟩ [], .node ⟨15, 22⟩ []]).WellFormed :=
    .node (by decide) (by simp [range]) (by simp [range]) (by simp [WellFormed.leaf])
  exact .node (by decide) (by simp [range]) (by simp [range]) (by simp [WellFormed.leaf, hinner])

end SyntaxTree

end CodeRetrieval
