/-
# CodeRetrieval.Proofs.SmallNodes — what stands below a node within the budget does not matter.

Of the nodes below the root only those larger than the budget are opened, so packing sees no children of
any other: two trees that agree down to the nodes within the budget are packed alike.  The root is the
exception, as it is opened whatever its size.  If it fits the budget, its children show in the packed
span, but there is only one then, and of a single span the line ranges keep nothing but where the source
ends.
-/
import CodeRetrieval.Chunking.LineRanges
import CodeRetrieval.Proofs.NodeIntegrity

namespace CodeRetrieval

variable {budget : Nat} {tree tree' : SyntaxTree}

/-! ## Packing -/

/-- The trees are the same but for the children of some nodes within the budget, which may be any others
or none. -/
inductive SyntaxTree.AgreeAbove (budget : Nat) : SyntaxTree → SyntaxTree → Prop
  | replaced {range : Span} {children children' : List SyntaxTree} :
      range.length ≤ budget → AgreeAbove budget (.node range children) (.node range children')
  | kept {range : Span} {children children' : List SyntaxTree} :
      children.Forall₂ (AgreeAbove budget) children' →
      AgreeAbove budget (.node range children) (.node range children')

theorem SyntaxTree.AgreeAbove.range_eq (h : AgreeAbove budget tree tree') : tree.range = tree'.range := by
  cases h with
  | replaced _ => rfl
  | kept _ => rfl

theorem SyntaxTree.AgreeAbove.refl (budget : Nat) (tree : SyntaxTree) : AgreeAbove budget tree tree := by
  induction tree with
  | node range children ih => exact .kept (List.forall₂_same.mpr ih)

/-- Packing sees of a node its range, and the spans of its children if it is larger than the budget. -/
theorem packSiblings_congr {nodes nodes' : List SyntaxTree}
    (h : nodes.Forall₂ (fun c d => c.range = d.range ∧
      (budget < c.range.length → c.pack budget = d.pack budget)) nodes') (pending : Span) :
    packSiblings budget pending nodes = packSiblings budget pending nodes' := by
  induction h generalizing pending with
  | nil => rfl
  | @cons c d nodes nodes' hnode _ ih =>
      obtain ⟨hrange, hpack⟩ := hnode
      rw [packSiblings, packSiblings, ← hrange]
      by_cases hlarge : budget < c.range.length
      · rw [if_pos hlarge, if_pos hlarge, hpack hlarge, ih]
      · rw [if_neg hlarge, if_neg hlarge, ih, ih]

/-- Trees whose root is larger than the budget are packed alike if they agree down to the nodes within
it. -/
theorem SyntaxTree.AgreeAbove.pack_eq (h : AgreeAbove budget tree tree')
    (hlarge : budget < tree.range.length) : tree.pack budget = tree'.pack budget := by
  induction tree generalizing tree' with
  | node range children ih =>
      cases h with
      | replaced hsmall => exact absurd hlarge (Nat.not_lt.mpr hsmall)
      | @kept _ _ children' hchildren =>
          have hseen : children.Forall₂ (fun c d =>
              (∀ {other}, AgreeAbove budget c other → budget < c.range.length →
                c.pack budget = other.pack budget) ∧ AgreeAbove budget c d) children' :=
            (List.forall₂_and_left _ _).mpr ⟨fun c hc => ih c hc, hchildren⟩
          rw [pack, pack]
          exact packSiblings_congr (hseen.imp fun c d hcd => ⟨hcd.2.range_eq, hcd.1 hcd.2⟩) _

/-! ## Line ranges -/

namespace SyntaxTree

/-- Of a tree the line ranges take where it ends and how it is packed. -/
theorem lineRanges_congr (hrange : tree.range = tree'.range) (hpack : tree.pack budget = tree'.pack budget)
    (source : Text) (threshold : Nat) :
    tree.lineRanges source budget threshold = tree'.lineRanges source budget threshold := by
  unfold lineRanges
  rw [hrange, hpack]

/-- A tree that is packed into one span leaves one range. -/
theorem lineRanges_of_single {s : Span} (h : tree.pack budget = [s]) (source : Text) (threshold : Nat) :
    tree.lineRanges source budget threshold =
      [⟨0, (LineTable.ofText source).lineOf (max tree.range.stop source.size)⟩] := by
  unfold lineRanges
  rw [h]

/-- Trees with the nodes in order that agree down to the nodes within the budget are cut alike. -/
theorem lineRanges_of_agreeAbove (htree : tree.WellFormed) (htree' : tree'.WellFormed)
    (h : AgreeAbove budget tree tree') (source : Text) (threshold : Nat) :
    tree.lineRanges source budget threshold = tree'.lineRanges source budget threshold := by
  have hrange : tree.range = tree'.range := h.range_eq
  by_cases hsmall : tree.range.length ≤ budget
  · -- the root is opened all the same, but what is in it makes one span
    obtain ⟨s, hs⟩ := WellFormed.pack_of_small htree hsmall
    obtain ⟨s', hs'⟩ := WellFormed.pack_of_small htree' (hrange ▸ hsmall)
    rw [lineRanges_of_single hs, lineRanges_of_single hs', hrange]
  · exact lineRanges_congr hrange (h.pack_eq (Nat.lt_of_not_le hsmall)) source threshold

/-- The nodes of `nested`, one of the small ones with a child of its own. -/
def regrown : SyntaxTree :=
  .node ⟨0, 30⟩
    [.node ⟨0, 4⟩ [], .node ⟨5, 25⟩ [.node ⟨6, 13⟩ [.node ⟨7, 9⟩ []], .node ⟨15, 22⟩ []],
      .node ⟨26, 30⟩ []]

theorem wellFormed_regrown : regrown.WellFormed := by
  have hgrown : (node ⟨6, 13⟩ [.node ⟨7, 9⟩ []]).WellFormed :=
    .node (by decide) (by simp [range]) (by simp) (by simp [WellFormed.leaf])
  have hinner : (node ⟨5, 25⟩ [.node ⟨6, 13⟩ [.node ⟨7, 9⟩ []], .node ⟨15, 22⟩ []]).WellFormed :=
    .node (by decide) (by simp [range]) (by simp [range]) (by simp [WellFormed.leaf, hgrown])
  exact .node (by decide) (by simp [range]) (by simp [range]) (by simp [WellFormed.leaf, hinner])

/-- A child more below a small node, and all children of a small root less. -/
theorem lineRanges_of_regrown :
    (nested.WellFormed ∧ regrown.WellFormed ∧ AgreeAbove 10 nested regrown) ∧
      nested.lineRanges Text.shortLines 10 3 = regrown.lineRanges Text.shortLines 10 3 ∧
      ((node ⟨0, 30⟩ []).WellFormed ∧ AgreeAbove 30 nested (node ⟨0, 30⟩ [])) ∧
      nested.lineRanges Text.shortLines 30 3 = (node ⟨0, 30⟩ []).lineRanges Text.shortLines 30 3 := by
  have hinner : AgreeAbove 10 (node ⟨5, 25⟩ [.node ⟨6, 13⟩ [], .node ⟨15, 22⟩ []])
      (node ⟨5, 25⟩ [.node ⟨6, 13⟩ [.node ⟨7, 9⟩ []], .node ⟨15, 22⟩ []]) :=
    .kept (.cons (.replaced (by decide)) (.cons (.refl _ _) .nil))
  have hagree : AgreeAbove 10 nested regrown :=
    .kept (.cons (.refl _ _) (.cons hinner (.cons (.refl _ _) .nil)))
  have hbare : AgreeAbove 30 nested (node ⟨0, 30⟩ []) := .replaced (by decide)
  have hleaf : (node ⟨0, 30⟩ []).WellFormed := .leaf (by decide)
  refine ⟨⟨wellFormed_nested, wellFormed_regrown, hagree⟩, ?_, ⟨hleaf, hbare⟩, ?_⟩
  · exact lineRanges_of_agreeAbove wellFormed_nested wellFormed_regrown hagree Text.shortLines 3
  · exact lineRanges_of_agreeAbove wellFormed_nested hleaf hbare Text.shortLines 3

end SyntaxTree

end CodeRetrieval
