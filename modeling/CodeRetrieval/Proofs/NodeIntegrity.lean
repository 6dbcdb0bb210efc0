/-
# CodeRetrieval.Proofs.NodeIntegrity — a node that fits the budget is never cut.

In a well-formed tree the children of a node lie in it, in source order and disjoint.  A packed span
starts at an edge of an opened node or of a child of one, and every such edge lies outside a node
within the budget or at its rim: an opened node that is not the root is larger than the budget, so it
contains the node or is disjoint from it.  The root is opened whatever its size, but if it fits the
budget all of it is packed into one span.  Closing gaps keeps the starts and merging only removes some.
-/
import CodeRetrieval.Proofs.Coalescing
import CodeRetrieval.Proofs.SpanBudget

namespace CodeRetrieval

/-- Whether an offset lies strictly between the ends of a span. -/
def Span.CutBy (s : Span) (offset : Nat) : Prop := s.start < offset ∧ offset < s.stop

/-! ## Spans and nodes -/

namespace SyntaxTree

variable {budget : Nat} {tree n : SyntaxTree}

/-- A span of a node starts inside the node. -/
theorem WellFormed.start_of_mem_pack (h : tree.WellFormed) {s : Span} (hs : s ∈ tree.pack budget) :
    tree.range.start ≤ s.start ∧ s.start ≤ tree.range.stop := by
  obtain ⟨hlow, hspan, hhigh⟩ := h.inOrder_pack.bounds.2 s hs
  exact ⟨hlow, Nat.le_trans hspan hhigh⟩

/-- No span of a node starts strictly inside a smaller node below it. -/
theorem WellFormed.not_cutBy_of_mem_pack (h : tree.WellFormed) {c : SyntaxTree}
    (hc : c ∈ tree.children) (hn : NodeOf n c) (hsmall : n.range.length ≤ budget) {s : Span}
    (hs : s ∈ tree.pack budget) : ¬ n.range.CutBy s.start := by
  induction h generalizing c with
  | @node range children hrange hin hdisjoint hchildren ih =>
      rintro ⟨hafter, hbefore⟩
      have hinside := hn.inside (hchildren c hc)
      rw [pack] at hs
      rcases start_of_mem_packSiblings hs with hstart | ⟨d, hd, hedge⟩
      · have hlow := (hin c hc).1
        have hstart' : s.start = range.start := hstart
        omega
      · have hle := (hchildren d hd).start_le_stop
        rcases eq_or_disjoint hdisjoint hc hd with rfl | hside
        · rcases hedge with hstart | hstop | ⟨hlarge, hmem⟩
          · omega
          · omega
          · -- the child was opened, so it is larger than the node, which lies below it
            cases hn with
            | self => omega
            | child hc' hn' => exact ih _ hc hc' hn' hmem ⟨hafter, hbefore⟩
        · have hwithin : d.range.start ≤ s.start ∧ s.start ≤ d.range.stop := by
            rcases hedge with hstart | hstop | ⟨_, hmem⟩
            · omega
            · omega
            · exact (hchildren d hd).start_of_mem_pack hmem
          omega

/-- A node within the budget is packed into one span. -/
theorem WellFormed.pack_of_small (h : tree.WellFormed) (hsmall : tree.range.length ≤ budget) :
    ∃ s, tree.pack budget = [s] := by
  cases h with
  | node _ hin _ _ =>
      rw [pack]
      exact packSiblings_of_reach hsmall hin

/-- Behind the first span no span starts strictly inside a node within the budget. -/
theorem WellFormed.not_cutBy_of_mem_tail (h : tree.WellFormed) (hn : NodeOf n tree)
    (hsmall : n.range.length ≤ budget) {s : Span} (hs : s ∈ (tree.pack budget).tail) :
    ¬ n.range.CutBy s.start := by
  cases hn with
  | self =>
      obtain ⟨only, honly⟩ := h.pack_of_small hsmall
      rw [honly] at hs
      cases hs
  | child hc hn => exact h.not_cutBy_of_mem_pack hc hn hsmall (List.mem_of_mem_tail hs)

example : (node ⟨0, 30⟩ [node ⟨0, 4⟩ [], node ⟨5, 25⟩ [node ⟨6, 13⟩ [], node ⟨15, 22⟩ []],
    node ⟨26, 30⟩ []]).pack 10 = [⟨0, 4⟩, ⟨5, 13⟩, ⟨15, 22⟩, ⟨25, 30⟩] := by cbv

end SyntaxTree

/-! ## Boundaries -/

/-- In contiguous spans every span starts where the one before it ends. -/
theorem Contiguous.isChain {P : Nat → Prop} {start stop : Nat} {spans : List Span}
    (h : Contiguous start stop spans) (hP : ∀ s ∈ spans, P s.start) :
    spans.IsChain fun a b => a.stop = b.start ∧ P b.start := by
  induction spans generalizing start with
  | nil => exact .nil
  | cons s spans ih =>
      rw [List.forall_mem_cons] at hP
      obtain ⟨_, _, hrest⟩ := h
      have hchain := ih hrest hP.2
      cases spans with
      | nil => exact .singleton s
      | cons t spans => exact .cons_cons ⟨hrest.1.symm, hP.2 t List.mem_cons_self⟩ hchain

/-- Where one span ends and the next one starts, no node within the budget is cut: neither among the
packed spans, their gaps closed, nor among those that merging leaves. -/
theorem boundaries_spare_small_nodes {tree n : SyntaxTree} (h : tree.WellFormed)
    (hn : SyntaxTree.NodeOf n tree) (budget threshold total : Nat) (source : Text)
    (hsmall : n.range.length ≤ budget) :
    ((closeGaps total (tree.pack budget)).IsChain fun a b =>
        a.stop = b.start ∧ ¬ n.range.CutBy b.start) ∧
      (coalesce threshold source (closeGaps total (tree.pack budget))).IsChain fun a b =>
        a.stop = b.start ∧ ¬ n.range.CutBy b.start := by
  have htail : ∀ s ∈ (tree.pack budget).tail, ¬ n.range.CutBy s.start := fun s hs =>
    h.not_cutBy_of_mem_tail hn hsmall hs
  refine ⟨isChain_closeGaps (P := fun offset => ¬ n.range.CutBy offset) htail, ?_⟩
  obtain ⟨front, last, hclosed, _, hfront⟩ := closeGaps_eq_concat total
    (pack_ne_nil budget tree)
  rw [hclosed]
  obtain ⟨stop, hcontiguous⟩ := exists_contiguous_coalesce threshold source (front ++ [last])
  refine hcontiguous.isChain (P := fun offset => ¬ n.range.CutBy offset) ?_
  intro s hs
  rcases start_of_mem_coalesce hs with hzero | ⟨t, ht, hstart⟩
  · rw [hzero]
    exact fun hcut => absurd hcut.1 (Nat.not_lt_zero _)
  · obtain ⟨u, hu, hstop⟩ := hfront t ht
    rw [hstart, hstop]
    exact htail u hu

/-- Sixteen lines of one character. -/
def Text.shortLines : Text := (List.replicate 16 ['x', '\n']).flatten

theorem boundaries_spare_nodes_of_nested :
    (SyntaxTree.nested.WellFormed ∧ SyntaxTree.NodeOf (.node ⟨15, 22⟩ []) SyntaxTree.nested ∧
        (SyntaxTree.node ⟨15, 22⟩ []).range.length ≤ 10) ∧
      ((closeGaps 32 (SyntaxTree.nested.pack 10)).IsChain fun a b =>
        a.stop = b.start ∧ ¬ (SyntaxTree.node ⟨15, 22⟩ []).range.CutBy b.start) ∧
      (coalesce 3 Text.shortLines (closeGaps 32 (SyntaxTree.nested.pack 10))).IsChain fun a b =>
        a.stop = b.start ∧ ¬ (SyntaxTree.node ⟨15, 22⟩ []).range.CutBy b.start := by
  have hinner : SyntaxTree.NodeOf (.node ⟨15, 22⟩ []) SyntaxTree.nested :=
    .child (.tail _ (.head _)) (.child (.tail _ (.head _)) .self)
  refine ⟨⟨SyntaxTree.wellFormed_nested, hinner, by decide⟩, ?_⟩
  exact boundaries_spare_small_nodes SyntaxTree.wellFormed_nested hinner 10 3 32 Text.shortLines
    (by decide)

end CodeRetrieval
