/-
# CodeRetrieval.Proofs.SpanBudget — packed spans keep the budget and the order of the source.

The unfinished span is the only one that grows, and only while it stays within the budget, so no span
of any tree exceeds it: a node that is larger is opened and never a span itself.  In a well-formed tree
the spans also keep the order of the source.  `InOrder` says so of a list of spans: it lies between two
offsets, none of its spans is inverted, and none starts before the one ahead of it ends.  Spans in order
have gaps at most, and closing the gaps moves ends forward only.
-/
import CodeRetrieval.Proofs.Packing
import CodeRetrieval.Proofs.SyntaxTree
import Mathlib.Data.List.Forall2

namespace CodeRetrieval

variable {budget total : Nat}

/-! ## The budget -/

/-- As long as the unfinished span and the spans of opened nodes are within the budget, all are. -/
theorem length_le_of_mem_packSiblings {pending s : Span} {nodes : List SyntaxTree}
    (hpending : pending.length ≤ budget)
    (hnodes : ∀ c ∈ nodes, ∀ t ∈ c.pack budget, t.length ≤ budget)
    (hs : s ∈ packSiblings budget pending nodes) : s.length ≤ budget := by
  induction nodes generalizing pending with
  | nil =>
      rw [packSiblings, List.mem_singleton] at hs
      rw [hs]
      exact hpending
  | cons child rest ih =>
      rw [List.forall_mem_cons] at hnodes
      obtain ⟨hchild, hrest⟩ := hnodes
      rw [packSiblings] at hs
      split at hs
      · rw [List.mem_cons, List.mem_append] at hs
        rcases hs with rfl | hs | hs
        · exact hpending
        · exact hchild s hs
        · refine ih ?_ hrest hs
          rw [Span.length_emptyAt]
          exact Nat.zero_le budget
      · rename_i hfits
        split at hs
        · rw [List.mem_cons] at hs
          rcases hs with rfl | hs
          · exact hpending
          · exact ih (Nat.le_of_not_lt hfits) hrest hs
        · rename_i hreach
          exact ih (Nat.le_of_not_lt hreach) hrest hs

/-- No packed span exceeds the budget, whatever nodes the tree has. -/
theorem length_le_of_mem_pack {tree : SyntaxTree} {s : Span} (hs : s ∈ tree.pack budget) :
    s.length ≤ budget := by
  induction tree generalizing s with
  | node range children ih =>
      rw [SyntaxTree.pack] at hs
      refine length_le_of_mem_packSiblings ?_ (fun c hc t ht => ih c hc ht) hs
      rw [Span.length_emptyAt]
      exact Nat.zero_le budget

/-! ## Spans in order -/

/-- The spans lie between two offsets, none is inverted and none starts before the one ahead of it
ends. -/
def InOrder (low high : Nat) : List Span → Prop
  | [] => low ≤ high
  | s :: rest => low ≤ s.start ∧ s.start ≤ s.stop ∧ InOrder s.stop high rest

theorem InOrder.of_le {low low' high : Nat} {spans : List Span} (h : InOrder low' high spans)
    (hle : low ≤ low') : InOrder low high spans := by
  cases spans with
  | nil => exact Nat.le_trans hle h
  | cons s rest =>
      obtain ⟨hlow, hs, hrest⟩ := h
      exact ⟨Nat.le_trans hle hlow, hs, hrest⟩

theorem InOrder.le_of_stop {low high high' : Nat} {spans : List Span} (h : InOrder low high spans)
    (hle : high ≤ high') : InOrder low high' spans := by
  induction spans generalizing low with
  | nil => exact Nat.le_trans h hle
  | cons s rest ih =>
      obtain ⟨hlow, hs, hrest⟩ := h
      exact ⟨hlow, hs, ih hrest⟩

theorem InOrder.append {low middle high : Nat} {xs ys : List Span} (hxs : InOrder low middle xs)
    (hys : InOrder middle high ys) : InOrder low high (xs ++ ys) := by
  induction xs generalizing low with
  | nil => exact hys.of_le hxs
  | cons s xs ih =>
      obtain ⟨hlow, hs, hrest⟩ := hxs
      exact ⟨hlow, hs, ih hrest⟩

theorem InOrder.bounds {low high : Nat} {spans : List Span} (h : InOrder low high spans) :
    low ≤ high ∧ ∀ s ∈ spans, low ≤ s.start ∧ s.start ≤ s.stop ∧ s.stop ≤ high := by
  induction spans generalizing low with
  | nil => exact ⟨h, by simp⟩
  | cons s rest ih =>
      obtain ⟨hlow, hs, hrest⟩ := h
      obtain ⟨hle, hbounds⟩ := ih hrest
      refine ⟨by omega, List.forall_mem_cons.mpr ⟨⟨hlow, hs, hle⟩, ?_⟩⟩
      intro t ht
      obtain ⟨hstart, hspan, hstop⟩ := hbounds t ht
      exact ⟨by omega, hspan, hstop⟩

theorem InOrder.isChain {low high : Nat} {spans : List Span} (h : InOrder low high spans) :
    spans.IsChain fun a b => a.stop ≤ b.start := by
  induction spans generalizing low with
  | nil => exact .nil
  | cons s rest ih =>
      obtain ⟨_, _, hrest⟩ := h
      have hchain := ih hrest
      cases rest with
      | nil => exact .singleton s
      | cons next rest => exact .cons_cons hrest.1 hchain

/-- Nodes in order behind the unfinished span leave spans in order, if opened nodes do. -/
theorem inOrder_packSiblings (pending : Span) {high : Nat} {nodes : List SyntaxTree}
    (hpending : pending.start ≤ pending.stop) (hhigh : pending.stop ≤ high)
    (hahead : ∀ c ∈ nodes, pending.stop ≤ c.range.start)
    (hnodes : ∀ c ∈ nodes, c.range.start ≤ c.range.stop ∧ c.range.stop ≤ high ∧
      InOrder c.range.start c.range.stop (c.pack budget))
    (hdisjoint : nodes.Pairwise fun a b => a.range.stop ≤ b.range.start) :
    InOrder pending.start high (packSiblings budget pending nodes) := by
  induction nodes generalizing pending with
  | nil =>
      rw [packSiblings]
      exact ⟨Nat.le_refl _, hpending, hhigh⟩
  | cons child rest ih =>
      rw [List.forall_mem_cons] at hahead hnodes
      rw [List.pairwise_cons] at hdisjoint
      obtain ⟨⟨hchild, hwithin, hpack⟩, hrest⟩ := hnodes
      obtain ⟨hbehind, hdisjoint⟩ := hdisjoint
      rw [packSiblings]
      split
      · -- the child is opened: its own spans lie between the unfinished span and the next node
        have hnext : InOrder child.range.stop high
            (packSiblings budget (Span.emptyAt child.range.stop) rest) :=
          ih (Span.emptyAt child.range.stop) (Nat.le_refl _) hwithin hbehind hrest hdisjoint
        exact ⟨Nat.le_refl _, hpending, (hpack.append hnext).of_le hahead.1⟩
      · split
        · have hnext : InOrder child.range.start high (packSiblings budget child.range rest) :=
            ih child.range hchild hwithin hbehind hrest hdisjoint
          exact ⟨Nat.le_refl _, hpending, hnext.of_le hahead.1⟩
        · have hgrown : (pending.reach child.range).start ≤ (pending.reach child.range).stop := by
            have hstart := hahead.1
            show pending.start ≤ child.range.stop
            omega
          exact ih _ hgrown hwithin hbehind hrest hdisjoint

/-- The spans of a well-formed tree lie in it in order. -/
theorem SyntaxTree.WellFormed.inOrder_pack {tree : SyntaxTree} (h : tree.WellFormed) :
    InOrder tree.range.start tree.range.stop (tree.pack budget) := by
  induction h with
  | @node range children hrange hin hdisjoint hchildren ih =>
      rw [pack]
      apply inOrder_packSiblings (Span.emptyAt range.start) (Nat.le_refl _)
      · exact hrange
      · intro c hc
        exact (hin c hc).1
      · intro c hc
        exact ⟨(hchildren c hc).start_le_stop, (hin c hc).2, ih c hc⟩
      · exact hdisjoint

/-! ## Closed gaps -/

/-- The spans follow each other from `start` to `stop` without a gap; one may be empty but none is
inverted. -/
def Covers (start stop : Nat) : List Span → Prop
  | [] => start = stop
  | s :: rest => s.start = start ∧ s.start ≤ s.stop ∧ Covers s.stop stop rest

/-- With its gaps closed a list of spans in order covers everything from its first span on. -/
theorem InOrder.covers_closeGaps {low : Nat} {first : Span} {rest : List Span}
    (h : InOrder low total (first :: rest)) :
    Covers first.start total (closeGaps total (first :: rest)) := by
  induction rest generalizing low first with
  | nil =>
      obtain ⟨_, hfirst, htotal⟩ := h
      have hstop : first.stop ≤ total := htotal
      exact ⟨rfl, Nat.le_trans hfirst hstop, rfl⟩
  | cons next rest ih =>
      obtain ⟨_, hfirst, hrest⟩ := h
      refine ⟨rfl, ?_, ih hrest⟩
      show first.start ≤ next.start
      exact Nat.le_trans hfirst hrest.1

/-- Closing the gaps keeps where the spans start and moves no end back. -/
theorem InOrder.grown_closeGaps {low : Nat} {spans : List Span} (h : InOrder low total spans) :
    spans.Forall₂ (fun s grown => grown.start = s.start ∧ s.stop ≤ grown.stop)
      (closeGaps total spans) := by
  fun_induction closeGaps total spans generalizing low with
  | case1 => exact .nil
  | case2 last =>
      obtain ⟨_, _, htotal⟩ := h
      exact .cons ⟨rfl, htotal⟩ .nil
  | case3 s next rest ih =>
      obtain ⟨_, _, hrest⟩ := h
      exact .cons ⟨rfl, hrest.1⟩ (ih hrest)

/-- No packed span exceeds the budget.  The spans of a well-formed tree lie in the tree, not inverted
and in order, and closing their gaps up to an offset behind the tree only moves their ends forward, so
that they cover everything from where the tree starts. -/
theorem packed_spans_keep_budget_and_order (budget : Nat) (tree : SyntaxTree) :
    (∀ s ∈ tree.pack budget, s.length ≤ budget) ∧
      (tree.WellFormed →
        tree.pack budget ≠ [] ∧
        (∀ s ∈ tree.pack budget,
          tree.range.start ≤ s.start ∧ s.start ≤ s.stop ∧ s.stop ≤ tree.range.stop) ∧
        ((tree.pack budget).IsChain fun a b => a.stop ≤ b.start) ∧
        ∀ total, tree.range.stop ≤ total →
          Covers tree.range.start total (closeGaps total (tree.pack budget)) ∧
          (tree.pack budget).Forall₂ (fun s grown => grown.start = s.start ∧ s.stop ≤ grown.stop)
            (closeGaps total (tree.pack budget))) := by
  refine ⟨fun s hs => length_le_of_mem_pack hs, ?_⟩
  intro h
  have hpack : InOrder tree.range.start tree.range.stop (tree.pack budget) := h.inOrder_pack
  refine ⟨pack_ne_nil budget tree, hpack.bounds.2, hpack.isChain, ?_⟩
  intro total htotal
  have htotal : InOrder tree.range.start total (tree.pack budget) := hpack.le_of_stop htotal
  refine ⟨?_, htotal.grown_closeGaps⟩
  obtain ⟨s, rest, hcons, hstart⟩ := exists_cons_pack budget tree
  rw [hcons] at htotal ⊢
  rw [← hstart]
  exact htotal.covers_closeGaps

theorem packed_spans_of_nested :
    (SyntaxTree.nested.WellFormed ∧ SyntaxTree.nested.range.stop ≤ 32) ∧
      (∀ s ∈ SyntaxTree.nested.pack 10, s.length ≤ 10) ∧
      SyntaxTree.nested.pack 10 ≠ [] ∧
      (∀ s ∈ SyntaxTree.nested.pack 10, 0 ≤ s.start ∧ s.start ≤ s.stop ∧ s.stop ≤ 30) ∧
      ((SyntaxTree.nested.pack 10).IsChain fun a b => a.stop ≤ b.start) ∧
      Covers 0 32 (closeGaps 32 (SyntaxTree.nested.pack 10)) ∧
      (SyntaxTree.nested.pack 10).Forall₂ (fun s grown => grown.start = s.start ∧ s.stop ≤ grown.stop)
        (closeGaps 32 (SyntaxTree.nested.pack 10)) := by
  have htotal : SyntaxTree.nested.range.stop ≤ 32 := by decide
  obtain ⟨hbudget, horder⟩ := packed_spans_keep_budget_and_order 10 SyntaxTree.nested
  obtain ⟨hne, hinside, hchain, hclosed⟩ := horder SyntaxTree.wellFormed_nested
  exact ⟨⟨SyntaxTree.wellFormed_nested, htotal⟩, hbudget, hne, hinside, hchain, hclosed 32 htotal⟩

end CodeRetrieval
