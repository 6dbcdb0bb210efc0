/-
# CodeRetrieval.Proofs.Packing — where packed spans start and end.

Packing always leaves a span, and the first one starts where the node does.  Any other starts at an edge
of one of its children, or where a span of an opened child starts.  Closing the gaps keeps the starts, and
makes every span but the last end where the next one starts.
-/
import CodeRetrieval.Chunking.Packing
import Mathlib.Data.List.Chain

namespace CodeRetrieval

variable {budget total : Nat}

/-! ## Packed spans -/

/-- The first span starts where the unfinished span does. -/
theorem exists_cons_packSiblings (budget : Nat) (pending : Span) (nodes : List SyntaxTree) :
    ∃ s rest, packSiblings budget pending nodes = s :: rest ∧ s.start = pending.start := by
  induction nodes generalizing pending with
  | nil => exact ⟨pending, [], by rw [packSiblings], rfl⟩
  | cons child rest ih =>
      rw [packSiblings]
      split
      · exact ⟨pending, _, rfl, rfl⟩
      · split
        · exact ⟨pending, _, rfl, rfl⟩
        · exact ih (pending.reach child.range)

theorem exists_cons_pack (budget : Nat) (tree : SyntaxTree) :
    ∃ s rest, tree.pack budget = s :: rest ∧ s.start = tree.range.start := by
  cases tree with
  | node range children =>
      rw [SyntaxTree.pack]
      exact exists_cons_packSiblings budget (Span.emptyAt range.start) children

theorem pack_ne_nil (budget : Nat) (tree : SyntaxTree) : tree.pack budget ≠ [] := by
  obtain ⟨s, rest, hcons, _⟩ := exists_cons_pack budget tree
  rw [hcons]
  exact List.cons_ne_nil s rest

/-- A span starts where the unfinished span does, at an edge of a node, or as a span of an opened
node does. -/
theorem start_of_mem_packSiblings {pending s : Span} {nodes : List SyntaxTree}
    (h : s ∈ packSiblings budget pending nodes) :
    s.start = pending.start ∨ ∃ child ∈ nodes, s.start = child.range.start ∨
      s.start = child.range.stop ∨ (budget < child.range.length ∧ s ∈ child.pack budget) := by
  induction nodes generalizing pending with
  | nil =>
      rw [packSiblings, List.mem_singleton] at h
      exact .inl (congrArg Span.start h)
  | cons child rest ih =>
      -- what starts behind the child starts at an edge of it or belongs to a later node
      have hbehind : ∀ {next : Span}, (next.start = pending.start ∨ next.start = child.range.start ∨
          next.start = child.range.stop) → s ∈ packSiblings budget next rest →
          s.start = pending.start ∨ ∃ c ∈ child :: rest, s.start = c.range.start ∨
            s.start = c.range.stop ∨ (budget < c.range.length ∧ s ∈ c.pack budget) := by
        intro next hnext hmem
        rcases ih hmem with hstart | ⟨c, hc, hedge⟩
        · rw [hstart]
          rcases hnext with hnext | hnext | hnext
          · exact .inl hnext
          · exact .inr ⟨child, List.mem_cons_self, .inl hnext⟩
          · exact .inr ⟨child, List.mem_cons_self, .inr (.inl hnext)⟩
        · exact .inr ⟨c, List.mem_cons_of_mem _ hc, hedge⟩
      rw [packSiblings] at h
      split at h
      · rename_i hlarge
        rw [List.mem_cons, List.mem_append] at h
        rcases h with rfl | hmem | hmem
        · exact .inl rfl
        · exact .inr ⟨child, List.mem_cons_self, .inr (.inr ⟨hlarge, hmem⟩)⟩
        · exact hbehind (.inr (.inr rfl)) hmem
      · split at h
        · rw [List.mem_cons] at h
          rcases h with rfl | hmem
          · exact .inl rfl
          · exact hbehind (.inr (.inl rfl)) hmem
        · exact hbehind (.inl (pending.reach_start child.range)) h

/-- Nodes that all lie within a budget's reach of the unfinished span stay in it. -/
theorem packSiblings_of_reach {pending : Span} {stop : Nat} {nodes : List SyntaxTree}
    (hreach : stop - pending.start ≤ budget)
    (hnodes : ∀ c ∈ nodes, pending.start ≤ c.range.start ∧ c.range.stop ≤ stop) :
    ∃ s, packSiblings budget pending nodes = [s] := by
  induction nodes generalizing pending with
  | nil => exact ⟨pending, by rw [packSiblings]⟩
  | cons child rest ih =>
      rw [List.forall_mem_cons] at hnodes
      obtain ⟨⟨hstart, hstop⟩, hrest⟩ := hnodes
      have hchild : ¬ budget < child.range.length := by
        unfold Span.length
        omega
      have hgrown : ¬ budget < (pending.reach child.range).length := by
        unfold Span.length
        rw [Span.reach_start, Span.reach_stop]
        omega
      rw [packSiblings, if_neg hchild, if_neg hgrown]
      exact ih hreach hrest

/-! ## Closed gaps -/

/-- Behind the first one, every span still starts where it did, and ends the one before it there. -/
theorem isChain_closeGaps {P : Nat → Prop} {spans : List Span} (h : ∀ s ∈ spans.tail, P s.start) :
    (closeGaps total spans).IsChain fun a b => a.stop = b.start ∧ P b.start := by
  fun_induction closeGaps total spans with
  | case1 => exact .nil
  | case2 => exact .singleton _
  | case3 s next rest ih =>
      have hrest := ih fun t ht => h t (List.mem_cons_of_mem _ ht)
      have hnext := h next List.mem_cons_self
      cases rest with
      | nil => exact .cons_cons ⟨rfl, hnext⟩ hrest
      | cons => exact .cons_cons ⟨rfl, hnext⟩ hrest

/-- All closed spans but the last end where a span behind the first one starts. -/
theorem closeGaps_eq_concat (total : Nat) {spans : List Span} (h : spans ≠ []) :
    ∃ front last, closeGaps total spans = front ++ [last] ∧ last.stop = total ∧
      ∀ s ∈ front, ∃ t ∈ spans.tail, s.stop = t.start := by
  fun_induction closeGaps total spans with
  | case1 => exact absurd rfl h
  | case2 only => exact ⟨[], _, rfl, rfl, by simp⟩
  | case3 s next rest ih =>
      obtain ⟨front, last, heq, hstop, hfront⟩ := ih (List.cons_ne_nil _ _)
      refine ⟨⟨s.start, next.start⟩ :: front, last, by rw [heq]; rfl, hstop, ?_⟩
      rw [List.forall_mem_cons]
      refine ⟨⟨next, List.mem_cons_self, rfl⟩, ?_⟩
      intro t ht
      obtain ⟨u, hu, hstop'⟩ := hfront t ht
      exact ⟨u, List.mem_cons_of_mem _ hu, hstop'⟩

end CodeRetrieval
