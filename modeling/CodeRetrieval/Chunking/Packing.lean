/-
# CodeRetrieval.Chunking.Packing — spans along the nodes of a syntax tree.

Of a parse only the byte ranges of the nodes and their order matter.  Children are packed into one span
after the other as long as a span stays within the budget.  A child that is larger by itself is opened and
its own children are packed.  `closeGaps` then stretches every span to the start of the next one, so that
the bytes between nodes belong to a span too.
-/
import CodeRetrieval.Span

namespace CodeRetrieval

/-! ## Trees -/

/-- A node: the bytes it covers, and its children in source order. -/
inductive SyntaxTree where
  | node (range : Span) (children : List SyntaxTree)

namespace SyntaxTree

/-- The bytes a node covers. -/
def range : SyntaxTree → Span
  | node r _ => r

/-- The children of a node. -/
def children : SyntaxTree → List SyntaxTree
  | node _ cs => cs

end SyntaxTree

/-! ## Packing -/

mutual

/-- The spans of a node's children, each within the budget. -/
def SyntaxTree.pack (budget : Nat) : SyntaxTree → List Span
  | .node range children => packSiblings budget (Span.emptyAt range.start) children

/-- The spans of the nodes that follow an unfinished span. -/
def packSiblings (budget : Nat) (pending : Span) : List SyntaxTree → List Span
  | [] => [pending]
  | child :: rest =>
    if budget < child.range.length then
      pending :: (child.pack budget ++ packSiblings budget (Span.emptyAt child.range.stop) rest)
    else if budget < (pending.reach child.range).length then
      pending :: packSiblings budget child.range rest
    else packSiblings budget (pending.reach child.range) rest

end

/-- Every span stretched to the start of the next one, and the last one to `total`. -/
def closeGaps (total : Nat) : List Span → List Span
  | [] => []
  | [last] => [⟨last.start, total⟩]
  | s :: next :: rest => ⟨s.start, next.start⟩ :: closeGaps total (next :: rest)

end CodeRetrieval
