/-
# CodeRetrieval.Proofs.BaseTokens — the base tokens of texts put together.

Where two texts meet at a character that stands in no word, no word goes across, so their words put
together are the words of the whole, and case is changed within the parts of a word only.  Line ends are
such characters.  Hence the chunks of a file have the base tokens of the file, and a text that stands
apart from its surroundings has its base tokens in whatever surrounds it: searched for, it is found.
-/
import CodeRetrieval.Proofs.KeywordScore
import CodeRetrieval.Proofs.LineCoverage

namespace CodeRetrieval

namespace Token

variable {a b : Text}

/-! ## Words -/

theorem pushWord_append (word : Text) (found rest : List Text) :
    pushWord word (found ++ rest) = pushWord word found ++ rest := by
  unfold pushWord
  split <;> rfl

/-- Reading further to the left leaves the words found before at the end. -/
theorem foldr_extendWord_append (text growing : Text) (found rest : List Text) :
    text.foldr extendWord (growing, found ++ rest) =
      ((text.foldr extendWord (growing, found)).1,
        (text.foldr extendWord (growing, found)).2 ++ rest) := by
  induction text with
  | nil => rfl
  | cons c text ih =>
      rw [List.foldr_cons, List.foldr_cons, ih]
      unfold extendWord
      split
      · rfl
      · rw [pushWord_append]

/-- A character of no word cuts the words of a text. -/
theorem words_append_cons {c : Char} (hc : Unicode.isWord c = false) (a b : Text) :
    words (a ++ c :: b) = words a ++ words b := by
  have hcut : extendWord c (b.foldr extendWord ([], [])) = ([], [] ++ words b) := by
    unfold extendWord words
    rw [hc]
    rfl
  have hwords : words (a ++ c :: b) =
      pushWord (a.foldr extendWord (extendWord c (b.foldr extendWord ([], [])))).1
        (a.foldr extendWord (extendWord c (b.foldr extendWord ([], [])))).2 := by
    unfold words
    rw [List.foldr_append, List.foldr_cons]
  rw [hwords, hcut, foldr_extendWord_append, pushWord_append]
  rfl

/-- No word goes across from one text to the other: the first one ends in a character of no word or the
second one starts with one, or one of them is empty. -/
def Apart (a b : Text) : Prop :=
  (∀ c ∈ a.getLast?, Unicode.isWord c = false) ∨ ∀ c ∈ b.head?, Unicode.isWord c = false

theorem words_append (h : Apart a b) : words (a ++ b) = words a ++ words b := by
  rcases h with hlast | hhead
  · rcases List.eq_nil_or_concat a with rfl | ⟨front, c, rfl⟩
    · rfl
    · rw [List.concat_eq_append] at hlast ⊢
      have hc : Unicode.isWord c = false := hlast c (by simp)
      -- the words of the first text are those before its last character
      rw [List.append_assoc, List.singleton_append, words_append_cons hc, words_append_cons hc]
      exact congrArg (· ++ words b) (List.append_nil (words front)).symm
  · cases b with
    | nil =>
        rw [List.append_nil]
        exact (List.append_nil (words a)).symm
    | cons c rest =>
        have hc : Unicode.isWord c = false := hhead c rfl
        rw [words_append_cons hc, ← List.nil_append (c :: rest), words_append_cons hc]
        rfl

theorem base_append (h : Apart a b) : base (a ++ b) = base a ++ base b := by
  unfold base
  rw [words_append h, List.flatMap_append]

theorem mem_all_of_mem_base {token text : Text} (h : token ∈ base text) : token ∈ all text := by
  unfold all
  rw [List.append_assoc]
  exact List.mem_append_left _ h

/-! ## Lines -/

theorem isWord_lineFeed : Unicode.isWord '\n' = false := by decide

theorem isWord_return : Unicode.isWord '\r' = false := by decide

theorem base_append_lineFeed (a b : Text) : base (a ++ '\n' :: b) = base a ++ base b := by
  unfold base
  rw [words_append_cons isWord_lineFeed, List.flatMap_append]

theorem base_joinLines (ls : List Text) : base (Text.joinLines ls) = ls.flatMap base := by
  induction ls with
  | nil => rfl
  | cons line ls ih =>
      cases ls with
      | nil => simp
      | cons next ls =>
          rw [← List.singleton_append, Text.joinLines_append (by simp) (by simp),
            Text.joinLines_singleton, base_append_lineFeed, ih]
          rfl

theorem base_dropReturn (line : Text) : base (Text.dropReturn line) = base line := by
  unfold Text.dropReturn
  split
  · rename_i hlast
    have hapart : Apart line.dropLast ['\r'] := .inr (by simp [isWord_return])
    have hline : line.dropLast ++ ['\r'] = line := List.dropLast_append_getLast? '\r' hlast
    calc base line.dropLast = base line.dropLast ++ base ['\r'] := (List.append_nil _).symm
      _ = base line := by rw [← base_append hapart, hline]
  · rfl

/-- The lines of a text have its base tokens: what ends a line belongs to no word. -/
theorem flatMap_base_lines (text : Text) : text.lines.flatMap base = base text := by
  induction text using Text.lines_induction with
  | nil => rfl
  | last line hne hfeed => rw [Text.lines_of_not_mem hne hfeed, List.flatMap_singleton]
  | feed line rest hline ih =>
      rw [Text.lines_append_lineFeed hline, List.flatMap_cons, base_dropReturn, ih,
        base_append_lineFeed]

end Token

/-! ## Chunks of a file -/

/-- The chunks of a file that has a line have the base tokens of the file, each as often and in the same
order: cut along any tree, for any budget and threshold, or in windows without overlap. -/
theorem chunks_keep_base_tokens (settings : ChunkSettings) (file : SourceFile)
    (hcontent : file.content ≠ []) (hwindow : settings.windowOverlap < settings.windowLines)
    (hcut : file.CutsOnce settings) :
    ∃ chunks, file.chunks settings = .ok chunks ∧
      chunks.flatMap (fun chunk => Token.base chunk.text) = Token.base file.content := by
  obtain ⟨ranges, hranges, htiles⟩ := SourceFile.tiles_ranges hcontent hwindow hcut
  refine ⟨ranges.map file.chunkOf, SourceFile.chunks_of_ranges hcontent hwindow hranges, ?_⟩
  calc (ranges.map file.chunkOf).flatMap (fun chunk => Token.base chunk.text)
      = ((ranges.map file.chunkOf).map Chunk.text).flatMap Token.base := by
        rw [List.flatMap_map Chunk.text]
    _ = Token.base (Text.joinLines ((ranges.map file.chunkOf).map Chunk.text)) :=
        (Token.base_joinLines _).symm
    _ = Token.base (Text.joinLines file.content.lines) := by
        rw [joinLines_map_text_chunkOf file htiles]
    _ = file.content.lines.flatMap Token.base := Token.base_joinLines _
    _ = Token.base file.content := Token.flatMap_base_lines file.content

/-- A file with carriage returns, a sigma at the end of a line and no line feed at its own end. -/
def SourceFile.finalSigma : SourceFile where
  path := ['s', '.', 'r', 's']
  language := .rust
  content := ['Η', 'Ο', 'Δ', 'Ο', 'Σ', '\r', '\n', '\r', '\n',
    'o', 'n', 'e', '_', 'W', 'A', 'Y', '(', ')', '\r', '\n', 'v', '2', ' ', 'i', 'd', '\r']
  tree := some (.node ⟨0, 31⟩ [.node ⟨0, 12⟩ [], .node ⟨14, 23⟩ [], .node ⟨25, 30⟩ []])

theorem chunks_of_finalSigma_keep_tokens :
    (SourceFile.finalSigma.content ≠ [] ∧ 0 < 50 ∧ SourceFile.finalSigma.CutsOnce ⟨10, 1, 50, 0⟩) ∧
      ∃ chunks, SourceFile.finalSigma.chunks ⟨10, 1, 50, 0⟩ = .ok chunks ∧
        chunks.flatMap (fun chunk => Token.base chunk.text) =
          Token.base SourceFile.finalSigma.content := by
  have hcut : SourceFile.finalSigma.CutsOnce ⟨10, 1, 50, 0⟩ := .inl rfl
  refine ⟨⟨List.cons_ne_nil _ _, by decide, hcut⟩, ?_⟩
  exact chunks_keep_base_tokens ⟨10, 1, 50, 0⟩ _ (List.cons_ne_nil _ _) (by decide) hcut

/-! ## Recall -/

/-- Whether a text stands in another one with no word character right before or right behind it. -/
def StandsIn (query text : Text) : Prop :=
  ∃ before behind, text = before ++ query ++ behind ∧
    (∀ c ∈ before.getLast?, Unicode.isWord c = false) ∧
    ∀ c ∈ behind.head?, Unicode.isWord c = false

/-- A text that stands in another one brings all its base tokens, side by side. -/
theorem StandsIn.base_isInfix {query text : Text} (h : StandsIn query text) :
    Token.base query <:+: Token.base text := by
  obtain ⟨before, behind, rfl, hbefore, hbehind⟩ := h
  refine ⟨Token.base before, Token.base behind, ?_⟩
  rw [Token.base_append (.inr hbehind), Token.base_append (.inl hbefore)]

namespace Lexical

variable {R : Type} [Scalar R]

theorem matches_of_standsIn {query text : Text} (hquery : Token.base query ≠ [])
    (h : StandsIn query text) : Matches (Token.all query) text := by
  obtain ⟨token, htoken⟩ := List.exists_mem_of_ne_nil _ hquery
  have htext : token ∈ Token.base text := h.base_isInfix.subset htoken
  exact ⟨token, Token.mem_all_of_mem_base htoken, Token.mem_all_of_mem_base htext⟩

/-- A document in which the query stands, with no word character right before or behind it, is found:
for all documents and parameters and every query with a base token, with the terms of the documents
listed in any order. -/
theorem literal_match_is_found (documents : List Document) (settings : KeywordSettings R)
    {query : Text} (hquery : Token.base query ≠ []) :
    Index.Built documents (Index.ofDocuments documents) ∧
      ∀ index, Index.Built documents index → ∀ document ∈ documents,
        StandsIn query document.content → document.title ∈ index.searchText settings query := by
  refine ⟨Index.built_ofDocuments documents, ?_⟩
  intro index hindex document hmem hstands
  have hmatches := matches_of_standsIn hquery hstands
  have hfound := hindex.represents.mem_search settings (Token.all query) document.title
  exact hfound.mpr ⟨document, hmem, rfl, hmatches⟩

/-- A document that holds an underscored name between a bracket and a dot. -/
def callSite : Document :=
  ⟨['c'], ['(', 'n', 'o', '_', 'Σ', 'Σ', '7', '.', 'x', '7']⟩

theorem callSite_is_found :
    (Token.base ['n', 'o', '_', 'Σ', 'Σ', '7'] ≠ [] ∧
        StandsIn ['n', 'o', '_', 'Σ', 'Σ', '7'] callSite.content) ∧
      callSite.title ∈ (Index.ofDocuments [callSite]).searchText
        (KeywordSettings.standard : KeywordSettings Binary64) ['n', 'o', '_', 'Σ', 'Σ', '7'] := by
  have hquery : Token.base ['n', 'o', '_', 'Σ', 'Σ', '7'] ≠ [] := by decide
  have hopen : Unicode.isWord '(' = false := by decide
  have hdot : Unicode.isWord '.' = false := by decide
  have hstands : StandsIn ['n', 'o', '_', 'Σ', 'Σ', '7'] callSite.content :=
    ⟨['('], ['.', 'x', '7'], rfl, by simpa using hopen, by simpa using hdot⟩
  refine ⟨⟨hquery, hstands⟩, ?_⟩
  obtain ⟨hbuilt, hfound⟩ := literal_match_is_found [callSite]
    (KeywordSettings.standard : KeywordSettings Binary64) hquery
  exact hfound _ hbuilt callSite (List.mem_singleton.mpr rfl) hstands

end Lexical

end CodeRetrieval
