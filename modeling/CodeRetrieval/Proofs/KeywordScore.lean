/-
# CodeRetrieval.Proofs.KeywordScore — the index scores what the documents alone say.

`Direct` writes the keyword score down without an index: for one text among all, the sum over the
distinct terms of the query that it holds.  A built index gives every document that sum.  One term
credits each of its holders once, because every posting has a document of its own, and the terms come
in the order of the query, so the sums agree to the last operation and no law of arithmetic is needed.
The scored documents come out of a map in no order; ranking by score and place leaves only one.
-/
import CodeRetrieval.Lexical.Bm25
import CodeRetrieval.Number.Binary64
import CodeRetrieval.Proofs.TermIndex

namespace CodeRetrieval.Lexical

variable {R : Type} [Scalar R]

/-! ## The score without an index -/

/-- Whether a text holds a term of the query. -/
def Matches (query : List Text) (text : Text) : Prop := ∃ term ∈ query, term ∈ Token.all text

instance (query : List Text) (text : Text) : Decidable (Matches query text) :=
  inferInstanceAs (Decidable (∃ term ∈ query, term ∈ Token.all text))

namespace Direct

/-- The number of texts that hold a term. -/
def holders (texts : List Text) (term : Text) : Nat :=
  texts.countP fun text => (Token.all text).contains term

/-- The mean number of terms of the texts. -/
def meanLength (texts : List Text) : R :=
  Scalar.ofNat (Index.total (texts.map fun text => (Token.all text).length)) /
    Scalar.ofNat texts.length

/-- What a term adds to the score of a text among all texts. -/
def termScore (settings : KeywordSettings R) (texts : List Text) (text term : Text) : R :=
  let size : R := Scalar.ofNat texts.length
  let holding : R := Scalar.ofNat (holders texts term)
  let frequency : R := Scalar.ofNat ((Token.all text).count term)
  let length : R := Scalar.ofNat (Token.all text).length
  Scalar.ln ((size - holding + 0.5) / (holding + 0.5) + 1.0) *
    ((frequency * (settings.k1 + 1.0)) /
      (frequency + settings.k1 * (1.0 - settings.b + settings.b * length / meanLength texts)))

/-- The distinct terms of the query that a text holds, in the order of the query. -/
def heldTerms (query : List Text) (text : Text) : List Text :=
  query.eraseDups.filter (Token.all text).contains

/-- The keyword score of a text among all texts. -/
def score (settings : KeywordSettings R) (texts : List Text) (query : List Text) (text : Text) : R :=
  Scalar.sum ((heldTerms query text).map (termScore settings texts text))

end Direct

/-- A ranking of texts: one entry for each text that holds a term of the query and none for any other,
with its score, by descending score and texts of one score by their places. -/
structure IsRanking (settings : KeywordSettings R) (texts : List Text) (query : List Text)
    (ranked : List (Nat × R)) : Prop where
  mem_iff : ∀ place score, (place, score) ∈ ranked ↔ ∃ text, texts[place]? = some text ∧
    Matches query text ∧ score = Direct.score settings texts query text
  once : (ranked.map Prod.fst).Nodup
  sorted : ranked.Pairwise fun a b =>
    Scalar.le b.2 a.2 = true ∧ (Scalar.le a.2 b.2 = true → a.1 < b.1)

theorem heldTerms_eq_nil_iff {query : List Text} {text : Text} :
    Direct.heldTerms query text = [] ↔ ¬ Matches query text := by
  unfold Direct.heldTerms Matches
  rw [List.filter_eq_nil_iff]
  constructor
  · rintro h ⟨term, hquery, hterm⟩
    exact h term (List.mem_eraseDups.mpr hquery) (List.contains_iff_mem.mpr hterm)
  · intro h term hquery hterm
    exact h ⟨term, List.mem_eraseDups.mp hquery, List.contains_iff_mem.mp hterm⟩

/-! ## Distinct terms -/

theorem distinct_eq_eraseDups (query : List Text) : distinct query = query.eraseDups := by
  -- the set holds what is already listed, newest first
  have hfold : ∀ (terms : List Text) (seen : Std.HashSet Text) (listed : List Text),
      (∀ t, seen.contains t = listed.any (t == ·)) →
      (terms.foldl (fun (state : Std.HashSet Text × List Text) term =>
        if state.1.contains term then state else (state.1.insert term, term :: state.2))
        (seen, listed)).2.reverse = List.eraseDupsBy.loop (· == ·) terms listed := by
    intro terms
    induction terms with
    | nil => exact fun _ _ _ => rfl
    | cons term terms ih =>
        intro seen listed hseen
        rw [List.foldl_cons, List.eraseDupsBy.loop, hseen term]
        cases hlisted : listed.any (term == ·) with
        | true => exact ih seen listed hseen
        | false =>
            refine ih (seen.insert term) (term :: listed) ?_
            intro t
            rw [Std.HashSet.contains_insert, hseen t, List.any_cons, Bool.beq_comm]
  exact hfold query ∅ [] (fun t => by simp)

/-! ## Credited scores -/

namespace Index

variable {documents : List Document} {index : Index} {settings : KeywordSettings R}

theorem getElem?_foldl_credit_of_ne (amount : Posting → R) {postings : List Posting} {place : Nat}
    (h : ∀ p ∈ postings, p.document ≠ place) (scores : Std.HashMap Nat R) :
    (postings.foldl (fun scores p => credit scores p.document (amount p)) scores)[place]? =
      scores[place]? := by
  induction postings generalizing scores with
  | nil => rfl
  | cons p postings ih =>
      rw [List.forall_mem_cons] at h
      rw [List.foldl_cons, ih h.2]
      unfold credit
      rw [Std.HashMap.getElem?_insert, if_neg (by simpa using h.1)]

/-- Postings of different documents credit each document once. -/
theorem getElem?_foldl_credit_of_mem (amount : Posting → R) {postings : List Posting} {p : Posting}
    (hascending : postings.Pairwise fun p q => p.document < q.document) (hp : p ∈ postings)
    (scores : Std.HashMap Nat R) :
    (postings.foldl (fun scores p => credit scores p.document (amount p)) scores)[p.document]? =
      some (scores.getD p.document (Scalar.ofNat 0) + amount p) := by
  induction postings generalizing scores with
  | nil => cases hp
  | cons q postings ih =>
      rw [List.pairwise_cons] at hascending
      obtain ⟨hbehind, hascending⟩ := hascending
      rw [List.foldl_cons]
      rcases List.mem_cons.mp hp with rfl | hp
      · -- the document is credited here, and the later postings are of others
        rw [getElem?_foldl_credit_of_ne amount (fun q hq => Nat.ne_of_gt (hbehind q hq))]
        exact Std.HashMap.getElem?_insert_self
      · have hne : ¬ (q.document == p.document) = true := by
          simpa using Nat.ne_of_lt (hbehind p hp)
        rw [ih hascending hp]
        unfold credit
        rw [Std.HashMap.getD_insert, if_neg hne]

theorem Represents.totalLength_eq (h : index.Represents documents) :
    index.totalLength =
      total ((documents.map Document.content).map fun text => (Token.all text).length) := by
  rw [totalLength, h.lengths, List.map_map]
  rfl

/-- What a posting adds is what the term adds to the score of the posting's document. -/
theorem Represents.contribution_eq (h : index.Represents documents) {term : Text} {p : Posting}
    {document : Document} (hplace : documents[p.document]? = some document)
    (hfrequency : p.frequency = (Token.all document.content).count term) :
    index.contribution settings (index.find term).length p =
      Direct.termScore settings (documents.map Document.content) document.content term := by
  have hlength : index.lengths.getD p.document 0 = (Token.all document.content).length := by
    rw [Array.getD_eq_getD_getElem?, ← Array.getElem?_toList, h.lengths, List.getElem?_map, hplace]
    rfl
  unfold contribution rarity saturation meanLength Direct.termScore Direct.meanLength
  rw [h.length_find, h.size_eq, h.totalLength_eq, hlength, hfrequency, List.length_map]
  rfl

/-- A term adds to the scores of the documents that hold it and leaves the other scores alone. -/
theorem Represents.getElem?_scoreTerm (h : index.Represents documents) {place : Nat}
    {document : Document} (hplace : documents[place]? = some document)
    (scores : Std.HashMap Nat R) (term : Text) :
    (index.scoreTerm settings scores term)[place]? =
      if term ∈ Token.all document.content then
        some (scores.getD place (Scalar.ofNat 0) +
          Direct.termScore settings (documents.map Document.content) document.content term)
      else scores[place]? := by
  unfold scoreTerm
  simp only
  split
  · rename_i hterm
    have hposting := (h.mem_find term ⟨place, _⟩).mpr ⟨document, hplace, hterm, rfl⟩
    rw [← h.contribution_eq (p := ⟨place, _⟩) hplace rfl]
    exact getElem?_foldl_credit_of_mem _ (h.ascending_find term) hposting scores
  · rename_i hterm
    refine getElem?_foldl_credit_of_ne _ ?_ scores
    rintro p hp rfl
    obtain ⟨document', hplace', hterm', _⟩ := (h.mem_find term p).mp hp
    rw [hplace] at hplace'
    cases hplace'
    exact hterm hterm'

/-- The terms of the query add up, in their order. -/
theorem Represents.getElem?_foldl_scoreTerm (h : index.Represents documents) {place : Nat}
    {document : Document} (hplace : documents[place]? = some document)
    (terms : List Text) (scores : Std.HashMap Nat R) :
    (terms.foldl (index.scoreTerm settings) scores)[place]? =
      if terms.filter (Token.all document.content).contains = [] then scores[place]?
      else some (((terms.filter (Token.all document.content).contains).map
        (Direct.termScore settings (documents.map Document.content) document.content)).foldl (· + ·)
          (scores.getD place (Scalar.ofNat 0))) := by
  induction terms generalizing scores with
  | nil => simp
  | cons term terms ih =>
      rw [List.foldl_cons, ih, Std.HashMap.getD_eq_getD_getElem?, h.getElem?_scoreTerm hplace]
      by_cases hterm : term ∈ Token.all document.content
      · rw [if_pos hterm, List.filter_cons_of_pos (by simpa using hterm),
          if_neg (List.cons_ne_nil _ _), List.map_cons, List.foldl_cons, Option.getD_some]
        -- whether or not later terms are held, this one opened the sum
        split
        · rename_i hnil
          rw [hnil]
          rfl
        · rfl
      · rw [if_neg hterm, List.filter_cons_of_neg (by simpa using hterm),
          Std.HashMap.getD_eq_getD_getElem?]

theorem Represents.getElem?_foldl_scoreTerm_of_none (h : index.Represents documents) {place : Nat}
    (hplace : documents[place]? = none) (terms : List Text) (scores : Std.HashMap Nat R) :
    (terms.foldl (index.scoreTerm settings) scores)[place]? = scores[place]? := by
  induction terms generalizing scores with
  | nil => rfl
  | cons term terms ih =>
      rw [List.foldl_cons, ih]
      refine getElem?_foldl_credit_of_ne _ ?_ scores
      rintro p hp rfl
      obtain ⟨document, hsome, _⟩ := (h.mem_find term p).mp hp
      rw [hplace] at hsome
      cases hsome

/-- After all terms of the query, the documents that hold one of them have their scores. -/
theorem Represents.getElem?_termScores (h : index.Represents documents) (query : List Text)
    (place : Nat) :
    (index.termScores settings query)[place]? =
      ((documents.map Document.content)[place]?).bind fun text =>
        if Matches query text then
          some (Direct.score settings (documents.map Document.content) query text)
        else none := by
  unfold termScores
  rw [distinct_eq_eraseDups, List.getElem?_map]
  cases hplace : documents[place]? with
  | none =>
      rw [h.getElem?_foldl_scoreTerm_of_none hplace, Std.HashMap.getElem?_empty]
      rfl
  | some document =>
      rw [h.getElem?_foldl_scoreTerm hplace, Std.HashMap.getElem?_empty, Std.HashMap.getD_empty]
      show (if Direct.heldTerms query document.content = [] then none else _) =
        if Matches query document.content then _ else _
      by_cases hmatches : Matches query document.content
      · rw [if_pos hmatches, if_neg (fun hnil => heldTerms_eq_nil_iff.mp hnil hmatches)]
        rfl
      · rw [if_neg hmatches, if_pos (heldTerms_eq_nil_iff.mpr hmatches)]

theorem Represents.mem_toList_termScores (h : index.Represents documents) {query : List Text}
    {place : Nat} {score : R} :
    (place, score) ∈ (index.termScores settings query).toList ↔
      ∃ text, (documents.map Document.content)[place]? = some text ∧ Matches query text ∧
        score = Direct.score settings (documents.map Document.content) query text := by
  rw [Std.HashMap.mem_toList_iff_getElem?_eq_some, h.getElem?_termScores, Option.bind_eq_some_iff]
  constructor
  · rintro ⟨text, hplace, hscore⟩
    split at hscore
    · rename_i hmatches
      exact ⟨text, hplace, hmatches, (Option.some.inj hscore).symm⟩
    · cases hscore
  · rintro ⟨text, hplace, hmatches, hscore⟩
    exact ⟨text, hplace, by rw [if_pos hmatches, hscore]⟩

/-! ## Rankings -/

theorem ranksBefore_iff (a b : Nat × R) :
    ranksBefore a b = true ↔
      Scalar.le b.2 a.2 = true ∧ (Scalar.le a.2 b.2 = true → a.1 ≤ b.1) := by
  unfold ranksBefore
  by_cases hba : Scalar.le b.2 a.2 = true
  · by_cases hab : Scalar.le a.2 b.2 = true
    · simp [hba, hab]
    · simp [hba, hab]
  · simp [hba]

theorem ranksBefore_trans (a b c : Nat × R) (hab : ranksBefore a b = true)
    (hbc : ranksBefore b c = true) : ranksBefore a c = true := by
  rw [ranksBefore_iff] at hab hbc ⊢
  refine ⟨Scalar.le_trans _ _ _ hbc.1 hab.1, ?_⟩
  intro hac
  have hplaces := hab.2 (Scalar.le_trans _ _ _ hac hbc.1)
  exact Nat.le_trans hplaces (hbc.2 (Scalar.le_trans _ _ _ hab.1 hac))

theorem ranksBefore_total (a b : Nat × R) : (ranksBefore a b || ranksBefore b a) = true := by
  have htotal := Scalar.le_total a.2 b.2
  rw [Bool.or_eq_true] at htotal ⊢
  rw [ranksBefore_iff, ranksBefore_iff]
  by_cases hab : Scalar.le a.2 b.2 = true
  · by_cases hba : Scalar.le b.2 a.2 = true
    · rcases Nat.le_total a.1 b.1 with hle | hle
      · exact .inl ⟨hba, fun _ => hle⟩
      · exact .inr ⟨hab, fun _ => hle⟩
    · exact .inr ⟨hab, fun h => absurd h hba⟩
  · have hba := htotal.resolve_left hab
    exact .inl ⟨hba, fun h => absurd h hab⟩

end Index

/-- There is only one ranking. -/
theorem IsRanking.eq {settings : KeywordSettings R} {texts query : List Text}
    {ranked ranked' : List (Nat × R)} (h : IsRanking settings texts query ranked)
    (h' : IsRanking settings texts query ranked') : ranked = ranked' := by
  have hperm : ranked.Perm ranked' := by
    rw [List.perm_ext_iff_of_nodup (List.Nodup.of_map _ h.once) (List.Nodup.of_map _ h'.once)]
    rintro ⟨place, score⟩
    rw [h.mem_iff, h'.mem_iff]
  refine hperm.eq_of_pairwise ?_ h.sorted h'.sorted
  intro a b _ _ hab hba
  -- two entries that may change places would each come first
  have hlt := hab.2 hba.1
  have hlt' := hba.2 hab.1
  omega

namespace Index

variable {documents : List Document} {index : Index}

theorem total_pos {lengths : List Nat} {n : Nat} (hmem : n ∈ lengths) (hpos : 0 < n) :
    0 < total lengths := by
  apply Nat.pos_of_ne_zero
  intro htotal
  rw [total, ← List.sum_eq_foldl] at htotal
  have hzero := List.sum_eq_zero_iff_forall_eq_nat.mp htotal n hmem
  omega

theorem Represents.not_matches (h : index.Represents documents)
    (hempty : index.size = 0 ∨ index.totalLength = 0) (query : List Text) {text : Text}
    (htext : text ∈ documents.map Document.content) : ¬ Matches query text := by
  rintro ⟨term, _, hterm⟩
  have hlength := List.length_pos_of_mem hterm
  rcases hempty with hsize | htotal
  · rw [h.size_eq, List.length_eq_zero_iff] at hsize
    rw [hsize] at htext
    cases htext
  · have hpos := total_pos (List.mem_map_of_mem (f := fun text => (Token.all text).length) htext)
      hlength
    rw [← h.totalLength_eq, htotal] at hpos
    exact Nat.lt_irrefl 0 hpos

/-- In whatever order the scored documents leave their map, they are brought into the ranking of the
documents' texts. -/
theorem Represents.isRanking_rankListed (h : index.Represents documents)
    (settings : KeywordSettings R) (query : List Text) {entries : List (Nat × R)}
    (hentries : entries.Perm (index.termScores settings query).toList) :
    IsRanking settings (documents.map Document.content) query (index.rankListed entries) := by
  unfold rankListed
  split
  · -- nothing is ranked, and nothing could match
    rename_i hempty
    refine ⟨?_, List.nodup_nil, .nil⟩
    intro place score
    refine ⟨fun hmem => absurd hmem (List.not_mem_nil), ?_⟩
    rintro ⟨text, hplace, hmatches, _⟩
    exact absurd hmatches (h.not_matches hempty query (List.mem_of_getElem? hplace))
  · have hperm := (List.mergeSort_perm entries ranksBefore).trans hentries
    have honce : ((entries.mergeSort ranksBefore).map Prod.fst).Nodup := by
      rw [(hperm.map Prod.fst).nodup_iff, Std.HashMap.map_fst_toList_eq_keys]
      exact Std.HashMap.nodup_keys
    refine ⟨?_, honce, ?_⟩
    · intro place score
      rw [hperm.mem_iff, h.mem_toList_termScores]
    · have hsorted := List.pairwise_mergeSort ranksBefore_trans ranksBefore_total entries
      refine (hsorted.and (List.pairwise_map.mp honce)).imp ?_
      rintro a b ⟨hbefore, hne⟩
      obtain ⟨hle, hplaces⟩ := (ranksBefore_iff a b).mp hbefore
      exact ⟨hle, fun hback => Nat.lt_of_le_of_ne (hplaces hback) hne⟩

/-- The ranking of a built index. -/
theorem Represents.isRanking_rawScores (h : index.Represents documents)
    (settings : KeywordSettings R) (query : List Text) :
    IsRanking settings (documents.map Document.content) query (index.rawScores settings query) :=
  h.isRanking_rankListed settings query (List.Perm.refl _)

end Index

/-! ## Scores by title -/

/-- Of several entries with one key the first is kept. -/
theorem getElem?_foldl_insertIfNew {α β : Type} (key : α → Text) (value : α → β) (entries : List α)
    (scores : Std.HashMap Text β) (t : Text) :
    (entries.foldl (fun scores entry => scores.insertIfNew (key entry) (value entry)) scores)[t]? =
      scores[t]?.or ((entries.find? (key · = t)).map value) := by
  induction entries generalizing scores with
  | nil => simp
  | cons entry entries ih =>
      rw [List.foldl_cons, ih, Std.HashMap.getElem?_insertIfNew, List.find?_cons]
      by_cases hkey : key entry = t
      · subst hkey
        by_cases hmem : key entry ∈ scores
        · rw [if_neg (fun h => h.2 hmem), Std.HashMap.getElem?_eq_some_getElem hmem]
          rfl
        · simp [hmem]
      · simp [hkey]

namespace Index

variable {documents : List Document} {index : Index}

/-- The title of the document at a place. -/
theorem Represents.title_eq (h : index.Represents documents) {place : Nat} {document : Document}
    (hplace : documents[place]? = some document) :
    index.titles.getD place [] = document.title := by
  rw [Array.getD_eq_getD_getElem?, ← Array.getElem?_toList, h.titles, List.getElem?_map, hplace]
  rfl

/-- Search looks a title up in the ranking: the first entry of that title counts. -/
theorem getElem?_search {settings : KeywordSettings R} {query : List Text}
    (h : index.rawScores settings query ≠ []) (title : Text) :
    (index.search settings query)[title]? =
      ((index.rawScores settings query).find? (index.titles.getD ·.1 [] = title)).map fun entry =>
        normalise
          (if Scalar.below ((index.rawScores settings query).getLast h).2
            ((index.rawScores settings query).head h).2
          then ((index.rawScores settings query).getLast h).2 else Scalar.ofNat 0)
          ((index.rawScores settings query).head h).2 entry.2 := by
  unfold search
  simp only [List.head?_eq_some_head h, List.getLast?_eq_some_getLast h]
  rw [getElem?_foldl_insertIfNew, Std.HashMap.getElem?_empty, Option.none_or]

theorem search_of_rawScores_eq_nil {settings : KeywordSettings R} {query : List Text}
    (h : index.rawScores settings query = []) : index.search settings query = ∅ := by
  unfold search
  rw [h]
  rfl

/-- The entries of a ranking that have a title are those of the documents of this title that match. -/
theorem Represents.exists_titled_iff (h : index.Represents documents)
    {settings : KeywordSettings R} {query : List Text} {ranked : List (Nat × R)}
    (hranking : IsRanking settings (documents.map Document.content) query ranked) (title : Text)
    (score : R) :
    (∃ place, (place, score) ∈ ranked ∧ index.titles.getD place [] = title) ↔
      ∃ document ∈ documents, document.title = title ∧ Matches query document.content ∧
        score = Direct.score settings (documents.map Document.content) query document.content := by
  constructor
  · rintro ⟨place, hmem, htitle⟩
    obtain ⟨text, hplace, hmatches, hscore⟩ := (hranking.mem_iff place score).mp hmem
    rw [List.getElem?_map, Option.map_eq_some_iff] at hplace
    obtain ⟨document, hplace, rfl⟩ := hplace
    rw [h.title_eq hplace] at htitle
    exact ⟨document, List.mem_of_getElem? hplace, htitle, hmatches, hscore⟩
  · rintro ⟨document, hmem, htitle, hmatches, hscore⟩
    obtain ⟨place, hplace⟩ := List.getElem?_of_mem hmem
    refine ⟨place, (hranking.mem_iff place score).mpr ⟨document.content, ?_, hmatches, hscore⟩, ?_⟩
    · rw [List.getElem?_map, hplace]
      rfl
    · rw [h.title_eq hplace, htitle]

/-- Search answers for the titles of the documents that hold a term of the query. -/
theorem Represents.mem_search (h : index.Represents documents) (settings : KeywordSettings R)
    (query : List Text) (title : Text) :
    title ∈ index.search settings query ↔
      ∃ document ∈ documents, document.title = title ∧ Matches query document.content := by
  have htitled := h.exists_titled_iff (h.isRanking_rawScores settings query) title
  have hsearch : title ∈ index.search settings query ↔ ∃ score place,
      (place, score) ∈ index.rawScores settings query ∧ index.titles.getD place [] = title := by
    rw [← Std.HashMap.isSome_getElem?_iff_mem]
    by_cases hnil : index.rawScores settings query = []
    · rw [search_of_rawScores_eq_nil hnil, hnil]
      simp
    · rw [getElem?_search hnil, Option.isSome_map, List.find?_isSome]
      constructor
      · rintro ⟨entry, hmem, htitle⟩
        exact ⟨entry.2, entry.1, hmem, of_decide_eq_true htitle⟩
      · rintro ⟨score, place, hmem, htitle⟩
        exact ⟨(place, score), hmem, decide_eq_true htitle⟩
  rw [hsearch]
  constructor
  · rintro ⟨score, hentry⟩
    obtain ⟨document, hmem, htitle, hmatches, _⟩ := (htitled score).mp hentry
    exact ⟨document, hmem, htitle, hmatches⟩
  · rintro ⟨document, hmem, htitle, hmatches⟩
    exact ⟨_, (htitled _).mpr ⟨document, hmem, htitle, hmatches, rfl⟩⟩

/-! ## The keyword score of an index -/

/-- An index scores what its documents say directly, for all documents, parameters and queries, and
with all maps listed in any order: the scored documents are the one ranking of the documents' texts,
repeated terms of the query change nothing, and search answers for the titles of the documents that
match. -/
theorem built_ranking_is_direct (documents : List Document) (settings : KeywordSettings R)
    (query : List Text) :
    Built documents (ofDocuments documents) ∧
      ∀ index, Built documents index →
        IsRanking settings (documents.map Document.content) query
          (index.rawScores settings query) ∧
        (∀ entries : List (Nat × R), entries.Perm (index.termScores settings query).toList →
          index.rankListed entries = (ofDocuments documents).rawScores settings query) ∧
        (∀ query', query'.eraseDups = query.eraseDups →
          index.rawScores settings query' = index.rawScores settings query ∧
            index.search settings query' = index.search settings query) ∧
        ∀ title, title ∈ index.search settings query ↔
          ∃ document ∈ documents, document.title = title ∧ Matches query document.content := by
  have hbuilt := built_ofDocuments documents
  refine ⟨hbuilt, ?_⟩
  intro index hindex
  have h := hindex.represents
  refine ⟨h.isRanking_rawScores settings query, ?_, ?_, h.mem_search settings query⟩
  · intro entries hentries
    have hranking := h.isRanking_rankListed settings query hentries
    exact hranking.eq (hbuilt.represents.isRanking_rawScores settings query)
  · intro query' hquery
    have hraw : index.rawScores settings query' = index.rawScores settings query := by
      unfold rawScores termScores
      rw [distinct_eq_eraseDups, distinct_eq_eraseDups, hquery]
    refine ⟨hraw, ?_⟩
    unfold search
    rw [hraw]

/-- A document of two words. -/
def findUser : Document := ⟨['f', '.', 'r', 's'], ['f', 'i', 'n', 'd', ' ', 'u', 's', 'e', 'r']⟩

/-- The index of the document, its terms listed backwards. -/
def backwards : Index :=
  empty.addListed findUser.title (Token.counts findUser.content).toList.reverse

theorem built_backwards : Built [findUser] backwards :=
  .add findUser .empty (List.reverse_perm _)

theorem backwards_ranking_is_direct :
    Built [findUser] backwards ∧
      IsRanking (KeywordSettings.standard : KeywordSettings Binary64) [findUser.content]
        [['u', 's', 'e', 'r']] (backwards.rawScores .standard [['u', 's', 'e', 'r']]) := by
  obtain ⟨_, hranking⟩ := built_ranking_is_direct [findUser]
    (KeywordSettings.standard : KeywordSettings Binary64) [['u', 's', 'e', 'r']]
  exact ⟨built_backwards, (hranking backwards built_backwards).1⟩

end Index

end CodeRetrieval.Lexical
