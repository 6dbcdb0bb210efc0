/-
# CodeRetrieval.Proofs.Phrases — the number under a term is how often its phrase occurs.

The terms of a text are its runs of one, two and three base tokens, joined by underscores.  No base
token is empty or holds an underscore: whichever way a word is cut, what is joined later has none, and
lower case brings none in.  So a term is cut at its underscores into the run that it was joined from, and
counting terms is counting runs.  A run of another length is another term, in all texts together.
-/
import CodeRetrieval.Proofs.LetterCase
import CodeRetrieval.Proofs.Text
import CodeRetrieval.Proofs.TermIndex
import Mathlib.Data.List.TakeWhile

namespace CodeRetrieval

variable {n : Nat} {tokens phrase : List Text} {text part word term token : Text}

/-! ## Base tokens -/

/-- The parts of a word hold ASCII letters only. -/
theorem Identifier.isLetter_of_mem_parts (h : part ∈ parts word) :
    ∀ c ∈ part, isSmall c = true ∨ isCapital c = true := by
  fun_induction parts word with
  | case1 => cases h
  | case2 c rest hfirst ih =>
      rcases List.mem_cons.mp h with rfl | h
      · rw [Bool.or_eq_true, Bool.and_eq_true] at hfirst
        refine List.forall_mem_cons.mpr ⟨hfirst.imp id And.left, ?_⟩
        exact fun d hd => .inl (List.mem_takeWhile_imp hd)
      · exact ih h
  | case3 c rest _ hcapital capitals _ =>
      rw [List.mem_singleton] at h
      subst h
      refine List.forall_mem_cons.mpr ⟨.inr hcapital, ?_⟩
      exact fun d hd => .inr (List.mem_takeWhile_imp hd)
  | case4 c rest _ _ capitals _ _ ih => exact ih h
  | case5 c rest _ hcapital capitals _ _ ih =>
      rcases List.mem_cons.mp h with rfl | h
      · refine List.forall_mem_cons.mpr ⟨.inr hcapital, ?_⟩
        exact fun d hd => .inr (List.mem_takeWhile_imp (List.dropLast_subset _ hd))
      · exact ih h
  | case6 c rest _ _ ih => exact ih h

namespace Token

/-- A text that can be a part of a joined term. -/
def Solid (token : Text) : Prop := token ≠ [] ∧ '_' ∉ token

theorem solid_of_mem_ofPart (hpart : '_' ∉ part) (h : token ∈ ofPart part) : Solid token := by
  unfold ofPart at h
  split at h
  · rename_i hlength
    rw [Option.mem_some_iff] at h
    subst h
    have hne : part ≠ [] := List.ne_nil_of_length_pos (by omega)
    exact ⟨Unicode.lowerCase_ne_nil hne, Unicode.not_mem_lowerCase hpart⟩
  · cases h

theorem solid_of_mem_filterMap {parts : List Text} (hparts : ∀ part ∈ parts, '_' ∉ part)
    (h : token ∈ parts.filterMap ofPart) : Solid token := by
  obtain ⟨part, hpart, hsome⟩ := List.mem_filterMap.mp h
  exact solid_of_mem_ofPart (hparts part hpart) hsome

theorem solid_of_mem_ofWord (h : token ∈ ofWord word) : Solid token := by
  unfold ofWord at h
  split at h
  · exact solid_of_mem_filterMap (fun _ hpart => Text.not_mem_of_mem_split hpart) h
  · rename_i hword
    split at h
    · refine solid_of_mem_ofPart ?_ (Option.mem_toList.mp h)
      simpa using hword
    · refine solid_of_mem_filterMap ?_ h
      intro part hpart hmem
      have hletter := Identifier.isLetter_of_mem_parts hpart '_' hmem
      exact absurd hletter (by decide)

/-- No base token is empty, and none holds an underscore. -/
theorem solid_of_mem_base (h : token ∈ base text) : Solid token := by
  obtain ⟨word, _, hword⟩ := List.mem_flatMap.mp h
  exact solid_of_mem_ofWord hword

/-! ## Runs of tokens -/

/-- The runs of `n` neighbours, from the left. -/
def runs (n : Nat) : List Text → List (List Text)
  | [] => []
  | token :: rest =>
    if n ≤ rest.length + 1 then (token :: rest).take n :: runs n rest else []

/-- The number of places of a list at which a phrase stands. -/
def occurrences (phrase tokens : List Text) : Nat :=
  (List.range tokens.length).countP fun place => phrase.isPrefixOf (tokens.drop place)

theorem mem_runs {run : List Text} (h : run ∈ runs n tokens) : run.length = n ∧ run ⊆ tokens := by
  induction tokens with
  | nil => cases h
  | cons token rest ih =>
      unfold runs at h
      split at h
      · rename_i hle
        rcases List.mem_cons.mp h with rfl | h
        · refine ⟨?_, List.take_subset _ _⟩
          rw [List.length_take, List.length_cons]
          omega
        · exact ⟨(ih h).1, List.subset_cons_of_subset _ (ih h).2⟩
      · cases h

theorem length_runs (hn : 0 < n) (tokens : List Text) :
    (runs n tokens).length = tokens.length + 1 - n := by
  induction tokens with
  | nil => simp [runs, Nat.sub_eq_zero_of_le hn]
  | cons token rest ih =>
      unfold runs
      split
      · rw [List.length_cons, ih, List.length_cons]
        omega
      · rw [List.length_nil, List.length_cons]
        omega

theorem occurrences_cons (phrase : List Text) (token : Text) (rest : List Text) :
    occurrences phrase (token :: rest) =
      occurrences phrase rest + if phrase.isPrefixOf (token :: rest) then 1 else 0 := by
  unfold occurrences
  rw [List.length_cons, List.range_succ_eq_map, List.countP_cons, List.countP_map]
  rfl

/-- A phrase longer than a list stands nowhere in it. -/
theorem occurrences_eq_zero (h : tokens.length < phrase.length) : occurrences phrase tokens = 0 := by
  unfold occurrences
  rw [List.countP_eq_zero]
  intro place _ hprefix
  have hle := (List.isPrefixOf_iff_prefix.mp hprefix).length_le
  rw [List.length_drop] at hle
  omega

/-- A phrase is one of the runs of its length as often as it occurs. -/
theorem count_runs_length (phrase tokens : List Text) :
    (runs phrase.length tokens).count phrase = occurrences phrase tokens := by
  induction tokens with
  | nil => rfl
  | cons token rest ih =>
      unfold runs
      split
      · have hfirst : ((token :: rest).take phrase.length == phrase) =
            phrase.isPrefixOf (token :: rest) := by
          rw [Bool.eq_iff_iff, beq_iff_eq, List.isPrefixOf_iff_prefix, List.prefix_iff_eq_take, eq_comm]
        rw [List.count_cons, ih, occurrences_cons, hfirst]
      · rename_i hlong
        rw [List.count_nil, occurrences_eq_zero]
        rw [List.length_cons]
        omega

theorem count_runs (n : Nat) (phrase tokens : List Text) :
    (runs n tokens).count phrase = if phrase.length = n then occurrences phrase tokens else 0 := by
  split
  · rename_i hlength
    rw [← hlength, count_runs_length]
  · rename_i hlength
    exact List.count_eq_zero_of_not_mem fun h => hlength (mem_runs h).1

/-! ## Joined runs -/

theorem map_join_runs_one (tokens : List Text) : (runs 1 tokens).map (Text.join ['_']) = tokens := by
  induction tokens with
  | nil => rfl
  | cons token rest ih =>
      rw [runs, if_pos (by omega), List.map_cons, ih]
      simp [Text.join]

theorem map_join_runs_two (tokens : List Text) :
    (runs 2 tokens).map (Text.join ['_']) = pairs tokens := by
  induction tokens with
  | nil => rfl
  | cons token rest ih =>
      cases rest with
      | nil => rfl
      | cons next rest =>
          rw [runs, if_pos (by rw [List.length_cons]; omega), List.map_cons, ih]
          show Text.join ['_'] [token, next] :: _ = joinTokens token next :: pairs (next :: rest)
          simp [Text.join, joinTokens]

theorem map_join_runs_three (tokens : List Text) :
    (runs 3 tokens).map (Text.join ['_']) = triples tokens := by
  induction tokens with
  | nil => rfl
  | cons token rest ih =>
      match rest, ih with
      | [], _ => rfl
      | [next], _ => rfl
      | next :: last :: rest, ih =>
          rw [runs, if_pos (by rw [List.length_cons, List.length_cons]; omega), List.map_cons, ih]
          show Text.join ['_'] [token, next, last] :: _ =
            joinTokens token (joinTokens next last) :: triples (next :: last :: rest)
          simp [Text.join, joinTokens]

/-- The terms of a text are its runs of one, two and three base tokens. -/
theorem all_eq (text : Text) :
    all text = (runs 1 (base text)).map (Text.join ['_']) ++ (runs 2 (base text)).map (Text.join ['_']) ++
      (runs 3 (base text)).map (Text.join ['_']) := by
  rw [map_join_runs_one, map_join_runs_two, map_join_runs_three]
  rfl

/-- A run of solid tokens is found again at the underscores of its term. -/
theorem split_join_of_mem_runs (hn : 0 < n) (hsolid : ∀ token ∈ tokens, Solid token)
    {run : List Text} (h : run ∈ runs n tokens) : Text.split '_' (Text.join ['_'] run) = run := by
  obtain ⟨hlength, hsub⟩ := mem_runs h
  apply Text.split_join
  · exact List.ne_nil_of_length_pos (by omega)
  · exact fun token htoken => (hsolid token (hsub htoken)).2

theorem count_map_join (hn : 0 < n) (hsolid : ∀ token ∈ tokens, Solid token) (term : Text) :
    ((runs n tokens).map (Text.join ['_'])).count term =
      (runs n tokens).count (Text.split '_' term) := by
  rw [List.count_eq_countP, List.count_eq_countP, List.countP_map]
  apply List.countP_congr
  intro run hrun
  show (Text.join ['_'] run == term) = true ↔ (run == Text.split '_' term) = true
  rw [beq_iff_eq, beq_iff_eq]
  constructor
  · rintro rfl
    exact (split_join_of_mem_runs hn hsolid hrun).symm
  · rintro rfl
    exact Text.join_split '_' term

/-- A term that was joined from a run has as many parts as the run has tokens. -/
theorem length_split_of_mem_map_join (hn : 0 < n) (hsolid : ∀ token ∈ tokens, Solid token)
    (h : term ∈ (runs n tokens).map (Text.join ['_'])) : (Text.split '_' term).length = n := by
  obtain ⟨run, hrun, rfl⟩ := List.mem_map.mp h
  rw [split_join_of_mem_runs hn hsolid hrun]
  exact (mem_runs hrun).1

/-- Runs of different lengths give different terms, be they runs of one text or of two. -/
theorem disjoint_map_join (m n : Nat) (hm : 0 < m) (hn : 0 < n) (hne : m ≠ n) (text other : Text) :
    ((runs m (base text)).map (Text.join ['_'])).Disjoint
      ((runs n (base other)).map (Text.join ['_'])) := by
  intro term hterm hother
  have hparts := length_split_of_mem_map_join hm (fun _ => solid_of_mem_base) hterm
  exact hne (hparts.symm.trans (length_split_of_mem_map_join hn (fun _ => solid_of_mem_base) hother))

/-! ## Counted terms -/

/-- How often the phrase of a term, the parts between its underscores, stands in a list of tokens, if it
is no longer than three. -/
def phraseCount (term : Text) (tokens : List Text) : Nat :=
  if (Text.split '_' term).length ≤ 3 then occurrences (Text.split '_' term) tokens else 0

theorem count_all (text term : Text) : (all text).count term = phraseCount term (base text) := by
  have hruns : ∀ n, 0 < n → ((runs n (base text)).map (Text.join ['_'])).count term =
      if (Text.split '_' term).length = n then occurrences (Text.split '_' term) (base text) else 0 := by
    intro n hn
    rw [count_map_join hn fun _ => solid_of_mem_base, count_runs]
  have hparts : 0 < (Text.split '_' term).length := by simp
  rw [all_eq, List.count_append, List.count_append, hruns 1 (by omega), hruns 2 (by omega),
    hruns 3 (by omega), phraseCount]
  -- the parts of the term are as many as those of one order at most
  split_ifs <;> omega

theorem getD_counts (text term : Text) : (counts text).getD term 0 = phraseCount term (base text) := by
  rw [Std.HashMap.getD_eq_getD_getElem?, counts, getElem?_tally, ← count_all]
  split
  · rfl
  · rename_i hmem
    exact (List.count_eq_zero_of_not_mem hmem).symm

theorem length_all (text : Text) : (all text).length =
    (base text).length + ((base text).length - 1) + ((base text).length - 2) := by
  rw [all_eq, List.length_append, List.length_append, List.length_map, List.length_map,
    List.length_map, length_runs (by omega), length_runs (by omega), length_runs (by omega)]
  omega

/-- The counted terms of a text are its phrases: no base token is empty or holds an underscore, every
term is counted as often as its phrase occurs, terms of different orders differ, those of other texts
among them, and the counts add up to the number of places. -/
structure CountsPhrases (text : Text) : Prop where
  solid : ∀ token ∈ base text, token ≠ [] ∧ '_' ∉ token
  counted : ∀ term, (counts text).getD term 0 = phraseCount term (base text)
  orders : ∀ other, (base text).Disjoint (pairs (base other)) ∧
    (base text).Disjoint (triples (base other)) ∧ (pairs (base text)).Disjoint (triples (base other))
  total : Lexical.Index.total ((counts text).toList.map (·.2)) =
    (base text).length + ((base text).length - 1) + ((base text).length - 2)

theorem countsPhrases (text : Text) : CountsPhrases text := by
  refine ⟨fun _ => solid_of_mem_base, getD_counts text, ?_, ?_⟩
  · intro other
    have hpairs := disjoint_map_join 1 2 (by omega) (by omega) (by omega) text other
    have htriples := disjoint_map_join 1 3 (by omega) (by omega) (by omega) text other
    have hboth := disjoint_map_join 2 3 (by omega) (by omega) (by omega) text other
    simp only [map_join_runs_one, map_join_runs_two, map_join_runs_three] at hpairs htriples hboth
    exact ⟨hpairs, htriples, hboth⟩
  · rw [total_of_listed (.refl _), length_all]

/-- The number under a term is how often its phrase occurs: in the counts of every text, and in every
index, which has under a term one posting for each document that holds the phrase, with this number. -/
theorem terms_count_phrases :
    (∀ text, CountsPhrases text) ∧
      ∀ documents index, Lexical.Index.Built documents index → ∀ term posting,
        posting ∈ index.find term ↔ ∃ document, documents[posting.document]? = some document ∧
          0 < phraseCount term (base document.content) ∧
          posting.frequency = phraseCount term (base document.content) := by
  refine ⟨countsPhrases, ?_⟩
  intro documents index hindex term posting
  rw [hindex.represents.mem_find]
  simp only [← count_all, List.count_pos_iff]

/-- A document that spells a name in two ways. -/
def twoSpellings : Document := ⟨['d'], Text.ofString "userName user_name"⟩

theorem terms_of_twoSpellings_count_phrases :
    let index := Lexical.Index.ofDocuments [twoSpellings]
    let name := Text.ofString "user_name"
    (Text.ofString "user" ∈ base twoSpellings.content ∧
        Lexical.Index.Built [twoSpellings] index) ∧
      (Text.ofString "user" ≠ [] ∧ '_' ∉ Text.ofString "user") ∧
      (counts twoSpellings.content).getD name 0 = 2 ∧
      ∃ posting ∈ index.find name, posting.frequency = 2 := by
  intro index name
  have hmem : Text.ofString "user" ∈ base twoSpellings.content := by decide +kernel
  have hbuilt : Lexical.Index.Built [twoSpellings] index := Lexical.Index.built_ofDocuments _
  have hcount : phraseCount name (base twoSpellings.content) = 2 := by decide +kernel
  obtain ⟨htexts, hindexes⟩ := terms_count_phrases
  have hphrases := htexts twoSpellings.content
  refine ⟨⟨hmem, hbuilt⟩, hphrases.solid _ hmem, (hphrases.counted name).trans hcount, ?_⟩
  refine ⟨⟨0, 2⟩, ?_, rfl⟩
  refine (hindexes _ index hbuilt name ⟨0, 2⟩).mpr ⟨twoSpellings, rfl, ?_, hcount.symm⟩
  rw [hcount]
  decide

end Token

end CodeRetrieval
