/-
# CodeRetrieval.Proofs.Identifier — the parts of a word are the matches of a regular expression.

A `Pattern` is a regular expression with greedy repetition, ordered alternatives and looking ahead.  It
is read as a backtracking matcher reads it: `rests` lists what may be left of a text behind a match at
its start, in the order in which the matcher comes to it, so the match is the first one.  `Finds` says
what searching a text finds: from the left, at every place the match if there is one, then on behind it.

The parts of a word are what searching for `camelCase` finds.  Only for a run of capitals does the
matcher ever turn back, and never by more than one character: the run may end at the end of the word,
and if it does not, the character before its last one is followed by a capital.
-/
import CodeRetrieval.Proofs.Span
import CodeRetrieval.Token.Identifier

namespace CodeRetrieval.Identifier

/-! ## Regular expressions -/

/-- A regular expression. -/
inductive Pattern where
  /-- A character of a class. -/
  | one (p : Char → Bool)
  /-- One or more characters of a class, rather more than fewer. -/
  | many (p : Char → Bool)
  /-- Two expressions one behind the other. -/
  | next (first second : Pattern)
  /-- The one expression, or if that leads nowhere the other. -/
  | either (first second : Pattern)
  /-- Nothing, where a match of the expression follows. -/
  | ahead (pattern : Pattern)
  /-- Nothing, at the end of the text. -/
  | finish

namespace Pattern

/-- What is left behind a character of a class. -/
def behindOne (p : Char → Bool) : Text → List Text
  | [] => []
  | c :: rest => if p c then [rest] else []

/-- What is left behind characters of a class, the longest run first. -/
def behindMany (p : Char → Bool) : Text → List Text
  | [] => []
  | c :: rest => if p c then behindMany p rest ++ [rest] else []

/-- What may be left of a text behind a match at its start, the matches in the order in which they are
tried. -/
def rests : Pattern → Text → List Text
  | one p, text => behindOne p text
  | many p, text => behindMany p text
  | next first second, text => (first.rests text).flatMap second.rests
  | either first second, text => first.rests text ++ second.rests text
  | ahead pattern, text => if pattern.rests text = [] then [] else [text]
  | finish, text => if text = [] then [text] else []

/-- The spans that searching a text finds, which starts at the byte `offset`: a character at which
nothing matches is passed over, and behind a match the search goes on. -/
inductive Finds (pattern : Pattern) : Nat → Text → List Span → Prop
  | done {offset : Nat} : pattern.rests [] = [] → Finds pattern offset [] []
  | skip {offset : Nat} {c : Char} {rest : Text} {spans : List Span} :
      pattern.rests (c :: rest) = [] → Finds pattern (offset + c.utf8Size) rest spans →
      Finds pattern offset (c :: rest) spans
  | take {offset : Nat} {text part rest : Text} {spans : List Span} :
      text = part ++ rest → part ≠ [] → (pattern.rests text).head? = some rest →
      Finds pattern (offset + part.size) rest spans →
      Finds pattern offset text (⟨offset, offset + part.size⟩ :: spans)

variable {pattern : Pattern} {offset : Nat} {text : Text} {spans spans' : List Span}

/-- A search finds one list of spans only. -/
theorem Finds.unique (h : pattern.Finds offset text spans) (h' : pattern.Finds offset text spans') :
    spans' = spans := by
  induction h generalizing spans' with
  | done hnone =>
      cases h' with
      | done _ => rfl
      | take _ _ hhead _ =>
          rw [hnone] at hhead
          cases hhead
  | skip hnone _ ih =>
      cases h' with
      | skip _ hrest => exact ih hrest
      | take _ _ hhead _ =>
          rw [hnone] at hhead
          cases hhead
  | take htext hpart hhead _ ih =>
      cases h' with
      | done hnone =>
          rw [hnone] at hhead
          cases hhead
      | skip hnone _ =>
          rw [hnone] at hhead
          cases hhead
      | take htext' _ hhead' hrest =>
          rw [hhead, Option.some.injEq] at hhead'
          subst hhead'
          have hsame := List.append_cancel_right (htext.symm.trans htext')
          subst hsame
          rw [ih hrest]

/-- The spans that are found stand in order, none reaching into another. -/
theorem Finds.pairwise (h : pattern.Finds offset text spans) :
    (∀ s ∈ spans, offset ≤ s.start) ∧ spans.Pairwise fun a b => a.stop ≤ b.start := by
  induction h with
  | done _ => exact ⟨by simp, .nil⟩
  | skip _ _ ih => exact ⟨fun s hs => Nat.le_trans (Nat.le_add_right _ _) (ih.1 s hs), ih.2⟩
  | take _ _ _ _ ih =>
      refine ⟨?_, List.pairwise_cons.mpr ⟨ih.1, ih.2⟩⟩
      intro s hs
      rcases List.mem_cons.mp hs with rfl | hs
      · exact Nat.le_refl _
      · exact Nat.le_trans (Nat.le_add_right _ _) (ih.1 s hs)

/-- What is found in the rest of a source covers some of its text. -/
theorem Finds.text_ne_nil (h : pattern.Finds offset text spans) {before : Text}
    (hbefore : before.size = offset) : ∀ s ∈ spans, s.text (before ++ text) ≠ [] := by
  induction h generalizing before with
  | done _ => simp
  | @skip offset c rest spans _ _ ih =>
      have hsize : (before ++ [c]).size = offset + c.utf8Size := by
        rw [Text.size_append, Text.size_cons, Text.size_nil, hbefore, Nat.add_zero]
      have hrest := ih hsize
      rwa [List.append_assoc] at hrest
  | @take offset text part rest spans htext hpart _ _ ih =>
      have hsize : (before ++ part).size = offset + part.size := by
        rw [Text.size_append, hbefore]
      have hrest := ih hsize
      rw [List.append_assoc, ← htext] at hrest
      refine List.forall_mem_cons.mpr ⟨?_, hrest⟩
      have hcovered : Span.text ⟨offset, offset + part.size⟩ (before ++ part ++ rest) = part :=
        Span.text_of_source hbefore hsize
      rw [List.append_assoc, ← htext] at hcovered
      rw [hcovered]
      exact hpart

/-- Searching a text that stands behind another one finds spans that cover these parts. -/
def FindsParts (pattern : Pattern) (before text : Text) (parts : List Text) : Prop :=
  ∃ spans, pattern.Finds before.size text spans ∧ parts = spans.map (·.text (before ++ text))

theorem FindsParts.skip {before rest : Text} {parts : List Text} {c : Char}
    (hnone : (pattern.rests (c :: rest)).head? = none)
    (h : pattern.FindsParts (before ++ [c]) rest parts) : pattern.FindsParts before (c :: rest) parts := by
  obtain ⟨spans, hfinds, hparts⟩ := h
  rw [Text.size_append, Text.size_cons, Text.size_nil, Nat.add_zero] at hfinds
  rw [List.append_assoc] at hparts
  exact ⟨spans, .skip (List.head?_eq_none_iff.mp hnone) hfinds, hparts⟩

theorem FindsParts.take {before part rest : Text} {parts : List Text} (htext : text = part ++ rest)
    (hpart : part ≠ []) (hhead : (pattern.rests text).head? = some rest)
    (h : pattern.FindsParts (before ++ part) rest parts) :
    pattern.FindsParts before text (part :: parts) := by
  obtain ⟨spans, hfinds, hparts⟩ := h
  rw [Text.size_append] at hfinds
  have hcovered : Span.text ⟨before.size, before.size + part.size⟩ (before ++ part ++ rest) = part :=
    Span.text_of_source rfl (Text.size_append before part)
  rw [List.append_assoc, ← htext] at hparts hcovered
  refine ⟨_, .take htext hpart hhead hfinds, ?_⟩
  rw [List.map_cons, hcovered, hparts]

/-! ### First matches -/

/-- The longest run is tried first. -/
theorem head?_behindMany (p : Char → Bool) (c : Char) (rest : Text) :
    (behindMany p (c :: rest)).head? = if p c then some (rest.dropWhile p) else none := by
  induction rest generalizing c with
  | nil => cases h : p c <;> simp [behindMany, h]
  | cons d rest ih =>
      cases h : p c with
      | false => simp [behindMany, h]
      | true =>
          rw [behindMany, if_pos h, List.head?_append, ih]
          cases hd : p d <;> simp [hd]

theorem rests_either (first second : Pattern) (text : Text) :
    (either first second).rests text = first.rests text ++ second.rests text := rfl

/-- Looking ahead picks from the matches those that the expression follows. -/
theorem rests_next_ahead (first pattern : Pattern) (text : Text) :
    (next first (ahead pattern)).rests text =
      (first.rests text).filter fun rest => !decide (pattern.rests rest = []) := by
  rw [rests]
  induction first.rests text with
  | nil => rfl
  | cons rest others ih =>
      rw [List.flatMap_cons, ih, List.filter_cons, rests]
      by_cases h : pattern.rests rest = [] <;> simp [h]

end Pattern

open Pattern

/-! ## Changes of case -/

/-- What may follow a run of capitals: one more capital, or nothing at all. -/
def boundary : Pattern := either (one isCapital) finish

/-- A capital and small letters, or small letters, or capitals up to a boundary. -/
def camelCase : Pattern :=
  either (next (one isCapital) (many isSmall))
    (either (many isSmall) (next (many isCapital) (ahead boundary)))

theorem rests_boundary_nil : boundary.rests [] ≠ [] := by decide

theorem rests_boundary_cons (c : Char) (rest : Text) :
    boundary.rests (c :: rest) = [] ↔ isCapital c = false := by
  unfold boundary
  simp only [rests, behindOne]
  cases h : isCapital c <;> simp

/-- Of the runs of capitals at the start of a text the first with a boundary behind it is the longest
one if it reaches the end, and otherwise one shorter, if that leaves any. -/
theorem find?_behindMany (c : Char) (rest : Text) (hc : isCapital c = true) :
    ((behindMany isCapital (c :: rest)).find? fun text => !decide (boundary.rests text = [])) =
      if (rest.takeWhile isCapital).length = rest.length then some []
      else if (rest.takeWhile isCapital).length = 0 then none
      else some (rest.drop ((rest.takeWhile isCapital).length - 1)) := by
  induction rest generalizing c with
  | nil =>
      rw [behindMany, if_pos hc]
      simp [behindMany, rests_boundary_nil]
  | cons d rest ih =>
      rw [behindMany, if_pos hc, List.find?_append]
      cases hd : isCapital d with
      | false =>
          -- the run ends here, and no capital follows
          simp [behindMany, hd, (rests_boundary_cons d rest).mpr hd]
      | true =>
          -- a shorter run has a boundary behind it in any case, as the next character is a capital
          have hboundary : ¬ boundary.rests (d :: rest) = [] := by
            rw [rests_boundary_cons, hd]
            exact Bool.noConfusion
          rw [ih d hd, List.takeWhile_cons_of_pos hd]
          simp only [List.length_cons, Nat.add_right_cancel_iff, Nat.add_sub_cancel]
          by_cases hall : (rest.takeWhile isCapital).length = rest.length
          · rw [if_pos hall, if_pos hall]
            rfl
          · rw [if_neg hall, if_neg hall, if_neg (Nat.succ_ne_zero _)]
            by_cases hnone : (rest.takeWhile isCapital).length = 0
            · rw [if_pos hnone, hnone, Option.none_or, List.drop_zero]
              exact List.find?_cons_of_pos (by simpa using hboundary)
            · obtain ⟨n, hn⟩ := Nat.exists_eq_succ_of_ne_zero hnone
              rw [if_neg hnone, hn]
              rfl

/-- The match at the start of a text. -/
theorem head?_rests_camelCase (c : Char) (rest : Text) :
    (camelCase.rests (c :: rest)).head? =
      if isSmall c || (isCapital c && startsSmall rest) then some (rest.dropWhile isSmall)
      else if isCapital c then
        if (rest.takeWhile isCapital).length = rest.length then some []
        else if (rest.takeWhile isCapital).length = 0 then none
        else some (rest.drop ((rest.takeWhile isCapital).length - 1))
      else none := by
  have hfirst : ((next (one isCapital) (many isSmall)).rests (c :: rest)).head? =
      if isCapital c && startsSmall rest then some (rest.dropWhile isSmall) else none := by
    cases hc : isCapital c with
    | false => simp [rests, behindOne, hc]
    | true =>
        cases rest with
        | nil => simp [rests, behindOne, behindMany, hc, startsSmall]
        | cons d rest =>
            cases hd : isSmall d <;> simp [rests, behindOne, hc, startsSmall, head?_behindMany, hd]
  have hthird : ((next (many isCapital) (ahead boundary)).rests (c :: rest)).head? =
      (behindMany isCapital (c :: rest)).find? fun text => !decide (boundary.rests text = []) := by
    rw [rests_next_ahead, List.head?_filter, rests]
  have hmany : ((many isSmall).rests (c :: rest)).head? =
      if isSmall c then some (rest.dropWhile isSmall) else none := head?_behindMany isSmall c rest
  unfold camelCase
  rw [rests_either, rests_either, List.head?_append, List.head?_append, hfirst, hmany, hthird]
  cases hsmall : isSmall c with
  | true => cases h : isCapital c && startsSmall rest <;> simp
  | false =>
      cases hc : isCapital c with
      | true =>
          rw [find?_behindMany c rest hc]
          cases startsSmall rest <;> simp
      | false => simp [behindMany, hc]

/-- A run of capitals without its last one stands before what is left from the last one on. -/
theorem dropLast_capitals_append (rest : Text) :
    (rest.takeWhile isCapital).dropLast ++ rest.drop ((rest.takeWhile isCapital).length - 1) = rest := by
  have hfront : rest.take ((rest.takeWhile isCapital).length - 1) =
      (rest.takeWhile isCapital).dropLast :=
    calc rest.take ((rest.takeWhile isCapital).length - 1)
        = (rest.takeWhile isCapital ++ rest.dropWhile isCapital).take
            ((rest.takeWhile isCapital).length - 1) := by rw [List.takeWhile_append_dropWhile]
      _ = (rest.takeWhile isCapital).take ((rest.takeWhile isCapital).length - 1) :=
        List.take_append_of_le_length (Nat.sub_le _ 1)
      _ = (rest.takeWhile isCapital).dropLast := List.dropLast_eq_take.symm
  rw [← hfront]
  exact List.take_append_drop _ rest

/-- Every step of cutting a word finds what the pattern finds there. -/
theorem findsParts_parts (word before : Text) :
    camelCase.FindsParts before word (parts word) := by
  fun_induction parts word generalizing before with
  | case1 => exact ⟨[], .done (by decide), rfl⟩
  | case2 c rest hsmall ih =>
      refine (ih _).take ?_ (List.cons_ne_nil _ _) ?_
      · rw [List.cons_append, List.takeWhile_append_dropWhile]
      · rw [head?_rests_camelCase, if_pos hsmall]
  | case3 c rest hsmall hcapital capitals hall =>
      have hnil : camelCase.FindsParts (before ++ c :: capitals) [] [] := ⟨[], .done (by decide), rfl⟩
      have hrun : capitals = rest := (List.takeWhile_prefix isCapital).eq_of_length hall
      refine hnil.take ?_ (List.cons_ne_nil _ _) ?_
      · rw [hrun, List.append_nil]
      · rw [head?_rests_camelCase, if_neg hsmall, if_pos hcapital, if_pos hall]
  | case4 c rest hsmall hcapital capitals hall hnone ih =>
      -- a single capital that neither small letters nor a boundary follow
      refine (ih _).skip ?_
      rw [head?_rests_camelCase, if_neg hsmall, if_pos hcapital, if_neg hall, if_pos hnone]
  | case5 c rest hsmall hcapital capitals hall hnone ih =>
      refine (ih _).take ?_ (List.cons_ne_nil _ _) ?_
      · rw [List.cons_append, dropLast_capitals_append]
      · rw [head?_rests_camelCase, if_neg hsmall, if_pos hcapital, if_neg hall, if_neg hnone]
  | case6 c rest hsmall hcapital ih =>
      refine (ih _).skip ?_
      rw [head?_rests_camelCase, if_neg hsmall, if_neg hcapital]

/-- The parts of a word are what searching it for changes of case finds, nothing more and nothing less:
texts between characters of the word, none of them empty, one behind the other. -/
theorem parts_are_matches (word : Text) :
    ∃ spans, (∀ found, camelCase.Finds 0 word found ↔ found = spans) ∧
      parts word = spans.map (·.text word) ∧
      (∀ s ∈ spans, s.text word ≠ [] ∧ word.Edge s.start ∧ word.Edge s.stop) ∧
      spans.Pairwise fun a b => a.stop ≤ b.start := by
  obtain ⟨spans, hfinds, hparts⟩ := findsParts_parts word []
  refine ⟨spans, ?_, hparts, ?_, hfinds.pairwise.2⟩
  · intro found
    constructor
    · exact fun h => hfinds.unique h
    · rintro rfl
      exact hfinds
  · intro s hs
    have hne := hfinds.text_ne_nil Text.size_nil s hs
    exact ⟨hne, Span.edges_of_text_ne_nil hne⟩

/-- A run of capitals ends before a word and at the end, and a capital before a digit is passed over. -/
example : parts ['H', 'T', 'T', 'P', 'S', 'e', 'r', 'v', 'e', 'r', 'A', 'B', '8', 'U', 'R', 'L'] =
    [['H', 'T', 'T', 'P'], ['S', 'e', 'r', 'v', 'e', 'r'], ['A'], ['U', 'R', 'L']] := by decide +kernel

end CodeRetrieval.Identifier
