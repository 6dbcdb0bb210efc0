/-
# CodeRetrieval.Proofs.NamingStyles — a name has the same tokens in every style.

The words of a name are joined by underscores, or written one behind the other with capitals where words
begin.  At underscores a name is cut into its words.  A change of case gives them back as well, each with
its capital: small letters end before the capital of the next word.  Only a word of one letter is a
capital with no small letter behind it, and it makes a run of two with the capital of the next word,
which the run leaves to that word.  Two such words side by side would stay together, so there are none.
-/
import CodeRetrieval.Proofs.LetterCase
import CodeRetrieval.Proofs.Text
import CodeRetrieval.Token.Basic
import Mathlib.Data.List.Chain

namespace CodeRetrieval

/-! ## Names -/

namespace Naming

/-- A word with a capital as its first letter. -/
def capitalize : Text → Text
  | [] => []
  | c :: rest => c.toUpper :: rest

/-- The words joined by underscores. -/
def snakeCase (words : List Text) : Text := Text.join ['_'] words

/-- The words one behind the other, each with a capital. -/
def pascalCase (words : List Text) : Text := words.flatMap capitalize

/-- The words one behind the other, each but the first one with a capital. -/
def camelCase : List Text → Text
  | [] => []
  | first :: rest => first ++ pascalCase rest

/-- A word of ASCII small letters. -/
def Spelled (word : Text) : Prop := word ≠ [] ∧ ∀ c ∈ word, Identifier.isSmall c = true

-- letter by letter: all characters are finitely many as well, but too many to go through
instance (word : Text) : Decidable (Spelled word) :=
  decidable_of_iff (word ≠ [] ∧ word.all Identifier.isSmall = true)
    (and_congr_right fun _ => List.all_eq_true)

/-- Words of ASCII small letters that make a name: one at least, and no two of one letter side by side. -/
structure Nameable (words : List Text) : Prop where
  nonempty : words ≠ []
  spelled : ∀ word ∈ words, Spelled word
  apart : words.IsChain fun a b => ¬(a.length = 1 ∧ b.length = 1)

end Naming

/-! ## Cutting at changes of case -/

namespace Identifier

/-- A first letter, a capital or a small one, with small letters behind it up to something else is a
part. -/
theorem parts_append {c : Char} {smalls rest : Text}
    (hc : isSmall c = true ∨ isCapital c = true ∧ smalls ≠ [])
    (hsmalls : ∀ d ∈ smalls, isSmall d = true) (hrest : startsSmall rest = false) :
    parts (c :: (smalls ++ rest)) = (c :: smalls) :: parts rest := by
  have hfirst : (isSmall c || isCapital c && startsSmall (smalls ++ rest)) = true := by
    rw [Bool.or_eq_true, Bool.and_eq_true]
    refine hc.imp id fun ⟨hcapital, hne⟩ => ⟨hcapital, ?_⟩
    obtain ⟨d, more, rfl⟩ := List.exists_cons_of_ne_nil hne
    exact hsmalls d List.mem_cons_self
  have htake : rest.takeWhile isSmall = [] ∧ rest.dropWhile isSmall = rest := by
    cases rest with
    | nil => exact ⟨rfl, rfl⟩
    | cons d rest =>
        have hd : isSmall d = false := hrest
        simp [hd]
  rw [parts, if_pos hfirst, List.takeWhile_append_of_pos hsmalls, List.dropWhile_append_of_pos hsmalls,
    htake.1, htake.2, List.append_nil]

/-- A capital before a capital that a small letter follows is a part of its own. -/
theorem parts_cons_capital {c d e : Char} {rest : Text} (hc : isCapital c = true)
    (hsmall : isSmall c = false) (hd : isCapital d = true) (hd' : isSmall d = false)
    (he : isCapital e = false) : parts (c :: d :: e :: rest) = [c] :: parts (d :: e :: rest) := by
  have hfirst : ¬(isSmall c || isCapital c && startsSmall (d :: e :: rest)) = true := by
    simp [hsmall, startsSmall, hd']
  have hrun : (d :: e :: rest).takeWhile isCapital = [d] := by simp [hd, he]
  rw [parts, if_neg hfirst, if_pos hc]
  simp [hrun]

/-- Small letters alone are one part. -/
theorem parts_of_small {word : Text} (hne : word ≠ []) (hsmall : ∀ c ∈ word, isSmall c = true) :
    parts word = [word] := by
  obtain ⟨c, smalls, rfl⟩ := List.exists_cons_of_ne_nil hne
  rw [List.forall_mem_cons] at hsmall
  have h : parts (c :: (smalls ++ [])) = (c :: smalls) :: parts [] :=
    parts_append (.inl hsmall.1) hsmall.2 rfl
  rw [List.append_nil] at h
  rw [h, parts]

end Identifier

namespace Naming

variable {words : List Text} {first word name : Text}

theorem startsSmall_pascalCase (h : ∀ word ∈ words, Spelled word) :
    Identifier.startsSmall (pascalCase words) = false := by
  cases words with
  | nil => rfl
  | cons word words =>
      have hword := h word List.mem_cons_self
      obtain ⟨c, smalls, rfl⟩ := List.exists_cons_of_ne_nil hword.1
      exact (Unicode.isCapital_of_small c (hword.2 c List.mem_cons_self)).2.2

/-- A capital alone before a longer word: the run that it makes with the capital of that word is cut
between the two. -/
theorem parts_lone_capital {c : Char} (hc : Identifier.isSmall c = true)
    (hspelled : ∀ word ∈ words, Spelled word) (hnext : ∀ next ∈ words.head?, next.length ≠ 1) :
    Identifier.parts (c.toUpper :: pascalCase words) =
      [c.toUpper] :: Identifier.parts (pascalCase words) := by
  obtain ⟨-, hcapital, hnot⟩ := Unicode.isCapital_of_small c hc
  cases words with
  | nil =>
      show Identifier.parts [c.toUpper] = [c.toUpper] :: Identifier.parts []
      simp [Identifier.parts, Identifier.startsSmall, hcapital, hnot]
  | cons next words =>
      have hword := hspelled next List.mem_cons_self
      obtain ⟨d, more, rfl⟩ := List.exists_cons_of_ne_nil hword.1
      have hmore : more ≠ [] := by
        rintro rfl
        exact hnext [d] rfl rfl
      obtain ⟨e, behind, rfl⟩ := List.exists_cons_of_ne_nil hmore
      obtain ⟨-, hd, hd'⟩ := Unicode.isCapital_of_small d (hword.2 d (by simp))
      obtain ⟨he, -⟩ := Unicode.isCapital_of_small e (hword.2 e (by simp))
      exact Identifier.parts_cons_capital hcapital hnot hd hd' he

/-- A word in front of a name is its first part, unless it and the next word have one letter each. -/
theorem parts_capitalize_append (hword : Spelled word) (hspelled : ∀ word ∈ words, Spelled word)
    (hnext : ∀ next ∈ words.head?, ¬(word.length = 1 ∧ next.length = 1)) :
    Identifier.parts (capitalize word ++ pascalCase words) =
      capitalize word :: Identifier.parts (pascalCase words) := by
  obtain ⟨c, smalls, rfl⟩ := List.exists_cons_of_ne_nil hword.1
  have hsmall := List.forall_mem_cons.mp hword.2
  by_cases hlone : smalls = []
  · subst hlone
    exact parts_lone_capital hsmall.1 hspelled fun next hmem hone => hnext next hmem ⟨rfl, hone⟩
  · have hcapital := (Unicode.isCapital_of_small c hsmall.1).2.1
    exact Identifier.parts_append (.inr ⟨hcapital, hlone⟩) hsmall.2 (startsSmall_pascalCase hspelled)

/-- Capitals cut a name into its words, if no two of one letter are side by side. -/
theorem parts_pascalCase (hspelled : ∀ word ∈ words, Spelled word)
    (hapart : words.IsChain fun a b => ¬(a.length = 1 ∧ b.length = 1)) :
    Identifier.parts (pascalCase words) = words.map capitalize := by
  induction words with
  | nil =>
      show Identifier.parts [] = []
      rw [Identifier.parts]
  | cons word words ih =>
      rw [List.forall_mem_cons] at hspelled
      rw [List.isChain_cons] at hapart
      show Identifier.parts (capitalize word ++ pascalCase words) = capitalize word :: words.map capitalize
      rw [parts_capitalize_append hspelled.1 hspelled.2 hapart.1, ih hspelled.2 hapart.2]

/-- With a small letter at the start the first word keeps it. -/
theorem parts_camelCase (hfirst : Spelled first) (hspelled : ∀ word ∈ words, Spelled word)
    (hapart : words.IsChain fun a b => ¬(a.length = 1 ∧ b.length = 1)) :
    Identifier.parts (camelCase (first :: words)) = first :: words.map capitalize := by
  obtain ⟨c, smalls, rfl⟩ := List.exists_cons_of_ne_nil hfirst.1
  have hsmall := List.forall_mem_cons.mp hfirst.2
  have hparts := Identifier.parts_append (.inl hsmall.1) hsmall.2 (startsSmall_pascalCase hspelled)
  rw [parts_pascalCase hspelled hapart] at hparts
  exact hparts

/-! ## Characters of a name -/

/-- A text of ASCII letters. -/
def Lettered (text : Text) : Prop :=
  ∀ c ∈ text, ∃ d, Identifier.isSmall d = true ∧ (c = d ∨ c = d.toUpper)

theorem Spelled.lettered (h : Spelled word) : Lettered word := fun c hc => ⟨c, h.2 c hc, .inl rfl⟩

theorem Spelled.lettered_capitalize (h : Spelled word) : Lettered (capitalize word) := by
  obtain ⟨c, smalls, rfl⟩ := List.exists_cons_of_ne_nil h.1
  intro d hd
  rcases List.mem_cons.mp hd with rfl | hd
  · exact ⟨c, h.2 c List.mem_cons_self, .inr rfl⟩
  · exact h.lettered d (List.mem_cons_of_mem _ hd)

theorem lettered_pascalCase (h : ∀ word ∈ words, Spelled word) : Lettered (pascalCase words) := by
  intro c hc
  obtain ⟨word, hword, hc⟩ := List.mem_flatMap.mp hc
  exact (h word hword).lettered_capitalize c hc

theorem lettered_camelCase (hfirst : Spelled first) (h : ∀ word ∈ words, Spelled word) :
    Lettered (camelCase (first :: words)) := by
  intro c hc
  rcases List.mem_append.mp hc with hc | hc
  · exact hfirst.lettered c hc
  · exact lettered_pascalCase h c hc

theorem Lettered.isWord (h : Lettered name) : ∀ c ∈ name, Unicode.isWord c = true := by
  intro c hc
  obtain ⟨d, hd, rfl | rfl⟩ := h c hc
  · exact (Unicode.isWord_of_small _ hd).1
  · exact (Unicode.isWord_of_small _ hd).2

theorem Lettered.not_mem (h : Lettered name) : '_' ∉ name := by
  intro hmem
  obtain ⟨d, hd, heq | heq⟩ := h '_' hmem
  · exact (Unicode.ne_of_small d hd).1.2 heq.symm
  · exact (Unicode.ne_of_small d hd).2.2 heq.symm

theorem snakeCase_cons_cons (first second : Text) (words : List Text) :
    snakeCase (first :: second :: words) = first ++ '_' :: snakeCase (second :: words) := by
  simp [snakeCase, Text.join]

theorem isWord_snakeCase (h : ∀ word ∈ words, Spelled word) :
    ∀ c ∈ snakeCase words, Unicode.isWord c = true := by
  induction words with
  | nil => exact fun _ hc => nomatch hc
  | cons word words ih =>
      rw [List.forall_mem_cons] at h
      cases words with
      | nil =>
          show ∀ c ∈ Text.join ['_'] [word], Unicode.isWord c = true
          simpa [Text.join] using h.1.lettered.isWord
      | cons next words =>
          rw [snakeCase_cons_cons, List.forall_mem_append, List.forall_mem_cons]
          exact ⟨h.1.lettered.isWord, by decide, ih h.2⟩

end Naming

/-! ## Tokens -/

namespace Token

variable {text word : Text}

/-- A text of word characters is one word. -/
theorem words_of_isWord (hne : text ≠ []) (h : ∀ c ∈ text, Unicode.isWord c = true) :
    words text = [text] := by
  have hgrow : text.foldr extendWord ([], []) = (text, []) := by
    clear hne
    induction text with
    | nil => rfl
    | cons c text ih =>
        rw [List.forall_mem_cons] at h
        rw [List.foldr_cons, ih h.2]
        simp [extendWord, h.1]
  unfold words
  rw [hgrow]
  simp [pushWord, hne]

theorem base_of_isWord (hne : text ≠ []) (h : ∀ c ∈ text, Unicode.isWord c = true) :
    base text = ofWord text := by
  unfold base
  rw [words_of_isWord hne h, List.flatMap_singleton]

/-- A word without underscores has the tokens of its parts. -/
theorem ofWord_of_parts {parts : List Text} (hword : '_' ∉ word) (hne : parts ≠ [])
    (hparts : Identifier.parts word = parts) : ofWord word = parts.filterMap ofPart := by
  obtain ⟨part, more, rfl⟩ := List.exists_cons_of_ne_nil hne
  simp [ofWord, hword, hparts]

theorem ofPart_of_lowerCase {part : Text} (hlower : Unicode.lowerCase part = word)
    (hlength : part.length = word.length) :
    ofPart part = Option.guard (fun word => 1 < word.length) word := by
  unfold ofPart Option.guard
  rw [hlower, hlength]
  simp

end Token

namespace Naming

variable {words : List Text} {word : Text}

open Token

theorem Spelled.ofPart_eq (h : Spelled word) :
    ofPart word = Option.guard (fun word => 1 < word.length) word :=
  ofPart_of_lowerCase (Unicode.lowerAfter_of_small [] h.2) rfl

theorem Spelled.ofPart_capitalize (h : Spelled word) :
    ofPart (capitalize word) = Option.guard (fun word => 1 < word.length) word := by
  obtain ⟨c, smalls, rfl⟩ := List.exists_cons_of_ne_nil h.1
  have hc := h.2 c List.mem_cons_self
  refine ofPart_of_lowerCase ?_ rfl
  show Unicode.lowerAfter [] (c.toUpper :: smalls) = c :: smalls
  rw [Unicode.lowerAfter, if_neg (Unicode.ne_of_small c hc).2.1, (Unicode.lowerChar_of_small c hc).2,
    Unicode.lowerAfter_of_small _ fun d hd => h.2 d (List.mem_cons_of_mem _ hd)]
  rfl

/-- The words of two letters at least. -/
def longWords (words : List Text) : List Text := words.filter fun word => 1 < word.length

theorem filterMap_ofPart (h : ∀ word ∈ words, Spelled word) :
    words.filterMap ofPart = longWords words := by
  rw [List.filterMap_congr fun word hword => (h word hword).ofPart_eq]
  exact congrFun List.filterMap_eq_filter words

theorem filterMap_ofPart_capitalize (h : ∀ word ∈ words, Spelled word) :
    (words.map capitalize).filterMap ofPart = longWords words := by
  rw [List.filterMap_map]
  show words.filterMap (fun word => ofPart (capitalize word)) = longWords words
  rw [List.filterMap_congr fun word hword => (h word hword).ofPart_capitalize]
  exact congrFun List.filterMap_eq_filter words

/-- Underscores cut a name into its words. -/
theorem base_snakeCase (h : Nameable words) : base (snakeCase words) = longWords words := by
  have hsplit : Text.split '_' (snakeCase words) = words :=
    Text.split_join h.nonempty fun word hword => (h.spelled word hword).lettered.not_mem
  obtain ⟨first, rest, rfl⟩ := List.exists_cons_of_ne_nil h.nonempty
  have hfirst := h.spelled first List.mem_cons_self
  cases rest with
  | nil =>
      -- no underscore: the one word has no change of case either
      have hword : snakeCase [first] = first := by simp [snakeCase, Text.join]
      rw [hword, base_of_isWord hfirst.1 hfirst.lettered.isWord,
        ofWord_of_parts hfirst.lettered.not_mem (List.cons_ne_nil _ _)
          (Identifier.parts_of_small hfirst.1 hfirst.2)]
      exact filterMap_ofPart h.spelled
  | cons second rest =>
      have hcut : (snakeCase (first :: second :: rest)).contains '_' = true := by
        rw [snakeCase_cons_cons]
        simp
      have hne : snakeCase (first :: second :: rest) ≠ [] := by
        rw [snakeCase_cons_cons]
        simp
      rw [base_of_isWord hne (isWord_snakeCase h.spelled), ofWord, if_pos hcut, hsplit]
      exact filterMap_ofPart h.spelled

/-- Capitals cut a name into its words, the first word among them or behind it. -/
theorem base_pascalCase (h : Nameable words) : base (pascalCase words) = longWords words := by
  have hparts := parts_pascalCase h.spelled h.apart
  have hletters := lettered_pascalCase h.spelled
  have hmap : words.map capitalize ≠ [] := by simpa using h.nonempty
  have hne : pascalCase words ≠ [] := by
    intro hnil
    rw [hnil, Identifier.parts] at hparts
    exact hmap hparts.symm
  rw [base_of_isWord hne hletters.isWord, ofWord_of_parts hletters.not_mem hmap hparts]
  exact filterMap_ofPart_capitalize h.spelled

theorem base_camelCase (h : Nameable words) : base (camelCase words) = longWords words := by
  obtain ⟨first, rest, rfl⟩ := List.exists_cons_of_ne_nil h.nonempty
  have hfirst := h.spelled first List.mem_cons_self
  have hrest : ∀ word ∈ rest, Spelled word :=
    fun word hword => h.spelled word (List.mem_cons_of_mem _ hword)
  have hletters := lettered_camelCase hfirst hrest
  have hne : camelCase (first :: rest) ≠ [] := List.append_ne_nil_of_left_ne_nil hfirst.1 _
  rw [base_of_isWord hne hletters.isWord,
    ofWord_of_parts hletters.not_mem (List.cons_ne_nil _ _)
      (parts_camelCase hfirst hrest h.apart.of_cons)]
  show ([first] ++ rest.map capitalize).filterMap ofPart = longWords ([first] ++ rest)
  rw [List.filterMap_append, filterMap_ofPart (by simpa using hfirst),
    filterMap_ofPart_capitalize hrest]
  exact (List.filter_append [first] rest).symm

/-- A name has the same tokens in every style: its base tokens are its words of two letters at least,
and the terms made of them are the same as well. -/
theorem styles_share_tokens (h : Nameable words) :
    (base (snakeCase words) = longWords words ∧ base (camelCase words) = longWords words ∧
        base (pascalCase words) = longWords words) ∧
      all (camelCase words) = all (snakeCase words) ∧ all (pascalCase words) = all (snakeCase words) := by
  have hsnake := base_snakeCase h
  have hcamel := base_camelCase h
  have hpascal := base_pascalCase h
  refine ⟨⟨hsnake, hcamel, hpascal⟩, ?_, ?_⟩
  · unfold all
    rw [hcamel, hsnake]
  · unfold all
    rw [hpascal, hsnake]

/-- Words with one of one letter at the start, in the middle and at the end. -/
def shortAmongLong : List Text := ["x", "is", "http", "a", "ok", "b"].map Text.ofString

theorem styles_of_shortAmongLong_share_tokens :
    let tokens := ["is", "http", "ok"].map Text.ofString
    Nameable shortAmongLong ∧
      (base (Text.ofString "x_is_http_a_ok_b") = tokens ∧ base (Text.ofString "xIsHttpAOkB") = tokens ∧
        base (Text.ofString "XIsHttpAOkB") = tokens) ∧
      all (Text.ofString "xIsHttpAOkB") = all (Text.ofString "x_is_http_a_ok_b") ∧
      all (Text.ofString "XIsHttpAOkB") = all (Text.ofString "x_is_http_a_ok_b") := by
  intro tokens
  have hname : Nameable shortAmongLong := ⟨by decide, by decide, by decide⟩
  have hsnake : snakeCase shortAmongLong = Text.ofString "x_is_http_a_ok_b" := by decide
  have hcamel : camelCase shortAmongLong = Text.ofString "xIsHttpAOkB" := by decide
  have hpascal : pascalCase shortAmongLong = Text.ofString "XIsHttpAOkB" := by decide
  have hlong : longWords shortAmongLong = tokens := by decide
  rw [← hsnake, ← hcamel, ← hpascal, ← hlong]
  exact ⟨hname, styles_share_tokens hname⟩

/-- Two words of one letter side by side are one run of capitals, which nothing cuts. -/
example : base (Text.ofString "x_y") = [] ∧ base (Text.ofString "XY") = [Text.ofString "xy"] := by
  decide +kernel

end Naming

end CodeRetrieval
