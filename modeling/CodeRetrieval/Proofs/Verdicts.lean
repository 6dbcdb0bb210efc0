/-
# CodeRetrieval.Proofs.Verdicts — what the verdict on a file depends on.

A file passes the nine filters exactly if it is eligible, which is said of the file and its directory
alone.  A run over many files remembers how many files a directory has, but only once one of its files
has got as far as being asked for it.  What is remembered is always what counting would give, so a run in
any order comes to the verdicts that the files get one by one.
-/
import CodeRetrieval.Files.Walk
import CodeRetrieval.Proofs.FileTree
import CodeRetrieval.Proofs.Text

namespace CodeRetrieval.Files

/-! ## Patterns of files to skip -/

/-- Patterns that are all globs are read, each by itself. -/
theorem Globs.exists_parseAll {G : Type} (globs : Globs G) {patterns : List Text}
    (h : ∀ pattern ∈ patterns, ∃ glob, globs.parse pattern = .ok glob) :
    ∃ read, globs.parseAll patterns = .ok read ∧
      ∀ glob, glob ∈ read ↔ ∃ pattern ∈ patterns, globs.parse pattern = .ok glob := by
  induction patterns with
  | nil => exact ⟨[], rfl, by simp⟩
  | cons pattern rest ih =>
      obtain ⟨⟨glob, hglob⟩, hrest⟩ := List.forall_mem_cons.mp h
      obtain ⟨read, hread, hmem⟩ := ih hrest
      refine ⟨glob :: read, ?_, fun other => ?_⟩
      · unfold parseAll at hread ⊢
        rw [List.mapM_cons, hglob, hread]
        rfl
      · rw [List.mem_cons, hmem, List.exists_mem_cons_iff, hglob, Except.ok.injEq, eq_comm]

/-! ## Eligible files -/

/-- A file that passes every filter: its path, its size, the number of files in its directory and its
content have nothing against it.  `text` is its content.  A name that is no text ends in no suffix but the
empty one. -/
structure Eligible {G : Type} (globs : Globs G) (settings : WalkSettings) (directory : Entries)
    (parent : List RawPath) (name : RawPath) (bytes : ByteArray) (text : Text) : Prop where
  outside : ∀ dir ∈ settings.excludedDirs,
    ¬ (Path.raw dir).components <+: (parent ++ [name]).map .name
  otherEnding : ∀ suffix ∈ settings.excludedSuffixes, ¬ suffix <:+ name.text?.getD []
  unmatched : ∀ pattern ∈ settings.skipPatterns, ∀ glob, globs.parse pattern = .ok glob →
    globs.matchesPath glob (pathOf (parent ++ [name])) = false
  largeEnough : settings.minBytes ≤ bytes.size
  smallEnough : bytes.size ≤ settings.maxBytes
  uncrowded : fileCount directory ≤ settings.maxSiblings
  withoutNul : (0 : UInt8) ∉ bytes.data
  decoded : (String.ofList text).toUTF8 = bytes
  shortLines : bytes.size ≤ settings.maxMeanLine * (text.count '\n' + 1)

variable {G : Type} {globs : Globs G} {settings : WalkSettings} {patterns : List G} {directory : Entries}
  {parent : List RawPath} {name : RawPath} {text : Text} {bytes : ByteArray} {c : Candidate}

/-! ### The filters one by one -/

theorem judgePath_eq_none_iff :
    judgePath globs settings patterns c = none ↔
      settings.excludedDirs.any (fun dir => c.path.startsWith (Path.raw dir)) = false ∧
      settings.excludedSuffixes.any (fun suffix => suffix.isSuffixOf c.nameText) = false ∧
      patterns.any (fun glob => globs.matchesPath glob c.path) = false := by
  unfold judgePath
  split
  · next hdir => simp only [hdir, reduceCtorEq, false_and]
  split
  · next hsuffix => simp only [hsuffix, reduceCtorEq, false_and, and_false]
  split
  · next hskip => simp only [hskip, reduceCtorEq, and_false]
  · next hdir hsuffix hskip => simp only [hdir, hsuffix, hskip, and_self]

theorem judgeSize_eq_none_iff :
    judgeSize settings c = none ↔ settings.minBytes ≤ c.bytes.size ∧ c.bytes.size ≤ settings.maxBytes := by
  unfold judgeSize
  split
  · simp only [reduceCtorEq, false_iff]
    omega
  split
  · simp only [reduceCtorEq, false_iff]
    omega
  · simp only [true_iff]
    omega

/-- Bytes are decoded to the text that is encoded as they are. -/
theorem decode_eq_some_iff : Text.decode bytes = some text ↔ (String.ofList text).toUTF8 = bytes := by
  unfold Text.decode String.fromUTF8?
  constructor
  · intro h
    obtain ⟨s, hs, rfl⟩ := Option.map_eq_some_iff.mp h
    split at hs
    · obtain rfl := Option.some.inj hs
      rw [String.ofList_toList]
      rfl
    · cases hs
  · rintro rfl
    have hvalid : (String.ofList text).toUTF8.IsValidUTF8 := (String.ofList text).isValidUTF8
    rw [dif_pos hvalid]
    exact congrArg some String.toList_ofList

theorem judgeContent_eq_ok_iff :
    judgeContent settings c = .ok text ↔
      (0 : UInt8) ∉ c.bytes.data ∧ (String.ofList text).toUTF8 = c.bytes ∧
        c.bytes.size ≤ settings.maxMeanLine * (text.count '\n' + 1) := by
  rw [← decode_eq_some_iff, ← Text.length_split]
  unfold judgeContent
  split
  · next hnul =>
      have hnul : (0 : UInt8) ∈ c.bytes.data := by simpa using hnul
      simp only [hnul, reduceCtorEq, not_true_eq_false, false_and]
  · next hnul =>
      have hnul : (0 : UInt8) ∉ c.bytes.data := by simpa using hnul
      cases Text.decode c.bytes with
      | none => simp
      | some content =>
          dsimp only
          split
          · next hlong =>
              simp only [reduceCtorEq, Option.some.injEq, false_iff]
              rintro ⟨-, rfl, hshort⟩
              omega
          · next hshort =>
              simp only [hnul, Except.ok.injEq, Option.some.injEq, not_false_eq_true, true_and]
              refine ⟨?_, And.left⟩
              rintro rfl
              exact ⟨rfl, Nat.le_of_not_lt hshort⟩

theorem judge_eq_ok_iff {siblings : Nat} :
    judge globs settings patterns siblings c = .ok text ↔
      judgePath globs settings patterns c = none ∧ judgeSize settings c = none ∧
        siblings ≤ settings.maxSiblings ∧ judgeContent settings c = .ok text := by
  unfold judge
  cases judgePath globs settings patterns c with
  | some reason => simp
  | none =>
      cases judgeSize settings c with
      | some reason => simp
      | none =>
          rw [Option.none_or]
          dsimp only
          split
          · simp only [reduceCtorEq, false_iff]
            omega
          · next huncrowded =>
              simp only [Nat.le_of_not_lt huncrowded, true_and]

/-! ### All filters -/

/-- A verdict takes a file exactly if the file is eligible. -/
theorem judge_eq_ok_iff_eligible (hproper : ∀ n ∈ parent ++ [name], ProperName n)
    (hpatterns : ∀ glob, glob ∈ patterns ↔
      ∃ pattern ∈ settings.skipPatterns, globs.parse pattern = .ok glob) :
    judge globs settings patterns (fileCount directory) ⟨parent ++ [name], bytes⟩ = .ok text ↔
      Eligible globs settings directory parent name bytes text := by
  have hdirs : settings.excludedDirs.any
        (fun dir => (pathOf (parent ++ [name])).startsWith (Path.raw dir)) = false ↔
      ∀ dir ∈ settings.excludedDirs, ¬ (Path.raw dir).components <+: (parent ++ [name]).map .name := by
    unfold RawPath.startsWith
    rw [List.any_eq_false]
    simp only [components_pathOf hproper, List.isPrefixOf_iff_prefix]
  have hsuffixes : settings.excludedSuffixes.any
        (fun suffix => suffix.isSuffixOf (Candidate.nameText ⟨parent ++ [name], bytes⟩)) = false ↔
      ∀ suffix ∈ settings.excludedSuffixes, ¬ suffix <:+ name.text?.getD [] := by
    unfold Candidate.nameText
    rw [List.any_eq_false, List.getLast?_concat, Option.bind_some]
    simp only [List.isSuffixOf_iff_suffix]
  have hskip : patterns.any (fun glob => globs.matchesPath glob (pathOf (parent ++ [name]))) = false ↔
      ∀ pattern ∈ settings.skipPatterns, ∀ glob, globs.parse pattern = .ok glob →
        globs.matchesPath glob (pathOf (parent ++ [name])) = false := by
    rw [List.any_eq_false]
    simp only [hpatterns, Bool.not_eq_true]
    exact ⟨fun h pattern hpattern glob hglob => h glob ⟨pattern, hpattern, hglob⟩,
      fun h glob ⟨pattern, hpattern, hglob⟩ => h pattern hpattern glob hglob⟩
  rw [judge_eq_ok_iff, judgePath_eq_none_iff, judgeSize_eq_none_iff, judgeContent_eq_ok_iff]
  unfold Candidate.path
  rw [hdirs, hsuffixes, hskip]
  constructor
  · rintro ⟨⟨outside, ending, unmatched⟩, ⟨large, small⟩, uncrowded, nul, decoded, short⟩
    exact ⟨outside, ending, unmatched, large, small, uncrowded, nul, decoded, short⟩
  · rintro ⟨outside, ending, unmatched, large, small, uncrowded, nul, decoded, short⟩
    exact ⟨⟨outside, ending, unmatched⟩, ⟨large, small⟩, uncrowded, nul, decoded, short⟩

/-! ## Runs that remember counts -/

namespace Sorting

variable {countFiles : List RawPath → Nat} {state : Sorting} {seen : List Candidate}

/-- Every number remembered is the one that counting gives. -/
def Remembers (countFiles : List RawPath → Nat) (counted : Std.HashMap (List RawPath) Nat) : Prop :=
  ∀ parent n, counted[parent]? = some n → n = countFiles parent

theorem Remembers.getD {counted : Std.HashMap (List RawPath) Nat} (h : Remembers countFiles counted)
    (parent : List RawPath) : counted.getD parent (countFiles parent) = countFiles parent := by
  rw [Std.HashMap.getD_eq_getD_getElem?]
  cases hparent : counted[parent]? with
  | none => rfl
  | some n => exact h parent n hparent

theorem Remembers.insert {counted : Std.HashMap (List RawPath) Nat} (h : Remembers countFiles counted)
    (parent : List RawPath) : Remembers countFiles (counted.insert parent (countFiles parent)) := by
  intro other n hother
  rw [Std.HashMap.getElem?_insert] at hother
  split at hother
  · next heq => rw [← Option.some.inj hother, eq_of_beq heq]
  · exact h other n hother

section Records

variable {β : Type} {result : Candidate → β → Prop} {records : List (Candidate × β)} {b : β}

/-- A list with the results of all files seen: one more file is seen, and its result put down. -/
theorem mem_cons_record_iff (h : ∀ d r, (d, r) ∈ records ↔ d ∈ seen ∧ result d r)
    (hc : ∀ r, result c r ↔ r = b) (d : Candidate) (r : β) :
    (d, r) ∈ (c, b) :: records ↔ d ∈ c :: seen ∧ result d r := by
  rw [List.mem_cons, List.mem_cons, h, Prod.mk.injEq, or_and_right]
  refine or_congr_left (and_congr_right ?_)
  rintro rfl
  exact (hc r).symm

/-- One more file is seen, and has no result to put down. -/
theorem mem_record_iff (h : ∀ d r, (d, r) ∈ records ↔ d ∈ seen ∧ result d r) (hc : ∀ r, ¬ result c r)
    (d : Candidate) (r : β) : (d, r) ∈ records ↔ d ∈ c :: seen ∧ result d r := by
  rw [h, List.mem_cons, or_and_right, or_iff_right]
  rintro ⟨rfl, hr⟩
  exact hc r hr

end Records

/-- A run in which the files of `seen`, newest first, got the verdicts that they get by themselves. -/
structure Judged (globs : Globs G) (settings : WalkSettings) (patterns : List G)
    (countFiles : List RawPath → Nat) (seen : List Candidate) (state : Sorting) : Prop where
  remembers : Remembers countFiles state.counted
  taken : ∀ c text, (c, text) ∈ state.taken ↔
    c ∈ seen ∧ judge globs settings patterns (countFiles c.parent) c = .ok text
  rejected : ∀ c reason, (c, reason) ∈ state.rejected ↔
    c ∈ seen ∧ judge globs settings patterns (countFiles c.parent) c = .error reason
  once : (state.taken.map (·.1)).Sublist seen

/-- What is remembered does not change the verdict on the next file. -/
theorem step_cases (globs : Globs G) (settings : WalkSettings) (patterns : List G)
    (h : Remembers countFiles state.counted) (c : Candidate) :
    Remembers countFiles (step globs settings patterns countFiles state c).counted ∧
      ((∃ text, judge globs settings patterns (countFiles c.parent) c = .ok text ∧
          (step globs settings patterns countFiles state c).taken = (c, text) :: state.taken ∧
          (step globs settings patterns countFiles state c).rejected = state.rejected) ∨
        ∃ reason, judge globs settings patterns (countFiles c.parent) c = .error reason ∧
          (step globs settings patterns countFiles state c).taken = state.taken ∧
          (step globs settings patterns countFiles state c).rejected = (c, reason) :: state.rejected) := by
  unfold step judge
  cases (judgePath globs settings patterns c).or (judgeSize settings c) with
  | some reason => exact ⟨h, .inr ⟨reason, rfl, rfl, rfl⟩⟩
  | none =>
      -- only here the directory is counted, or its number remembered
      dsimp only
      rw [h.getD]
      cases (if settings.maxSiblings < countFiles c.parent then .error .crowded
        else judgeContent settings c : Except Rejection Text) with
      | ok text => exact ⟨h.insert c.parent, .inl ⟨text, rfl, rfl, rfl⟩⟩
      | error reason => exact ⟨h.insert c.parent, .inr ⟨reason, rfl, rfl, rfl⟩⟩

theorem Judged.step (h : Judged globs settings patterns countFiles seen state) (c : Candidate) :
    Judged globs settings patterns countFiles (c :: seen)
      (step globs settings patterns countFiles state c) := by
  obtain ⟨hremembers, ⟨text, hverdict, htaken, hrejected⟩ | ⟨reason, hverdict, htaken, hrejected⟩⟩ :=
    step_cases globs settings patterns h.remembers c
  · refine ⟨hremembers, ?_, ?_, ?_⟩
    · rw [htaken]
      exact mem_cons_record_iff h.taken (by simp [hverdict, eq_comm])
    · rw [hrejected]
      exact mem_record_iff h.rejected (by simp [hverdict])
    · rw [htaken, List.map_cons]
      exact h.once.cons_cons c
  · refine ⟨hremembers, ?_, ?_, ?_⟩
    · rw [htaken]
      exact mem_record_iff h.taken (by simp [hverdict])
    · rw [hrejected]
      exact mem_cons_record_iff h.rejected (by simp [hverdict, eq_comm])
    · rw [htaken]
      exact h.once.cons c

/-- A run goes on from files that were judged by themselves to such files. -/
theorem judged_foldl (h : Judged globs settings patterns countFiles seen state) (order : List Candidate) :
    Judged globs settings patterns countFiles (order.reverse ++ seen)
      (order.foldl (step globs settings patterns countFiles) state) := by
  induction order generalizing seen state with
  | nil => exact h
  | cons c order ih =>
      rw [List.reverse_cons, List.append_assoc, List.singleton_append]
      exact ih (h.step c)

/-- In a whole run every file gets the verdict that it gets by itself. -/
theorem judged_of (globs : Globs G) (settings : WalkSettings) (patterns : List G)
    (countFiles : List RawPath → Nat) (order : List Candidate) :
    Judged globs settings patterns countFiles order.reverse
      (Sorting.of globs settings patterns countFiles order) := by
  have hstart : Judged globs settings patterns countFiles [] ⟨[], [], ∅⟩ :=
    ⟨fun parent n hn => by simp at hn, fun c text => by simp, fun c reason => by simp, List.Sublist.slnil⟩
  have hrun := judged_foldl hstart order
  rwa [List.append_nil] at hrun

end Sorting

end CodeRetrieval.Files
