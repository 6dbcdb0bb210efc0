/-
# CodeRetrieval.Proofs.SettingsFaults — which faults of the settings come to light.

Patterns of files to skip are read before the walk, so one that is no glob is told whatever a directory
holds.  Line windows are looked at when a file is cut: windows that do not advance are refused where the
walk takes a file, and go unnoticed in a directory without one.  Sound settings are never refused.
-/
import CodeRetrieval.Proofs.FirstFailure
import CodeRetrieval.Proofs.Keys
import CodeRetrieval.Proofs.Walk
import CodeRetrieval.Repository

namespace CodeRetrieval

/-! ## Patterns that are no globs -/

/-- Reading patterns fails with the fault of the first one that is no glob. -/
theorem Files.Globs.parseAll_of_first {G : Type} (globs : Globs G) {front back : List Text} {pattern : Text}
    {position : Nat} {fault : GlobFault} (hfront : ∀ p ∈ front, ∃ glob, globs.parse p = .ok glob)
    (hpattern : globs.parse pattern = .error (position, fault)) :
    globs.parseAll (front ++ pattern :: back) =
      .error (.config (.skipPattern pattern.quoted position fault)) := by
  unfold parseAll
  refine mapM_eq_error_iff.mpr ⟨front, pattern, back, rfl, ?_, ?_⟩
  · intro p hp
    obtain ⟨glob, hglob⟩ := hfront p hp
    refine ⟨glob, ?_⟩
    rw [hglob]
  · rw [hpattern]

namespace Files.SkipPattern

variable {patterns : List Text}

/-- A pattern that can be read. -/
def IsGlob (pattern : Text) : Prop := ∃ tokens, parse pattern = .ok tokens

theorem not_isGlob_iff {pattern : Text} :
    ¬ IsGlob pattern ↔ ∃ position fault, parse pattern = .error (position, fault) := by
  unfold IsGlob
  cases parse pattern with
  | ok tokens => simp
  | error found => exact iff_of_true (by simp) ⟨found.1, found.2, rfl⟩

/-- Among patterns that are not all globs there is a first one that is none. -/
theorem exists_first_not_isGlob (h : ∃ pattern ∈ patterns, ¬ IsGlob pattern) :
    ∃ front pattern back, patterns = front ++ pattern :: back ∧ (∀ p ∈ front, IsGlob p) ∧
      ¬ IsGlob pattern := by
  induction patterns with
  | nil => simp at h
  | cons pattern rest ih =>
      by_cases hglob : IsGlob pattern
      · obtain ⟨wrong, hmem, hwrong⟩ := h
        have hrest : wrong ∈ rest := by
          rcases List.mem_cons.mp hmem with rfl | hrest
          · exact absurd hglob hwrong
          · exact hrest
        obtain ⟨front, first, back, rfl, hfront, hfirst⟩ := ih ⟨wrong, hrest, hwrong⟩
        exact ⟨pattern :: front, first, back, rfl, List.forall_mem_cons.mpr ⟨hglob, hfront⟩, hfirst⟩
      · exact ⟨[], pattern, rest, rfl, by simp, hglob⟩

end Files.SkipPattern

/-! ## Windows that do not advance -/

section Windows

variable {settings : ChunkSettings} {failure : Failure}

/-- A file is refused for windows that do not advance, and for nothing else. -/
theorem SourceFile.chunks_eq_error_iff {file : SourceFile} :
    file.chunks settings = .error failure ↔
      settings.windowLines ≤ settings.windowOverlap ∧
        failure = .config (.windowOverlap settings.windowOverlap settings.windowLines) := by
  by_cases hwindow : settings.windowLines ≤ settings.windowOverlap
  · have hrefused : file.chunks settings =
        .error (.config (.windowOverlap settings.windowOverlap settings.windowLines)) := by
      unfold chunks checkWindow
      rw [if_pos hwindow]
      rfl
    rw [hrefused, Except.error.injEq, eq_comm, and_iff_right hwindow]
  · obtain ⟨chunks, hchunks, -⟩ := file.exists_chunks_ascending (Nat.lt_of_not_le hwindow)
    rw [hchunks]
    simp [hwindow]

/-- So are files, as soon as there is one. -/
theorem Corpus.ofFiles_eq_error_iff {files : List SourceFile} :
    Corpus.ofFiles settings files = .error failure ↔
      files ≠ [] ∧ settings.windowLines ≤ settings.windowOverlap ∧
        failure = .config (.windowOverlap settings.windowOverlap settings.windowLines) := by
  have hcut : Corpus.ofFiles settings files = .error failure ↔
      files.mapM (SourceFile.chunks settings) = .error failure := by
    unfold Corpus.ofFiles
    cases files.mapM (SourceFile.chunks settings) <;> simp [bind, Except.bind, pure, Except.pure]
  rw [hcut, mapM_eq_error_iff]
  constructor
  · rintro ⟨front, file, back, rfl, -, hfile⟩
    exact ⟨by simp, SourceFile.chunks_eq_error_iff.mp hfile⟩
  · rintro ⟨hne, hrefused⟩
    obtain ⟨file, rest, rfl⟩ := List.exists_cons_of_ne_nil hne
    exact ⟨[], file, rest, rfl, by simp, SourceFile.chunks_eq_error_iff.mpr hrefused⟩

end Windows

/-! ## Directories with a file to take -/

namespace Files

/-- Some file below a directory is eligible, and visible by the ignore rules of the tree. -/
def TakesSome (settings : WalkSettings) (top : Entries) (base : List RawPath) : Prop :=
  ∃ parent name directory bytes text,
    (Node.dir top).lookup (base ++ parent) = some (.dir directory) ∧ (name, .file bytes) ∈ directory ∧
    Visible (hiddenBelow (isIgnored top) base) parent name ∧
    Eligible SkipPattern.globs settings directory parent name bytes text

theorem IsSelection.ne_nil_iff {settings : WalkSettings} {top : Entries} {base : List RawPath}
    {files : List Taken} (h : IsSelection SkipPattern.globs (isIgnored top) settings top base files) :
    files ≠ [] ↔ TakesSome settings top base := by
  constructor
  · intro hne
    obtain ⟨file, hfile⟩ := List.exists_mem_of_ne_nil files hne
    obtain ⟨parent, name, directory, bytes, text, hlookup, hentry, hvisible, heligible, -⟩ :=
      (h.mem_iff file).mp hfile
    exact ⟨parent, name, directory, bytes, text, hlookup, hentry, hvisible, heligible⟩
  · rintro ⟨parent, name, directory, bytes, text, hlookup, hentry, hvisible, heligible⟩
    exact List.ne_nil_of_mem ((h.mem_iff _).mpr
      ⟨parent, name, directory, bytes, text, hlookup, hentry, hvisible, heligible, rfl⟩)

end Files

/-! ## The first fault -/

namespace Repository

open Files (Entries TakesSome)
open Files.SkipPattern (IsGlob)

variable {R : Type}

/-- The fault of the settings that is told: that of the first pattern that is no glob, and behind all
patterns, where there is a file to cut, that of windows that do not advance. -/
inductive FirstFault (settings : Settings R) (toCut : Prop) : ConfigFault → Prop
  | pattern {front back : List Text} {pattern : Text} {position : Nat} {fault : GlobFault}
      (hpatterns : settings.walk.skipPatterns = front ++ pattern :: back)
      (hfront : ∀ p ∈ front, IsGlob p)
      (hpattern : Files.SkipPattern.parse pattern = .error (position, fault)) :
      FirstFault settings toCut (.skipPattern pattern.quoted position fault)
  | windows (hpatterns : ∀ p ∈ settings.walk.skipPatterns, IsGlob p)
      (hwindow : settings.chunking.windowLines ≤ settings.chunking.windowOverlap) (hcut : toCut) :
      FirstFault settings toCut
        (.windowOverlap settings.chunking.windowOverlap settings.chunking.windowLines)

theorem exists_firstFault_iff {settings : Settings R} {toCut : Prop} :
    (∃ fault, FirstFault settings toCut fault) ↔
      (∃ pattern ∈ settings.walk.skipPatterns, ¬ IsGlob pattern) ∨
        settings.chunking.windowLines ≤ settings.chunking.windowOverlap ∧ toCut := by
  constructor
  · rintro ⟨fault, hfault⟩
    cases hfault with
    | pattern hpatterns hfront hpattern =>
        refine .inl ⟨_, ?_, Files.SkipPattern.not_isGlob_iff.mpr ⟨_, _, hpattern⟩⟩
        rw [hpatterns]
        exact List.mem_append_cons_self
    | windows hpatterns hwindow hcut => exact .inr ⟨hwindow, hcut⟩
  · intro h
    by_cases hglobs : ∃ pattern ∈ settings.walk.skipPatterns, ¬ IsGlob pattern
    · obtain ⟨front, pattern, back, hpatterns, hfront, hfirst⟩ :=
        Files.SkipPattern.exists_first_not_isGlob hglobs
      obtain ⟨position, fault, hpattern⟩ := Files.SkipPattern.not_isGlob_iff.mp hfirst
      exact ⟨_, .pattern hpatterns hfront hpattern⟩
    · obtain ⟨hwindow, hcut⟩ := h.resolve_left hglobs
      exact ⟨_, .windows (by simpa using hglobs) hwindow hcut⟩

/-! ## Indexing -/

variable {settings : Settings R} {parser : Parser} {top entries : Entries} {base : List RawPath}
  {root : RawPath} {shown : Path} {failure : Failure} {fault : ConfigFault}

theorem index_of_parseAll_error (hroot : Files.locate top root = some ⟨base, .dir entries⟩)
    (h : Files.SkipPattern.globs.parseAll settings.walk.skipPatterns = .error failure) :
    index settings parser top root shown = .error failure := by
  unfold index walk Files.walk
  simp only [hroot, h]
  rfl

section Directory

variable (htop : (Files.Node.dir top).WellFormed)
  (hroot : Files.locate top root = some ⟨base, .dir entries⟩)

include htop hroot

/-- With patterns that are globs, the files of the selection are cut. -/
theorem exists_selection (parser : Parser) (shown : Path)
    (hglobs : ∀ pattern ∈ settings.walk.skipPatterns, IsGlob pattern) :
    ∃ files,
      Files.IsSelection Files.SkipPattern.globs (Files.isIgnored top) settings.walk top base files ∧
      index settings parser top root shown =
        Corpus.ofFiles settings.chunking (files.map (sourceOf parser)) := by
  obtain ⟨patterns, hread, hpatterns⟩ := Files.SkipPattern.globs.exists_parseAll hglobs
  have hbase := Files.lookup_of_locate hroot
  refine ⟨_, Files.isSelection_of_order htop hbase hpatterns (.refl _), ?_⟩
  unfold index walk
  rw [Files.walk_eq hroot hread]
  rfl

theorem index_of_firstFault
    (h : FirstFault settings (TakesSome settings.walk top base) fault) :
    index settings parser top root shown = .error (.config fault) := by
  cases h with
  | pattern hpatterns hfront hpattern =>
      apply index_of_parseAll_error hroot
      rw [hpatterns]
      exact Files.SkipPattern.globs.parseAll_of_first hfront hpattern
  | windows hpatterns hwindow hcut =>
      obtain ⟨files, hselection, hindex⟩ := exists_selection htop hroot parser shown hpatterns
      rw [hindex]
      have hne : files.map (sourceOf parser) ≠ [] :=
        List.map_eq_nil_iff.not.mpr (hselection.ne_nil_iff.mpr hcut)
      exact Corpus.ofFiles_eq_error_iff.mpr ⟨hne, hwindow, rfl⟩

/-- Indexing a directory fails with the first fault of the settings, and with nothing else. -/
theorem index_eq_error_iff :
    index settings parser top root shown = .error failure ↔
      ∃ fault, FirstFault settings (TakesSome settings.walk top base) fault ∧
        failure = .config fault := by
  constructor
  · intro h
    by_cases hglobs : ∃ pattern ∈ settings.walk.skipPatterns, ¬ IsGlob pattern
    · -- such a pattern decides before any file is looked at
      obtain ⟨fault, hfault⟩ := exists_firstFault_iff.mpr (.inl hglobs)
      rw [index_of_firstFault htop hroot hfault, Except.error.injEq] at h
      exact ⟨fault, hfault, h.symm⟩
    · have hglobs : ∀ pattern ∈ settings.walk.skipPatterns, IsGlob pattern := by simpa using hglobs
      obtain ⟨files, hselection, hindex⟩ := exists_selection htop hroot parser shown hglobs
      rw [hindex, Corpus.ofFiles_eq_error_iff] at h
      obtain ⟨hne, hwindow, rfl⟩ := h
      have hcut := hselection.ne_nil_iff.mp (List.map_eq_nil_iff.not.mp hne)
      exact ⟨_, .windows hglobs hwindow hcut, rfl⟩
  · rintro ⟨fault, hfault, rfl⟩
    exact index_of_firstFault htop hroot hfault

/-- Windows that do not advance and are not refused leave no chunk. -/
theorem eq_nil_of_index
    (hwindow : settings.chunking.windowLines ≤ settings.chunking.windowOverlap) {corpus : Corpus}
    (h : index settings parser top root shown = .ok corpus) : corpus.chunks = [] := by
  have hglobs : ∀ pattern ∈ settings.walk.skipPatterns, IsGlob pattern := by
    by_contra hwrong
    obtain ⟨fault, hfault⟩ := exists_firstFault_iff.mpr (.inl (by simpa using hwrong))
    rw [index_of_firstFault htop hroot hfault] at h
    cases h
  obtain ⟨files, -, hindex⟩ := exists_selection htop hroot parser shown hglobs
  rw [hindex] at h
  have hfiles : files.map (sourceOf parser) = [] := by
    by_contra hne
    rw [Corpus.ofFiles_eq_error_iff.mpr ⟨hne, hwindow, rfl⟩] at h
    cases h
  rw [hfiles] at h
  cases h
  rfl

end Directory

/-! ## Settings that are refused -/

variable [Scalar R]

theorem retrieve_of_index_error {provider : Option (Provider R)} {query : Text}
    (h : index settings parser top root shown = .error failure) :
    retrieve settings parser provider top root shown query = .error failure := by
  unfold retrieve
  rw [h]
  rfl

theorem retrieve_of_index_nil {provider : Option (Provider R)} {query : Text} {corpus : Corpus}
    (h : index settings parser top root shown = .ok corpus) (hnil : corpus.chunks = []) :
    retrieve settings parser provider top root shown query = .ok [] := by
  unfold retrieve
  rw [h]
  show Retrieval.rank settings provider corpus query = .ok []
  unfold Retrieval.rank Retrieval.attempt
  rw [hnil]
  rfl

/-- Indexing a directory fails with the first fault of the settings and with nothing else, so it refuses
the settings exactly if a pattern is no glob, or if the windows do not advance and some file is taken.
Retrieval fails alike.  Where no file is taken, windows that do not advance are passed over: there is no
chunk, and every query is answered with nothing. -/
theorem first_fault_is_told (settings : Settings R) (parser : Parser) (shown : Path)
    (htop : (Files.Node.dir top).WellFormed)
    (hroot : Files.locate top root = some ⟨base, .dir entries⟩) :
    (∀ failure, index settings parser top root shown = .error failure ↔
      ∃ fault, FirstFault settings (TakesSome settings.walk top base) fault ∧
        failure = .config fault) ∧
    ((∃ fault, index settings parser top root shown = .error (.config fault)) ↔
      (∃ pattern ∈ settings.walk.skipPatterns, ¬ IsGlob pattern) ∨
        settings.chunking.windowLines ≤ settings.chunking.windowOverlap ∧
          TakesSome settings.walk top base) ∧
    ∀ (provider : Option (Provider R)) (query : Text),
      (∀ failure, index settings parser top root shown = .error failure →
        retrieve settings parser provider top root shown query = .error failure) ∧
      (settings.chunking.windowLines ≤ settings.chunking.windowOverlap →
        ∀ corpus, index settings parser top root shown = .ok corpus →
          corpus.chunks = [] ∧
            retrieve settings parser provider top root shown query = .ok []) := by
  refine ⟨fun failure => index_eq_error_iff htop hroot, ?_, ?_⟩
  · rw [← exists_firstFault_iff]
    simp only [index_eq_error_iff htop hroot, Failure.config.injEq, exists_eq_right']
  · intro provider query
    refine ⟨fun failure hindex => retrieve_of_index_error hindex, ?_⟩
    intro hwindow corpus hindex
    have hnil := eq_nil_of_index htop hroot hwindow hindex
    exact ⟨hnil, retrieve_of_index_nil hindex hnil⟩

/-- Windows of one line that share it. -/
def standing : Settings Binary64 :=
  { Settings.standard with chunking := ⟨2000, 80, 1, 1⟩, walk := ⟨0, 9, 9, 9, [], [], []⟩ }

/-- A directory with a file of one character. -/
def oneFile : Entries := [(Path.raw ['f'], .file ⟨#[120]⟩)]

theorem standing_windows_are_refused :
    ((Files.Node.dir oneFile).WellFormed ∧
        Files.locate oneFile [RawPath.dot] = some ⟨[], .dir oneFile⟩) ∧
      index standing (fun _ _ => none) oneFile [RawPath.dot] ['.'] = .error (.config (.windowOverlap 1 1)) ∧
      ∀ provider query, retrieve standing (fun _ _ => none) provider oneFile [RawPath.dot] ['.'] query =
        .error (.config (.windowOverlap 1 1)) := by
  have htop : (Files.Node.dir oneFile).WellFormed :=
    .dir _ (by decide) (by decide) (by simp [oneFile, Files.Node.WellFormed.file])
  have hroot : Files.locate oneFile [RawPath.dot] = some ⟨[], .dir oneFile⟩ := rfl
  have htaken : TakesSome standing.walk oneFile [] :=
    ⟨[], Path.raw ['f'], oneFile, ⟨#[120]⟩, ['x'], rfl, List.mem_cons_self, Files.visible_nil.mpr rfl,
      ⟨by decide, by decide, by simp [standing], by decide, by decide, by decide, by simp, rfl,
        by decide⟩⟩
  obtain ⟨htold, -, hretrieve⟩ := first_fault_is_told standing (fun _ _ => none) ['.'] htop hroot
  have hindex : index standing (fun _ _ => none) oneFile [RawPath.dot] ['.'] =
      .error (.config (.windowOverlap 1 1)) :=
    (htold _).mpr ⟨_, .windows (by simp [standing]) (by decide) htaken, rfl⟩
  exact ⟨⟨htop, hroot⟩, hindex, fun provider query => (hretrieve provider query).1 _ hindex⟩

/-- In an empty directory the same windows go unnoticed. -/
theorem standing_windows_go_unnoticed :
    (Files.Node.dir []).WellFormed ∧ Files.locate [] [RawPath.dot] = some ⟨[], .dir []⟩ ∧
      standing.chunking.windowLines ≤ standing.chunking.windowOverlap ∧
      index standing (fun _ _ => none) [] [RawPath.dot] ['.'] = .ok ⟨[]⟩ ∧
      retrieve standing (fun _ _ => none) none [] [RawPath.dot] ['.'] ['x'] = .ok [] := by
  have htop : (Files.Node.dir []).WellFormed := .dir _ (by decide) (by decide) (by simp)
  have hindex : index standing (fun _ _ => none) [] [RawPath.dot] ['.'] = .ok ⟨[]⟩ := by
    unfold index walk
    rw [Files.walk_eq rfl rfl]
    show Corpus.ofFiles standing.chunking ((([] : List Files.Taken).mergeSort Files.comesBefore).map _) = _
    rw [List.mergeSort_nil]
    rfl
  exact ⟨htop, rfl, by decide, hindex, retrieve_of_index_nil hindex rfl⟩

end Repository

end CodeRetrieval
