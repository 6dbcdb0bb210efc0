/-
# CodeRetrieval.Proofs.Walk — the walk takes the eligible files, in whatever order it comes upon them.

The files taken are those that are visible and eligible, each once and in the order of their paths.  Since
the paths of a tree differ, there is only one such list of files.  Every order of visiting leads to it,
whatever is hidden and whatever the patterns match.
-/
import CodeRetrieval.Files.IgnoreRules
import CodeRetrieval.Proofs.Candidates
import CodeRetrieval.Proofs.Verdicts
import Mathlib.Data.List.Lex

namespace CodeRetrieval

/-! ## The order of paths -/

namespace RawPath

/-- One byte comes before another. -/
def ByteBefore (a b : UInt8) : Prop := a < b

/-- One list of names comes before another: the first name that differs decides, and in it the first
byte. -/
abbrev Before : List RawPath → List RawPath → Prop := List.Lex (List.Lex ByteBefore)

instance : Std.Asymm ByteBefore := ⟨fun _ _ => UInt8.lt_asymm⟩

instance : Std.Trichotomous ByteBefore :=
  ⟨fun _ _ hab hba => UInt8.le_antisymm (UInt8.not_lt.mp hba) (UInt8.not_lt.mp hab)⟩

instance : IsOrderConnected UInt8 ByteBefore := by
  refine ⟨fun a b c hac => ?_⟩
  unfold ByteBefore at hac ⊢
  rw [UInt8.lt_iff_toNat_lt] at hac ⊢
  rw [UInt8.lt_iff_toNat_lt]
  omega

theorem nameLe_iff {a b : RawPath} : nameLe a b = true ↔ a = b ∨ List.Lex ByteBefore a b := by
  induction a generalizing b with
  | nil => cases b <;> simp [nameLe]
  | cons x a ih =>
      cases b with
      | nil => simp [nameLe]
      | cons y b =>
          rw [nameLe, List.cons_lex_cons_iff, List.cons.injEq]
          by_cases hxy : x = y
          · rw [if_pos hxy, ih]
            simp [hxy, ByteBefore]
          · rw [if_neg hxy, decide_eq_true_iff]
            simp [hxy, ByteBefore]

theorem before_cons_iff {x y : RawPath} {a b : List RawPath} :
    Before (x :: a) (y :: b) ↔ List.Lex ByteBefore x y ∨ x = y ∧ Before a b :=
  List.cons_lex_cons_iff

theorem namesLe_iff {a b : List RawPath} : namesLe a b = true ↔ a = b ∨ Before a b := by
  induction a generalizing b with
  | nil => cases b <;> simp [namesLe]
  | cons x a ih =>
      cases b with
      | nil => simp [namesLe]
      | cons y b =>
          rw [namesLe, before_cons_iff, List.cons.injEq]
          by_cases hxy : x = y
          · have hirrefl : ¬ List.Lex ByteBefore y y := Std.Irrefl.irrefl y
            rw [if_pos hxy, ih]
            simp [hxy, hirrefl]
          · rw [if_neg hxy, nameLe_iff]
            simp [hxy]

theorem namesLe_trans (a b c : List RawPath) (hab : namesLe a b = true) (hbc : namesLe b c = true) :
    namesLe a c = true := by
  rw [namesLe_iff] at hab hbc ⊢
  rcases hab with rfl | hab
  · exact hbc
  rcases hbc with rfl | hbc
  · exact .inr hab
  · -- the smaller of two lists is on one side of any third one
    exact .inr ((IsOrderConnected.conn a c b hab).resolve_right (Std.Asymm.asymm b c hbc))

theorem namesLe_total (a b : List RawPath) : (namesLe a b || namesLe b a) = true := by
  rw [Bool.or_eq_true, namesLe_iff, namesLe_iff]
  by_cases hab : Before a b
  · exact .inl (.inr hab)
  by_cases hba : Before b a
  · exact .inr (.inr hba)
  · exact .inl (.inl (Std.Trichotomous.trichotomous a b hab hba))

end RawPath

namespace Files

variable {G : Type} {globs : Globs G} {hidden : List RawPath → Bool → Bool} {settings : WalkSettings}
  {patterns : List G} {top entries directory : Entries} {base parent : List RawPath} {name root : RawPath}

/-- Files of different names are returned in ascending order. -/
theorem Sorting.files_ascending {state : Sorting}
    (hdistinct : (state.taken.map fun file => file.1.names).Nodup) :
    state.files.Pairwise fun a b => RawPath.Before a.names b.names := by
  have hle : state.files.Pairwise fun a b => comesBefore a b = true :=
    List.pairwise_mergeSort (fun a b c => RawPath.namesLe_trans a.names b.names c.names)
      (fun a b => RawPath.namesLe_total a.names b.names) _
  have hnames : (state.taken.map Taken.of).map (·.names) = state.taken.map fun file => file.1.names := by
    rw [List.map_map]
    rfl
  have hne : state.files.Pairwise fun a b => a.names ≠ b.names := by
    refine List.pairwise_map.mp (((List.mergeSort_perm _ comesBefore).map _).nodup_iff.mpr ?_)
    rw [hnames]
    exact hdistinct
  exact (hle.and hne).imp fun ⟨hab, hne⟩ => (RawPath.namesLe_iff.mp hab).resolve_left hne

/-! ## The selection -/

/-- The files to take below a directory: exactly the visible and eligible ones, each with the language of
its path and with its content, in ascending order of the paths. -/
structure IsSelection (globs : Globs G) (hidden : List RawPath → Bool → Bool) (settings : WalkSettings)
    (top : Entries) (base : List RawPath) (files : List Taken) : Prop where
  mem_iff : ∀ file, file ∈ files ↔ ∃ parent name directory bytes text,
    (Node.dir top).lookup (base ++ parent) = some (.dir directory) ∧ (name, .file bytes) ∈ directory ∧
    Visible (hiddenBelow hidden base) parent name ∧
    Eligible globs settings directory parent name bytes text ∧
    file = ⟨parent ++ [name], (pathOf (parent ++ [name])).language, text⟩
  ascending : files.Pairwise fun a b => RawPath.Before a.names b.names
  once : (files.map (·.names)).Nodup

/-- There is only one selection. -/
theorem IsSelection.unique {files files' : List Taken}
    (h : IsSelection globs hidden settings top base files)
    (h' : IsSelection globs hidden settings top base files') : files = files' := by
  have hperm : files.Perm files' :=
    (List.perm_ext_iff_of_nodup h.once.of_map h'.once.of_map).mpr fun file =>
      (h.mem_iff file).trans (h'.mem_iff file).symm
  refine hperm.eq_of_pairwise (fun a b _ _ hab hba => ?_) h.ascending h'.ascending
  exact absurd hba (Std.Asymm.asymm _ _ hab)

theorem countAt_of_lookup (htop : (Node.dir top).WellFormed) {names : List RawPath}
    (h : (Node.dir top).lookup names = some (.dir directory)) :
    countAt top names = fileCount directory := by
  unfold countAt
  rw [locate_pathOf htop h (fun target => nofun)]

/-- The run over candidates below a directory in some order. -/
def Sorting.below (globs : Globs G) (settings : WalkSettings) (patterns : List G) (top : Entries)
    (base : List RawPath) (order : List Candidate) : Sorting :=
  Sorting.of globs settings patterns (fun parent => countAt top (base ++ parent)) order

theorem walk_eq {shown : Path} (hroot : locate top root = some ⟨base, .dir entries⟩)
    (hpatterns : globs.parseAll settings.skipPatterns = .ok patterns) :
    walk globs hidden settings top root shown = .ok (Sorting.below globs settings patterns top base
      (entriesCandidates (hiddenBelow hidden base) [] entries)) := by
  unfold walk
  rw [hroot]
  dsimp only
  rw [hpatterns]
  rfl

/-- The names below a directory of a well-formed tree are proper. -/
theorem proper_of_mem (htop : (Node.dir top).WellFormed) {node : Node}
    (hlookup : (Node.dir top).lookup (base ++ parent) = some (.dir directory))
    (hmem : (name, node) ∈ directory) : ∀ n ∈ parent ++ [name], ProperName n := by
  obtain ⟨hproper, hdirectory⟩ := htop.lookup hlookup
  refine List.forall_mem_append.mpr ⟨fun n hn => hproper n (List.mem_append_right base hn), ?_⟩
  exact List.forall_mem_singleton.mpr (hdirectory.entry hmem).1

section Order

variable {order : List Candidate}
  (htop : (Node.dir top).WellFormed) (hbase : (Node.dir top).lookup base = some (.dir entries))
  (hpatterns : ∀ glob, glob ∈ patterns ↔
    ∃ pattern ∈ settings.skipPatterns, globs.parse pattern = .ok glob)
  (horder : order.Perm (entriesCandidates (hiddenBelow hidden base) [] entries))

include htop hbase hpatterns horder

/-- What is taken in some order of visiting. -/
theorem mem_taken_iff (c : Candidate) (text : Text) :
    (c, text) ∈ (Sorting.below globs settings patterns top base order).taken ↔
      ∃ parent name directory, c.names = parent ++ [name] ∧
        (Node.dir top).lookup (base ++ parent) = some (.dir directory) ∧
        (name, .file c.bytes) ∈ directory ∧ Visible (hiddenBelow hidden base) parent name ∧
        Eligible globs settings directory parent name c.bytes text := by
  have hentries : (Node.dir entries).WellFormed := (htop.lookup hbase).2
  have hbelow : ∀ parent, (Node.dir top).lookup (base ++ parent) = (Node.dir entries).lookup parent := by
    intro parent
    rw [Node.lookup_append, hbase, Option.bind_some]
  have hverdict : ∀ parent name directory, c.names = parent ++ [name] →
      (Node.dir top).lookup (base ++ parent) = some (.dir directory) →
      (name, .file c.bytes) ∈ directory →
      (judge globs settings patterns (countAt top (base ++ c.parent)) c = .ok text ↔
        Eligible globs settings directory parent name c.bytes text) := by
    intro parent name directory hnames hlookup hmem
    have hc : c = ⟨parent ++ [name], c.bytes⟩ := by rw [← hnames]
    have hparent : c.parent = parent := by
      unfold Candidate.parent
      rw [hnames, List.dropLast_concat]
    rw [hparent, countAt_of_lookup htop hlookup, hc]
    exact judge_eq_ok_iff_eligible (proper_of_mem htop hlookup hmem) hpatterns
  unfold Sorting.below
  rw [(Sorting.judged_of _ _ _ _ order).taken, List.mem_reverse, horder.mem_iff,
    mem_entriesCandidates_nil_iff hentries]
  constructor
  · rintro ⟨⟨parent, name, directory, hnames, hlookup, hmem, hvisible⟩, hjudge⟩
    rw [← hbelow] at hlookup
    exact ⟨parent, name, directory, hnames, hlookup, hmem, hvisible,
      (hverdict parent name directory hnames hlookup hmem).mp hjudge⟩
  · rintro ⟨parent, name, directory, hnames, hlookup, hmem, hvisible, heligible⟩
    refine ⟨⟨parent, name, directory, hnames, ?_, hmem, hvisible⟩,
      (hverdict parent name directory hnames hlookup hmem).mpr heligible⟩
    rw [← hbelow]
    exact hlookup

/-- Every order of visiting ends in the selection. -/
theorem isSelection_of_order :
    IsSelection globs hidden settings top base
      (Sorting.below globs settings patterns top base order).files := by
  have hmem := mem_taken_iff htop hbase hpatterns horder
  have honce := (Sorting.judged_of globs settings patterns (fun parent => countAt top (base ++ parent))
    order).once
  change ((Sorting.below globs settings patterns top base order).taken.map (·.1)).Sublist
    order.reverse at honce
  generalize Sorting.below globs settings patterns top base order = sorted at *
  have hfiles : ∀ file, file ∈ sorted.files ↔ ∃ found ∈ sorted.taken, Taken.of found = file :=
    fun _ => List.mem_mergeSort.trans List.mem_map
  have hdistinct : (sorted.taken.map fun file => file.1.names).Nodup := by
    have horders : (order.reverse.map (·.names)).Nodup :=
      (((List.reverse_perm order).trans horder).map _).nodup_iff.mpr (names_nodup (htop.lookup hbase).2)
    have hsub := honce.map Candidate.names
    rw [List.map_map] at hsub
    exact hsub.nodup horders
  have hascending := Sorting.files_ascending hdistinct
  refine ⟨fun file => ?_, hascending, ?_⟩
  · rw [hfiles]
    constructor
    · rintro ⟨⟨c, text⟩, hfile, rfl⟩
      obtain ⟨parent, name, directory, hnames, hlookup, hentry, hvisible, heligible⟩ :=
        (hmem c text).mp hfile
      refine ⟨parent, name, directory, c.bytes, text, hlookup, hentry, hvisible, heligible, ?_⟩
      rw [← hnames]
      rfl
    · rintro ⟨parent, name, directory, bytes, text, hlookup, hentry, hvisible, heligible, rfl⟩
      refine ⟨(⟨parent ++ [name], bytes⟩, text), (hmem _ _).mpr ?_, rfl⟩
      exact ⟨parent, name, directory, rfl, hlookup, hentry, hvisible, heligible⟩
  · refine List.pairwise_map.mpr (hascending.imp fun {a b} hab heq => ?_)
    rw [heq] at hab
    exact Std.Irrefl.irrefl _ hab

end Order

/-! ## The walk -/

/-- The walk over a directory ends in the selection of its visible and eligible files, whatever is hidden
and whatever the patterns match.  So does a run over the same files in any other order, and in each run the
files get the verdicts that they get one by one, whatever numbers of files it remembers. -/
theorem walk_takes_eligible_files (globs : Globs G) (hidden : List RawPath → Bool → Bool) (shown : Path)
    (htop : (Node.dir top).WellFormed) (hroot : locate top root = some ⟨base, .dir entries⟩)
    (hvalid : ∀ pattern ∈ settings.skipPatterns, ∃ glob, globs.parse pattern = .ok glob) :
    ∃ patterns sorting, globs.parseAll settings.skipPatterns = .ok patterns ∧
      walk globs hidden settings top root shown = .ok sorting ∧
      IsSelection globs hidden settings top base sorting.files ∧
      ∀ order, order.Perm (entriesCandidates (hiddenBelow hidden base) [] entries) →
        (Sorting.below globs settings patterns top base order).files = sorting.files ∧
          Sorting.Judged globs settings patterns (fun parent => countAt top (base ++ parent)) order.reverse
            (Sorting.below globs settings patterns top base order) := by
  obtain ⟨patterns, hread, hpatterns⟩ := globs.exists_parseAll hvalid
  have hbase : (Node.dir top).lookup base = some (.dir entries) := lookup_of_locate hroot
  have hselection (order : List Candidate)
      (horder : order.Perm (entriesCandidates (hiddenBelow hidden base) [] entries)) :=
    isSelection_of_order htop hbase hpatterns horder
  refine ⟨patterns, _, hread, walk_eq hroot hread, hselection _ (.refl _), fun order horder => ?_⟩
  exact ⟨(hselection order horder).unique (hselection _ (.refl _)), Sorting.judged_of _ _ _ _ order⟩

/-- A directory with two sources, a pruned one with a third, and a hidden file beside them. -/
def workshop : Entries :=
  [(Path.raw ['s'], .dir [(Path.raw ['b', '.', 'c'], .file ⟨#[120, 10]⟩),
      (Path.raw ['a', '.', 'c'], .file ⟨#[121, 10]⟩)]),
    (Path.raw ['d', 'i', 's', 't'], .dir [(Path.raw ['b', '.', 'c'], .file ⟨#[120, 10]⟩)]),
    (Path.raw ['.', 'e'], .file ⟨#[120, 10]⟩)]

/-- Filters of every kind: files of at most two bytes, two in a directory and with lines of one byte. -/
def narrow : WalkSettings := ⟨1, 2, 2, 1, [['v']], [['.', 'o']], [['*', '.', 'm', 'd']]⟩

/-- A tree with the directory and nothing else. -/
def workshopTree : Entries := [(Path.raw ['r'], .dir workshop)]

theorem workshopTree_wellFormed : (Node.dir workshopTree).WellFormed := by
  have hsources : (Node.dir [(Path.raw ['b', '.', 'c'], .file ⟨#[120, 10]⟩),
      (Path.raw ['a', '.', 'c'], .file ⟨#[121, 10]⟩)]).WellFormed :=
    .dir _ (by decide) (by decide) (by simp [Node.WellFormed.file])
  have hpruned : (Node.dir [(Path.raw ['b', '.', 'c'], .file ⟨#[120, 10]⟩)]).WellFormed :=
    .dir _ (by decide) (by decide) (by simp [Node.WellFormed.file])
  have hworkshop : (Node.dir workshop).WellFormed :=
    .dir _ (by decide) (by decide) (by simp [workshop, hsources, hpruned, Node.WellFormed.file])
  exact .dir workshopTree (by decide) (by decide) (List.forall_mem_singleton.mpr hworkshop)

theorem workshop_is_walked :
    ((Node.dir workshopTree).WellFormed ∧
        locate workshopTree (Path.raw ['r']) = some ⟨[Path.raw ['r']], .dir workshop⟩ ∧
        ∀ pattern ∈ narrow.skipPatterns, ∃ tokens, SkipPattern.globs.parse pattern = .ok tokens) ∧
      ∃ patterns sorting, SkipPattern.globs.parseAll narrow.skipPatterns = .ok patterns ∧
        walk SkipPattern.globs (isIgnored workshopTree) narrow workshopTree (Path.raw ['r']) ['r'] =
          .ok sorting ∧
        ⟨[Path.raw ['s'], Path.raw ['b', '.', 'c']], .c, ['x', '\n']⟩ ∈ sorting.files ∧
        ∀ order, order.Perm (entriesCandidates
            (hiddenBelow (isIgnored workshopTree) [Path.raw ['r']]) [] workshop) →
          (Sorting.below SkipPattern.globs narrow patterns workshopTree [Path.raw ['r']] order).files =
            sorting.files := by
  have hroot : locate workshopTree (Path.raw ['r']) = some ⟨[Path.raw ['r']], .dir workshop⟩ := rfl
  have hvalid : ∀ pattern ∈ narrow.skipPatterns, ∃ tokens, SkipPattern.globs.parse pattern = .ok tokens :=
    List.forall_mem_singleton.mpr ⟨_, rfl⟩
  obtain ⟨patterns, sorting, hread, hwalk, hselection, horders⟩ :=
    walk_takes_eligible_files SkipPattern.globs (isIgnored workshopTree) ['r'] workshopTree_wellFormed
      hroot hvalid
  refine ⟨⟨workshopTree_wellFormed, hroot, hvalid⟩, patterns, sorting, hread, hwalk, ?_,
    fun order horder => (horders order horder).1⟩
  have hvisible : Visible (hiddenBelow (isIgnored workshopTree) [Path.raw ['r']]) [Path.raw ['s']]
      (Path.raw ['b', '.', 'c']) :=
    visible_cons.mpr ⟨⟨rfl, by decide⟩, visible_nil.mpr rfl⟩
  have hunmatched : ∀ pattern ∈ narrow.skipPatterns, ∀ tokens,
      SkipPattern.globs.parse pattern = .ok tokens →
      SkipPattern.globs.matchesPath tokens (pathOf [Path.raw ['s'], Path.raw ['b', '.', 'c']]) = false := by
    refine List.forall_mem_singleton.mpr fun tokens htokens => ?_
    obtain rfl : [.anyRun, .character '.', .character 'm', .character 'd'] = tokens :=
      Except.ok.inj htokens
    rfl
  exact (hselection.mem_iff _).mpr ⟨[Path.raw ['s']], Path.raw ['b', '.', 'c'], _, ⟨#[120, 10]⟩,
    ['x', '\n'], rfl, List.mem_cons_self, hvisible,
    ⟨by decide, by decide, hunmatched, by decide, by decide, by decide, by simp, rfl, by decide⟩, by decide⟩

/-- A name that is no text but has an ending. -/
def lockName : RawPath := 0xFF :: Path.raw ['.', 'l', 'o', 'c', 'k']

/-- Files with that ending are excluded. -/
def withoutLocks : WalkSettings := ⟨0, 9, 9, 9, [], [['.', 'l', 'o', 'c', 'k']], []⟩

/-- A directory with a file of that name and one of a name that is text. -/
def outputs : Entries := [(Path.raw ['a'], .file ⟨#[120]⟩), (lockName, .file ⟨#[120]⟩)]

/-- The name of a directory that is not entered on the way down. -/
def outputsName : RawPath := Path.raw ['b', 'u', 'i', 'l', 'd']

/-- The files stand in a directory of that name. -/
def outputsTree : Entries := [(outputsName, .dir outputs)]

/-- The walk from that directory takes both files: where it starts nothing is pruned, and an ending that is
excluded is looked for in the name as text, which counts as empty if the name is none. -/
theorem spared_outputs_are_taken :
    (Node.dir outputsTree).WellFormed ∧ isPruned outputsName = true ∧
      locate outputsTree outputsName = some ⟨[outputsName], .dir outputs⟩ ∧
      (∃ suffix ∈ withoutLocks.excludedSuffixes, Path.raw suffix <:+ lockName) ∧
      ∃ sorting, walk SkipPattern.globs (isIgnored outputsTree) withoutLocks outputsTree outputsName
          ['b', 'u', 'i', 'l', 'd'] = .ok sorting ∧
        ⟨[Path.raw ['a']], .plain, ['x']⟩ ∈ sorting.files ∧
        ⟨[lockName], .plain, ['x']⟩ ∈ sorting.files := by
  have houtputs : (Node.dir outputs).WellFormed :=
    .dir _ (by decide) (by decide) (by simp [outputs, Node.WellFormed.file])
  have htop : (Node.dir outputsTree).WellFormed :=
    .dir _ (by decide) (by decide) (List.forall_mem_singleton.mpr houtputs)
  have hroot : locate outputsTree outputsName = some ⟨[outputsName], .dir outputs⟩ := rfl
  have hpatterns : ∀ tokens, tokens ∈ ([] : List (List SkipPattern.Token)) ↔
      ∃ pattern ∈ withoutLocks.skipPatterns, SkipPattern.globs.parse pattern = .ok tokens := by
    simp [withoutLocks]
  have hselection := isSelection_of_order htop (lookup_of_locate hroot) hpatterns
    (.refl (entriesCandidates (hiddenBelow (isIgnored outputsTree) [outputsName]) [] outputs))
  refine ⟨htop, by decide, hroot, ⟨_, List.mem_singleton_self _, List.suffix_cons _ _⟩, _,
    walk_eq hroot rfl, ?_, ?_⟩
  · refine (hselection.mem_iff _).mpr ⟨[], Path.raw ['a'], outputs, ⟨#[120]⟩, ['x'], rfl,
      List.mem_cons_self, visible_nil.mpr rfl, ?_, by decide⟩
    exact ⟨by decide, by decide, by simp [withoutLocks], by decide, by decide, by decide, by simp, rfl,
      by decide⟩
  · refine (hselection.mem_iff _).mpr ⟨[], lockName, outputs, ⟨#[120]⟩, ['x'], rfl,
      List.mem_cons_of_mem _ List.mem_cons_self, visible_nil.mpr rfl, ?_, by decide⟩
    exact ⟨by decide, by decide, by simp [withoutLocks], by decide, by decide, by decide, by simp, rfl,
      by decide⟩

end Files

end CodeRetrieval
