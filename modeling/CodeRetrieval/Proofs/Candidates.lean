/-
# CodeRetrieval.Proofs.Candidates — the files that a walk comes upon.

The walk goes down a tree by whatever tells it which entries are hidden.  What it comes upon is said here
without the walk: a file is a candidate exactly if it is looked up in the tree, is visible, and is in no
pruned directory.  No file is met twice, because the names in a directory differ.
-/
import CodeRetrieval.Files.Walk
import CodeRetrieval.Proofs.FileTree
import Mathlib.Data.List.Nodup

namespace CodeRetrieval.Files

variable {hidden : List RawPath → Bool → Bool} {entries directory : Entries} {node : Node}
  {around parent : List RawPath} {name : RawPath} {c : Candidate}

/-! ## Visible files -/

/-- A file below a directory is visible if neither it nor a directory on the way is hidden, and if no
directory on the way is pruned. -/
structure Visible (hidden : List RawPath → Bool → Bool) (parent : List RawPath) (name : RawPath) :
    Prop where
  entered : ∀ dir ∈ parent, isPruned dir = false
  reached : ∀ part, part ≠ [] → part <+: parent → hidden part true = false
  shown : hidden (parent ++ [name]) false = false

/-- One directory further out. -/
theorem visible_cons {dir : RawPath} :
    Visible (hiddenBelow hidden around) (dir :: parent) name ↔
      (hidden (around ++ [dir]) true = false ∧ isPruned dir = false) ∧
        Visible (hiddenBelow hidden (around ++ [dir])) parent name := by
  constructor
  · intro h
    refine ⟨⟨h.reached [dir] (List.cons_ne_nil dir []) (by simp), h.entered dir List.mem_cons_self⟩, ?_⟩
    refine ⟨fun d hd => h.entered d (List.mem_cons_of_mem dir hd), fun part _ hpart => ?_, ?_⟩
    · unfold hiddenBelow
      rw [List.append_assoc, List.singleton_append]
      exact h.reached (dir :: part) (List.cons_ne_nil dir part) (List.cons_prefix_cons.mpr ⟨rfl, hpart⟩)
    · simpa [hiddenBelow] using h.shown
  · rintro ⟨⟨hdir, hpruned⟩, h⟩
    refine ⟨List.forall_mem_cons.mpr ⟨hpruned, h.entered⟩, fun part hne hpart => ?_, ?_⟩
    · obtain ⟨first, rest, rfl⟩ := List.exists_cons_of_ne_nil hne
      obtain ⟨rfl, hrest⟩ := List.cons_prefix_cons.mp hpart
      by_cases hinner : rest = []
      · rw [hinner]
        exact hdir
      · simpa [hiddenBelow] using h.reached rest hinner hrest
    · simpa [hiddenBelow] using h.shown

theorem visible_nil :
    Visible (hiddenBelow hidden around) [] name ↔ hidden (around ++ [name]) false = false := by
  constructor
  · intro h
    simpa [hiddenBelow] using h.shown
  · intro h
    refine ⟨fun d hd => absurd hd List.not_mem_nil, fun part hne hpart => ?_,
      by simpa [hiddenBelow] using h⟩
    exact absurd (List.prefix_nil.mp hpart) hne

/-! ## What is met -/

theorem entriesCandidates_eq_flatMap (hidden : List RawPath → Bool → Bool) (around : List RawPath)
    (entries : Entries) :
    entriesCandidates hidden around entries =
      entries.flatMap fun entry => entry.2.candidates hidden around entry.1 := by
  induction entries with
  | nil => rw [entriesCandidates.eq_1, List.flatMap_nil]
  | cons entry rest ih => rw [entriesCandidates.eq_2, ih, List.flatMap_cons]

theorem mem_candidates_file {bytes : ByteArray} :
    c ∈ (Node.file bytes).candidates hidden around name ↔
      hidden (around ++ [name]) false = false ∧ c = ⟨around ++ [name], bytes⟩ := by
  rw [Node.candidates.eq_2]
  split <;> simp_all

theorem mem_candidates_dir :
    c ∈ (Node.dir entries).candidates hidden around name ↔
      (hidden (around ++ [name]) true = false ∧ isPruned name = false) ∧
        c ∈ entriesCandidates hidden (around ++ [name]) entries := by
  rw [Node.candidates.eq_3, ← Bool.or_eq_false_iff]
  split
  · next hout => simp [hout]
  · next hin =>
      rw [Bool.not_eq_true] at hin
      rw [hin]
      simp only [true_and]

/-- Only below a directory a directory is looked up. -/
theorem exists_dir_of_lookup (h : node.lookup parent = some (.dir directory)) :
    ∃ entries, node = .dir entries := by
  cases node with
  | dir entries => exact ⟨entries, rfl⟩
  | file bytes => exact nomatch (Node.lookup_of_no_entries rfl h).2
  | link target => exact nomatch (Node.lookup_of_no_entries rfl h).2

/-- The candidates below a directory are the visible files there. -/
theorem mem_entriesCandidates_iff (h : (Node.dir entries).WellFormed) (around : List RawPath) :
    c ∈ entriesCandidates hidden around entries ↔
      ∃ parent name directory, c.names = around ++ parent ++ [name] ∧
        (Node.dir entries).lookup parent = some (.dir directory) ∧
        (name, .file c.bytes) ∈ directory ∧ Visible (hiddenBelow hidden around) parent name := by
  -- on the form of the tree: a file is met in the directory at hand or in one that is met there
  generalize hnode : Node.dir entries = node at h
  induction h generalizing entries around with
  | file bytes => cases hnode
  | link target => cases hnode
  | dir _ proper distinct inner ih =>
      obtain rfl := Node.dir.inj hnode
      rw [entriesCandidates_eq_flatMap, List.mem_flatMap]
      constructor
      · rintro ⟨⟨name, node⟩, hentry, hc⟩
        cases node with
        | link target =>
            rw [Node.candidates.eq_1] at hc
            exact absurd hc List.not_mem_nil
        | file bytes =>
            obtain ⟨hshown, rfl⟩ := mem_candidates_file.mp hc
            exact ⟨[], name, entries, by simp, rfl, hentry, visible_nil.mpr hshown⟩
        | dir below =>
            obtain ⟨hreached, hc⟩ := mem_candidates_dir.mp hc
            obtain ⟨parent, file, directory, hnames, hlookup, hfile, hvisible⟩ :=
              (ih _ hentry _ rfl).mp hc
            refine ⟨name :: parent, file, directory, by simpa using hnames, ?_, hfile,
              visible_cons.mpr ⟨hreached, hvisible⟩⟩
            rw [Node.lookup_cons]
            exact Option.bind_eq_some_iff.mpr ⟨_, find_of_mem distinct hentry, hlookup⟩
      · rintro ⟨parent, name, directory, hnames, hlookup, hfile, hvisible⟩
        cases parent with
        | nil =>
            obtain rfl := Node.dir.inj (Option.some.inj hlookup)
            refine ⟨(name, .file c.bytes), hfile, mem_candidates_file.mpr ⟨visible_nil.mp hvisible, ?_⟩⟩
            rw [List.append_nil] at hnames
            rw [← hnames]
        | cons dir parent =>
            rw [Node.lookup_cons] at hlookup
            obtain ⟨next, hfind, hlookup⟩ := Option.bind_eq_some_iff.mp hlookup
            obtain ⟨below, rfl⟩ := exists_dir_of_lookup hlookup
            obtain ⟨hreached, hvisible⟩ := visible_cons.mp hvisible
            refine ⟨(dir, .dir below), mem_of_find hfind, mem_candidates_dir.mpr ⟨hreached, ?_⟩⟩
            exact (ih _ (mem_of_find hfind) _ rfl).mpr
              ⟨parent, name, directory, by simpa using hnames, hlookup, hfile, hvisible⟩

/-- No file below a directory is met twice, if this holds below its entries and the files there are named
below them. -/
theorem entriesCandidates_nodup (hdistinct : (entries.map (·.1)).Nodup)
    (hbelow : ∀ entry ∈ entries, ∀ around,
      (∀ c ∈ entry.2.candidates hidden around entry.1, around ++ [entry.1] <+: c.names) ∧
        ((entry.2.candidates hidden around entry.1).map (·.names)).Nodup) (around : List RawPath) :
    (∀ c ∈ entriesCandidates hidden around entries, around <+: c.names) ∧
      ((entriesCandidates hidden around entries).map (·.names)).Nodup := by
  rw [entriesCandidates_eq_flatMap, List.map_flatMap, List.nodup_flatMap]
  refine ⟨fun c hc => ?_, fun entry hentry => (hbelow entry hentry _).2, ?_⟩
  · obtain ⟨entry, hentry, hc⟩ := List.mem_flatMap.mp hc
    exact (List.prefix_append around [entry.1]).trans ((hbelow entry hentry _).1 c hc)
  · -- the names of two entries differ where the names of their files go apart
    refine (List.pairwise_map.mp hdistinct).imp_of_mem fun {a b} ha hb hne n hna hnb => ?_
    obtain ⟨c, hc, rfl⟩ := List.mem_map.mp hna
    obtain ⟨d, hd, hnames⟩ := List.mem_map.mp hnb
    obtain ⟨x, hx⟩ := (hbelow a ha _).1 c hc
    obtain ⟨y, hy⟩ := (hbelow b hb _).1 d hd
    rw [hnames, ← hx, List.append_assoc, List.append_assoc] at hy
    exact hne (List.cons.inj (List.append_cancel_left hy)).1.symm

theorem candidates_nodup (h : node.WellFormed) (around : List RawPath) (name : RawPath) :
    (∀ c ∈ node.candidates hidden around name, around ++ [name] <+: c.names) ∧
      ((node.candidates hidden around name).map (·.names)).Nodup := by
  induction h generalizing around name with
  | link target => rw [Node.candidates.eq_1]; simp
  | file bytes => rw [Node.candidates.eq_2]; split <;> simp
  | dir entries proper distinct inner ih =>
      rw [Node.candidates.eq_3]
      split
      · simp
      · exact entriesCandidates_nodup distinct (fun entry hentry around => ih entry hentry around entry.1) _

/-! ## The walk from a directory -/

/-- The walk comes upon exactly the visible files below the directory it starts from. -/
theorem mem_entriesCandidates_nil_iff (h : (Node.dir entries).WellFormed) :
    c ∈ entriesCandidates hidden [] entries ↔
      ∃ parent name directory, c.names = parent ++ [name] ∧
        (Node.dir entries).lookup parent = some (.dir directory) ∧
        (name, .file c.bytes) ∈ directory ∧ Visible hidden parent name :=
  mem_entriesCandidates_iff h []

theorem names_nodup (h : (Node.dir entries).WellFormed) :
    ((entriesCandidates hidden [] entries).map (·.names)).Nodup := by
  cases h with
  | dir _ proper distinct inner =>
      exact (entriesCandidates_nodup distinct
        (fun entry hentry around => candidates_nodup (inner entry hentry) around entry.1) []).2

end CodeRetrieval.Files
