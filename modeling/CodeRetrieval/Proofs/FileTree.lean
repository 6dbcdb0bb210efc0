/-
# CodeRetrieval.Proofs.FileTree — what the paths of a directory tree lead to.

In a well-formed tree the names of a directory are proper and differ.  Looking names up from the top,
one directory after the other, is then the same as following the path made of them: both come to the
same file or directory.  Whatever a path leads to, through links and back out of directories, is looked
up again under the names of its place.
-/
import CodeRetrieval.Files.Tree
import Mathlib.Data.List.Nodup

namespace CodeRetrieval.Files

variable {top entries : Entries} {node below : Node} {name : RawPath}
  {names : List RawPath}

/-! ## Well-formed trees -/

/-- A name that an entry of a directory can have: a step of a path that leads to the entry and nowhere
else. -/
structure ProperName (name : RawPath) : Prop where
  nonempty : name ≠ []
  notHere : name ≠ [RawPath.dot]
  notUp : name ≠ [RawPath.dot, RawPath.dot]
  noSlash : RawPath.slash ∉ name

instance (name : RawPath) : Decidable (ProperName name) :=
  decidable_of_iff
    (name ≠ [] ∧ name ≠ [RawPath.dot] ∧ name ≠ [RawPath.dot, RawPath.dot] ∧ RawPath.slash ∉ name)
    ⟨fun ⟨nonempty, notHere, notUp, noSlash⟩ => ⟨nonempty, notHere, notUp, noSlash⟩,
      fun ⟨nonempty, notHere, notUp, noSlash⟩ => ⟨nonempty, notHere, notUp, noSlash⟩⟩

/-- The names of every directory are proper, and no two entries of it share one. -/
inductive Node.WellFormed : Node → Prop
  | file (bytes : ByteArray) : WellFormed (.file bytes)
  | link (target : RawPath) : WellFormed (.link target)
  | dir (entries : Entries) (proper : ∀ entry ∈ entries, ProperName entry.1)
      (distinct : (entries.map (·.1)).Nodup) (inner : ∀ entry ∈ entries, entry.2.WellFormed) :
      WellFormed (.dir entries)

/-- The node under a list of names, one directory after the other; links are not followed. -/
def Node.lookup (node : Node) : List RawPath → Option Node
  | [] => some node
  | name :: rest => (find node.entries name).bind fun below => below.lookup rest

theorem Node.lookup_cons (node : Node) (name : RawPath) (rest : List RawPath) :
    node.lookup (name :: rest) = (find node.entries name).bind fun below => below.lookup rest := rfl

theorem Node.lookup_append (node : Node) (names rest : List RawPath) :
    node.lookup (names ++ rest) = (node.lookup names).bind fun below => below.lookup rest := by
  induction names generalizing node with
  | nil => rfl
  | cons name names ih =>
      rw [List.cons_append, Node.lookup_cons, Node.lookup_cons, Option.bind_assoc]
      exact congrArg _ (funext ih)

/-- Below a file or a link there is nothing. -/
theorem Node.lookup_of_no_entries (h : node.entries = []) (hlookup : node.lookup names = some below) :
    names = [] ∧ below = node := by
  cases names with
  | nil => exact ⟨rfl, (Option.some.inj hlookup).symm⟩
  | cons name rest =>
      rw [Node.lookup_cons, h] at hlookup
      cases hlookup

theorem mem_of_find (h : find entries name = some node) : (name, node) ∈ entries := by
  unfold find at h
  obtain ⟨entry, hentry, rfl⟩ := Option.map_eq_some_iff.mp h
  have hname : entry.1 = name := by simpa using List.find?_some hentry
  rw [← hname]
  exact List.mem_of_find?_eq_some hentry

/-- Where names differ, an entry is found under its name. -/
theorem find_of_mem (hdistinct : (entries.map (·.1)).Nodup) (h : (name, node) ∈ entries) :
    find entries name = some node := by
  induction entries with
  | nil => exact absurd h List.not_mem_nil
  | cons entry rest ih =>
      rw [List.map_cons, List.nodup_cons] at hdistinct
      unfold find at ih ⊢
      rcases List.mem_cons.mp h with rfl | hrest
      · simp
      · have hname : entry.1 ≠ name := by
          rintro rfl
          exact hdistinct.1 (List.mem_map_of_mem (f := (·.1)) hrest)
        rw [List.find?_cons_of_neg (by simpa using hname)]
        exact ih hdistinct.2 hrest

namespace Node.WellFormed

theorem entry (h : node.WellFormed) (hentry : (name, below) ∈ node.entries) :
    ProperName name ∧ below.WellFormed := by
  cases h with
  | file bytes => exact absurd hentry List.not_mem_nil
  | link target => exact absurd hentry List.not_mem_nil
  | dir entries proper distinct inner => exact ⟨proper _ hentry, inner _ hentry⟩

/-- What is looked up in a well-formed tree is well formed, and is looked up under proper names. -/
theorem lookup (h : node.WellFormed) (hlookup : node.lookup names = some below) :
    (∀ name ∈ names, ProperName name) ∧ below.WellFormed := by
  induction names generalizing node with
  | nil =>
      obtain rfl : node = below := Option.some.inj hlookup
      exact ⟨fun name hname => absurd hname List.not_mem_nil, h⟩
  | cons name rest ih =>
      rw [Node.lookup_cons, Option.bind_eq_some_iff] at hlookup
      obtain ⟨next, hfind, hrest⟩ := hlookup
      have hnext := h.entry (mem_of_find hfind)
      have hbelow := ih hnext.2 hrest
      exact ⟨List.forall_mem_cons.mpr ⟨hnext.1, hbelow.1⟩, hbelow.2⟩

end Node.WellFormed

/-! ## Paths of names -/

theorem stepsOf_pathOf (hne : names ≠ []) (hproper : ∀ name ∈ names, ProperName name) :
    stepsOf (pathOf names) = names := by
  unfold stepsOf pathOf
  exact List.splitOn_intercalate RawPath.slash (fun name hname => (hproper name hname).noSlash) hne

/-- A step holds no slash. -/
theorem slash_not_mem_of_mem_stepsOf {path step : RawPath} (h : step ∈ stepsOf path) :
    RawPath.slash ∉ step := by
  unfold stepsOf at h
  induction path generalizing step with
  | nil =>
      obtain rfl : step = [] := by simpa [List.splitOn_nil] using h
      exact List.not_mem_nil
  | cons byte path ih =>
      rw [List.splitOn_cons_eq_if_modifyHead] at h
      split at h
      · rcases List.mem_cons.mp h with rfl | h
        · exact List.not_mem_nil
        · exact ih h
      · next hbyte =>
          obtain ⟨first, others, hpieces⟩ :=
            List.exists_cons_of_ne_nil (List.splitOn_ne_nil RawPath.slash path)
          rw [hpieces] at h ih
          rcases List.mem_cons.mp h with rfl | h
          · have hfirst : RawPath.slash ∉ first := ih List.mem_cons_self
            have hbyte : RawPath.slash ≠ byte := fun heq => hbyte (by simp [heq])
            simp [hbyte, hfirst]
          · exact ih (List.mem_cons_of_mem first h)

/-- Proper names are steps as they stand. -/
theorem steps_of_proper (hproper : ∀ name ∈ names, ProperName name) :
    RawPath.steps names = names.map .name := by
  unfold RawPath.steps
  rw [← List.filterMap_eq_map]
  refine List.filterMap_congr fun name hname => ?_
  have hname := hproper name hname
  rw [if_neg (by simp [hname.nonempty, hname.notHere]), if_neg hname.notUp]
  rfl

/-- The components of a path of names are the names. -/
theorem components_pathOf (hproper : ∀ name ∈ names, ProperName name) :
    (pathOf names).components = names.map .name := by
  cases names with
  | nil => rfl
  | cons first rest =>
      have hsplit : (pathOf (first :: rest)).splitOn RawPath.slash = first :: rest :=
        stepsOf_pathOf (List.cons_ne_nil first rest) hproper
      have hfirst := hproper first List.mem_cons_self
      unfold RawPath.components
      rw [hsplit]
      dsimp only
      rw [if_neg hfirst.nonempty, if_neg hfirst.notHere]
      exact steps_of_proper hproper

/-- A path of names does not start at the root of the system. -/
theorem isRooted_pathOf (hproper : ∀ name ∈ names, ProperName name) : isRooted (pathOf names) = false := by
  cases names with
  | nil => rfl
  | cons first others =>
      have hfirst := hproper first List.mem_cons_self
      obtain ⟨byte, tail, rfl⟩ := List.exists_cons_of_ne_nil hfirst.nonempty
      have hslash : byte ≠ RawPath.slash := fun heq => hfirst.noSlash (heq ▸ List.mem_cons_self)
      have hhead : (pathOf ((byte :: tail) :: others)).head? = some byte := by
        cases others <;> rfl
      unfold isRooted
      rw [hhead]
      simpa using hslash

/-! ## Following a path -/

namespace Trail

variable {trail : Trail}

@[simp]
theorem names_cons (name : RawPath) (entries : Entries) (outer : Trail) :
    Trail.names ((name, entries) :: outer) = outer.names ++ [name] := by
  simp [Trail.names]

/-- Each directory of the trail is the entry of its name in the one around it. -/
def Leads (top : Entries) : Trail → Prop
  | [] => True
  | (name, entries) :: outer => find (Trail.entries top outer) name = some (.dir entries) ∧ Leads top outer

theorem Leads.lookup (h : trail.Leads top) :
    (Node.dir top).lookup trail.names = some (.dir (trail.entries top)) := by
  induction trail with
  | nil => rfl
  | cons innermost outer ih =>
      obtain ⟨name, entries⟩ := innermost
      rw [names_cons, Node.lookup_append, ih h.2, Option.bind_some, Node.lookup_cons]
      unfold Node.entries
      rw [h.1]
      rfl

end Trail

variable {onLink : Trail → List RawPath → Option Place} {trail : Trail} {step : RawPath}
  {rest : List RawPath}  {place : Place}

/-- At the name of a directory, following goes on from there. -/
theorem followSteps_dir (hstep : ProperName step)
    (hfind : find (trail.entries top) step = some (.dir entries)) :
    followSteps top onLink trail (step :: rest) =
      followSteps top onLink ((step, entries) :: trail) rest := by
  rw [followSteps.eq_def]
  dsimp only
  rw [if_neg (by simp [hstep.nonempty, hstep.notHere]), if_neg hstep.notUp, hfind]

/-- At the name of a file, following ends. -/
theorem followSteps_file {bytes : ByteArray} (hstep : ProperName step)
    (hfind : find (trail.entries top) step = some (.file bytes)) :
    followSteps top onLink trail [step] = some ⟨trail.names ++ [step], .file bytes⟩ := by
  rw [followSteps.eq_def]
  dsimp only
  rw [if_neg (by simp [hstep.nonempty, hstep.notHere]), if_neg hstep.notUp, hfind]
  rfl

/-- What a step can do where following comes to a place: nothing, go back out, go in, end at a file or go
on behind a link. -/
theorem followSteps_cons_cases (h : followSteps top onLink trail (step :: rest) = some place) :
    ((step = [] ∨ step = [RawPath.dot]) ∧ followSteps top onLink trail rest = some place) ∨
    (step = [RawPath.dot, RawPath.dot] ∧ ∃ innermost outer, trail = innermost :: outer ∧
      followSteps top onLink outer rest = some place) ∨
    (∃ entries, find (trail.entries top) step = some (.dir entries) ∧
      followSteps top onLink ((step, entries) :: trail) rest = some place) ∨
    (∃ bytes, find (trail.entries top) step = some (.file bytes) ∧ rest = [] ∧
      place = ⟨trail.names ++ [step], .file bytes⟩) ∨
    (∃ target, find (trail.entries top) step = some (.link target) ∧
      onLink trail (stepsOf target ++ rest) = some place) := by
  rw [followSteps.eq_def] at h
  dsimp only at h
  split at h
  · next hskip => exact .inl ⟨hskip, h⟩
  split at h
  · next hup =>
      cases trail with
      | nil => cases h
      | cons innermost outer => exact .inr (.inl ⟨hup, innermost, outer, rfl, h⟩)
  cases hfind : find (trail.entries top) step with
  | none => simp [hfind] at h
  | some node =>
      rw [hfind] at h
      cases node with
      | dir entries => exact .inr (.inr (.inl ⟨entries, rfl, h⟩))
      | file bytes =>
          dsimp only at h
          split at h
          · next hend =>
              exact .inr (.inr (.inr (.inl
                ⟨bytes, rfl, List.isEmpty_iff.mp hend, (Option.some.inj h).symm⟩)))
          · cases h
      | link target =>
          dsimp only at h
          split at h
          · cases h
          · exact .inr (.inr (.inr (.inr ⟨target, rfl, h⟩)))

/-- Names are followed to where they are looked up, unless a link stands there. -/
theorem followSteps_of_lookup (hproper : ∀ name ∈ names, ProperName name)
    (hnode : ∀ target, node ≠ .link target)
    (hlookup : (Node.dir (trail.entries top)).lookup names = some node) :
    followSteps top onLink trail names = some ⟨trail.names ++ names, node⟩ := by
  induction names generalizing trail with
  | nil =>
      obtain rfl := Option.some.inj hlookup
      rw [followSteps, List.append_nil]
  | cons step rest ih =>
      obtain ⟨hstep, hrest⟩ := List.forall_mem_cons.mp hproper
      rw [Node.lookup_cons, Option.bind_eq_some_iff] at hlookup
      obtain ⟨next, hfind, hlookup⟩ := hlookup
      cases next with
      | dir entries =>
          have hinner : followSteps top onLink ((step, entries) :: trail) rest =
              some ⟨Trail.names ((step, entries) :: trail) ++ rest, node⟩ := ih hrest hlookup
          rw [followSteps_dir hstep hfind, hinner, Trail.names_cons, List.append_assoc,
            List.singleton_append]
      | file bytes =>
          obtain ⟨rfl, rfl⟩ := Node.lookup_of_no_entries rfl hlookup
          exact followSteps_file hstep hfind
      | link target =>
          obtain ⟨-, rfl⟩ := Node.lookup_of_no_entries rfl hlookup
          exact absurd rfl (hnode target)

/-- In a well-formed tree the path of names leads where they are looked up. -/
theorem locate_pathOf (htop : (Node.dir top).WellFormed)
    (hlookup : (Node.dir top).lookup names = some node) (hnode : ∀ target, node ≠ .link target) :
    locate top (pathOf names) = some ⟨names, node⟩ := by
  have hproper := (htop.lookup hlookup).1
  have hfollow : follow top linkLimit [] (stepsOf (pathOf names)) = some ⟨names, node⟩ := by
    cases names with
    | nil =>
        obtain rfl := Option.some.inj hlookup
        rfl
    | cons first others =>
        rw [stepsOf_pathOf (List.cons_ne_nil first others) hproper]
        exact followSteps_of_lookup hproper hnode hlookup
  unfold locate
  rw [isRooted_pathOf hproper]
  exact hfollow

/-- The place that following ends at is looked up under its names, if this holds behind links. -/
theorem lookup_of_followSteps {steps : List RawPath}
    (hlink : ∀ (trail : Trail) (steps : List RawPath), trail.Leads top →
      onLink trail steps = some place → (Node.dir top).lookup place.names = some place.node)
    (h : followSteps top onLink trail steps = some place) (hleads : trail.Leads top) :
    (Node.dir top).lookup place.names = some place.node := by
  induction steps generalizing trail with
  | nil =>
      obtain rfl := Option.some.inj h
      exact hleads.lookup
  | cons step rest ih =>
      obtain ⟨-, hskip⟩ | ⟨-, innermost, outer, rfl, hup⟩ | ⟨entries, hfind, hdir⟩ |
        ⟨bytes, hfind, -, rfl⟩ | ⟨target, -, hbehind⟩ := followSteps_cons_cases h
      · exact ih hskip hleads
      · exact ih hup hleads.2
      · exact ih hdir ⟨hfind, hleads⟩
      · rw [Node.lookup_append, hleads.lookup, Option.bind_some, Node.lookup_cons]
        exact Option.bind_eq_some_iff.mpr ⟨_, hfind, rfl⟩
      · exact hlink trail _ hleads hbehind

theorem lookup_of_follow (links : Nat) {steps : List RawPath}
    (h : follow top links trail steps = some place) (hleads : trail.Leads top) :
    (Node.dir top).lookup place.names = some place.node := by
  induction links generalizing trail steps with
  | zero =>
      have hnone : ∀ (trail : Trail) (steps : List RawPath), trail.Leads top →
          (none : Option Place) = some place → (Node.dir top).lookup place.names = some place.node :=
        fun _ _ _ => nofun
      exact lookup_of_followSteps hnone h hleads
  | succ links ih =>
      exact lookup_of_followSteps (fun _ _ hleads hbehind => ih hbehind hleads) h hleads

/-- Whatever a path leads to is looked up under the names of its place. -/
theorem lookup_of_locate {path : RawPath} (h : locate top path = some place) :
    (Node.dir top).lookup place.names = some place.node := by
  unfold locate at h
  split at h
  · cases h
  · exact lookup_of_follow linkLimit h trivial

/-! ## Building a tree -/

theorem Node.WellFormed.dir_entries (h : node.WellFormed) : (Node.dir node.entries).WellFormed := by
  have hempty : (Node.dir []).WellFormed := .dir [] (by simp) List.nodup_nil (by simp)
  cases h with
  | file bytes => exact hempty
  | link target => exact hempty
  | dir entries proper distinct inner => exact .dir entries proper distinct inner

/-- Replacing an entry leaves the names as they are. -/
theorem map_fst_put (h : (entries.any fun e => e.1 == name) = true) (node : Node) :
    (put entries name node).map (·.1) = entries.map (·.1) := by
  unfold put
  rw [if_pos h, List.map_map]
  refine List.map_congr_left fun e _ => ?_
  by_cases he : e.1 = name <;> simp [he]

/-- Putting a proper node under a proper name replaces the entry of the name or adds one. -/
theorem Node.WellFormed.put (h : (Node.dir entries).WellFormed) (hname : ProperName name)
    (hnode : node.WellFormed) : (Node.dir (put entries name node)).WellFormed := by
  cases h with
  | dir _ proper distinct inner =>
      by_cases hany : (entries.any fun e => e.1 == name) = true
      · have hdistinct := map_fst_put hany node
        unfold Files.put at hdistinct ⊢
        rw [if_pos hany] at hdistinct ⊢
        refine .dir _ ?_ (hdistinct ▸ distinct) ?_
        · refine List.forall_mem_map.mpr fun e he => ?_
          split
          · exact hname
          · exact proper e he
        · refine List.forall_mem_map.mpr fun e he => ?_
          split
          · exact hnode
          · exact inner e he
      · have hnew : name ∉ entries.map (·.1) := by simpa using hany
        unfold Files.put
        rw [if_neg hany]
        refine .dir _ ?_ ?_ ?_
        · exact List.forall_mem_append.mpr ⟨proper, List.forall_mem_singleton.mpr hname⟩
        · rw [List.map_append, List.map_singleton, ← List.concat_eq_append]
          exact List.Nodup.concat hnew distinct
        · exact List.forall_mem_append.mpr ⟨inner, List.forall_mem_singleton.mpr hnode⟩

/-- Inserting a well-formed node under proper names keeps a tree well formed. -/
theorem Node.WellFormed.insert (h : (Node.dir entries).WellFormed)
    (hproper : ∀ name ∈ names, ProperName name) (hnode : node.WellFormed) :
    (Node.dir (insert names node entries)).WellFormed := by
  induction names, node, entries using Files.insert.induct with
  | case1 node entries =>
      rw [Files.insert]
      exact h
  | case2 name entries kept hfind =>
      have hkept := (h.entry (mem_of_find hfind)).2
      rw [Files.insert.eq_2 _ _ kept hfind]
      exact h.put (hproper name List.mem_cons_self) hkept
  | case3 name node entries hkept =>
      rw [Files.insert]
      · exact h.put (hproper name List.mem_cons_self) hnode
      · exact hkept
  | case4 name next rest node entries ih =>
      obtain ⟨hname, hrest⟩ := List.forall_mem_cons.mp hproper
      have hinner : (Node.dir (((find entries name).map Node.entries).getD [])).WellFormed := by
        cases hfind : find entries name with
        | none => exact Node.WellFormed.dir_entries (.link [])
        | some below => exact (h.entry (mem_of_find hfind)).2.dir_entries
      rw [Files.insert]
      exact h.put hname (ih hinner hrest hnode)

/-- Where writing succeeds, it inserts the file beside the place that leads there, or goes on behind a
link. -/
theorem writeAt_cases {bytes : ByteArray} {links : Nat} {steps : List RawPath} {written : Entries}
    (h : writeAt top bytes (links + 1) steps = some written) :
    ∃ name ∈ steps, (name ≠ [] ∧ name ≠ [RawPath.dot] ∧ name ≠ [RawPath.dot, RawPath.dot]) ∧
      ∃ place, follow top linkLimit [] steps.dropLast = some place ∧
        (written = insert (place.names ++ [name]) (.file bytes) top ∨
          ∃ target, writeAt top bytes links (place.names ++ stepsOf target) = some written) := by
  rw [writeAt.eq_2] at h
  split at h
  · cases h
  next name hlast =>
    split at h
    · cases h
    next hproper =>
      simp only [not_or] at hproper
      refine ⟨name, List.mem_of_getLast? hlast, hproper, ?_⟩
      split at h
      case h_1 names entries hfollow =>
        refine ⟨_, hfollow, ?_⟩
        split at h
        · cases h
        · split at h
          · cases h
          · exact .inr ⟨_, h⟩
        · exact .inl (Option.some.inj h).symm
      case h_2 => cases h

theorem writeAt_wellFormed (htop : (Node.dir top).WellFormed) {bytes : ByteArray} (links : Nat)
    {steps : List RawPath} (hsteps : ∀ step ∈ steps, RawPath.slash ∉ step) {written : Entries}
    (h : writeAt top bytes links steps = some written) : (Node.dir written).WellFormed := by
  induction links generalizing steps with
  | zero => cases h
  | succ links ih =>
      obtain ⟨name, hname, ⟨hempty, hhere, hup⟩, place, hfollow, hwritten⟩ := writeAt_cases h
      have hplace : ∀ n ∈ place.names, ProperName n :=
        (htop.lookup (lookup_of_follow linkLimit hfollow trivial)).1
      rcases hwritten with rfl | ⟨target, hbehind⟩
      · refine htop.insert (List.forall_mem_append.mpr ⟨hplace, ?_⟩) (.file bytes)
        exact List.forall_mem_singleton.mpr ⟨hempty, hhere, hup, hsteps name hname⟩
      · refine ih (List.forall_mem_append.mpr ⟨fun n hn => (hplace n hn).noSlash, ?_⟩) hbehind
        exact fun step hstep => slash_not_mem_of_mem_stepsOf hstep

/-- Writing a file keeps a tree well formed. -/
theorem write_wellFormed (htop : (Node.dir top).WellFormed) {path : RawPath} {bytes : ByteArray}
    {written : Entries} (h : write top path bytes = some written) : (Node.dir written).WellFormed :=
  writeAt_wellFormed htop linkLimit (fun _ => slash_not_mem_of_mem_stepsOf) h

end CodeRetrieval.Files
