/-
Following paths through a tree without links.

Without links a path is followed in one go, and only the folders on the way matter: trees
with the same folders lead a path to the same location.

* `locate_eq_ok_iff`, `locate_eq_error_iff` — where a path leads, by its steps alone;
* `along_append` — behind the first steps the others start at the folder that those lead to;
* `Lacks` — a path that leads to nothing;
* `NamesEntry` — a path that leads to an entry, or to where one can be put;
* `locate_join` — where the path to an entry of a folder leads;
* `SameFolders` — trees with the same folders;
* `along_of_folder`, `along_of_arrived`, `along_of_missing` — steps lead to the same location
  in both.
-/
import ModuleWiring.Disk.FileTree
import ModuleWiring.Proofs.OrderedMap
import ModuleWiring.Proofs.Path

namespace ModuleWiring

namespace FileTree

open ModuleWiring.Path

/-- The names that a path goes through are names of entries. -/
theorem isName_of_mem_stepsOf {path name : Text} (h : .entry name ∈ stepsOf path) :
    IsName name := by
  obtain ⟨s, hs, hstep⟩ := List.mem_map.mp h
  rcases hs' : step? s with _ | step
  · rw [hs'] at hstep
    exact absurd hstep (by simp)
  · rw [hs'] at hstep
    obtain rfl : step = .entry name := hstep
    obtain rfl := eq_of_step? hs'
    exact ⟨hs', noSlash_of_mem_segments hs⟩

theorem stepsOf_append (u v : Text) : stepsOf (u ++ '/' :: v) = stepsOf u ++ stepsOf v := by
  rw [stepsOf, segments_append, List.map_append, stepsOf, stepsOf]

theorem stepsOf_name {name : Text} (h : IsName name) : stepsOf name = [.entry name] := by
  rw [stepsOf, segments_of_noSlash h.noSlash, List.map_singleton, h.step]
  rfl

/-- Seen from a folder, an entry is one step further; a slash at the end of the path of the
folder makes no difference. -/
theorem stepsOf_join {folder : Path} {name : Text} (hne : folder.text ≠ []) (h : IsName name) :
    ∃ steps, (stepsOf folder.text = steps ∨ stepsOf folder.text = steps ++ [.here]) ∧
      stepsOf (folder.join ⟨name⟩).text = steps ++ [.entry name] := by
  have hempty : folder.text.isEmpty = false := by simpa using hne
  rw [Path.join, h.isAbsolute, if_neg Bool.false_ne_true, hempty, Bool.false_or]
  by_cases hslash : (folder.text.getLast? == some '/') = true
  · rw [if_pos hslash]
    obtain ⟨u, hu⟩ := List.getLast?_eq_some_iff.mp (beq_iff_eq.mp hslash)
    refine ⟨stepsOf u, .inr ?_, ?_⟩
    · rw [hu, stepsOf_append]
      rfl
    · show stepsOf (folder.text ++ name) = _
      rw [hu, List.append_assoc, List.singleton_append, stepsOf_append, stepsOf_name h]
  · rw [if_neg hslash]
    refine ⟨stepsOf folder.text, .inl rfl, ?_⟩
    show stepsOf (folder.text ++ '/' :: name) = _
    rw [stepsOf_append, stepsOf_name h]

theorem start_join {t : FileTree} {folder : Path} {name : Text} (hne : folder.text ≠ [])
    (h : IsName name) : t.start (folder.join ⟨name⟩).text = t.start folder.text := by
  obtain ⟨c, u, hu⟩ := List.exists_cons_of_ne_nil hne
  have hhead : (folder.join ⟨name⟩).text.head? = folder.text.head? := by
    rw [Path.join, h.isAbsolute, if_neg Bool.false_ne_true]
    split <;> simp [hu]
  rw [start, hhead, start]

/-! ### Trees without links -/

/-- Whether no entry of a tree is a link. -/
def LinkFree (t : FileTree) : Prop :=
  ∀ e ∈ t.entries, ∀ target, e.2 ≠ .link target

variable {t t' : FileTree} {place l : Location} {steps : List PathStep} {node : Option FileNode}
  {followLast : Bool} {path : Path} {name : Text}

theorem mem_entries_of_node? {n : FileNode} (hl : l ≠ []) (h : t.node? l = some n) :
    (l, n) ∈ t.entries := by
  rw [node?, if_neg hl, List.lookup_eq_some_iff] at h
  obtain ⟨xs, ys, hentries, -⟩ := h
  rw [hentries]
  exact List.mem_append_right _ List.mem_cons_self

theorem LinkFree.node?_ne (h : t.LinkFree) {target : Text} : t.node? l ≠ some (.link target) := by
  intro hn
  by_cases hl : l = []
  · rw [node?, if_pos hl] at hn
    exact absurd hn (by simp)
  · exact h _ (mem_entries_of_node? hl hn) target rfl

/-- What a step to an entry does in a tree without links. -/
theorem along_entry (h : t.LinkFree) :
    t.along followLast place (.entry name :: steps) =
      if name.byteLength > maxNameBytes then .stuck .nameTooLong
      else match t.node? (place ++ [name]) with
        | none => if steps.isEmpty then .arrived (place ++ [name]) none else .stuck .notFound
        | some .folder => t.along followLast (place ++ [name]) steps
        | some n => if steps.isEmpty then .arrived (place ++ [name]) (some n)
            else .stuck .notFolder := by
  rw [along]
  split
  · rfl
  · rcases hn : t.node? (place ++ [name]) with _ | ⟨content⟩ | _ | target
    · rfl
    · rfl
    · rfl
    · exact absurd hn h.node?_ne

theorem along_entry_of_long (hname : name.byteLength > maxNameBytes) :
    t.along followLast place (.entry name :: steps) = .stuck .nameTooLong := by
  rw [along, if_pos hname]

theorem along_entry_of_folder (h : t.LinkFree) (hname : ¬name.byteLength > maxNameBytes)
    (hn : t.node? (place ++ [name]) = some .folder) :
    t.along followLast place (.entry name :: steps) =
      t.along followLast (place ++ [name]) steps := by
  rw [along_entry h, if_neg hname, hn]

/-- A step to something that is no folder is the last one that can be taken. -/
theorem along_entry_of_not_folder (h : t.LinkFree) (hname : ¬name.byteLength > maxNameBytes)
    (hn : t.node? (place ++ [name]) ≠ some .folder) :
    t.along followLast place (.entry name :: steps) =
      if steps.isEmpty then .arrived (place ++ [name]) (t.node? (place ++ [name]))
      else .stuck (if (t.node? (place ++ [name])).isNone then .notFound else .notFolder) := by
  rw [along_entry h, if_neg hname]
  rcases hn' : t.node? (place ++ [name]) with _ | ⟨content⟩ | _ | target
  · rfl
  · rfl
  · exact absurd hn' hn
  · exact absurd hn' h.node?_ne

/-- A step on the way to a folder goes to a folder. -/
theorem of_along_entry (h : t.LinkFree)
    (hw : t.along followLast place (.entry name :: steps) = .arrived l (some .folder)) :
    ¬name.byteLength > maxNameBytes ∧ t.node? (place ++ [name]) = some .folder ∧
      t.along followLast (place ++ [name]) steps = .arrived l (some .folder) := by
  rw [along_entry h] at hw
  split at hw
  · exact absurd hw (by simp)
  · next hname =>
    split at hw
    · split at hw <;> simp at hw
    · next hn => exact ⟨hname, hn, hw⟩
    · next n hne hn =>
      split at hw
      · obtain ⟨-, hfolder⟩ := Walk.arrived.inj hw
        exact absurd (Option.some.inj hfolder) hne
      · exact absurd hw (by simp)

/-- Behind steps that lead to a folder the others start there. -/
theorem along_append (h : t.LinkFree)
    (hw : t.along followLast place steps = .arrived l (some .folder)) (rest : List PathStep) :
    t.along followLast place (steps ++ rest) = t.along followLast l rest := by
  induction steps generalizing place with
  | nil =>
    obtain ⟨rfl, -⟩ := Walk.arrived.inj hw
    rfl
  | cons step steps ih =>
    cases step with
    | root => exact ih hw
    | here => exact ih hw
    | up => exact ih hw
    | entry name =>
      obtain ⟨hname, hn, hrest⟩ := of_along_entry h hw
      rw [List.cons_append, along_entry_of_folder h hname hn]
      exact ih hrest

/-- Steps lead to a folder, or some of them do and the next one goes to no folder. -/
theorem along_cases (t : FileTree) (followLast : Bool) (place : Location)
    (steps : List PathStep) (h : t.LinkFree) :
    (∃ l, t.along followLast place steps = .arrived l (some .folder)) ∨
      ∃ before name rest l, steps = before ++ .entry name :: rest ∧
        t.along followLast place before = .arrived l (some .folder) ∧
        (name.byteLength > maxNameBytes ∨ t.node? (l ++ [name]) ≠ some .folder) := by
  induction steps generalizing place with
  | nil => exact .inl ⟨place, rfl⟩
  | cons step steps ih =>
    -- the steps that come before the one that goes to no folder may be one more
    have more : ∀ place', (∀ before, t.along followLast place (step :: before) =
          t.along followLast place' before) →
        (∃ l, t.along followLast place (step :: steps) = .arrived l (some .folder)) ∨
          ∃ before name rest l, step :: steps = before ++ .entry name :: rest ∧
            t.along followLast place before = .arrived l (some .folder) ∧
            (name.byteLength > maxNameBytes ∨ t.node? (l ++ [name]) ≠ some .folder) := by
      intro place' hstep
      rcases ih place' with ⟨l, hl⟩ | ⟨before, name, rest, l, rfl, hl, hstop⟩
      · exact .inl ⟨l, (hstep _).trans hl⟩
      · exact .inr ⟨step :: before, name, rest, l, rfl, (hstep _).trans hl, hstop⟩
    cases step with
    | root => exact more _ fun _ => rfl
    | here => exact more _ fun _ => rfl
    | up => exact more _ fun _ => rfl
    | entry name =>
      by_cases hname : name.byteLength > maxNameBytes
      · exact .inr ⟨[], name, steps, place, rfl, rfl, .inl hname⟩
      · by_cases hn : t.node? (place ++ [name]) = some .folder
        · exact more _ fun _ => along_entry_of_folder h hname hn
        · exact .inr ⟨[], name, steps, place, rfl, rfl, .inr hn⟩

/-! ### Trees with the same folders -/

/-- Whether two trees have the same folders and are seen from the same one. -/
structure SameFolders (t t' : FileTree) : Prop where
  workingFolder : t'.workingFolder = t.workingFolder
  folder : ∀ l, t'.node? l = some .folder ↔ t.node? l = some .folder

theorem SameFolders.refl (t : FileTree) : SameFolders t t :=
  ⟨rfl, fun _ => .rfl⟩

theorem SameFolders.start (h : SameFolders t t') (path : Text) : t'.start path = t.start path := by
  rw [FileTree.start, FileTree.start, h.workingFolder]

/-- Steps to a folder lead to it in both trees. -/
theorem along_of_folder {b : Bool} (hs : SameFolders t t') (h : t.LinkFree) (h' : t'.LinkFree)
    (hw : t.along followLast place steps = .arrived l (some .folder)) :
    t'.along b place steps = .arrived l (some .folder) := by
  induction steps generalizing place with
  | nil => exact hw
  | cons step steps ih =>
    cases step with
    | root => exact ih hw
    | here => exact ih hw
    | up => exact ih hw
    | entry name =>
      obtain ⟨hname, hn, hrest⟩ := of_along_entry h hw
      rw [along_entry_of_folder h' hname ((hs.folder _).mpr hn)]
      exact ih hrest

/-- Steps to something else lead to the same location. -/
theorem along_of_arrived {b : Bool} (hs : SameFolders t t') (h : t.LinkFree) (h' : t'.LinkFree)
    (hw : t.along followLast place steps = .arrived l node) (hnode : node ≠ some .folder) :
    node = t.node? l ∧ t'.along b place steps = .arrived l (t'.node? l) := by
  rcases along_cases t followLast place steps h with
    ⟨l', hl'⟩ | ⟨before, name, rest, k, rfl, hk, hstop⟩
  · rw [hl'] at hw
    exact absurd (Walk.arrived.inj hw).2.symm hnode
  · rw [along_append h hk] at hw
    rw [along_append h' (along_of_folder hs h h' hk)]
    by_cases hname : name.byteLength > maxNameBytes
    · rw [along_entry_of_long hname] at hw
      exact absurd hw (by simp)
    · have hn := hstop.resolve_left hname
      have hn' : t'.node? (k ++ [name]) ≠ some .folder := mt (hs.folder _).mp hn
      rw [along_entry_of_not_folder h hname hn] at hw
      rw [along_entry_of_not_folder h' hname hn']
      split at hw
      · next hrest =>
        obtain ⟨rfl, rfl⟩ := Walk.arrived.inj hw
        exact ⟨rfl, if_pos hrest⟩
      · exact absurd hw (by simp)

/-- On the way to a folder nothing is missing. -/
theorem along_ne_none_on_way (h : t.LinkFree) {before : List PathStep} {k : Location}
    (hw : t.along followLast place steps = .arrived l (some .folder)) (hbefore : before <+: steps) :
    t.along followLast place before ≠ .arrived k none := by
  obtain ⟨rest, rfl⟩ := hbefore
  rcases along_cases t followLast place before h with
    ⟨k', hk'⟩ | ⟨first, name, last, k', rfl, hk', hstop⟩
  · simp [hk']
  · -- such a step goes to no folder, so the others are not taken from there
    rw [List.append_assoc, List.cons_append, along_append h hk'] at hw
    obtain ⟨hname, hn, -⟩ := of_along_entry h hw
    exact absurd hn (hstop.resolve_left hname)

/-- Whether steps lead to nothing. -/
def Walk.IsMissing (w : Walk) : Prop :=
  w = .stuck .notFound ∨ ∃ l, w = .arrived l none

/-- Steps that lead to nothing do so in both trees, if nothing has been put on the way. -/
theorem along_of_missing (hs : SameFolders t t') (h : t.LinkFree) (h' : t'.LinkFree)
    (hw : (t.along followLast place steps).IsMissing)
    (hclear : ∀ before l, before <+: steps →
      t.along followLast place before = .arrived l none → t'.node? l = none) :
    t'.along followLast place steps = t.along followLast place steps := by
  rcases along_cases t followLast place steps h with
    ⟨l', hl'⟩ | ⟨before, name, rest, k, rfl, hk, hstop⟩
  · rw [hl'] at hw
    rcases hw with hw | ⟨l, hw⟩ <;> simp at hw
  · have hentry := along_append h hk [.entry name]
    rw [along_append h hk] at hw ⊢
    rw [along_append h' (along_of_folder hs h h' hk)]
    by_cases hname : name.byteLength > maxNameBytes
    · rw [along_entry_of_long hname] at hw
      rcases hw with hw | ⟨l, hw⟩ <;> simp at hw
    · have hn := hstop.resolve_left hname
      rw [along_entry_of_not_folder h hname hn] at hw hentry ⊢
      -- what is missing is the entry of this step
      have hnone : t.node? (k ++ [name]) = none := by
        rcases hw with hw | ⟨l, hw⟩
        · split at hw
          · exact absurd hw (by simp)
          · split at hw
            · next hnone => exact Option.isNone_iff_eq_none.mp hnone
            · exact absurd hw (by simp)
        · split at hw
          · exact (Walk.arrived.inj hw).2
          · exact absurd hw (by simp)
      have hpre : before ++ [.entry name] <+: before ++ .entry name :: rest := by simp
      have hnone' : t'.node? (k ++ [name]) = none :=
        hclear _ _ hpre (hentry.trans (by rw [hnone]; rfl))
      rw [along_entry_of_not_folder h' hname (by simp [hnone']), hnone, hnone']

/-- Without links it does not matter whether a last one would be followed. -/
theorem along_followLast (h : t.LinkFree) (b : Bool) :
    t.along b place steps = t.along followLast place steps := by
  rcases along_cases t followLast place steps h with
    ⟨l, hl⟩ | ⟨before, name, rest, l, rfl, hl, hstop⟩
  · rw [hl, along_of_folder (.refl t) h h hl]
  · rw [along_append h hl, along_append h (along_of_folder (.refl t) h h hl)]
    by_cases hname : name.byteLength > maxNameBytes
    · rw [along_entry_of_long hname, along_entry_of_long hname]
    · have hn := hstop.resolve_left hname
      rw [along_entry_of_not_folder h hname hn, along_entry_of_not_folder h hname hn]

theorem along_ne_atLink (h : t.LinkFree) {target : Text} {rest : List PathStep} :
    t.along followLast place steps ≠ .atLink l target rest := by
  rcases along_cases t followLast place steps h with
    ⟨l', hl'⟩ | ⟨before, name, rest', l', rfl, hl', hstop⟩
  · simp [hl']
  · rw [along_append h hl']
    by_cases hname : name.byteLength > maxNameBytes
    · simp [along_entry_of_long hname]
    · rw [along_entry_of_not_folder h hname (hstop.resolve_left hname)]
      split <;> simp

/-- Steps before one that stays where it is lead to a folder. -/
theorem along_of_here (h : t.LinkFree)
    (hw : t.along followLast place (steps ++ [.here]) = .arrived l node) :
    t.along followLast place steps = .arrived l (some .folder) := by
  rcases along_cases t followLast place steps h with
    ⟨l', hl'⟩ | ⟨before, name, rest, l', rfl, hl', hstop⟩
  · rw [along_append h hl'] at hw
    obtain ⟨rfl, -⟩ := Walk.arrived.inj hw
    exact hl'
  · rw [List.append_assoc, List.cons_append, along_append h hl'] at hw
    by_cases hname : name.byteLength > maxNameBytes
    · rw [along_entry_of_long hname] at hw
      exact absurd hw (by simp)
    · rw [along_entry_of_not_folder h hname (hstop.resolve_left hname)] at hw
      simp at hw

/-- The path to an entry of a folder. -/
theorem along_join {folder : Path} (h : t.LinkFree) (hne : folder.text ≠ [])
    (hfolder : t.along followLast (t.start folder.text) (stepsOf folder.text) =
      .arrived l (some .folder)) (hname : IsName name) :
    t.along followLast (t.start (folder.join ⟨name⟩).text)
        (stepsOf (folder.join ⟨name⟩).text) =
      t.along followLast l [.entry name] := by
  obtain ⟨steps, hsteps, hjoin⟩ := stepsOf_join hne hname
  have hstart : t.along followLast (t.start folder.text) steps = .arrived l (some .folder) := by
    rcases hsteps with hsteps | hsteps
    · rw [← hsteps]
      exact hfolder
    · rw [hsteps] at hfolder
      exact along_of_here h hfolder
  rw [start_join hne hname, hjoin, along_append h hstart]

/-! ### Where paths lead -/

theorem walk_eq (h : t.LinkFree) (links : Nat) : t.walk followLast links place steps =
    match t.along true place steps with
    | .arrived l node => .ok (l, node)
    | .stuck fault => .error fault
    | .atLink .. => .error .tooManyLinks := by
  have hlast : t.along followLast place steps = t.along true place steps :=
    along_followLast h followLast
  rw [walk.eq_def, hlast]
  rcases hw : t.along true place steps with ⟨l, node⟩ | fault | ⟨l, target, rest⟩
  · rfl
  · rfl
  · exact absurd hw (along_ne_atLink h)

theorem walk_eq_ok_iff (h : t.LinkFree) {links : Nat} :
    t.walk followLast links place steps = .ok (l, node) ↔
      t.along true place steps = .arrived l node := by
  rw [walk_eq h]
  rcases hw : t.along true place steps with ⟨l', node'⟩ | fault | ⟨l', target, rest⟩
  · simp
  · simp
  · exact absurd hw (along_ne_atLink h)

/-- A path that can be followed leads where its steps do. -/
theorem locate_eq_ok_iff (h : t.LinkFree) : t.locate path followLast = .ok (l, node) ↔
    refusal? path = none ∧
      t.along true (t.start path.text) (stepsOf path.text) = .arrived l node := by
  rw [locate]
  split
  · next hr => simp [hr]
  · next hr => rw [walk_eq_ok_iff h, hr, eq_self, true_and]

theorem locate_eq_error_iff (h : t.LinkFree) {fault : DiskFault} :
    t.locate path followLast = .error fault ↔ refusal? path = some fault ∨
      refusal? path = none ∧
        t.along true (t.start path.text) (stepsOf path.text) = .stuck fault := by
  rw [locate]
  split
  · next hr => simp [hr]
  · next hr =>
    rw [walk_eq h, hr]
    rcases hw : t.along true (t.start path.text) (stepsOf path.text) with
      ⟨l', node'⟩ | fault' | ⟨l', target, rest⟩
    · simp
    · simp
    · exact absurd hw (along_ne_atLink h)

theorem locate_of_folder (hs : SameFolders t t') (h : t.LinkFree) (h' : t'.LinkFree)
    (hl : t.locate path = .ok (l, some .folder)) : t'.locate path = .ok (l, some .folder) := by
  rw [locate_eq_ok_iff h] at hl
  rw [locate_eq_ok_iff h', hs.start]
  exact ⟨hl.1, along_of_folder hs h h' hl.2⟩

theorem locate_of_arrived (hs : SameFolders t t') (h : t.LinkFree) (h' : t'.LinkFree)
    (hl : t.locate path = .ok (l, node)) (hnode : node ≠ some .folder) :
    node = t.node? l ∧ t'.locate path = .ok (l, t'.node? l) := by
  rw [locate_eq_ok_iff h] at hl
  rw [locate_eq_ok_iff h', hs.start]
  obtain ⟨hn, hw⟩ := along_of_arrived (b := true) hs h h' hl.2 hnode
  exact ⟨hn, hl.1, hw⟩

/-- Whether a path leads to a location at which there is no folder, and perhaps nothing. -/
structure NamesEntry (t : FileTree) (path : Path) (l : Location) : Prop where
  locate : t.locate path = .ok (l, t.node? l)
  notFolder : t.node? l ≠ some .folder

theorem namesEntry_of_locate (h : t.LinkFree) (hl : t.locate path = .ok (l, node))
    (hnode : node ≠ some .folder) : node = t.node? l ∧ t.NamesEntry path l := by
  obtain ⟨rfl, hsame⟩ := locate_of_arrived (.refl t) h h hl hnode
  exact ⟨rfl, hsame, hnode⟩

theorem NamesEntry.eq_of_locate {k : Location} (hl : t.NamesEntry path l)
    (hk : t.locate path = .ok (k, node)) : l = k := by
  rw [hl.locate] at hk
  exact (Prod.mk.inj (Except.ok.inj hk)).1

theorem NamesEntry.unique {k : Location} (hk : t.NamesEntry path k) (hl : t.NamesEntry path l) :
    k = l :=
  hk.eq_of_locate hl.locate

theorem NamesEntry.of_sameFolders (hs : SameFolders t t') (h : t.LinkFree) (h' : t'.LinkFree)
    (hl : t.NamesEntry path l) : t'.NamesEntry path l :=
  ⟨(locate_of_arrived hs h h' hl.locate hl.notFolder).2, mt (hs.folder l).mp hl.notFolder⟩

theorem NamesEntry.exists_name (h : t.LinkFree) (hl : t.NamesEntry path l) :
    ∃ folder name, l = folder ++ [name] ∧ IsName name ∧ ¬name.byteLength > maxNameBytes := by
  have hw := ((locate_eq_ok_iff h).mp hl.locate).2
  rcases along_cases t true (t.start path.text) (stepsOf path.text) h with
    ⟨l', hl'⟩ | ⟨before, name, rest, k, hsteps, hk, hstop⟩
  · rw [hl'] at hw
    exact absurd (Walk.arrived.inj hw).2.symm hl.notFolder
  · have hname : IsName name := isName_of_mem_stepsOf (by rw [hsteps]; simp)
    rw [hsteps, along_append h hk] at hw
    by_cases hlong : name.byteLength > maxNameBytes
    · rw [along_entry_of_long hlong] at hw
      exact absurd hw (by simp)
    · rw [along_entry_of_not_folder h hlong (hstop.resolve_left hlong)] at hw
      split at hw
      · obtain ⟨rfl, -⟩ := Walk.arrived.inj hw
        exact ⟨k, name, rfl, hname, hlong⟩
      · exact absurd hw (by simp)

/-- Whether there is nothing where a path leads. -/
def Lacks (t : FileTree) (path : Path) : Prop :=
  t.locate path = .error .notFound ∨ ∃ l, t.locate path = .ok (l, none)

/-- What a path does not find is not found in the other tree either, if nothing has been put
on the way. -/
theorem Lacks.of_sameFolders (hs : SameFolders t t') (h : t.LinkFree) (h' : t'.LinkFree)
    (hl : t.Lacks path) (hclear : ∀ before l, before <+: stepsOf path.text →
      t.along true (t.start path.text) before = .arrived l none → t'.node? l = none) :
    t'.Lacks path := by
  have hsame : t'.locate path = t.locate path := by
    rcases hr : refusal? path with _ | fault
    · have hmissing : (t.along true (t.start path.text) (stepsOf path.text)).IsMissing := by
        rcases hl with hl | ⟨l, hl⟩
        · rw [locate_eq_error_iff h, hr] at hl
          exact .inl (by simpa using hl)
        · exact .inr ⟨l, ((locate_eq_ok_iff h).mp hl).2⟩
      have hsame := along_of_missing hs h h' hmissing hclear
      simp only [locate, hr, hs.start, walk_eq h, walk_eq h', hsame]
    · simp only [locate, hr]
  rw [Lacks, hsame]
  exact hl

theorem read_eq_notFound_iff : t.read path = .error .notFound ↔ t.Lacks path := by
  rw [read, Lacks]
  split <;> next hl => simp [hl]

theorem regularFiles_eq_notFound_iff : t.regularFiles path = .error .notFound ↔ t.Lacks path := by
  rw [regularFiles, Lacks]
  split <;> next hl => simp [hl]

theorem text_ne_nil_of_locate (hl : t.locate path = .ok (l, node)) : path.text ≠ [] := by
  intro hnil
  have hrefused : refusal? path = some .notFound := by
    rw [refusal?, hnil]
    rfl
  rw [locate, hrefused] at hl
  exact absurd hl (by simp)

/-- Where the path to an entry of a folder leads. -/
theorem locate_join {folder : Path} (h : t.LinkFree)
    (hfolder : t.locate folder = .ok (l, some .folder)) (hname : IsName name)
    (hr : refusal? (folder.join ⟨name⟩) = none) : t.locate (folder.join ⟨name⟩) =
      if name.byteLength > maxNameBytes then .error .nameTooLong
      else .ok (l ++ [name], t.node? (l ++ [name])) := by
  have hw := along_join h (text_ne_nil_of_locate hfolder) ((locate_eq_ok_iff h).mp hfolder).2 hname
  split
  · next hlong =>
    rw [along_entry_of_long hlong] at hw
    exact (locate_eq_error_iff h).mpr (.inr ⟨hr, hw⟩)
  · next hlong =>
    refine (locate_eq_ok_iff h).mpr ⟨hr, hw.trans ?_⟩
    by_cases hn : t.node? (l ++ [name]) = some .folder
    · rw [along_entry_of_folder h hlong hn, hn]
      rfl
    · rw [along_entry_of_not_folder h hlong hn]
      rfl

end FileTree

end ModuleWiring
