/-
Paths through links.

A path may lead through links, and an entry that is put in the place of another may take away
a link on its way.  Only this can happen to it: where files have been put in the place of other
entries, a path leads to the same location as before, or it is stuck at such a file, which a
link had been before or which the path did not get past before either.

* `Names` — the directory entry that a path names, a link at its end not followed;
* `Follows`, `locate_follows` — what paths come to before and after files are put in place;
* `walk_append` — the last steps are taken from where the others lead;
* `locate_of_locateParent` — the entry that a file is renamed to.
-/
import ModuleWiring.Proofs.Disk.Store

namespace ModuleWiring.FileTree

open ModuleWiring.Path

variable {t t' : FileTree} {place l k : Location} {ls : List Location} {steps rest : List PathStep}
  {node : Option FileNode} {followLast : Bool} {path : Path} {name target : Text} {links : Nat}

/-- Whether a path names the directory entry at a location, be there something or not.  A link
at the end of the path is the entry itself. -/
def Names (t : FileTree) (path : Path) (l : Location) : Prop :=
  ∃ node, t.locate path false = .ok (l, node)

theorem Names.unique (hk : t.Names path k) (hl : t.Names path l) : k = l := by
  obtain ⟨node, hk⟩ := hk
  obtain ⟨node', hl⟩ := hl
  rw [hk] at hl
  exact (Prod.mk.inj (Except.ok.inj hl)).1

theorem names_iff_of_locate (hk : t.locate path false = .ok (k, node)) :
    t.Names path l ↔ l = k :=
  ⟨fun hl => hl.unique ⟨node, hk⟩, fun hl => ⟨node, hl ▸ hk⟩⟩

/-! ### One step to an entry -/

/-- Whether a step goes no further than to a location: there is nothing or a file. -/
def IsEnd (t : FileTree) (l : Location) : Prop :=
  t.node? l ≠ some .folder ∧ ∀ target, t.node? l ≠ some (.link target)

theorem node?_cases (t : FileTree) (l : Location) :
    t.node? l = some .folder ∨ (∃ target, t.node? l = some (.link target)) ∨ t.IsEnd l := by
  by_cases hfolder : t.node? l = some .folder
  · exact .inl hfolder
  · by_cases hlink : ∃ target, t.node? l = some (.link target)
    · exact .inr (.inl hlink)
    · exact .inr (.inr ⟨hfolder, not_exists.mp hlink⟩)

theorem along_to_folder (hname : ¬name.byteLength > maxNameBytes)
    (hn : t.node? (place ++ [name]) = some .folder) :
    t.along followLast place (.entry name :: steps) =
      t.along followLast (place ++ [name]) steps := by
  simp only [along, if_neg hname, hn]

theorem along_to_link (hname : ¬name.byteLength > maxNameBytes)
    (hn : t.node? (place ++ [name]) = some (.link target)) :
    t.along followLast place (.entry name :: steps) =
      if steps.isEmpty && !followLast then .arrived (place ++ [name]) (some (.link target))
      else .atLink place target steps := by
  simp only [along, if_neg hname, hn]

theorem along_to_end (hname : ¬name.byteLength > maxNameBytes) (hn : t.IsEnd (place ++ [name])) :
    t.along followLast place (.entry name :: steps) =
      if steps.isEmpty then .arrived (place ++ [name]) (t.node? (place ++ [name]))
      else .stuck (if (t.node? (place ++ [name])).isNone then .notFound else .notFolder) := by
  rw [along, if_neg hname]
  rcases hn' : t.node? (place ++ [name]) with _ | ⟨content⟩ | _ | target
  · rfl
  · rfl
  · exact absurd hn' hn.1
  · exact absurd hn' (hn.2 target)

/-- A last step to something that is no folder, if a link is not followed there. -/
theorem along_last (hname : ¬name.byteLength > maxNameBytes)
    (hn : t.node? (place ++ [name]) ≠ some .folder) :
    t.along false place [.entry name] =
      .arrived (place ++ [name]) (t.node? (place ++ [name])) := by
  rcases t.node?_cases (place ++ [name]) with hfolder | ⟨target, hlink⟩ | hend
  · exact absurd hfolder hn
  · rw [along_to_link hname hlink, hlink]
    rfl
  · rw [along_to_end hname hend]
    rfl

/-! ### Where a walk ends -/

/-- What steps come to, with what comes behind a link. -/
def Walk.followed (next : Location → Text → List PathStep → Except DiskFault
    (Location × Option FileNode)) : Walk → Except DiskFault (Location × Option FileNode)
  | .arrived l node => .ok (l, node)
  | .stuck fault => .error fault
  | .atLink folder target rest => next folder target rest

theorem walk_zero : t.walk followLast 0 place steps =
    (t.along followLast place steps).followed fun _ _ _ => .error .tooManyLinks := by
  rw [walk.eq_def]
  rcases t.along followLast place steps with _ | _ | _ <;> rfl

theorem walk_succ : t.walk followLast (links + 1) place steps =
    (t.along followLast place steps).followed fun folder target rest =>
      t.walk followLast links (if target.head? = some '/' then [] else folder)
        (stepsOf target ++ rest) := by
  rw [walk.eq_def]
  rcases t.along followLast place steps with _ | _ | _ <;> rfl

/-- How a walk ends well: without a link to follow, or behind one. -/
theorem walk_ok_cases {r : Location × Option FileNode}
    (hw : t.walk followLast links place steps = .ok r) :
    t.along followLast place steps = .arrived r.1 r.2 ∨
      ∃ fewer folder target rest, links = fewer + 1 ∧
        t.along followLast place steps = .atLink folder target rest ∧
        t.walk followLast fewer (if target.head? = some '/' then [] else folder)
          (stepsOf target ++ rest) = .ok r := by
  rw [walk.eq_def] at hw
  split at hw
  · next hl =>
    obtain rfl := Except.ok.inj hw
    exact .inl hl
  · exact absurd hw (by simp)
  · exact absurd hw (by simp)
  · next hl => exact .inr ⟨_, _, _, _, rfl, hl, hw⟩

/-- Steps that do not lead to a folder lead to an entry, and to what is there. -/
theorem node_of_along (hw : t.along followLast place steps = .arrived l node)
    (hnode : node ≠ some .folder) : node = t.node? l ∧ l ≠ [] := by
  induction steps generalizing place with
  | nil =>
    obtain ⟨-, rfl⟩ := Walk.arrived.inj hw
    exact absurd rfl hnode
  | cons step steps ih =>
    cases step with
    | root => exact ih hw
    | here => exact ih hw
    | up => exact ih hw
    | entry name =>
      by_cases hname : name.byteLength > maxNameBytes
      · rw [along_entry_of_long hname] at hw
        exact absurd hw (by simp)
      · rcases t.node?_cases (place ++ [name]) with hfolder | ⟨target, hlink⟩ | hend
        · rw [along_to_folder hname hfolder] at hw
          exact ih hw
        · rw [along_to_link hname hlink] at hw
          split at hw
          · obtain ⟨rfl, rfl⟩ := Walk.arrived.inj hw
            exact ⟨hlink.symm, by simp⟩
          · exact absurd hw (by simp)
        · rw [along_to_end hname hend] at hw
          split at hw
          · obtain ⟨rfl, rfl⟩ := Walk.arrived.inj hw
            exact ⟨rfl, by simp⟩
          · exact absurd hw (by simp)

theorem node_of_walk (hw : t.walk followLast links place steps = .ok (l, node))
    (hnode : node ≠ some .folder) : node = t.node? l ∧ l ≠ [] := by
  induction links using Nat.strongRecOn generalizing place steps with
  | _ links ih =>
    rcases walk_ok_cases hw with hl | ⟨fewer, _, _, _, rfl, -, hrest⟩
    · exact node_of_along hl hnode
    · exact ih fewer fewer.lt_succ_self hrest

theorem node_of_locate (hl : t.locate path followLast = .ok (l, node))
    (hnode : node ≠ some .folder) : node = t.node? l ∧ l ≠ [] := by
  rw [locate] at hl
  split at hl
  · exact absurd hl (by simp)
  · exact node_of_walk hl hnode

/-! ### Files put in place -/

/-- What following a path may come to where files have been put in place at some locations:
the same; what is there now at one of them; or it is stuck at a file.  Then it did not lead
anywhere before either, or there was a link at one of the locations. -/
def Follows {α : Type} (t t' : FileTree) (ls : List Location)
    (arrive : Location → Option FileNode → α) (stop : DiskFault → α)
    (before after : α) : Prop :=
  after = before ∨
    (∃ l ∈ ls, before = arrive l (t.node? l) ∧ after = arrive l (t'.node? l)) ∨
    (after = stop .notFolder ∧
      ((∃ fault, before = stop fault) ∨
        ∃ k ∈ ls, ∃ target, t.node? k = some (.link target)))

theorem along_follows (h : Placed t t' ls) (place : Location) (steps : List PathStep) :
    Follows t t' ls .arrived .stuck (t.along false place steps) (t'.along false place steps) := by
  induction steps generalizing place with
  | nil => exact .inl rfl
  | cons step steps ih =>
    cases step with
    | root => exact ih []
    | here => exact ih place
    | up => exact ih place.dropLast
    | entry name =>
      by_cases hname : name.byteLength > maxNameBytes
      · exact .inl (by rw [along_entry_of_long hname, along_entry_of_long hname])
      · by_cases hmem : place ++ [name] ∈ ls
        · -- the step goes to a file, and so it is the last one or the path is stuck there
          obtain ⟨content, hafter⟩ := h.after _ hmem
          have hend : t'.IsEnd (place ++ [name]) := by simp [IsEnd, hafter]
          rw [along_to_end hname hend]
          rcases steps with _ | ⟨step, steps⟩
          · rw [along_last hname (h.before _ hmem)]
            exact .inr (.inl ⟨_, hmem, rfl, rfl⟩)
          · refine .inr (.inr ⟨by simp [hafter], ?_⟩)
            rcases t.node?_cases (place ++ [name]) with hfolder | ⟨target, hlink⟩ | hend
            · exact absurd hfolder (h.before _ hmem)
            · exact .inr ⟨_, hmem, target, hlink⟩
            · exact .inl ⟨_, by rw [along_to_end hname hend]; rfl⟩
        · have hsame := h.other _ hmem
          rcases t.node?_cases (place ++ [name]) with hfolder | ⟨target, hlink⟩ | hend
          · rw [along_to_folder hname hfolder, along_to_folder hname (hsame.trans hfolder)]
            exact ih (place ++ [name])
          · exact .inl (by rw [along_to_link hname hlink,
              along_to_link hname (hsame.trans hlink)])
          · have hend' : t'.IsEnd (place ++ [name]) := by rwa [IsEnd, hsame]
            exact .inl (by rw [along_to_end hname hend, along_to_end hname hend', hsame])

/-- What comes behind a link is followed like the rest. -/
theorem Follows.followed {w w' : Walk} {next next' : Location → Text → List PathStep →
    Except DiskFault (Location × Option FileNode)} (h : Follows t t' ls .arrived .stuck w w')
    (hnext : ∀ folder target rest, Follows t t' ls (fun l node => .ok (l, node)) .error
      (next folder target rest) (next' folder target rest)) :
    Follows t t' ls (fun l node => .ok (l, node)) .error (w.followed next) (w'.followed next') := by
  rcases h with rfl | ⟨l, hl, rfl, rfl⟩ | ⟨rfl, ⟨fault, rfl⟩ | hlink⟩
  · rcases w' with _ | _ | ⟨folder, target, rest⟩
    · exact .inl rfl
    · exact .inl rfl
    · exact hnext folder target rest
  · exact .inr (.inl ⟨l, hl, rfl, rfl⟩)
  · exact .inr (.inr ⟨rfl, .inl ⟨fault, rfl⟩⟩)
  · exact .inr (.inr ⟨rfl, .inr hlink⟩)

theorem walk_follows (h : Placed t t' ls) (links : Nat) (place : Location)
    (steps : List PathStep) :
    Follows t t' ls (fun l node => .ok (l, node)) .error
      (t.walk false links place steps) (t'.walk false links place steps) := by
  induction links generalizing place steps with
  | zero =>
    rw [walk_zero, walk_zero]
    exact (along_follows h place steps).followed fun _ _ _ => .inl rfl
  | succ links ih =>
    rw [walk_succ, walk_succ]
    exact (along_follows h place steps).followed fun _ _ _ => ih _ _

theorem locate_follows (h : Placed t t' ls) (path : Path) :
    Follows t t' ls (fun l node => .ok (l, node)) .error
      (t.locate path false) (t'.locate path false) := by
  rw [locate, locate, start, start, h.workingFolder]
  split
  · exact .inl rfl
  · exact walk_follows h maxLinks _ _

/-! ### The last step -/

/-- Whether a link at the end is followed matters only if there is one. -/
theorem along_true_or (t : FileTree) (place : Location) (steps : List PathStep) :
    t.along true place steps = t.along false place steps ∨
      ∃ l target, t.along false place steps = .arrived l (some (.link target)) := by
  induction steps generalizing place with
  | nil => exact .inl rfl
  | cons step steps ih =>
    cases step with
    | root => exact ih []
    | here => exact ih place
    | up => exact ih place.dropLast
    | entry name =>
      by_cases hname : name.byteLength > maxNameBytes
      · exact .inl (by rw [along_entry_of_long hname, along_entry_of_long hname])
      · rcases t.node?_cases (place ++ [name]) with hfolder | ⟨target, hlink⟩ | hend
        · rw [along_to_folder hname hfolder, along_to_folder hname hfolder]
          exact ih (place ++ [name])
        · rw [along_to_link hname hlink, along_to_link hname hlink]
          rcases steps with _ | ⟨step, steps⟩
          · exact .inr ⟨place ++ [name], target, rfl⟩
          · exact .inl rfl
        · exact .inl (by rw [along_to_end hname hend, along_to_end hname hend])

theorem walk_true_or (t : FileTree) (links : Nat) (place : Location) (steps : List PathStep) :
    t.walk true links place steps = t.walk false links place steps ∨
      ∃ l target, t.walk false links place steps = .ok (l, some (.link target)) := by
  induction links generalizing place steps with
  | zero =>
    rw [walk_zero, walk_zero]
    rcases along_true_or t place steps with h | ⟨l, target, h⟩ <;> rw [h]
    · exact .inl rfl
    · exact .inr ⟨l, target, rfl⟩
  | succ links ih =>
    rw [walk_succ, walk_succ]
    rcases along_true_or t place steps with h | ⟨l, target, h⟩ <;> rw [h]
    · rcases t.along false place steps with _ | _ | _
      · exact .inl rfl
      · exact .inl rfl
      · exact ih _ _
    · exact .inr ⟨l, target, rfl⟩

theorem locate_true_or (t : FileTree) (path : Path) :
    t.locate path = t.locate path false ∨
      ∃ l target, t.locate path false = .ok (l, some (.link target)) := by
  rw [locate, locate]
  split
  · exact .inl rfl
  · exact walk_true_or t maxLinks _ _

/-- The last steps are taken from the folder that the others lead to. -/
theorem along_append_of_links
    (hw : t.along true place steps = .arrived l (some .folder)) (rest : List PathStep) :
    t.along followLast place (steps ++ rest) = t.along followLast l rest := by
  induction steps generalizing place with
  | nil =>
    obtain ⟨rfl, -⟩ := Walk.arrived.inj hw
    rfl
  | cons step steps ih =>
    cases step with
    | root => exact ih hw
    | here => exact ih hw
    | up => exact ih hw
    | entry name =>
      by_cases hname : name.byteLength > maxNameBytes
      · rw [along_entry_of_long hname] at hw
        exact absurd hw (by simp)
      · rcases t.node?_cases (place ++ [name]) with hfolder | ⟨target, hlink⟩ | hend
        · rw [along_to_folder hname hfolder] at hw
          rw [List.cons_append, along_to_folder hname hfolder]
          exact ih hw
        · rw [along_to_link hname hlink, Bool.not_true, Bool.and_false] at hw
          exact absurd hw (by simp)
        · rw [along_to_end hname hend] at hw
          split at hw
          · exact absurd (Walk.arrived.inj hw).2 hend.1
          · exact absurd hw (by simp)

/-- A link in front of the last steps is followed first. -/
theorem along_append_of_atLink {folder : Location} {behind : List PathStep}
    (hw : t.along true place steps = .atLink folder target behind) (hrest : rest ≠ []) :
    t.along followLast place (steps ++ rest) = .atLink folder target (behind ++ rest) := by
  induction steps generalizing place with
  | nil => exact absurd hw (by simp [along])
  | cons step steps ih =>
    cases step with
    | root => exact ih hw
    | here => exact ih hw
    | up => exact ih hw
    | entry name =>
      by_cases hname : name.byteLength > maxNameBytes
      · rw [along_entry_of_long hname] at hw
        exact absurd hw (by simp)
      · rcases t.node?_cases (place ++ [name]) with hfolder | ⟨target', hlink⟩ | hend
        · rw [along_to_folder hname hfolder] at hw
          rw [List.cons_append, along_to_folder hname hfolder]
          exact ih hw
        · rw [along_to_link hname hlink, Bool.not_true, Bool.and_false] at hw
          obtain ⟨rfl, rfl, rfl⟩ := Walk.atLink.inj hw
          rw [List.cons_append, along_to_link hname hlink]
          simp [hrest]
        · rw [along_to_end hname hend] at hw
          split at hw <;> exact absurd hw (by simp)

theorem walk_append (hw : t.walk true links place steps = .ok (l, some .folder))
    (hrest : rest ≠ []) :
    ∃ fewer, t.walk followLast links place (steps ++ rest) = t.walk followLast fewer l rest := by
  induction links using Nat.strongRecOn generalizing place steps with
  | _ links ih =>
    rcases walk_ok_cases hw with hl | ⟨fewer, folder, target, behind, rfl, hl, hmore⟩
    · refine ⟨links, ?_⟩
      rw [walk.eq_def, along_append_of_links hl, ← walk.eq_def]
    · obtain ⟨fewer', hfewer⟩ := ih fewer fewer.lt_succ_self hmore
      refine ⟨fewer', ?_⟩
      rw [walk_succ, along_append_of_atLink hl hrest, ← hfewer, List.append_assoc]
      rfl

/-- The parent and the last step of a path lead where the path does, if a link is not followed
there. -/
theorem locate_of_locateParent {folder : Location}
    (hp : t.locateParent path = .ok (folder, .entry name))
    (hslash : path.text.getLast? ≠ some '/') (hlong : ¬name.byteLength > maxNameBytes)
    (hn : t.node? (folder ++ [name]) ≠ some .folder) :
    t.locate path false = .ok (folder ++ [name], t.node? (folder ++ [name])) := by
  obtain ⟨before, hr, hsteps, hk⟩ := of_locateParent hp hslash
  have hwalk : ∃ fewer, t.walk false maxLinks (t.start path.text) (before ++ [.entry name]) =
      t.walk false fewer folder [.entry name] := walk_append hk (by simp)
  obtain ⟨fewer, hfewer⟩ := hwalk
  rw [locate, hr, hsteps]
  simp only
  rw [hfewer, walk.eq_def, along_last hlong hn]

end ModuleWiring.FileTree
