/-
Putting files in place.

A file is written under a temporary name, renamed, and removed again if that fails.  This
module says what each of these operations takes and does, and what a tree with files put in
place is like: no folder comes or goes.

* `Placed` — a tree with files put in place at some locations;
* `write_cases`, `rename_cases`, `remove_cases` — what the operations take and do;
* `store_eq`, `storeAll_cons` — storing files, operation by operation.
-/
import ModuleWiring.Project.Update
import ModuleWiring.Proofs.Disk.Walk

namespace ModuleWiring

namespace FileTree

open ModuleWiring.Path

variable {t t' t'' : FileTree} {k l : Location} {ls : List Location} {n : FileNode} {path : Path}

theorem node?_set (hk : k ≠ []) (t : FileTree) (l : Location) (n : FileNode) :
    (t.set l n).node? k = if k = l then some n else t.node? k := by
  rw [node?, if_neg hk, set, OrderedMap.lookup_put, node?, if_neg hk]
  simp only [beq_iff_eq]

/-- A tree with files put in place at some locations. -/
structure Placed (t t' : FileTree) (ls : List Location) : Prop where
  workingFolder : t'.workingFolder = t.workingFolder
  other : ∀ l, l ∉ ls → t'.node? l = t.node? l
  before : ∀ l ∈ ls, t.node? l ≠ some .folder
  after : ∀ l ∈ ls, ∃ content, t'.node? l = some (.file content)

theorem Placed.refl (t : FileTree) : Placed t t [] :=
  ⟨rfl, fun _ _ => rfl, by simp, by simp⟩

/-- No folder comes or goes. -/
theorem Placed.sameFolders (h : Placed t t' ls) : SameFolders t t' := by
  refine ⟨h.workingFolder, fun l => ?_⟩
  by_cases hl : l ∈ ls
  · obtain ⟨content, hafter⟩ := h.after l hl
    simp [h.before l hl, hafter]
  · rw [h.other l hl]

theorem Placed.trans {ls' : List Location} (h : Placed t t' ls) (h' : Placed t' t'' ls') :
    Placed t t'' (ls ++ ls') := by
  refine ⟨h'.workingFolder.trans h.workingFolder, fun l hl => ?_, fun l hl => ?_,
    fun l hl => ?_⟩
  · rw [List.mem_append, not_or] at hl
    rw [h'.other l hl.2, h.other l hl.1]
  · rcases List.mem_append.mp hl with hl | hl
    · exact h.before l hl
    · exact mt (h.sameFolders.folder l).mpr (h'.before l hl)
  · by_cases hl' : l ∈ ls'
    · exact h'.after l hl'
    · rw [h'.other l hl']
      exact h.after l ((List.mem_append.mp hl).resolve_right hl')

/-! ### One file -/

/-- The last step of a path, and the walk to the folder in front of it. -/
theorem of_locateParent {folder : Location} {name : Text}
    (hp : t.locateParent path = .ok (folder, .entry name))
    (hslash : path.text.getLast? ≠ some '/') :
    ∃ before, refusal? path = none ∧ stepsOf path.text = before ++ [.entry name] ∧
      t.walk true maxLinks (t.start path.text) before = .ok (folder, some .folder) := by
  have htext : (path.text.reverse.dropWhile (· == '/')).reverse = path.text := by
    rcases hr : path.text.reverse with _ | ⟨c, u⟩
    · rw [List.reverse_eq_nil_iff.mp hr]
      rfl
    · have hc : c ≠ '/' := by
        rintro rfl
        exact hslash (by rw [List.getLast?_eq_head?_reverse, hr, List.head?_cons])
      rw [List.dropWhile_cons_of_neg (by simpa using hc), ← hr, List.reverse_reverse]
  rw [locateParent] at hp
  split at hp
  · exact absurd hp (by simp)
  · next hr =>
    simp only [htext] at hp
    split at hp
    · exact absurd hp (by simp)
    · next k hk =>
      obtain ⟨rfl, hstep⟩ := Prod.mk.inj (Except.ok.inj hp)
      have hlast : (stepsOf path.text).getLast? = some (.entry name) := by
        rcases hlast : (stepsOf path.text).getLast? with _ | step
        · rw [hlast] at hstep
          exact absurd hstep (by simp)
        · rw [hlast] at hstep
          exact congrArg some hstep
      obtain ⟨before, hbefore⟩ := List.getLast?_eq_some_iff.mp hlast
      rw [hbefore, List.dropLast_concat] at hk
      exact ⟨before, hr, hbefore, hk⟩
    · exact absurd hp (by simp)
    · exact absurd hp (by simp)

/-- What writing a file takes and does. -/
theorem write_cases {content : Bytes} (hw : t.write path content = .ok t') :
    ∃ l node, t.locate path = .ok (l, node) ∧ node ≠ some .folder ∧
      t' = t.set l (.file content) := by
  rw [write] at hw
  split at hw
  · exact absurd hw (by simp)
  · next l hl => exact ⟨l, none, hl, by simp, (Except.ok.inj hw).symm⟩
  · next l c hl => exact ⟨l, some (.file c), hl, by simp, (Except.ok.inj hw).symm⟩
  · exact absurd hw (by simp)

/-- What renaming a file takes and does. -/
theorem rename_cases {source target : Path} (hr : t.rename source target = .ok t') :
    ∃ origin n folder name, t.locate source false = .ok (origin, some n) ∧
      t.locateParent target = .ok (folder, .entry name) ∧ target.text.getLast? ≠ some '/' ∧
      ¬name.byteLength > maxNameBytes ∧ t.node? (folder ++ [name]) ≠ some .folder ∧
      t' = if origin = folder ++ [name] then t else (t.erase origin).set (folder ++ [name]) n := by
  rw [rename] at hr
  split at hr
  · exact absurd hr (by simp)
  · exact absurd hr (by simp)
  · exact absurd hr (by simp)
  · next origin n folder step hsource htarget =>
    split at hr
    · next name =>
      simp only at hr
      split at hr
      · exact absurd hr (by simp)
      · next hlong =>
        split at hr
        · exact absurd hr (by simp)
        · next hslash =>
          split at hr
          · exact absurd hr (by simp)
          · next hn =>
            refine ⟨origin, n, folder, name, hsource, htarget, hslash, hlong, hn, ?_⟩
            split at hr
            · next heq => rw [if_pos heq, Except.ok.inj hr]
            · next hne => rw [if_neg hne, Except.ok.inj hr]
    · exact absurd hr (by simp)

/-- What removing an entry takes and does. -/
theorem remove_cases (hr : t.remove path = .ok t') : ∃ l, t' = t.erase l := by
  rw [remove] at hr
  split at hr
  · exact absurd hr (by simp)
  · exact absurd hr (by simp)
  · exact absurd hr (by simp)
  · exact ⟨_, (Except.ok.inj hr).symm⟩

theorem edit_eq (f : FileTree → Except DiskFault FileTree) (t : FileTree) :
    edit f t = match f t with
      | .ok t' => (.ok (), t')
      | .error fault => (.error fault, t) := rfl

/-- What storing a file does to a tree. -/
theorem store_eq (stamp : Text) (f : GeneratedFile) (t : FileTree) :
    Update.store editable stamp f t =
      match t.write (Update.temporaryPath f.path stamp) (Text.encode f.content) with
      | .error fault => (.error fault, t)
      | .ok t₁ =>
        match t₁.rename (Update.temporaryPath f.path stamp) f.path with
        | .ok t₂ => (.ok (), t₂)
        | .error fault =>
          (.error fault, (t₁.remove (Update.temporaryPath f.path stamp)).toOption.getD t₁) := by
  rcases hw : t.write (Update.temporaryPath f.path stamp) (Text.encode f.content) with fault | t₁
  · simp only [Update.store, editable, edit_eq, bind, StateT.bind, hw]
    rfl
  · rcases hr : t₁.rename (Update.temporaryPath f.path stamp) f.path with fault | t₂
    · rcases hm : t₁.remove (Update.temporaryPath f.path stamp) with fault' | t₂ <;>
        simp only [Update.store, editable, edit_eq, bind, StateT.bind, hw, hr, hm] <;> rfl
    · simp only [Update.store, editable, edit_eq, bind, StateT.bind, hw, hr]
      rfl

theorem storeAll_cons (stamp : Text) (f : GeneratedFile) (fs : List GeneratedFile)
    (t : FileTree) : Update.storeAll editable stamp (f :: fs) t =
      match Update.store editable stamp f t with
      | (.error fault, t₁) => ({ written := [], fault := some (.disk fault) }, t₁)
      | (.ok (), t₁) =>
        let report := Update.storeAll editable stamp fs t₁
        ({ report.1 with written := f.path :: report.1.written }, report.2) := by
  rcases hs : Update.store editable stamp f t with ⟨fault | ⟨⟨⟩⟩, t₁⟩
  · simp only [Update.storeAll, bind, StateT.bind, hs]
    rfl
  · simp only [Update.storeAll, bind, StateT.bind, hs]
    rfl

end FileTree

end ModuleWiring
