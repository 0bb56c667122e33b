/-
Disks without links.

On a disk without links every entry is listed once, under a name that paths can name, and that
does not change when files are stored.  A path names an entry there exactly when it leads to
it, so what storing files does is said of where their paths lead.

* `IsPlain` — a tree as such a disk holds it;
* `IsPlain.storeAll` — storing files leaves it such a tree, whatever comes of it;
* `replaceable_iff` — the entries that a file can take the place of;
* `placed_of_storeAll` — where stored files are, and that nothing else has changed.
-/
import ModuleWiring.Proofs.Disk.Writing

namespace ModuleWiring.FileTree

open ModuleWiring.Path

variable {t t' : FileTree} {l : Location} {n : FileNode} {path : Path} {stamp : Text}
  {f : GeneratedFile} {fs : List GeneratedFile}

/-- A tree as disks without links hold it: what is at a location is listed once, under a
name. -/
structure IsPlain (t : FileTree) : Prop where
  linkFree : t.LinkFree
  nodup : (t.entries.map Prod.fst).Nodup
  isName : ∀ e ∈ t.entries, ∀ name ∈ e.1.getLast?, IsName name

theorem IsPlain.isName_of_node? {folder : Location} {name : Text} (h : t.IsPlain)
    (hn : t.node? (folder ++ [name]) = some n) : IsName name :=
  h.isName _ (mem_entries_of_node? (by simp) hn) name (by simp)

theorem mem_entries_set {e : Location × FileNode} (h : e ∈ (t.set l n).entries) :
    e = (l, n) ∨ e ∈ t.entries :=
  OrderedMap.mem_put h

theorem IsPlain.set (h : t.IsPlain) (hn : ∀ target, n ≠ .link target)
    (hname : ∀ name ∈ l.getLast?, IsName name) : (t.set l n).IsPlain := by
  refine ⟨fun e he => ?_, ?_, fun e he => ?_⟩
  · rcases mem_entries_set he with rfl | he
    · exact hn
    · exact h.linkFree e he
  · exact OrderedMap.nodup_put h.nodup l n
  · rcases mem_entries_set he with rfl | he
    · exact hname
    · exact h.isName e he

theorem IsPlain.erase (h : t.IsPlain) (l : Location) : (t.erase l).IsPlain := by
  have hsub : (t.erase l).entries.Sublist t.entries := List.filter_sublist
  exact ⟨fun e he => h.linkFree e (hsub.subset he), h.nodup.sublist (hsub.map Prod.fst),
    fun e he => h.isName e (hsub.subset he)⟩

/-! ### Storing files -/

namespace IsPlain

theorem write {content : Bytes} (h : t.IsPlain) (hw : t.write path content = .ok t') :
    t'.IsPlain := by
  obtain ⟨l, node, hl, hnode, rfl⟩ := write_cases hw
  obtain ⟨place, name, hentry, hname, -⟩ :=
    (namesEntry_of_locate h.linkFree hl hnode).2.exists_name h.linkFree
  exact h.set (by simp) (by simpa [hentry] using hname)

theorem rename {source target : Path} (h : t.IsPlain) (hr : t.rename source target = .ok t') :
    t'.IsPlain := by
  obtain ⟨origin, n, folder, name, hsource, htarget, hslash, -, -, rfl⟩ := rename_cases hr
  split
  · exact h
  · refine (h.erase origin).set ?_ ?_
    · rintro target rfl
      exact h.linkFree.node?_ne (node_of_locate hsource (by simp)).1.symm
    · obtain ⟨before, -, hsteps, -⟩ := of_locateParent htarget hslash
      have hmem : .entry name ∈ stepsOf target.text := by simp [hsteps]
      simpa using isName_of_mem_stepsOf hmem

theorem remove (h : t.IsPlain) (hr : t.remove path = .ok t') : t'.IsPlain := by
  obtain ⟨l, rfl⟩ := remove_cases hr
  exact h.erase l

theorem store {result : Except DiskFault Unit} (h : t.IsPlain)
    (hstore : Update.store editable stamp f t = (result, t')) : t'.IsPlain := by
  rw [store_eq] at hstore
  split at hstore
  · obtain ⟨-, rfl⟩ := Prod.mk.inj hstore
    exact h
  · next t₁ hwrite =>
    have h₁ := h.write hwrite
    split at hstore
    · next t₂ hrename =>
      obtain ⟨-, rfl⟩ := Prod.mk.inj hstore
      exact h₁.rename hrename
    · obtain ⟨-, rfl⟩ := Prod.mk.inj hstore
      rcases hremove : t₁.remove (Update.temporaryPath f.path stamp) with fault | t₂
      · exact h₁
      · exact h₁.remove hremove

/-- Storing files leaves a tree without links such a tree, also if one of them fails. -/
theorem storeAll {report : WriteReport} (h : t.IsPlain)
    (hstore : Update.storeAll editable stamp fs t = (report, t')) : t'.IsPlain := by
  induction fs generalizing t report with
  | nil =>
    obtain ⟨-, rfl⟩ := Prod.mk.inj hstore
    exact h
  | cons f fs ih =>
    rw [storeAll_cons] at hstore
    split at hstore
    · next hfirst =>
      obtain ⟨-, rfl⟩ := Prod.mk.inj hstore
      exact h.store hfirst
    · next hfirst =>
      exact ih (h.store hfirst) (Prod.ext rfl (Prod.mk.inj hstore).2)

end IsPlain

/-- Without links, an entry that a file can take the place of is one that a path leads to. -/
theorem replaceable_iff (h : t.LinkFree) : t.Replaceable path l ↔ t.NamesEntry path l := by
  have hlocate : t.locate path false = .ok (l, t.node? l) ↔ t.locate path = .ok (l, t.node? l) :=
    (locate_eq_ok_iff h).trans (locate_eq_ok_iff h).symm
  exact ⟨fun hl => ⟨hlocate.mp hl.locate, hl.notFolder⟩,
    fun hl => ⟨hlocate.mpr hl.locate, hl.notFolder⟩⟩

/-- **Storing files** on a disk without links puts each of them at the location that its path
leads to and changes nothing else. -/
theorem placed_of_storeAll {report : WriteReport} (h : t.IsPlain)
    (hspares : ∀ f ∈ fs, t.Spares stamp (fs.map GeneratedFile.path) f.path)
    (hapart : t.LeadApart (fs.map GeneratedFile.path))
    (hstore : Update.storeAll editable stamp fs t = (report, t')) (hok : report.fault = none) :
    t'.IsPlain ∧ ∃ ls, Placed t t' ls ∧
      (∀ l ∈ ls, ∃ f ∈ fs, t.NamesEntry f.path l) ∧
      ∀ f ∈ fs, ∃ l, t.NamesEntry f.path l ∧
        t'.node? l = some (.file (Text.encode f.content)) := by
  obtain ⟨done, rest, ls, rfl, -, hrest, hstored⟩ :=
    stored_of_storeAll hspares (fun f hf => List.mem_map_of_mem hf) hapart hstore
  obtain rfl := hrest.mp hok
  rw [List.append_nil]
  refine ⟨h.storeAll hstore, ls, hstored.placed, fun l hl => ?_, fun f hf => ?_⟩
  · obtain ⟨f, hf, hl⟩ := hstored.replaced l hl
    exact ⟨f, hf, (replaceable_iff h.linkFree).mp hl⟩
  · obtain ⟨l, -, hl, hfile⟩ := hstored.file f hf
    exact ⟨l, (replaceable_iff h.linkFree).mp hl, hfile⟩

end ModuleWiring.FileTree
