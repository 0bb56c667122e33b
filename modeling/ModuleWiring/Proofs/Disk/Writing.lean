/-
Writing files, step by step and over links.

A file takes the place of the directory entry that its path names, be it a file or a link, or
it leaves the tree as it was.  So writing several files comes to an end with the first few of
them in place and with nothing else changed, whatever the rest of the tree holds.

* `Replaceable` — an entry that a path names and a file can take the place of;
* `Spares`, `LeadApart` — temporary names spare such entries, and paths share none;
* `store_cases` — storing a file puts it in place, or it leaves the tree as it was;
* `stored_of_storeAll` — storing files puts the first of them in place, up to the one that
  fails;
* `Unused`, `NameApart` — no temporary name is in use, and paths name entries of their own;
* `Written` — a tree with files written and nothing else changed;
* `Update.write_all_or_nothing` — so writing an update is all or nothing for each file.
-/
import ModuleWiring.Proofs.Disk.Links

namespace ModuleWiring

namespace FileTree

variable {t t' t'' : FileTree} {k l : Location} {ls : List Location} {n : FileNode}
  {path : Path} {stamp : Text} {paths : List Path} {content : Bytes}
  {f : GeneratedFile} {fs : List GeneratedFile}

/-- Whether a path names an entry that a file can take the place of. -/
structure Replaceable (t : FileTree) (path : Path) (l : Location) : Prop where
  locate : t.locate path false = .ok (l, t.node? l)
  notFolder : t.node? l ≠ some .folder

theorem Replaceable.names (h : t.Replaceable path l) : t.Names path l :=
  ⟨_, h.locate⟩

theorem Replaceable.of_placed (h : Placed t t' ls) (hl : t'.Replaceable path l) :
    t.Replaceable path l := by
  rcases locate_follows h path with hsame | ⟨k, hk, hbefore, hafter⟩ | ⟨hstuck, -⟩
  · have hlocate := hsame ▸ hl.locate
    have hnode := (node_of_locate hlocate hl.notFolder).1
    exact ⟨hnode ▸ hlocate, hnode ▸ hl.notFolder⟩
  · rw [hl.locate] at hafter
    obtain ⟨rfl, -⟩ := Prod.mk.inj (Except.ok.inj hafter)
    exact ⟨hbefore, h.before l hk⟩
  · rw [hl.locate] at hstuck
    exact absurd hstuck (by simp)

/-- Whether nothing is at the temporary name of a file, which leads to none of the entries that
are to be replaced.  A folder there stays, and the file is not written. -/
def Spares (t : FileTree) (stamp : Text) (paths : List Path) (path : Path) : Prop :=
  ∀ l, t.Replaceable (Update.temporaryPath path stamp) l →
    t.node? l = none ∧ ∀ p ∈ paths, ¬t.Replaceable p l

/-- Whether no entry that a file can take the place of is named by two paths. -/
def LeadApart (t : FileTree) (paths : List Path) : Prop :=
  paths.Pairwise fun p q => ∀ l, t.Replaceable p l → ¬t.Replaceable q l

theorem spares_of_locate
    (hl : t.locate (Update.temporaryPath path stamp) false = .ok (l, none))
    (hfree : ∀ p ∈ paths, ¬t.Replaceable p l) : t.Spares stamp paths path := by
  intro k hk
  obtain ⟨rfl, hnone⟩ := Prod.mk.inj (Except.ok.inj (hk.locate.symm.trans hl))
  exact ⟨hnone, hfree⟩

/-- A temporary name still spares what it spared, when files have been put at other entries. -/
theorem Spares.of_placed (h : Placed t t' ls)
    (hls : ∀ l ∈ ls, ∃ p ∈ paths, t.Replaceable p l)
    (hspares : t.Spares stamp paths path) : t'.Spares stamp paths path := by
  intro l hl
  obtain ⟨hnone, hfree⟩ := hspares l (hl.of_placed h)
  have hother : l ∉ ls := by
    intro hmem
    obtain ⟨p, hp, hreplaceable⟩ := hls l hmem
    exact hfree p hp hreplaceable
  exact ⟨(h.other l hother).trans hnone, fun p hp hp' => hfree p hp (hp'.of_placed h)⟩

theorem LeadApart.of_placed (h : Placed t t' ls) (hapart : t.LeadApart paths) :
    t'.LeadApart paths :=
  hapart.imp fun hpq l hp hq => hpq l (hp.of_placed h) (hq.of_placed h)

/-! ### One file -/

theorem erase_set (hl : l ≠ []) (hn : t.node? l = none) : (t.set l n).erase l = t := by
  rw [node?, if_neg hl, List.lookup_eq_none_iff] at hn
  have habsent : ∀ e ∈ t.entries, e.1 ≠ l := fun e he =>
    (by simpa using hn e he : l ≠ e.1).symm
  have hput : OrderedMap.put l n t.entries = t.entries ++ [(l, n)] := by
    refine OrderedMap.put_of_not_mem n fun hmem => ?_
    obtain ⟨e, he, rfl⟩ := List.mem_map.mp hmem
    exact habsent e he rfl
  have hfilter : t.entries.filter (fun e => e.1 ≠ l) = t.entries :=
    List.filter_eq_self.mpr fun e he => by simpa using habsent e he
  rw [erase, set]
  simp only [hput, List.filter_append, hfilter]
  simp

theorem placed_of_set (hl : l ≠ []) (hn : t.node? l ≠ some .folder) :
    Placed t (t.set l (.file content)) [l] := by
  refine ⟨rfl, fun k hk => ?_, ?_, ?_⟩
  · by_cases hkNil : k = []
    · simp [node?, hkNil]
    · rw [node?_set hkNil, if_neg (by simpa using hk)]
  · simpa using hn
  · simp [node?_set hl]

/-- Where nothing can be replaced, a file comes to be at the very entry that its path names. -/
theorem write_of_free (hfree : ∀ l, t.Replaceable path l → t.node? l = none)
    (hw : t.write path content = .ok t') :
    ∃ l, t.Replaceable path l ∧ t.locate path false = .ok (l, none) ∧
      t' = t.set l (.file content) := by
  obtain ⟨l, node, hl, hnode, rfl⟩ := write_cases hw
  rcases locate_true_or t path with hsame | ⟨k, target, hlink⟩
  · rw [hsame] at hl
    obtain rfl := (node_of_locate hl hnode).1
    have hreplaceable : t.Replaceable path l := ⟨hl, hnode⟩
    exact ⟨l, hreplaceable, hfree l hreplaceable ▸ hl, rfl⟩
  · -- a link at the end of the path could be replaced
    have hnode' := (node_of_locate hlink (by simp)).1
    have hnone := hfree k ⟨hnode' ▸ hlink, by simp [← hnode']⟩
    exact absurd (hnode'.trans hnone) (by simp)

/-- A path that named nothing names the file that is put there. -/
theorem locate_set (hl : t.locate path false = .ok (l, none)) (content : Bytes) :
    (t.set l (.file content)).locate path false = .ok (l, some (.file content)) := by
  obtain ⟨hnone, hlNil⟩ := node_of_locate hl (by simp)
  have hplaced : Placed t (t.set l (.file content)) [l] :=
    placed_of_set hlNil (by simp [← hnone])
  have hnode : (t.set l (.file content)).node? l = some (.file content) := by
    rw [node?_set hlNil, if_pos rfl]
  rcases locate_follows hplaced path with hsame | ⟨k, -, hbefore, hafter⟩ | ⟨-, hstuck⟩
  · -- that nothing is there still is not possible
    rw [hl] at hsame
    have hnode' := (node_of_locate hsame (by simp)).1
    rw [hnode] at hnode'
    exact absurd hnode' (by simp)
  · rw [hl] at hbefore
    obtain ⟨rfl, -⟩ := Prod.mk.inj (Except.ok.inj hbefore)
    rw [hafter, hnode]
  · rcases hstuck with ⟨fault, hfault⟩ | ⟨k, hk, target, hlink⟩
    · rw [hl] at hfault
      exact absurd hfault (by simp)
    · obtain rfl := List.mem_singleton.mp hk
      rw [hlink] at hnone
      exact absurd hnone (by simp)

/-- **Storing a file** puts it in the place of the entry that its path names, or it leaves the
tree as it was. -/
theorem store_cases (hspares : t.Spares stamp paths f.path) (hf : f.path ∈ paths) :
    (∃ fault, Update.store editable stamp f t = (.error fault, t)) ∨
      ∃ t' l, Update.store editable stamp f t = (.ok (), t') ∧ t.Replaceable f.path l ∧
        Placed t t' [l] ∧ t'.node? l = some (.file (Text.encode f.content)) := by
  rw [store_eq]
  rcases hwrite : t.write (Update.temporaryPath f.path stamp) (Text.encode f.content) with
    fault | t₁
  · exact .inl ⟨fault, rfl⟩
  -- the file is first at its temporary name, where nothing was
  obtain ⟨origin, htemporary, horigin, rfl⟩ :=
    write_of_free (fun l hl => (hspares l hl).1) hwrite
  obtain ⟨hnone, horiginNil⟩ := node_of_locate horigin (by simp)
  have hmoved := locate_set horigin (Text.encode f.content)
  have hplaced : Placed t (t.set origin (.file (Text.encode f.content))) [origin] :=
    placed_of_set horiginNil (by simp [← hnone])
  dsimp only
  rcases hrename : (t.set origin (.file (Text.encode f.content))).rename
    (Update.temporaryPath f.path stamp) f.path with fault | t₂
  · -- what cannot be renamed is removed again
    refine .inl ⟨fault, ?_⟩
    simp only [remove, hmoved, erase_set horiginNil hnone.symm]
    rfl
  · obtain ⟨origin', n, folder, name, hsource, htarget, hslash, hlong, hn, rfl⟩ :=
      rename_cases hrename
    rw [hmoved] at hsource
    obtain ⟨rfl, hnode⟩ := Prod.mk.inj (Except.ok.inj hsource)
    obtain rfl := Option.some.inj hnode
    have hl : t.Replaceable f.path (folder ++ [name]) :=
      .of_placed hplaced ⟨locate_of_locateParent htarget hslash hlong hn, hn⟩
    have hne : origin ≠ folder ++ [name] := fun heq =>
      (hspares origin htemporary).2 f.path hf (heq ▸ hl)
    -- nothing is left of the temporary name
    rw [if_neg hne, erase_set horiginNil hnone.symm]
    exact .inr ⟨_, folder ++ [name], rfl, hl, placed_of_set (by simp) hl.notFolder,
      by simp [node?_set]⟩

/-! ### Several files -/

/-- A tree with files put in place at the entries that their paths name. -/
structure Stored (t t' : FileTree) (fs : List GeneratedFile) (ls : List Location) : Prop where
  placed : Placed t t' ls
  file : ∀ f ∈ fs, ∃ l ∈ ls, t.Replaceable f.path l ∧
    t'.node? l = some (.file (Text.encode f.content))
  replaced : ∀ l ∈ ls, ∃ f ∈ fs, t.Replaceable f.path l

/-- A tree with files written and nothing else changed.  A path ends at a file on its way, if
that has taken the place of a link. -/
structure Written (t t' : FileTree) (fs : List GeneratedFile) : Prop where
  entry : ∀ f ∈ fs, ∃ l, t.Names f.path l ∧
    t'.node? l = some (.file (Text.encode f.content))
  path : ∀ f ∈ fs, t'.read f.path = .ok (Text.encode f.content) ∨
    t'.read f.path = .error .notFolder ∧
      ∃ g ∈ fs, ∃ l target, t.Names g.path l ∧ t.node? l = some (.link target)
  other : ∀ l, (∀ f ∈ fs, ¬t.Names f.path l) → t'.node? l = t.node? l

/-- What a path without a link at its end leads to. -/
theorem locate_of_no_link (hl : t.locate path false = .ok (l, some (.file content))) :
    t.locate path = .ok (l, some (.file content)) := by
  rcases locate_true_or t path with hsame | ⟨k, target, hlink⟩
  · rw [hsame, hl]
  · rw [hl] at hlink
    exact absurd hlink (by simp)

theorem Stored.written (h : Stored t t' fs ls) : Written t t' fs := by
  refine ⟨fun f hf => ?_, fun f hf => ?_, fun l hl => ?_⟩
  · obtain ⟨l, -, hreplaceable, hfile⟩ := h.file f hf
    exact ⟨l, hreplaceable.names, hfile⟩
  · obtain ⟨l, -, hreplaceable, hfile⟩ := h.file f hf
    have hread : t'.locate f.path false = .ok (l, t'.node? l) →
        t'.read f.path = .ok (Text.encode f.content) := by
      intro hl
      rw [read, locate_of_no_link (hl.trans (by rw [hfile]))]
    rcases locate_follows h.placed f.path with
      hsame | ⟨k, -, hbefore, hafter⟩ | ⟨hafter, hstuck⟩
    · rw [hreplaceable.locate] at hsame
      exact .inl (hread (hsame.trans (by rw [← (node_of_locate hsame hreplaceable.notFolder).1])))
    · rw [hreplaceable.locate] at hbefore
      obtain ⟨rfl, -⟩ := Prod.mk.inj (Except.ok.inj hbefore)
      exact .inl (hread hafter)
    · rcases hstuck with ⟨fault, hfault⟩ | ⟨k, hk, target, hlink⟩
      · rw [hreplaceable.locate] at hfault
        exact absurd hfault (by simp)
      · obtain ⟨g, hg, hreplaced⟩ := h.replaced k hk
        refine .inr ⟨?_, g, hg, k, target, hreplaced.names, hlink⟩
        rcases locate_true_or t' f.path with hsame | ⟨k', target', hlink'⟩
        · rw [read, hsame, hafter]
        · rw [hafter] at hlink'
          exact absurd hlink' (by simp)
  · refine h.placed.other l fun hmem => ?_
    obtain ⟨f, hf, hreplaced⟩ := h.replaced l hmem
    exact hl f hf hreplaced.names

/-- One more file in front. -/
theorem Stored.cons (hl : t.Replaceable f.path l) (hplaced : Placed t t' [l])
    (hfile : t'.node? l = some (.file (Text.encode f.content))) (h : Stored t' t'' fs ls)
    (hapart : ∀ g ∈ fs, ¬t.Replaceable g.path l) : Stored t t'' (f :: fs) ([l] ++ ls) := by
  have hreplaced : ∀ k ∈ ls, ∃ g ∈ fs, t.Replaceable g.path k := by
    intro k hk
    obtain ⟨g, hg, hgk⟩ := h.replaced k hk
    exact ⟨g, hg, hgk.of_placed hplaced⟩
  refine ⟨hplaced.trans h.placed, fun g hg => ?_, fun k hk => ?_⟩
  · rcases List.mem_cons.mp hg with rfl | hg
    · -- no later file is put where this one is
      refine ⟨l, by simp, hl, ?_⟩
      rw [h.placed.other l, hfile]
      intro hmem
      obtain ⟨g', hg', hg'l⟩ := hreplaced l hmem
      exact hapart g' hg' hg'l
    · obtain ⟨k, hk, hreplaceable, hgfile⟩ := h.file g hg
      exact ⟨k, List.mem_append_right _ hk, hreplaceable.of_placed hplaced, hgfile⟩
  · rcases List.mem_append.mp hk with hk | hk
    · obtain rfl := List.mem_singleton.mp hk
      exact ⟨f, List.mem_cons_self, hl⟩
    · obtain ⟨g, hg, hgk⟩ := hreplaced k hk
      exact ⟨g, List.mem_cons_of_mem f hg, hgk⟩

/-- **Storing files** puts the first of them in place, up to the one that fails. -/
theorem stored_of_storeAll {report : WriteReport}
    (hspares : ∀ f ∈ fs, t.Spares stamp paths f.path) (hpaths : ∀ f ∈ fs, f.path ∈ paths)
    (hapart : t.LeadApart (fs.map GeneratedFile.path))
    (hstore : Update.storeAll editable stamp fs t = (report, t')) :
    ∃ done rest ls, fs = done ++ rest ∧ report.written = done.map GeneratedFile.path ∧
      (report.fault = none ↔ rest = []) ∧ Stored t t' done ls := by
  induction fs generalizing t report with
  | nil =>
    obtain ⟨rfl, rfl⟩ := Prod.mk.inj hstore
    exact ⟨[], [], [], rfl, rfl, by simp, .refl t, by simp, by simp⟩
  | cons f fs ih =>
    rw [List.map_cons, LeadApart, List.pairwise_cons] at hapart
    have hf := hpaths f List.mem_cons_self
    rw [storeAll_cons] at hstore
    rcases store_cases (hspares f List.mem_cons_self) hf with
      ⟨fault, hfirst⟩ | ⟨t₁, l, hfirst, hl, hplaced, hfile⟩
    · rw [hfirst] at hstore
      obtain ⟨rfl, rfl⟩ := Prod.mk.inj hstore
      exact ⟨[], f :: fs, [], rfl, rfl, by simp, .refl t, by simp, by simp⟩
    · rw [hfirst] at hstore
      obtain ⟨rfl, htree⟩ := Prod.mk.inj hstore
      have hreplaced : ∀ k ∈ [l], ∃ p ∈ paths, t.Replaceable p k := by
        simpa using ⟨f.path, hf, hl⟩
      obtain ⟨done, rest, ls, rfl, hwritten, hok, hstored⟩ := ih
        (fun g hg => (hspares g (List.mem_cons_of_mem f hg)).of_placed hplaced hreplaced)
        (fun g hg => hpaths g (List.mem_cons_of_mem f hg))
        (LeadApart.of_placed hplaced hapart.2) (Prod.ext rfl htree)
      refine ⟨f :: done, rest, [l] ++ ls, rfl, by rw [hwritten, List.map_cons], hok,
        .cons hl hplaced hfile hstored fun g hg => ?_⟩
      have hmem : g.path ∈ (done ++ rest).map GeneratedFile.path :=
        List.mem_map_of_mem (List.mem_append_left rest hg)
      exact hapart.1 g.path hmem l hl

/-! ### Entries of their own -/

/-- Whether nothing is at the temporary name of a file, which names none of the entries that
the given paths do. -/
def Unused (t : FileTree) (stamp : Text) (paths : List Path) (path : Path) : Prop :=
  ∀ l node, t.locate (Update.temporaryPath path stamp) false = .ok (l, node) →
    node = none ∧ ∀ p ∈ paths, ¬t.Names p l

/-- Whether paths name entries of their own. -/
def NameApart (t : FileTree) (paths : List Path) : Prop :=
  paths.Pairwise fun p q => ∀ l, t.Names p l → ¬t.Names q l

theorem Unused.spares (h : t.Unused stamp paths path) : t.Spares stamp paths path := by
  intro l hl
  obtain ⟨hnone, hfree⟩ := h l _ hl.locate
  exact ⟨hnone, fun p hp hp' => hfree p hp hp'.names⟩

theorem NameApart.leadApart (h : t.NameApart paths) : t.LeadApart paths :=
  h.imp fun hpq l hp hq => hpq l hp.names hq.names

/-- Two paths that lead to different locations, both not to the temporary name. -/
theorem unused_pair {p q : Path} {k' : Location} {node node' : Option FileNode}
    (hl : t.locate (Update.temporaryPath path stamp) false = .ok (l, none))
    (hp : t.locate p false = .ok (k, node)) (hq : t.locate q false = .ok (k', node'))
    (hne : l ≠ k ∧ l ≠ k') : t.Unused stamp [p, q] path := by
  intro m node hm
  rw [hl] at hm
  obtain ⟨rfl, rfl⟩ := Prod.mk.inj (Except.ok.inj hm)
  refine ⟨rfl, fun r hr => ?_⟩
  rcases List.mem_pair.mp hr with rfl | rfl
  · rw [names_iff_of_locate hp]
    exact hne.1
  · rw [names_iff_of_locate hq]
    exact hne.2

theorem nameApart_pair {p q : Path} {k' : Location} {node node' : Option FileNode}
    (hp : t.locate p false = .ok (k, node)) (hq : t.locate q false = .ok (k', node'))
    (hne : k ≠ k') : t.NameApart [p, q] := by
  refine List.pairwise_pair.mpr fun l hl hl' => ?_
  rw [names_iff_of_locate hp] at hl
  rw [names_iff_of_locate hq] at hl'
  exact hne (hl.symm.trans hl')

end FileTree

open FileTree

/-- **Writing an update** is all or nothing for each file, and it touches nothing else. -/
theorem Update.write_all_or_nothing {t t' : FileTree} {stamp : Text} {u : Update}
    {report : WriteReport}
    (hunused : ∀ f ∈ u.changed, t.Unused stamp (u.changed.map GeneratedFile.path) f.path)
    (hapart : t.NameApart (u.changed.map GeneratedFile.path))
    (hwrite : Update.write editable stamp u t = (report, t')) :
    (report.fault = none →
      report.written = u.changed.map GeneratedFile.path ∧ Written t t' u.changed) ∧
    (report.fault ≠ none → ∃ done f rest, u.changed = done ++ f :: rest ∧
      report.written = done.map GeneratedFile.path ∧ Written t t' done ∧
      ∀ g ∈ f :: rest, ∀ l, t.Names g.path l → t'.node? l = t.node? l) ∧
    ∀ f ∈ u.changed, ∀ l, t.Names (Update.temporaryPath f.path stamp) l →
      t'.node? l = none := by
  obtain ⟨done, rest, ls, hchanged, hwritten, hok, hstored⟩ :=
    stored_of_storeAll (fun f hf => (hunused f hf).spares)
      (fun f hf => List.mem_map_of_mem hf) hapart.leadApart hwrite
  refine ⟨fun hfault => ?_, fun hfault => ?_, fun f hf l hl => ?_⟩
  · obtain rfl := hok.mp hfault
    rw [List.append_nil] at hchanged
    exact hchanged ▸ ⟨hwritten, hstored.written⟩
  · obtain ⟨f, rest, rfl⟩ := List.exists_cons_of_ne_nil (mt hok.mpr hfault)
    refine ⟨done, f, rest, hchanged, hwritten, hstored.written, fun g hg l hl => ?_⟩
    rw [hchanged, List.map_append, NameApart, List.pairwise_append] at hapart
    exact hstored.written.other l fun f' hf' hnames => hapart.2.2 f'.path
      (List.mem_map_of_mem hf') g.path (List.mem_map_of_mem hg) l hnames hl
  · obtain ⟨node, hlocate⟩ := hl
    obtain ⟨rfl, hfree⟩ := hunused f hf l node hlocate
    have hmem : ∀ g ∈ done, g.path ∈ u.changed.map GeneratedFile.path := fun g hg =>
      hchanged ▸ List.mem_map_of_mem (List.mem_append_left rest hg)
    rw [hstored.written.other l fun g hg => hfree g.path (hmem g hg)]
    exact ((node_of_locate hlocate (by simp)).1).symm

/-- Two files, one at a link and the other at a folder. -/
def Update.linkAndFolder : Update where
  files := [
    { path := ⟨"a".toList⟩, current := none, content := "new".toList },
    { path := ⟨"b".toList⟩, current := none, content := "new".toList }]

def FileTree.withLinkAndFolder : FileTree where
  entries := [
    (["a".toList], .link "c".toList),
    (["b".toList], .folder),
    (["c".toList], .file (Text.encode "old".toList))]

theorem Update.write_all_or_nothing_linkAndFolder : ∃ t' done f rest,
    Update.write editable "0".toList linkAndFolder withLinkAndFolder =
      ({ written := [⟨"a".toList⟩], fault := some (.disk .isFolder) }, t') ∧
    linkAndFolder.changed = done ++ f :: rest ∧
    [⟨"a".toList⟩] = done.map GeneratedFile.path ∧ Written withLinkAndFolder t' done := by
  have hpaths : linkAndFolder.changed.map GeneratedFile.path =
    [⟨"a".toList⟩, ⟨"b".toList⟩] := by decide
  have ha : withLinkAndFolder.locate ⟨"a".toList⟩ false =
    .ok (["a".toList], some (.link "c".toList)) := rfl
  have hb : withLinkAndFolder.locate ⟨"b".toList⟩ false =
    .ok (["b".toList], some .folder) := rfl
  have hunused : ∀ f ∈ linkAndFolder.changed,
      withLinkAndFolder.Unused "0".toList
        (linkAndFolder.changed.map GeneratedFile.path) f.path := by
    intro f hf
    have hpath := List.mem_map_of_mem hf (f := GeneratedFile.path)
    rw [hpaths] at hpath ⊢
    rcases List.mem_pair.mp hpath with hpath | hpath <;> rw [hpath]
    · exact unused_pair (l := [".a.tmp-0".toList]) rfl ha hb (by decide)
    · exact unused_pair (l := [".b.tmp-0".toList]) rfl ha hb (by decide)
  have hapart : withLinkAndFolder.NameApart (linkAndFolder.changed.map GeneratedFile.path) :=
    hpaths ▸ nameApart_pair ha hb (by decide)
  have hreport : (Update.write editable "0".toList linkAndFolder withLinkAndFolder).1 =
      { written := [⟨"a".toList⟩], fault := some (.disk .isFolder) } := by
    decide +kernel
  obtain ⟨-, hfault, -⟩ := Update.write_all_or_nothing hunused hapart (Prod.ext hreport rfl)
  obtain ⟨done, f, rest, hchanged, hwritten, htree, -⟩ := hfault (by simp)
  exact ⟨_, done, f, rest, Prod.ext hreport rfl, hchanged, hwritten, htree⟩

/-- A file behind a link, and one that takes the place of that link. -/
def Update.behindLink : Update where
  files := [
    { path := ⟨"a/b".toList⟩, current := none, content := "new".toList },
    { path := ⟨"a".toList⟩, current := none, content := "new".toList }]

def FileTree.withLink : FileTree where
  entries := [
    (["a".toList], .link "c".toList),
    (["c".toList], .folder)]

/-- The two paths name entries of their own, and both files are written.  But only the entry
holds the first one: its path ends at the other file. -/
theorem Update.write_blocks_path :
    (∀ f ∈ behindLink.changed,
      withLink.Unused "0".toList (behindLink.changed.map GeneratedFile.path) f.path) ∧
    withLink.NameApart (behindLink.changed.map GeneratedFile.path) ∧
    ∃ t', Update.write editable "0".toList behindLink withLink =
      ({ written := behindLink.changed.map GeneratedFile.path, fault := none }, t') ∧
      ∃ f ∈ behindLink.changed, t'.read f.path ≠ .ok (Text.encode f.content) := by
  have hpaths : behindLink.changed.map GeneratedFile.path =
    [⟨"a/b".toList⟩, ⟨"a".toList⟩] := by decide
  have hbehind : withLink.locate ⟨"a/b".toList⟩ false =
    .ok (["c".toList, "b".toList], none) := rfl
  have hlink : withLink.locate ⟨"a".toList⟩ false =
    .ok (["a".toList], some (.link "c".toList)) := rfl
  refine ⟨fun f hf => ?_, hpaths ▸ nameApart_pair hbehind hlink (by decide), _,
    Prod.ext (by decide +kernel) rfl, by decide +kernel⟩
  have hpath := List.mem_map_of_mem hf (f := GeneratedFile.path)
  rw [hpaths] at hpath ⊢
  rcases List.mem_pair.mp hpath with hpath | hpath <;> rw [hpath]
  · exact unused_pair (l := ["c".toList, ".b.tmp-0".toList]) rfl hbehind hlink (by decide)
  · exact unused_pair (l := [".a.tmp-0".toList]) rfl hbehind hlink (by decide)

end ModuleWiring
