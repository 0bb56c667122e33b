/-
Variable files that a project can have.

The contents of variable files are read from texts, and a file name stands on one
line.  What is written about such files never breaks a line:

* `ModuleFiles.AreRead`, `ModuleFiles.Assignable` — such variable files, and those that
  assignments can be written for;
* `AreRead.declaresLegibly` — the declarations in them can be written again;
* `areRead_ofTexts` — files given by their texts are such files;
* `VariableFile.sortNames_eq_of_perm`, `VariableFile.filter_sortNames` — the order of the
  files of a folder depends on nothing but their names.
-/
import ModuleWiring.Proofs.Reading.Legible
import ModuleWiring.VariableFile

namespace ModuleWiring

/-- Variable files whose contents are read from texts and whose names stand on one
line. -/
structure ModuleFiles.AreRead (files : ModuleFiles) : Prop where
  content : ∀ fs ∈ files.values, ∀ file ∈ fs, ∃ t, file.content = Content.ofText t
  nameOnLine : ∀ fs ∈ files.values, ∀ file ∈ fs, '\n' ∉ file.name

/-- Variable files that assignments can be written for: they declare identifiers, and their
names stand on one line. -/
structure ModuleFiles.Assignable (files : ModuleFiles) : Prop where
  identifier : ∀ fs ∈ files.values, ∀ file ∈ fs,
    ∀ name ∈ file.content.declarations.keys, isIdentifier name = true
  nameOnLine : ∀ fs ∈ files.values, ∀ file ∈ fs, '\n' ∉ file.name

instance (files : ModuleFiles) : Decidable files.Assignable :=
  decidable_of_iff
    ((∀ fs ∈ files.values, ∀ file ∈ fs, ∀ name ∈ file.content.declarations.keys,
      isIdentifier name = true) ∧ ∀ fs ∈ files.values, ∀ file ∈ fs, '\n' ∉ file.name)
    ⟨fun h => ⟨h.1, h.2⟩, fun h => ⟨h.identifier, h.nameOnLine⟩⟩

namespace ModuleFiles

variable {files : ModuleFiles} {name : Text} {file : VariableFile}

/-- A file of a module is one of the files that are listed. -/
theorem exists_mem_values_of_mem_of (h : file ∈ files.of name) :
    ∃ fs ∈ files.values, file ∈ fs := by
  rw [of] at h
  rcases hget : files.get? name with _ | fs
  · rw [hget] at h
    simp at h
  · rw [hget] at h
    exact ⟨fs, OrderedMap.mem_values_of_get? hget, h⟩

theorem AreRead.not_feed (hf : files.AreRead) (h : file ∈ files.of name) :
    '\n' ∉ file.name := by
  obtain ⟨fs, hfs, hfile⟩ := exists_mem_values_of_mem_of h
  exact hf.nameOnLine fs hfs file hfile

theorem AreRead.declaresLegibly (hf : files.AreRead) (h : file ∈ files.of name) :
    file.content.DeclaresLegibly := by
  obtain ⟨fs, hfs, hfile⟩ := exists_mem_values_of_mem_of h
  obtain ⟨t, ht⟩ := hf.content fs hfs file hfile
  rw [ht]
  exact Content.declaresLegibly_ofText t

theorem Assignable.isIdentifier (hf : files.Assignable) (h : file ∈ files.of name) :
    ∀ v ∈ file.content.declarations.keys, ModuleWiring.isIdentifier v = true := by
  obtain ⟨fs, hfs, hfile⟩ := exists_mem_values_of_mem_of h
  exact hf.identifier fs hfs file hfile

theorem Assignable.not_feed (hf : files.Assignable) (h : file ∈ files.of name) :
    '\n' ∉ file.name := by
  obtain ⟨fs, hfs, hfile⟩ := exists_mem_values_of_mem_of h
  exact hf.nameOnLine fs hfs file hfile

/-- The variable files of some modules, each file given by its name and its text. -/
def ofTexts (modules : List (Text × List (Text × Text))) : ModuleFiles :=
  .ofList (modules.map fun (name, files) =>
    (name, files.map fun (file, text) =>
      { path := ⟨file⟩, name := file, content := Content.ofText text }))

theorem areRead_ofTexts {modules : List (Text × List (Text × Text))}
    (h : ∀ m ∈ modules, ∀ f ∈ m.2, '\n' ∉ f.1) : (ofTexts modules).AreRead := by
  have hfile : ∀ fs ∈ (ofTexts modules).values, ∀ file ∈ fs,
      ∃ m ∈ modules, ∃ f ∈ m.2,
        file = { path := ⟨f.1⟩, name := f.1, content := Content.ofText f.2 } := by
    intro fs hfs file hm
    obtain ⟨e, he, rfl⟩ := List.mem_map.mp hfs
    obtain ⟨m, hmod, rfl⟩ := List.mem_map.mp (OrderedMap.mem_of_mem_entries_ofList he)
    obtain ⟨f, hf, rfl⟩ := List.mem_map.mp hm
    exact ⟨m, hmod, f, hf, rfl⟩
  constructor
  · intro fs hfs file hm
    obtain ⟨m, -, f, -, rfl⟩ := hfile fs hfs file hm
    exact ⟨f.2, rfl⟩
  · intro fs hfs file hm
    obtain ⟨m, hmod, f, hf, rfl⟩ := hfile fs hfs file hm
    exact h m hmod f hf

end ModuleFiles

/-! ### The order of the files of a folder -/

namespace VariableFile

theorem precedes_iff {a b : Text} :
    precedes a b = true ↔ a = usualName ∨ b ≠ usualName ∧ ¬b < a := by
  simp [precedes]

theorem precedes_total (a b : Text) : precedes a b = true ∨ precedes b a = true := by
  rw [precedes_iff, precedes_iff]
  by_cases ha : a = usualName
  · exact .inl (.inl ha)
  · by_cases hb : b = usualName
    · exact .inr (.inl hb)
    · exact (List.le_total a b).imp (fun h => .inr ⟨hb, h⟩) (fun h => .inr ⟨ha, h⟩)

theorem precedes_trans {a b c : Text} (hab : precedes a b = true) (hbc : precedes b c = true) :
    precedes a c = true := by
  rw [precedes_iff] at *
  rcases hab with ha | ⟨hb, hab⟩
  · exact .inl ha
  · obtain ⟨hc, hbc⟩ := hbc.resolve_left hb
    exact .inr ⟨hc, List.le_trans hab hbc⟩

theorem precedes_antisymm {a b : Text} (hab : precedes a b = true) (hba : precedes b a = true) :
    a = b := by
  rw [precedes_iff] at hab hba
  rcases hab with ha | ⟨hb, hab⟩
  · rcases hba with hb | ⟨hne, -⟩
    · exact ha.trans hb.symm
    · exact absurd ha hne
  · exact List.le_antisymm hab (hba.resolve_left hb).2

theorem pairwise_placeName {name : Text} {names : List Text}
    (h : names.Pairwise fun a b => precedes a b = true) :
    (placeName name names).Pairwise fun a b => precedes a b = true := by
  induction names with
  | nil => exact List.pairwise_singleton _ _
  | cons n ns ih =>
    have hn := List.pairwise_cons.mp h
    rw [placeName]
    split
    · next hle =>
      refine List.pairwise_cons.mpr ⟨fun m hm => ?_, h⟩
      rcases List.mem_cons.mp hm with rfl | hm
      · exact hle
      · exact precedes_trans hle (hn.1 m hm)
    · next hle =>
      refine List.pairwise_cons.mpr ⟨fun m hm => ?_, ih hn.2⟩
      rcases List.mem_cons.mp ((placeName_perm name ns).mem_iff.mp hm) with rfl | hm
      · exact (precedes_total m n).resolve_left hle
      · exact hn.1 m hm

theorem pairwise_sortNames (names : List Text) :
    (sortNames names).Pairwise fun a b => precedes a b = true := by
  induction names with
  | nil => exact .nil
  | cons n ns ih => exact pairwise_placeName ih

theorem eq_sortNames {names names' : List Text} (h : names.Perm names')
    (hs : names.Pairwise fun a b => precedes a b = true) : names = sortNames names' :=
  (h.trans (sortNames_perm names').symm).eq_of_pairwise
    (fun _ _ _ _ => precedes_antisymm) hs (pairwise_sortNames names')

/-- In which order the names of the files come from the disk makes no difference. -/
theorem sortNames_eq_of_perm {names names' : List Text} (h : names.Perm names') :
    sortNames names = sortNames names' :=
  eq_sortNames ((sortNames_perm names).trans h) (pairwise_sortNames names)

theorem filter_sortNames (p : Text → Bool) (names : List Text) :
    (sortNames names).filter p = sortNames (names.filter p) :=
  eq_sortNames ((sortNames_perm names).filter p) ((pairwise_sortNames names).filter p)

/-- The variable files among the names that a folder lists, in their order. -/
def listed (beginning : Text) (names : List Text) : List Text :=
  sortNames (names.filter (isName beginning))

theorem mem_listed {beginning name : Text} {names : List Text} :
    name ∈ listed beginning names ↔ name ∈ names ∧ isName beginning name = true := by
  rw [listed, (sortNames_perm _).mem_iff, List.mem_filter]

/-- Two folders that list the same names, as far as `q` can see. -/
theorem filter_listed_congr {beginning : Text} {names names' : List Text} {q : Text → Bool}
    (h : names.Nodup) (h' : names'.Nodup)
    (hmem : ∀ name, isName beginning name = true → q name = true →
      (name ∈ names ↔ name ∈ names')) :
    (listed beginning names).filter q = (listed beginning names').filter q := by
  rw [listed, listed, filter_sortNames, filter_sortNames]
  refine sortNames_eq_of_perm ((List.perm_ext_iff_of_nodup ((h.filter _).filter q)
    ((h'.filter _).filter q)).mpr fun name => ?_)
  rw [List.mem_filter, List.mem_filter, List.mem_filter, List.mem_filter]
  exact and_congr_left fun hq => and_congr_left fun hname => hmem name hname hq

end VariableFile

end ModuleWiring
