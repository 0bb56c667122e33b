/-
The variable files of a folder, read from a tree.

* `mapM_eq_ok_iff`, `map_filter_eq_of_mapM` — what a traversal that may stop comes to, and when
  two of them come to the same;
* `files?_take` — the variable files of a folder are those of its names that are such files,
  in their order, each read by itself;
* `exists_regularFiles` — the names that a folder of a tree lists;
* `read?_of_text` — what is read under one of them.
-/
import Mathlib.Data.List.Forall2
import ModuleWiring.Project.Survey
import ModuleWiring.Proofs.Disk.File
import ModuleWiring.Proofs.Disk.Plain
import ModuleWiring.Proofs.VariableFile

namespace ModuleWiring

/-! ### Traversals -/

section Traversals

variable {ε α β γ : Type} {f f' : α → Except ε β} {xs : List α} {ys ys' : List β}

instance decidableExistsOk {x : Except ε α} {p : α → Prop} [DecidablePred p] :
    Decidable (∃ a, x = .ok a ∧ p a) :=
  match x with
  | .ok a => decidable_of_iff (p a)
      ⟨fun h => ⟨a, rfl, h⟩, fun ⟨_, h, hp⟩ => Except.ok.inj h ▸ hp⟩
  | .error _ => .isFalse fun ⟨_, h, _⟩ => nomatch h

theorem bind_eq_ok_iff {x : Except ε α} {y : β} :
    x >>= f = .ok y ↔ ∃ a, x = .ok a ∧ f a = .ok y := by
  cases x <;> simp [bind, Except.bind]

theorem mapM_eq_ok_iff :
    xs.mapM f = .ok ys ↔ List.Forall₂ (fun x y => f x = .ok y) xs ys := by
  induction xs generalizing ys with
  | nil => cases ys <;> simp [pure, Except.pure]
  | cons x xs ih =>
    rw [List.mapM_cons]
    rcases hx : f x with e | y
    · cases ys <;> simp [bind, Except.bind, hx]
    · rcases hxs : xs.mapM f with e | ys'
      · cases ys <;> simp [bind, Except.bind, ← ih, hxs, hx]
      · cases ys <;> simp [bind, Except.bind, pure, Except.pure, ← ih, hxs, hx]

/-- A traversal that stops does so at one of the elements. -/
theorem exists_of_mapM_eq_error {e : ε} (h : xs.mapM f = .error e) :
    ∃ x ∈ xs, f x = .error e := by
  induction xs with
  | nil => simp [pure, Except.pure] at h
  | cons x xs ih =>
    rw [List.mapM_cons] at h
    rcases hx : f x with e' | y
    · rw [hx] at h
      obtain rfl : e' = e := Except.error.inj h
      exact ⟨x, List.mem_cons_self, hx⟩
    · rw [hx] at h
      rcases hxs : xs.mapM f with e' | ys'
      · rw [hxs] at h
        obtain rfl : e' = e := Except.error.inj h
        obtain ⟨x', hx', he⟩ := ih hxs
        exact ⟨x', List.mem_cons_of_mem x hx', he⟩
      · rw [hxs] at h
        simp [bind, Except.bind, pure, Except.pure] at h

theorem exists_mapM_eq_ok (h : ∀ x ∈ xs, ∃ y, f x = .ok y) : ∃ ys, xs.mapM f = .ok ys := by
  rcases hxs : xs.mapM f with e | ys
  · obtain ⟨x, hx, he⟩ := exists_of_mapM_eq_error hxs
    obtain ⟨y, hy⟩ := h x hx
    rw [hy] at he
    exact absurd he (by simp)
  · exact ⟨ys, rfl⟩

theorem exists_of_mapM_eq_ok (h : xs.mapM f = .ok ys) {x : α} (hx : x ∈ xs) :
    ∃ y ∈ ys, f x = .ok y := by
  have hrel := mapM_eq_ok_iff.mp h
  induction hrel with
  | nil => exact absurd hx (by simp)
  | cons hy hrest ih =>
    rcases List.mem_cons.mp hx with rfl | hx
    · exact ⟨_, List.mem_cons_self, hy⟩
    · obtain ⟨y, hmem, hxy⟩ := ih (mapM_eq_ok_iff.mpr hrest) hx
      exact ⟨y, List.mem_cons_of_mem _ hmem, hxy⟩

/-- What is left of the results is what the elements that are left come to. -/
theorem mapM_filter {p : β → Bool} {q : α → Bool} (h : xs.mapM f = .ok ys)
    (hpq : ∀ x y, f x = .ok y → p y = q x) : (xs.filter q).mapM f = .ok (ys.filter p) := by
  rw [mapM_eq_ok_iff] at h ⊢
  induction h with
  | nil => exact .nil
  | @cons x y xs ys hxy hrest ih =>
    rw [List.filter_cons, List.filter_cons, hpq x y hxy]
    split
    · exact .cons hxy ih
    · exact ih

/-- Two traversals that come to the same at each element, as far as `g` can see. -/
theorem map_eq_of_mapM {g : β → γ} (h : xs.mapM f = .ok ys) (h' : xs.mapM f' = .ok ys')
    (hg : ∀ x ∈ xs, ∀ y y', f x = .ok y → f' x = .ok y' → g y' = g y) :
    ys'.map g = ys.map g := by
  rw [mapM_eq_ok_iff] at h h'
  induction h generalizing ys' with
  | nil =>
    cases h'
    rfl
  | @cons x y xs ys hxy hrest ih =>
    cases h' with
    | cons hxy' hrest' =>
      rw [List.map_cons, List.map_cons, hg x List.mem_cons_self _ _ hxy hxy',
        ih hrest' fun x' hx' => hg x' (List.mem_cons_of_mem x hx')]

/-- The same of what is left of two traversals, if the same elements are left. -/
theorem map_filter_eq_of_mapM {xs' : List α} {g : β → γ} {p : β → Bool} {q : α → Bool}
    (h : xs.mapM f = .ok ys) (h' : xs'.mapM f' = .ok ys')
    (hpq : ∀ x y, f x = .ok y → p y = q x) (hpq' : ∀ x y, f' x = .ok y → p y = q x)
    (hsame : xs.filter q = xs'.filter q)
    (hg : ∀ x ∈ xs'.filter q, ∀ y y', f x = .ok y → f' x = .ok y' → g y' = g y) :
    (ys'.filter p).map g = (ys.filter p).map g :=
  map_eq_of_mapM (hsame ▸ mapM_filter h hpq) (mapM_filter h' hpq') hg

end Traversals

/-! ### Reading a folder -/

namespace FolderVisit

variable {folder : Path} {name : Text}

/-- A variable file, read by itself. -/
def read? (disk : Disk Id) (folder : Path) (name : Text) : Except Fault VariableFile :=
  FileVisit.file? {
    path := folder.join ⟨name⟩
    name := name
    visit := File.visit disk Reading.visit {} (folder.join ⟨name⟩) }

theorem visitFiles_cons (disk : Disk Id) (folder : Path) (name : Text) (names : List Text) :
    visitFiles disk folder (name :: names) =
      let v : FileVisit := {
        path := folder.join ⟨name⟩
        name := name
        visit := File.visit disk Reading.visit {} (folder.join ⟨name⟩) }
      if v.visit.fault.isSome then [v] else v :: visitFiles disk folder names := by
  rw [visitFiles]
  rfl

theorem mapM_visitFiles (disk : Disk Id) (folder : Path) (names : List Text) :
    List.mapM FileVisit.file? (visitFiles disk folder names) = names.mapM (read? disk folder) := by
  induction names with
  | nil => rfl
  | cons name names ih =>
    rw [visitFiles_cons, List.mapM_cons, ← ih]
    rcases hfault : (File.visit disk Reading.visit {} (folder.join ⟨name⟩)).fault with _ | fault
    · simp [hfault, read?]
    · simp [hfault, read?, FileVisit.file?, File.Visit.content?, bind, Except.bind, Except.map]

/-- The variable files of a folder. -/
theorem files?_take (disk : Disk Id) (folder : Path) (beginning : Text) :
    (FolderVisit.take disk folder beginning).files? =
      match disk.regularFiles folder with
      | .error fault => .error (.ofReading folder fault)
      | .ok names => (VariableFile.listed beginning names).mapM (read? disk folder) := by
  rcases hnames : disk.regularFiles folder with fault | names
  · simp [FolderVisit.take, VariableFile.names, hnames, FolderVisit.files?, bind, pure]
  · have hnone : (FolderVisit.take disk folder beginning) =
        { fault := none
          files := visitFiles disk folder (VariableFile.listed beginning names) } := by
      simp [FolderVisit.take, VariableFile.names, VariableFile.listed, hnames, bind, pure]
    rw [hnone]
    exact mapM_visitFiles disk folder _

end FolderVisit

/-- A module that was found in a folder. -/
def ModuleVisit.inFolder (disk : Disk Id) (beginning name source : Text) (folder : Path) :
    ModuleVisit where
  name := name
  source := source
  folder := some (folder, FolderVisit.take disk folder beginning)

/-! ### Folders of a tree -/

namespace FileTree

open ModuleWiring.Path

variable {t : FileTree} {folder : Path} {place : Location} {name : Text} {b : Bytes}

theorem fileIn?_eq_some_iff {e : Location × FileNode} :
    fileIn? place e = some name ↔ e.1 = place ++ [name] ∧ ∃ b, e.2 = .file b := by
  obtain ⟨l, n⟩ := e
  cases n with
  | file b =>
    rw [fileIn?]
    constructor
    · intro h
      simp only at h
      split at h
      · next hplace =>
        obtain ⟨before, rfl⟩ := List.getLast?_eq_some_iff.mp h
        rw [List.dropLast_concat] at hplace
        exact ⟨hplace ▸ rfl, b, rfl⟩
      · exact absurd h (by simp)
    · rintro ⟨rfl, -⟩
      simp
  | folder => simp [fileIn?]
  | link target => simp [fileIn?]

/-- The names that a folder lists. -/
theorem exists_regularFiles (h : t.IsPlain)
    (hfolder : t.locate folder = .ok (place, some .folder)) :
    ∃ names, t.regularFiles folder = .ok names ∧ names.Nodup ∧
      ∀ name, name ∈ names ↔ ∃ b, t.node? (place ++ [name]) = some (.file b) := by
  refine ⟨t.entries.filterMap (fileIn? place), by rw [regularFiles, hfolder], ?_,
    fun name => ?_⟩
  · rw [List.Nodup, List.pairwise_filterMap]
    refine (List.pairwise_map.mp h.nodup).imp fun hne name hname name' hname' heq => hne ?_
    rw [(fileIn?_eq_some_iff.mp hname).1, (fileIn?_eq_some_iff.mp hname').1, heq]
  · rw [List.mem_filterMap, node?, if_neg (by simp)]
    constructor
    · rintro ⟨⟨l, n⟩, he, hname⟩
      obtain ⟨rfl, b, rfl⟩ := fileIn?_eq_some_iff.mp hname
      exact ⟨b, (OrderedMap.lookup_eq_some_iff h.nodup).mpr he⟩
    · rintro ⟨b, hn⟩
      exact ⟨_, (OrderedMap.lookup_eq_some_iff h.nodup).mp hn,
        fileIn?_eq_some_iff.mpr ⟨rfl, b, rfl⟩⟩

theorem refusal?_join (hname : IsName name) :
    refusal? (folder.join ⟨name⟩) ≠ some .notFound := by
  have hne : (folder.join ⟨name⟩).text ≠ [] := by
    have hstep := hname.step
    rw [Path.join, hname.isAbsolute, if_neg Bool.false_ne_true]
    split
    · intro hnil
      have hempty : folder.text ++ name = [] := hnil
      rw [(List.append_eq_nil_iff.mp hempty).2] at hstep
      exact absurd hstep (by simp [step?, isIdle])
    · simp
  rw [refusal?]
  split
  · simp
  · split
    · next hempty => exact absurd (List.isEmpty_iff.mp hempty) hne
    · split <;> simp

/-- A file that a folder lists can be read from there unless its name or its path is too
long. -/
theorem read_join_cases (h : t.IsPlain) (hfolder : t.locate folder = .ok (place, some .folder))
    (hn : t.node? (place ++ [name]) = some (.file b)) :
    (refusal? (folder.join ⟨name⟩) = none ∧ ¬name.byteLength > maxNameBytes) ∨
      ∃ fault, fault ≠ .notFound ∧ t.read (folder.join ⟨name⟩) = .error fault := by
  have hname := h.isName_of_node? hn
  rcases hr : refusal? (folder.join ⟨name⟩) with _ | fault
  · by_cases hlong : name.byteLength > maxNameBytes
    · refine .inr ⟨.nameTooLong, by simp, ?_⟩
      rw [read, locate_join h.linkFree hfolder hname hr, if_pos hlong]
    · exact .inl ⟨rfl, hlong⟩
  · refine .inr ⟨fault, fun hmissing =>
      refusal?_join hname (hr.trans (congrArg some hmissing)), ?_⟩
    rw [read, locate, hr]

theorem read_join (h : t.IsPlain) (hfolder : t.locate folder = .ok (place, some .folder))
    (hr : refusal? (folder.join ⟨name⟩) = none) (hlong : ¬name.byteLength > maxNameBytes)
    (hn : t.node? (place ++ [name]) = some (.file b)) :
    t.read (folder.join ⟨name⟩) = .ok b := by
  rw [read, locate_join h.linkFree hfolder (h.isName_of_node? hn) hr, if_neg hlong, hn]

end FileTree

namespace FolderVisit

open FileTree

variable {t : FileTree} {folder : Path} {place : Location} {name : Text} {b : Bytes}

theorem read?_eq (t : FileTree) (folder : Path) (name : Text) : read? t.disk folder name =
    match t.read (folder.join ⟨name⟩) with
    | .error fault => .error (.ofReading (folder.join ⟨name⟩) fault)
    | .ok b => (File.visitBytes Reading.visit {} b).content?.map fun content =>
        { path := folder.join ⟨name⟩, name := name, content := content } := by
  rcases hread : t.read (folder.join ⟨name⟩) with fault | b <;>
    simp [read?, File.visit, FileTree.disk, hread, FileVisit.file?, File.Visit.content?, bind, pure,
      Except.map]

theorem of_read? {disk : Disk Id} {file : VariableFile} (h : read? disk folder name = .ok file) :
    file.path = folder.join ⟨name⟩ ∧ file.name = name := by
  rw [read?, FileVisit.file?] at h
  rcases hcontent : (File.visit disk Reading.visit {} (folder.join ⟨name⟩)).content?
    with e | content
  · simp [hcontent, Except.map] at h
  · simp only [hcontent, Except.map, Except.ok.injEq] at h
    exact h ▸ ⟨rfl, rfl⟩

theorem read?_of_text {t : FileTree} {u : Text} (h : t.IsPlain)
    (hfolder : t.locate folder = .ok (place, some .folder))
    (hr : refusal? (folder.join ⟨name⟩) = none) (hlong : ¬name.byteLength > maxNameBytes)
    (hn : t.node? (place ++ [name]) = some (.file (Text.encode u))) :
    read? t.disk folder name = .ok {
      path := folder.join ⟨name⟩, name := name, content := Content.ofText u } := by
  rw [read?_eq, read_join h hfolder hr hlong hn]
  simp only [File.content?_visitBytes_encode, Except.map]

/-- A file that a folder lists is not missing. -/
theorem isMissing_of_read? {fault : Fault} (h : t.IsPlain)
    (hfolder : t.locate folder = .ok (place, some .folder))
    (hn : t.node? (place ++ [name]) = some (.file b))
    (hread : read? t.disk folder name = .error fault) : fault.isMissing = false := by
  rw [read?_eq] at hread
  rcases read_join_cases h hfolder hn with ⟨hr, hlong⟩ | ⟨e, he, hfailed⟩
  · -- what is there stores no text
    simp only [read_join h hfolder hr hlong hn] at hread
    rcases hscan : Reading.visit.scanBytes ({}, []) b with s | s
    · simp only [File.visitBytes, hscan] at hread
      obtain rfl : Fault.disk .notText = fault := Except.error.inj hread
      rfl
    · simp [File.visitBytes, hscan, File.Visit.content?, Except.map] at hread
  · rw [hfailed] at hread
    obtain rfl : Fault.ofReading (folder.join ⟨name⟩) e = fault := Except.error.inj hread
    cases e <;> first | rfl | exact absurd rfl he

end FolderVisit

end ModuleWiring
