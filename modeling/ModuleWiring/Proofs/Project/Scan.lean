/-
What a scan comes to.

A scan needs a main file that is closed and calls a module, and all variable files of the
modules that it calls.  Of a call site only the name and the source matter.

* `Found` — whether a file is there, or at least no other fault than that it is missing;
* `Scans` — what is found on a disk;
* `scan_eq_ok_iff` — a scan gives the project that is made of what is found.
-/
import ModuleWiring.Proofs.MainFile.Outline
import ModuleWiring.Proofs.Project.Folder
import ModuleWiring.Proofs.Survey

namespace ModuleWiring

namespace Survey

/-- What is read of a file that may be missing. -/
inductive Found : Except Fault Text → Option Text → Prop
  | there (u : Text) : Found (.ok u) (some u)
  | missing {fault : Fault} (h : fault.isMissing = true) : Found (.error fault) none

theorem Found.unique {found : Except Fault Text} {i j : Option Text} (hi : Found found i)
    (hj : Found found j) : i = j := by
  cases hi <;> cases hj <;> rfl

variable {options : Options} {main inherited : Except Fault Text}

/-- What is read of a file, if it is not unreadable. -/
theorem exists_found (found : Except Fault Text) :
    (∃ i, Found found i) ∨ ∃ fault, found = .error fault ∧ fault.isMissing = false := by
  rcases found with fault | u
  · cases hmissing : fault.isMissing with
    | false => exact .inr ⟨fault, rfl, hmissing⟩
    | true => exact .inl ⟨none, .missing hmissing⟩
  · exact .inl ⟨some u, .there u⟩

theorem Found.isMissing {found : Except Fault Text} {i : Option Text} (h : Found found i) :
    ∀ fault, found = .error fault → fault.isMissing = true := by
  rintro fault rfl
  cases h with
  | missing hmissing => exact hmissing

theorem start?_of_found {u : Text} {i : Option Text} (hfound : Found inherited i)
    (hclosed : (Content.ofText u).unclosed = none) :
    start? options (.ok u) inherited =
      if (Content.ofText u).callSites.isEmpty then .error (.noCallSite options.mainPath)
      else .ok ({ path := options.mainPath, text := u, content := Content.ofText u },
        i.map fun v => {
          path := options.inheritedPath, text := v, content := Content.ofText v }) := by
  cases hfound with
  | there v => simp [start?, hclosed, bind, Except.bind, pure, Except.pure]
  | missing hmissing => simp [start?, hclosed, hmissing, bind, Except.bind, pure, Except.pure]

/-- When there is something to start from. -/
theorem start?_eq_ok_iff {start : TextFile × Option TextFile} :
    start? options main inherited = .ok start ↔ ∃ u i, main = .ok u ∧ Found inherited i ∧
      (Content.ofText u).unclosed = none ∧ (Content.ofText u).callSites.isEmpty = false ∧
      start = ({ path := options.mainPath, text := u, content := Content.ofText u },
        i.map fun v => {
          path := options.inheritedPath, text := v, content := Content.ofText v }) := by
  constructor
  · intro h
    rcases main with fault | u
    · exact absurd h (by simp [start?, bind, Except.bind])
    rcases exists_found inherited with ⟨i, hfound⟩ | ⟨fault, rfl, hfault⟩
    · rcases hclosed : (Content.ofText u).unclosed with _ | block
      · rw [start?_of_found hfound hclosed] at h
        cases hcalls : (Content.ofText u).callSites.isEmpty with
        | false =>
          rw [hcalls, if_neg Bool.false_ne_true] at h
          exact ⟨u, i, rfl, hfound, hclosed, hcalls, (Except.ok.inj h).symm⟩
        | true => exact absurd h (by simp [hcalls])
      · rw [start?_of_unclosed hclosed hfound.isMissing] at h
        exact absurd h (by simp)
    · rw [start?_of_unreadable hfault] at h
      exact absurd h (by simp)
  · rintro ⟨u, i, rfl, hfound, hclosed, hcalls, rfl⟩
    rw [start?_of_found hfound hclosed, hcalls, if_neg Bool.false_ne_true]

theorem visitModule_eq (disk : Disk Id) (options : Options) (site : CallSite) :
    visitModule disk options site =
      match options.resolver.resolve? site.name site.source with
      | none => { name := site.name, source := site.source, folder := none }
      | some folder =>
        .inFolder disk options.settings.fileBeginning site.name site.source folder := by
  rw [visitModule]
  cases options.resolver.resolve? site.name site.source <;> rfl

/-- The variable files of the module of this name and source. -/
def moduleFiles? (disk : Disk Id) (options : Options) (outline : Text × Text) :
    Except Fault (Text × List VariableFile) :=
  match options.resolver.resolve? outline.1 outline.2 with
  | none => .ok (outline.1, [])
  | some folder =>
    ((ModuleVisit.inFolder disk options.settings.fileBeginning outline.1 outline.2 folder).files?
      options.inheritedPath).map fun files => (outline.1, files)

theorem moduleFiles?_outline (disk : Disk Id) (options : Options) (site : CallSite) :
    moduleFiles? disk options site.outline = do
      return ((visitModule disk options site).name,
        ← (visitModule disk options site).files? options.inheritedPath) := by
  rw [moduleFiles?, visitModule_eq, CallSite.outline]
  cases options.resolver.resolve? site.name site.source <;> rfl

/-- The folder of the module of this name and source. -/
def moduleFolder (options : Options) (outline : Text × Text) : Text × Option Path :=
  (outline.1, options.resolver.resolve? outline.1 outline.2)

theorem moduleFolder_outline (disk : Disk Id) (options : Options) (site : CallSite) :
    moduleFolder options site.outline =
      ((visitModule disk options site).name,
        (visitModule disk options site).folder.map Prod.fst) := by
  rw [moduleFolder, visitModule_eq, CallSite.outline]
  cases options.resolver.resolve? site.name site.source <;> rfl

/-- What is found on a disk: the texts of the two files, and the files of the modules. -/
structure Scans (disk : Disk Id) (options : Options) (u : Text) (i : Option Text)
    (files : List (Text × List VariableFile)) : Prop where
  main : File.text disk options.mainPath = .ok u
  inherited : Found (File.text disk options.inheritedPath) i
  closed : (Content.ofText u).unclosed = none
  calls : (Content.ofText u).callSites.isEmpty = false
  files : ((Content.ofText u).callSites.values.map CallSite.outline).mapM
    (moduleFiles? disk options) = .ok files

/-- The project that is made of what is found. -/
def projectOf (options : Options) (u : Text) (i : Option Text)
    (files : List (Text × List VariableFile)) : Project where
  main := { path := options.mainPath, text := u, content := Content.ofText u }
  inheritedPath := options.inheritedPath
  inherited := i.map fun v => {
    path := options.inheritedPath, text := v, content := Content.ofText v }
  folders := .ofList
    (((Content.ofText u).callSites.values.map CallSite.outline).map (moduleFolder options))
  files := .ofList files

theorem take_eq (disk : Disk Id) (options : Options) : take disk options = {
    options := options
    main := File.text disk options.mainPath
    inherited := File.text disk options.inheritedPath
    modules :=
      match start? options (File.text disk options.mainPath)
        (File.text disk options.inheritedPath) with
      | .error _ => []
      | .ok (file, _) => file.content.callSites.values.map (visitModule disk options) } := by
  have hmap : ∀ sites : List CallSite,
      sites.mapM (visitModule disk options) = sites.map (visitModule disk options) := by
    intro sites
    induction sites with
    | nil => rfl
    | cons site sites ih =>
      rw [List.mapM_cons, List.map_cons, ih]
      rfl
  rw [take]
  simp only [hmap, bind, pure]
  cases start? options (File.text disk options.mainPath)
    (File.text disk options.inheritedPath) <;> rfl

end Survey

open Survey

variable {disk : Disk Id} {options : Options} {p : Project}

theorem Project.scan_eq_ok_iff : Project.scan disk options = .ok p ↔
    ∃ u i files, Scans disk options u i files ∧ p = projectOf options u i files := by
  have htake : Project.scan disk options = (take disk options).project? := rfl
  rw [htake, take_eq, project?]
  rcases hstart : start? options (File.text disk options.mainPath)
    (File.text disk options.inheritedPath) with fault | ⟨main, inherited⟩
  · simp only [bind, Except.bind]
    refine ⟨fun h => absurd h (by simp), ?_⟩
    rintro ⟨u, i, files, hscans, -⟩
    rw [start?_eq_ok_iff.mpr ⟨u, i, hscans.main, hscans.inherited, hscans.closed, hscans.calls,
      rfl⟩] at hstart
    exact absurd hstart (by simp)
  · obtain ⟨u, i, hmain, hfound, hclosed, hcalls, heq⟩ := start?_eq_ok_iff.mp hstart
    obtain ⟨rfl, rfl⟩ := Prod.mk.inj heq
    have hfiles : (List.map (visitModule disk options) (Content.ofText u).callSites.values).mapM
          (fun v : ModuleVisit => do return (v.name, ← v.files? options.inheritedPath)) =
        ((Content.ofText u).callSites.values.map CallSite.outline).mapM
          (moduleFiles? disk options) := by
      rw [List.mapM_map, List.mapM_map]
      congr 1
      funext site
      exact (moduleFiles?_outline disk options site).symm
    have hfolders : (List.map (visitModule disk options) (Content.ofText u).callSites.values).map
          (fun v : ModuleVisit => (v.name, v.folder.map Prod.fst)) =
        ((Content.ofText u).callSites.values.map CallSite.outline).map (moduleFolder options) := by
      rw [List.map_map, List.map_map]
      exact List.map_congr_left fun site _ => (moduleFolder_outline disk options site).symm
    -- a project comes of the files if all of them are read
    change ((List.map (visitModule disk options) (Content.ofText u).callSites.values).mapM
        (fun v : ModuleVisit => do return (v.name, ← v.files? options.inheritedPath)) >>=
      fun files => Except.ok {
        main := { path := options.mainPath, text := u, content := Content.ofText u }
        inheritedPath := options.inheritedPath
        inherited := i.map fun v => {
          path := options.inheritedPath, text := v, content := Content.ofText v }
        folders := .ofList
          ((List.map (visitModule disk options) (Content.ofText u).callSites.values).map
            fun v : ModuleVisit => (v.name, v.folder.map Prod.fst))
        files := .ofList files }) = Except.ok p ↔ _
    rw [hfiles, hfolders]
    constructor
    · intro h
      obtain ⟨files, hread, hp⟩ := bind_eq_ok_iff.mp h
      exact ⟨u, i, files, ⟨hmain, hfound, hclosed, hcalls, hread⟩, (Except.ok.inj hp).symm⟩
    · rintro ⟨u', i', files, hscans, rfl⟩
      obtain rfl : u = u' := Except.ok.inj (hmain.symm.trans hscans.main)
      obtain rfl : i = i' := hfound.unique hscans.inherited
      exact bind_eq_ok_iff.mpr ⟨files, hscans.files, rfl⟩

end ModuleWiring
