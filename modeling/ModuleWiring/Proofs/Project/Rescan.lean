/-
Scanning a project that has been written.

Writing a project puts the inherited file into a folder that may be the one of a module.  The
module then leaves it out if the path to it from there has the same steps as its own path, and
nothing else of what a scan looks at has changed.

* `NodeKept`, `Rewritten` — a tree with the files of a project written anew;
* `KeepsOut`, `keepsOut_of_steps` — a module whose folder leaves the inherited file out, as
  every folder does whose path goes down by names alone;
* `files?_rewritten` — such a module keeps its variable files;
* `rewritten_of_write` — what writing a project does to a tree;
* `Project.rescan` — a second scan finds the same modules;
* `Project.rescan_roundabout` — a path to the folder that does not leave the file out.
-/
import ModuleWiring.Proofs.Disk.Spelling
import ModuleWiring.Proofs.Project.Scan

namespace ModuleWiring

open FileTree ModuleWiring.Path

/-- What a module says with a variable file: its name, and what is declared in it. -/
def VariableFile.blocks (file : VariableFile) : Text × OrderedMap Declaration :=
  (file.name, file.content.declarations)

/-! ### Trees that are written anew -/

/-- What becomes of the node at a location when the files of a project are written. -/
inductive NodeKept (t t' : FileTree) (inherited : Path) (l : Location) : Prop
  | same (hsame : t'.node? l = t.node? l)
  /-- The declarations in a file stay. -/
  | redeclared {u u' : Text} (before : t.node? l = some (.file (Text.encode u)))
    (after : t'.node? l = some (.file (Text.encode u')))
    (hsame : (Content.ofText u').declarations = (Content.ofText u).declarations)
  | inherited {u : Text} (hnames : t.NamesEntry inherited l)
    (after : t'.node? l = some (.file (Text.encode u)))

/-- A tree with the files of a project written anew. -/
structure Rewritten (t t' : FileTree) (inherited : Path) : Prop where
  workingFolder : t'.workingFolder = t.workingFolder
  node : ∀ l, NodeKept t t' inherited l

/-- Whether a module with this folder leaves the inherited file out: that file is no step on
the way to the folder, and where it is in the folder, the path to it from there has the same
steps as its own path and can be followed. -/
structure FileTree.KeepsOut (t : FileTree) (inherited folder : Path) : Prop where
  offWay : ∀ before l, before <+: stepsOf folder.text →
    t.along true (t.start folder.text) before = .arrived l none → ¬t.NamesEntry inherited l
  recognized : ∀ place name, t.locate folder = .ok (place, some .folder) →
    t.NamesEntry inherited (place ++ [name]) →
      (folder.join ⟨name⟩).sameAs inherited = true ∧ refusal? (folder.join ⟨name⟩) = none

/-- Nothing is put on the way to a folder that is there. -/
theorem FileTree.keepsOut_of_locate {t : FileTree} {inherited folder : Path} {place : Location}
    (h : t.LinkFree) (hfolder : t.locate folder = .ok (place, some .folder))
    (hrecognized : ∀ name, t.NamesEntry inherited (place ++ [name]) →
      (folder.join ⟨name⟩).sameAs inherited = true ∧
        refusal? (folder.join ⟨name⟩) = none) :
    t.KeepsOut inherited folder := by
  refine ⟨fun before l hbefore hsteps => ?_, fun place' name hplace hnames => ?_⟩
  · have hw := ((locate_eq_ok_iff h).mp hfolder).2
    exact absurd hsteps (along_ne_none_on_way h hw hbefore)
  · rw [hfolder] at hplace
    obtain ⟨rfl, -⟩ := Prod.mk.inj (Except.ok.inj hplace)
    exact hrecognized name hnames

/-- A folder keeps the inherited file out if its path and the path of the file begin alike and
go on by names alone, so that no step leads up and back. -/
theorem FileTree.keepsOut_of_steps {t : FileTree} {inherited folder : Path} {place : Location}
    {beginning : List PathStep} {names names' : List Text} (h : t.LinkFree)
    (hfolder : t.locate folder = .ok (place, some .folder))
    (hsteps : folder.steps = beginning ++ names.map .entry)
    (hinherited : inherited.steps = beginning ++ names'.map .entry)
    (hr : ∀ name ∈ names'.getLast?, refusal? (folder.join ⟨name⟩) = none) :
    t.KeepsOut inherited folder := by
  refine keepsOut_of_locate h hfolder fun name hname => ?_
  have hplace := eq_spelled_of_locate h hfolder
  rw [hsteps, spelled_append, spelled_names] at hplace
  have hentry := eq_spelled_of_locate h hname.locate
  rw [hinherited, spelled_append, spelled_names, hplace, List.append_assoc] at hentry
  obtain rfl : names ++ [name] = names' := List.append_cancel_left hentry
  obtain ⟨k, last, hlast, hisName, -⟩ := hname.exists_name h
  obtain ⟨-, rfl⟩ : place = k ∧ name = last := by simpa using hlast
  refine ⟨?_, hr name (by simp)⟩
  rw [sameAs, steps_join (text_ne_nil_of_locate hfolder) hisName, hsteps, hinherited,
    List.map_append, List.append_assoc, List.map_singleton]
  exact beq_self_eq_true _

theorem Rewritten.sameFolders {t t' : FileTree} {inherited : Path} (h : Rewritten t t' inherited) :
    SameFolders t t' := by
  refine ⟨h.workingFolder, fun l => ?_⟩
  cases h.node l with
  | same hsame => rw [hsame]
  | redeclared before after => simp [before, after]
  | inherited hnames after => simp [hnames.notFolder, after]

/-- Where nothing was, there is still nothing if the inherited file has not been put there. -/
theorem Rewritten.node?_eq_none {t t' : FileTree} {inherited : Path} {place l : Location}
    {steps : List PathStep} (hw : Rewritten t t' inherited) (h : t.LinkFree)
    (hsteps : t.along true place steps = .arrived l none)
    (hput : ¬∃ u, t.NamesEntry inherited l ∧ t'.node? l = some (.file (Text.encode u))) :
    t'.node? l = none := by
  have hnone := (along_of_arrived (b := true) (.refl t) h h hsteps (by simp)).1
  cases hw.node l with
  | same hsame => rw [hsame, ← hnone]
  | redeclared hfile => exact absurd (hnone.trans hfile) (by simp)
  | inherited hnames after => exact absurd ⟨_, hnames, after⟩ hput

/-- A folder that is missing stays missing, unless the inherited file is on the way to it. -/
theorem Rewritten.lacks {t t' : FileTree} {inherited folder : Path} (hw : Rewritten t t' inherited)
    (h : t.IsPlain) (h' : t'.IsPlain) (hout : t.KeepsOut inherited folder)
    (hl : t.Lacks folder) : t'.Lacks folder := by
  refine hl.of_sameFolders hw.sameFolders h.linkFree h'.linkFree fun before l hbefore hsteps => ?_
  exact hw.node?_eq_none h.linkFree hsteps fun ⟨u, hnames, _⟩ =>
    hout.offWay before l hbefore hsteps hnames

/-- Files stay files. -/
theorem Rewritten.exists_file {t t' : FileTree} {inherited : Path} {l : Location}
    (h : Rewritten t t' inherited) (hl : ∃ b, t.node? l = some (.file b)) :
    ∃ b, t'.node? l = some (.file b) := by
  cases h.node l with
  | same hsame => rwa [hsame]
  | redeclared before after => exact ⟨_, after⟩
  | inherited hnames after => exact ⟨_, after⟩

namespace ModuleVisit

variable {t t' : FileTree} {inherited folder : Path} {beginning name source : Text}

theorem files?_inFolder_of_error {disk : Disk Id} {fault : DiskFault}
    (hnames : disk.regularFiles folder = .error fault) :
    (inFolder disk beginning name source folder).files? inherited =
      if (Fault.ofReading folder fault).isMissing then .ok []
      else .error (.ofReading folder fault) := by
  rw [files?, inFolder]
  simp only [FolderVisit.files?_take, hnames]

theorem files?_inFolder_of_ok {disk : Disk Id} {names : List Text} {all : List VariableFile}
    (hnames : disk.regularFiles folder = .ok names)
    (hall : (VariableFile.listed beginning names).mapM
      (FolderVisit.read? disk folder) = .ok all) :
    (inFolder disk beginning name source folder).files? inherited =
      .ok (all.filter fun file => !file.path.sameAs inherited) := by
  rw [files?, inFolder]
  simp only [FolderVisit.files?_take, hnames, hall]

/-- The variable files of a module in a folder, none of whose files is missing. -/
theorem of_files?_inFolder {disk : Disk Id} {names : List Text} {files : List VariableFile}
    (hnames : disk.regularFiles folder = .ok names)
    (hthere : ∀ name ∈ names, ∀ fault, FolderVisit.read? disk folder name = .error fault →
      fault.isMissing = false)
    (hfiles : (inFolder disk beginning name source folder).files? inherited = .ok files) :
    ∃ all, (VariableFile.listed beginning names).mapM
        (FolderVisit.read? disk folder) = .ok all ∧
      files = all.filter fun file => !file.path.sameAs inherited := by
  rcases hall : (VariableFile.listed beginning names).mapM
      (FolderVisit.read? disk folder) with fault | all
  · obtain ⟨name', hname, hfault⟩ := exists_of_mapM_eq_error hall
    have hlisted := (VariableFile.mem_listed.mp hname).1
    rw [files?, inFolder] at hfiles
    simp only [FolderVisit.files?_take, hnames, hall, hthere name' hlisted fault hfault] at hfiles
    exact absurd hfiles (by simp)
  · rw [files?_inFolder_of_ok hnames hall] at hfiles
    exact ⟨all, rfl, (Except.ok.inj hfiles).symm⟩

/-- Whether what is read under a name, once the files are written, is the inherited file or
what has been read before. -/
def StillRead (t t' : FileTree) (inherited folder : Path) (place : Location) (name : Text) : Prop :=
  ∃ file', FolderVisit.read? t'.disk folder name = .ok file' ∧
    ((folder.join ⟨name⟩).sameAs inherited = true ∨
      ∃ file, (∃ b, t.node? (place ++ [name]) = some (.file b)) ∧
        FolderVisit.read? t.disk folder name = .ok file ∧ file'.blocks = file.blocks)

theorem stillRead_of_rewritten {place : Location} {b : Bytes} (h : t.IsPlain) (h' : t'.IsPlain)
    (hw : Rewritten t t' inherited) (hout : t.KeepsOut inherited folder)
    (hfolder : t.locate folder = .ok (place, some .folder))
    (hread : ∀ b, t.node? (place ++ [name]) = some (.file b) →
      ∃ file, FolderVisit.read? t.disk folder name = .ok file)
    (hn : t'.node? (place ++ [name]) = some (.file b)) :
    StillRead t t' inherited folder place name := by
  have hfolder' := locate_of_folder hw.sameFolders h.linkFree h'.linkFree hfolder
  -- what has been read before can be read again
  have listed : ∀ b, t.node? (place ++ [name]) = some (.file b) →
      ∃ file, FolderVisit.read? t.disk folder name = .ok file ∧
        refusal? (folder.join ⟨name⟩) = none ∧ ¬name.byteLength > maxNameBytes := by
    intro b hb
    obtain ⟨file, hfile⟩ := hread b hb
    refine ⟨file, hfile, (read_join_cases h hfolder hb).resolve_right ?_⟩
    rintro ⟨fault, -, hfailed⟩
    rw [FolderVisit.read?_eq, hfailed] at hfile
    exact absurd hfile (by simp)
  cases hw.node (place ++ [name]) with
  | same hsame =>
    have hb := hsame.symm.trans hn
    obtain ⟨file, hfile, hr, hlong⟩ := listed b hb
    refine ⟨file, ?_, .inr ⟨file, ⟨b, hb⟩, hfile, rfl⟩⟩
    rw [FolderVisit.read?_eq, read_join h hfolder hr hlong hb] at hfile
    rw [FolderVisit.read?_eq, read_join h' hfolder' hr hlong hn]
    exact hfile
  | redeclared before after hsame =>
    obtain ⟨file, hfile, hr, hlong⟩ := listed _ before
    refine ⟨_, FolderVisit.read?_of_text h' hfolder' hr hlong after,
      .inr ⟨file, ⟨_, before⟩, hfile, ?_⟩⟩
    rw [FolderVisit.read?_of_text h hfolder hr hlong before] at hfile
    rw [← Except.ok.inj hfile, VariableFile.blocks, VariableFile.blocks, hsame]
  | inherited hnames after =>
    obtain ⟨hrecognized, hr⟩ := hout.recognized place name hfolder hnames
    obtain ⟨k, last, hlast, -, hlong⟩ := hnames.exists_name h.linkFree
    obtain ⟨-, rfl⟩ : place = k ∧ name = last := by simpa using hlast
    exact ⟨_, FolderVisit.read?_of_text h' hfolder' hr hlong after, .inl hrecognized⟩

/-- The variable files of a module whose folder is there. -/
theorem files?_rewritten_of_folder {place : Location} {files : List VariableFile} (h : t.IsPlain)
    (h' : t'.IsPlain) (hw : Rewritten t t' inherited) (hout : t.KeepsOut inherited folder)
    (hfolder : t.locate folder = .ok (place, some .folder))
    (hfiles : (inFolder t.disk beginning name source folder).files? inherited = .ok files) :
    ∃ files', (inFolder t'.disk beginning name source folder).files? inherited = .ok files' ∧
      files'.map VariableFile.blocks = files.map VariableFile.blocks := by
  have hfolder' := locate_of_folder hw.sameFolders h.linkFree h'.linkFree hfolder
  obtain ⟨names, hnames, hnodup, hmem⟩ := exists_regularFiles h hfolder
  obtain ⟨names', hnames', hnodup', hmem'⟩ := exists_regularFiles h' hfolder'
  have hthere : ∀ name ∈ names, ∀ fault,
      FolderVisit.read? t.disk folder name = .error fault → fault.isMissing = false := by
    intro name hname fault hfault
    obtain ⟨b, hb⟩ := (hmem name).mp hname
    exact FolderVisit.isMissing_of_read? h hfolder hb hfault
  have hdisk : t.disk.regularFiles folder = .ok names := hnames
  have hdisk' : t'.disk.regularFiles folder = .ok names' := hnames'
  obtain ⟨all, hall, rfl⟩ := of_files?_inFolder hdisk hthere hfiles
  -- what is listed after the writing can be read
  have hread : ∀ name ∈ VariableFile.listed beginning names',
      StillRead t t' inherited folder place name := by
    intro name hname
    obtain ⟨hname, hvariable⟩ := VariableFile.mem_listed.mp hname
    obtain ⟨b', hb'⟩ := (hmem' name).mp hname
    refine stillRead_of_rewritten h h' hw hout hfolder (fun b hb => ?_) hb'
    obtain ⟨file, -, hfile⟩ := exists_of_mapM_eq_ok hall
      (VariableFile.mem_listed.mpr ⟨(hmem name).mpr ⟨b, hb⟩, hvariable⟩)
    exact ⟨file, hfile⟩
  obtain ⟨all', hall'⟩ := exists_mapM_eq_ok fun name hname =>
    (hread name hname).imp fun _ => And.left
  refine ⟨_, files?_inFolder_of_ok hdisk' hall', ?_⟩
  have hpath : ∀ {disk : Disk Id} (name : Text) (file : VariableFile),
      FolderVisit.read? disk folder name = .ok file →
        (!file.path.sameAs inherited) = !(folder.join ⟨name⟩).sameAs inherited := by
    intro disk name file hfile
    rw [(FolderVisit.of_read? hfile).1]
  -- the inherited file apart, the same names are listed
  have hsame : (VariableFile.listed beginning names).filter
        (fun name => !(folder.join ⟨name⟩).sameAs inherited) =
      (VariableFile.listed beginning names').filter
        fun name => !(folder.join ⟨name⟩).sameAs inherited := by
    refine VariableFile.filter_listed_congr hnodup hnodup' fun name hvariable hnot =>
      ⟨fun hname => ?_, fun hname => ?_⟩
    · exact (hmem' name).mpr (hw.exists_file ((hmem name).mp hname))
    · obtain ⟨file', -, hsame | ⟨file, hb, -⟩⟩ :=
        hread name (VariableFile.mem_listed.mpr ⟨hname, hvariable⟩)
      · simp [hsame] at hnot
      · exact (hmem name).mpr hb
  refine map_filter_eq_of_mapM hall hall' hpath hpath hsame
    fun name hname file file' hfile hfile' => ?_
  obtain ⟨hname, hnot⟩ := List.mem_filter.mp hname
  obtain ⟨file₁', hfile₁', hsame | ⟨file₁, -, hfile₁, hblocks⟩⟩ := hread name hname
  · simp [hsame] at hnot
  · rw [hfile] at hfile₁
    rw [hfile'] at hfile₁'
    rw [Except.ok.inj hfile₁, Except.ok.inj hfile₁', hblocks]

/-- What is no folder and yet stops no scan is missing. -/
theorem lacks_of_files?_inFolder {files : List VariableFile}
    (hfolder : ¬∃ place, t.locate folder = .ok (place, some .folder))
    (hfiles : (inFolder t.disk beginning name source folder).files? inherited = .ok files) :
    t.Lacks folder := by
  rw [← regularFiles_eq_notFound_iff]
  rcases hnames : t.regularFiles folder with fault | names
  · have hdisk : t.disk.regularFiles folder = .error fault := hnames
    rw [files?_inFolder_of_error hdisk] at hfiles
    cases fault <;> first | rfl | simp [Fault.ofReading, Fault.isMissing] at hfiles
  · rw [regularFiles] at hnames
    split at hnames
    · exact absurd hnames (by simp)
    · exact absurd hnames (by simp)
    · next l hl => exact absurd ⟨l, hl⟩ hfolder
    · exact absurd hnames (by simp)

/-- **The variable files of a module stay what they are** when the files of a project are
written, if the folder of the module keeps the inherited file out. -/
theorem files?_rewritten {files : List VariableFile} (h : t.IsPlain) (h' : t'.IsPlain)
    (hw : Rewritten t t' inherited) (hout : t.KeepsOut inherited folder)
    (hfiles : (inFolder t.disk beginning name source folder).files? inherited = .ok files) :
    ∃ files', (inFolder t'.disk beginning name source folder).files? inherited = .ok files' ∧
      files'.map VariableFile.blocks = files.map VariableFile.blocks := by
  by_cases hfolder : ∃ place, t.locate folder = .ok (place, some .folder)
  · obtain ⟨place, hfolder⟩ := hfolder
    exact files?_rewritten_of_folder h h' hw hout hfolder hfiles
  · have hlacks := lacks_of_files?_inFolder hfolder hfiles
    have hdisk : t.disk.regularFiles folder = .error .notFound :=
      regularFiles_eq_notFound_iff.mpr hlacks
    have hdisk' : t'.disk.regularFiles folder = .error .notFound :=
      regularFiles_eq_notFound_iff.mpr (hw.lacks h h' hout hlacks)
    rw [files?_inFolder_of_error hdisk] at hfiles
    rw [files?_inFolder_of_error hdisk']
    exact ⟨files, hfiles, rfl⟩

end ModuleVisit

/-! ### Writing the files -/

section Writing

variable {t t' : FileTree} {path : Path} {l : Location} {u : Text}

theorem File.text_eq (t : FileTree) (path : Path) : File.text t.disk path =
    match t.read path with
    | .error fault => .error (.ofReading path fault)
    | .ok b => File.textOf b := by
  rcases hread : t.read path with fault | b <;>
    simp [File.text, FileTree.disk, hread, bind, pure]

theorem exists_of_text (h : t.LinkFree) (htext : File.text t.disk path = .ok u) :
    ∃ l, t.NamesEntry path l ∧ t.node? l = some (.file (Text.encode u)) := by
  rw [File.text_eq] at htext
  split at htext
  · exact absurd htext (by simp)
  next b hread =>
  rw [File.textOf] at htext
  split at htext
  · exact absurd htext (by simp)
  next u' hdecode =>
  obtain rfl := Except.ok.inj htext
  obtain rfl := Text.eq_encode_of_decode hdecode
  rw [FileTree.read] at hread
  split at hread
  · exact absurd hread (by simp)
  · exact absurd hread (by simp)
  · next l b hl =>
    obtain rfl := Except.ok.inj hread
    obtain ⟨hn, hnames⟩ := namesEntry_of_locate h hl (by simp)
    exact ⟨l, hnames, hn.symm⟩
  · exact absurd hread (by simp)

theorem text_of_namesEntry (hl : t.NamesEntry path l)
    (hn : t.node? l = some (.file (Text.encode u))) : File.text t.disk path = .ok u := by
  have hread : t.read path = .ok (Text.encode u) := by
    rw [FileTree.read, hl.locate, hn]
  rw [File.text_eq, hread]
  exact File.textOf_encode u

theorem found_none_iff : Survey.Found (File.text t.disk path) none ↔ t.Lacks path := by
  rw [← read_eq_notFound_iff, File.text_eq]
  rcases t.read path with fault | b
  · constructor
    · intro hfound
      cases hfound with
      | missing hfault => cases fault <;> first | rfl | exact absurd hfault Bool.false_ne_true
    · intro hfault
      obtain rfl := Except.error.inj hfault
      exact .missing rfl
  · simp only [File.textOf]
    split
    · refine ⟨fun hfound => ?_, by simp⟩
      cases hfound with
      | missing hfault => exact absurd hfault Bool.false_ne_true
    · refine ⟨fun hfound => ?_, by simp⟩
      cases hfound

/-- The inherited file is there after the writing if it was before, and otherwise it is still
missing or has been put there. -/
theorem Rewritten.exists_found {inherited : Path} {i : Option Text} (hw : Rewritten t t' inherited)
    (h : t.IsPlain) (h' : t'.IsPlain) (hfound : Survey.Found (File.text t.disk inherited) i) :
    ∃ j, Survey.Found (File.text t'.disk inherited) j := by
  have put : ∀ {l u}, t.NamesEntry inherited l → t'.node? l = some (.file (Text.encode u)) →
      ∃ j, Survey.Found (File.text t'.disk inherited) j := by
    intro l u hl hu
    rw [text_of_namesEntry (hl.of_sameFolders hw.sameFolders h.linkFree h'.linkFree) hu]
    exact ⟨_, .there u⟩
  rcases htext : File.text t.disk inherited with fault | v
  · have hlacks : t.Lacks inherited := by
      rw [htext] at hfound
      cases hfound with
      | missing hfault => exact found_none_iff.mp (htext ▸ .missing hfault)
    by_cases hput : ∃ l u, t.NamesEntry inherited l ∧ t'.node? l = some (.file (Text.encode u))
    · obtain ⟨l, u, hl, hu⟩ := hput
      exact put hl hu
    · refine ⟨none, found_none_iff.mpr
        (hlacks.of_sameFolders hw.sameFolders h.linkFree h'.linkFree
        fun before l _ hsteps => ?_)⟩
      exact hw.node?_eq_none h.linkFree hsteps fun ⟨u, hl, hu⟩ => hput ⟨l, u, hl, hu⟩
  · obtain ⟨l, hl, hv⟩ := exists_of_text h.linkFree htext
    cases hw.node l with
    | same hsame => exact put hl (hsame.trans hv)
    | redeclared before hu => exact put hl hu
    | inherited hnames hu => exact put hl hu

/-- The tree that writing the files of a project leads to. -/
theorem rewritten_of_write {stamp ui um : Text} {i : Option Text} {main inherited : Path}
    {update : Update} {report : WriteReport} (h : t.IsPlain)
    (hmain : File.text t.disk main = .ok u)
    (hsame : (Content.ofText um).declarations = (Content.ofText u).declarations)
    (hupdate : update = { files := [
      { path := inherited, current := i, content := ui },
      { path := main, current := some u, content := um }] })
    (hspares : ∀ f ∈ update.changed,
      t.Spares stamp (update.changed.map GeneratedFile.path) f.path)
    (hapart : t.LeadApart [inherited, main])
    (hwrite : Update.write editable stamp update t = (report, t')) (hok : report.fault = none) :
    t'.IsPlain ∧ Rewritten t t' inherited ∧ File.text t'.disk main = .ok um := by
  have hsub : update.changed.Sublist update.files := List.filter_sublist
  have hpaths : t.LeadApart (update.changed.map GeneratedFile.path) := by
    have hfiles : update.files.map GeneratedFile.path = [inherited, main] := by rw [hupdate]; rfl
    exact (hfiles ▸ hapart : t.LeadApart (update.files.map GeneratedFile.path)).sublist
      (hsub.map GeneratedFile.path)
  obtain ⟨h', ls, hplaced, hls, hcontents⟩ := placed_of_storeAll h hspares hpaths hwrite hok
  obtain ⟨lm, hlm, hu⟩ := exists_of_text h.linkFree hmain
  -- a location where a file is put is the one of the inherited file or of the main file
  have hwritten : ∀ l ∈ ls,
      (t.NamesEntry inherited l ∧ t'.node? l = some (.file (Text.encode ui))) ∨
      (l = lm ∧ t'.node? l = some (.file (Text.encode um))) := by
    intro l hl
    obtain ⟨f, hf, hfl⟩ := hls l hl
    obtain ⟨k, hk, hcontent⟩ := hcontents f hf
    obtain rfl := hk.unique hfl
    have hf' := hsub.subset hf
    rw [hupdate] at hf'
    rcases List.mem_cons.mp hf' with rfl | hf'
    · exact .inl ⟨hfl, hcontent⟩
    · obtain rfl := List.mem_singleton.mp hf'
      exact .inr ⟨hfl.unique hlm, hcontent⟩
  have hum : t'.node? lm = some (.file (Text.encode um)) := by
    by_cases heq : u = um
    · by_cases hl : lm ∈ ls
      · rcases hwritten lm hl with ⟨hli, -⟩ | ⟨-, hcontent⟩
        · have hnot := (List.pairwise_cons.mp hapart).1 main List.mem_cons_self lm
            ((replaceable_iff h.linkFree).mpr hli)
          exact absurd ((replaceable_iff h.linkFree).mpr hlm) hnot
        · exact hcontent
      · rw [hplaced.other lm hl, hu, heq]
    · have hchanged : ({ path := main, current := some u, content := um } : GeneratedFile) ∈
          update.changed := by
        refine List.mem_filter.mpr ⟨by simp [hupdate], ?_⟩
        simpa [GeneratedFile.isChanged] using heq
      obtain ⟨k, hk, hcontent⟩ := hcontents _ hchanged
      exact hk.unique hlm ▸ hcontent
  refine ⟨h', ⟨hplaced.workingFolder, fun l => ?_⟩, text_of_namesEntry
    (hlm.of_sameFolders hplaced.sameFolders h.linkFree h'.linkFree) hum⟩
  by_cases hl : l ∈ ls
  · rcases hwritten l hl with ⟨hli, hcontent⟩ | ⟨rfl, hcontent⟩
    · exact .inherited hli hcontent
    · exact .redeclared hu hcontent hsame
  · exact .same (hplaced.other l hl)

end Writing

/-! ### The second scan -/

open Survey

/-- The call sites of a content are listed by their names. -/
theorem Content.map_name_callSites (u : Text) :
    (Content.ofText u).callSites.values.map CallSite.name = (Content.ofText u).callSites.keys := by
  rw [OrderedMap.values, OrderedMap.keys, List.map_map]
  exact List.map_congr_left fun e he => (Content.mem_callSites_ofText he).1.symm

theorem values_folders (options : Options) (u : Text) (i : Option Text)
    (files : List (Text × List VariableFile)) :
    (projectOf options u i files).folders.values =
      (Content.ofText u).callSites.values.map fun site =>
        options.resolver.resolve? site.name site.source := by
  have hnodup : ((((Content.ofText u).callSites.values.map CallSite.outline).map
      (moduleFolder options)).map Prod.fst).Nodup := by
    have hkeys := (Content.ofText u).callSites.nodup_keys
    rw [List.map_map, List.map_map]
    exact (Content.map_name_callSites u).symm ▸ hkeys
  rw [projectOf, OrderedMap.values, OrderedMap.entries_ofList hnodup, List.map_map, List.map_map]
  rfl

/-- The variable files of a module, said of its name and source. -/
theorem moduleFiles?_rewritten {t t' : FileTree} {options : Options} {outline : Text × Text}
    {found : Text × List VariableFile} (h : t.IsPlain) (h' : t'.IsPlain)
    (hw : Rewritten t t' options.inheritedPath)
    (hout : ∀ folder, options.resolver.resolve? outline.1 outline.2 = some folder →
      t.KeepsOut options.inheritedPath folder)
    (hfound : moduleFiles? t.disk options outline = .ok found) :
    ∃ found', moduleFiles? t'.disk options outline = .ok found' ∧
      (found'.1, found'.2.map VariableFile.blocks) =
        (found.1, found.2.map VariableFile.blocks) := by
  rw [moduleFiles?] at hfound ⊢
  rcases hfolder : options.resolver.resolve? outline.1 outline.2 with _ | folder
  · simp only [hfolder] at hfound
    exact ⟨found, hfound, rfl⟩
  · simp only [hfolder] at hfound
    rcases hfiles : (ModuleVisit.inFolder t.disk options.settings.fileBeginning outline.1 outline.2
      folder).files? options.inheritedPath with fault | files
    · rw [hfiles] at hfound
      exact absurd hfound (by simp [Except.map])
    · obtain ⟨files', hfiles', hblocks⟩ :=
        ModuleVisit.files?_rewritten h h' hw (hout folder hfolder) hfiles
      rw [hfiles] at hfound
      obtain rfl := Except.ok.inj hfound
      exact ⟨_, by simp only [hfiles']; rfl, by simp only [hblocks]⟩

/-- **The inherited file never becomes an input.**  Once the files of a project are written, a
second scan finds every module in the same folder, with the same variable files and the same
declarations in each of them. -/
theorem Project.rescan {t t' : FileTree} {options : Options} {p : Project} {stamp : Text}
    {report : WriteReport} (h : t.IsPlain) (hscan : Project.scan t.disk options = .ok p)
    (hwrite : Update.write editable stamp (Update.ofProject p) t = (report, t'))
    (hok : report.fault = none)
    (hspares : ∀ f ∈ (Update.ofProject p).changed,
      t.Spares stamp ((Update.ofProject p).changed.map GeneratedFile.path) f.path)
    (hapart : t.LeadApart [options.inheritedPath, options.mainPath])
    (hcut : p.main.text.Uncut) (hassignable : p.files.Assignable)
    (hout : ∀ folder, some folder ∈ p.folders.values →
      t.KeepsOut options.inheritedPath folder) :
    ∃ p', Project.scan t'.disk options = .ok p' ∧ p'.folders = p.folders ∧
      p'.files.mapValues (List.map VariableFile.blocks) =
        p.files.mapValues (List.map VariableFile.blocks) := by
  obtain ⟨u, i, files, hscans, rfl⟩ := scan_eq_ok_iff.mp hscan
  obtain ⟨hclosed, hdeclarations, houtline⟩ :=
    MainFile.outline_written hcut hscans.closed hassignable
  have hupdate : Update.ofProject (projectOf options u i files) = { files := [
      { path := options.inheritedPath
        current := i
        content := InheritedFile.render (Content.ofText u)
          (projectOf options u i files).inheritedContent (.ofList files) },
      { path := options.mainPath
        current := some u
        content := MainFile.written u (.ofList files) }] } := by
    cases i <;> rfl
  obtain ⟨h', hw, hmain⟩ := rewritten_of_write h hscans.main hdeclarations hupdate hspares
    hapart hwrite hok
  obtain ⟨j, hinherited⟩ := hw.exists_found h h' hscans.inherited
  -- the same modules are looked for
  have houtlines : (Content.ofText (MainFile.written u (.ofList files))).callSites.values.map
      CallSite.outline = (Content.ofText u).callSites.values.map CallSite.outline := by
    have hvalues := congrArg OrderedMap.values houtline
    rwa [OrderedMap.values_mapValues, OrderedMap.values_mapValues] at hvalues
  have hcalls :
      (Content.ofText (MainFile.written u (.ofList files))).callSites.isEmpty = false := by
    have hempty := congrArg OrderedMap.isEmpty houtline
    rw [OrderedMap.isEmpty_mapValues, OrderedMap.isEmpty_mapValues] at hempty
    exact hempty.trans hscans.calls
  have hfound : ∀ outline ∈ (Content.ofText u).callSites.values.map CallSite.outline,
      ∀ found, moduleFiles? t.disk options outline = .ok found →
        ∃ found', moduleFiles? t'.disk options outline = .ok found' ∧
          (found'.1, found'.2.map VariableFile.blocks) =
            (found.1, found.2.map VariableFile.blocks) := by
    intro outline houtline found hfound
    refine moduleFiles?_rewritten h h' hw (fun folder hfolder => hout folder ?_) hfound
    obtain ⟨site, hsite, rfl⟩ := List.mem_map.mp houtline
    rw [values_folders]
    exact List.mem_map.mpr ⟨site, hsite, hfolder⟩
  have hread : ∀ outline ∈ (Content.ofText u).callSites.values.map CallSite.outline,
      ∃ found', moduleFiles? t'.disk options outline = .ok found' := by
    intro outline houtline
    obtain ⟨found, -, hok⟩ := exists_of_mapM_eq_ok hscans.files houtline
    exact (hfound outline houtline found hok).imp fun _ => And.left
  obtain ⟨files', hfiles'⟩ := exists_mapM_eq_ok hread
  have hscans' : Scans t'.disk options (MainFile.written u (.ofList files)) j files' :=
    ⟨hmain, hinherited, hclosed, hcalls, by rw [houtlines]; exact hfiles'⟩
  refine ⟨_, scan_eq_ok_iff.mpr ⟨_, j, files', hscans', rfl⟩, ?_, ?_⟩
  · rw [projectOf, projectOf, houtlines]
  · have hblocks : files'.map (fun found => (found.1, found.2.map VariableFile.blocks)) =
        files.map (fun found => (found.1, found.2.map VariableFile.blocks)) := by
      refine map_eq_of_mapM hscans.files hfiles' fun outline houtline found found' hok hok' => ?_
      obtain ⟨found'', hok'', hsame⟩ := hfound outline houtline found hok
      obtain rfl : found'' = found' := Except.ok.inj (hok''.symm.trans hok')
      exact hsame
    rw [projectOf, projectOf, OrderedMap.mapValues_ofList, OrderedMap.mapValues_ofList, hblocks]

/-! ### A module in the folder of the main file -/

/-- A main file with one call site. -/
def soleCall (source : Text) : Text :=
  "module \"a\" \x7b\n  source = \"".toList ++ source ++ "\"\n\x7d\n".toList

/-- A main file beside the variable file of the only module that it calls. -/
def ownFolder (source : Text) : FileTree where
  entries := [
    (["p".toList], .folder),
    (["p".toList, "main.tf".toList], .file (Text.encode (soleCall source))),
    (["p".toList, "variables.tf".toList],
      .file (Text.encode "variable \"v\" \x7b\x7d\n".toList))]

def ownOptions : Options where
  root := ⟨"p".toList⟩

theorem isPlain_ownFolder (source : Text) : (ownFolder source).IsPlain := by
  have hnames : ∀ name ∈ ["p".toList, "main.tf".toList, "variables.tf".toList],
      IsName name := by
    intro name hname
    have hall : (["p".toList, "main.tf".toList, "variables.tf".toList].all fun name =>
        step? name == some (.entry name) && !name.contains '/') = true := rfl
    have h := List.all_eq_true.mp hall name hname
    simp only [Bool.and_eq_true, beq_iff_eq] at h
    exact ⟨h.1, by simpa using h.2⟩
  refine ⟨by simp [LinkFree, ownFolder], ?_, ?_⟩
  · simp only [ownFolder, List.map_cons, List.map_nil]
    decide
  · simp only [ownFolder, List.forall_mem_cons, List.getLast?_singleton, List.getLast?_cons_cons,
      Option.mem_some_iff, forall_eq', List.not_mem_nil, false_implies, implies_true, and_true]
    exact ⟨hnames _ (by simp), hnames _ (by simp), hnames _ (by simp)⟩

/-- Where the two paths of a project lead. -/
theorem eq_of_replaceable {source : Text} {path : Path} {l : Location}
    (hpath : path ∈ [ownOptions.inheritedPath, ownOptions.mainPath])
    (hl : (ownFolder source).Replaceable path l) :
    path = ownOptions.inheritedPath ∧ l = ["p".toList, "variables-inherited.tf".toList] ∨
      path = ownOptions.mainPath ∧ l = ["p".toList, "main.tf".toList] := by
  have hinherited : (ownFolder source).locate ownOptions.inheritedPath false =
    .ok (["p".toList, "variables-inherited.tf".toList], none) := rfl
  have hmain : (ownFolder source).locate ownOptions.mainPath false =
    .ok (["p".toList, "main.tf".toList], some (.file (Text.encode (soleCall source)))) := rfl
  rcases List.mem_pair.mp hpath with rfl | rfl
  · exact .inl ⟨rfl, (names_iff_of_locate hinherited).mp hl.names⟩
  · exact .inr ⟨rfl, (names_iff_of_locate hmain).mp hl.names⟩

theorem Project.rescan_ownFolder : ∃ p p' t',
    Project.scan (ownFolder ".".toList).disk ownOptions = .ok p ∧
    Update.write editable "0".toList (Update.ofProject p) (ownFolder ".".toList) =
      ({ written := [ownOptions.inheritedPath, ownOptions.mainPath], fault := none }, t') ∧
    Project.scan t'.disk ownOptions = .ok p' ∧ p'.folders = p.folders ∧
    p'.files.mapValues (List.map VariableFile.blocks) =
      p.files.mapValues (List.map VariableFile.blocks) := by
  have hfound : ∃ p, Project.scan (ownFolder ".".toList).disk ownOptions = .ok p ∧
      (Update.write editable "0".toList (Update.ofProject p) (ownFolder ".".toList)).1 =
        { written := [ownOptions.inheritedPath, ownOptions.mainPath], fault := none } ∧
      (Update.ofProject p).changed.map GeneratedFile.path =
        [ownOptions.inheritedPath, ownOptions.mainPath] ∧
      p.main.text.Uncut ∧ p.files.Assignable ∧
      p.folders.values = [some ⟨"p/.".toList⟩] := by
    decide +kernel
  obtain ⟨p, hscan, hreport, hpaths, hcut, hassignable, hfolders⟩ := hfound
  have h := isPlain_ownFolder ".".toList
  have hspares : ∀ f ∈ (Update.ofProject p).changed, (ownFolder ".".toList).Spares "0".toList
      ((Update.ofProject p).changed.map GeneratedFile.path) f.path := by
    intro f hf
    have hpath := List.mem_map_of_mem hf (f := GeneratedFile.path)
    rw [hpaths] at hpath ⊢
    rcases List.mem_pair.mp hpath with hpath | hpath <;> rw [hpath]
    · refine spares_of_locate (l := ["p".toList, ".variables-inherited.tf.tmp-0".toList]) rfl
        fun q hq hl => ?_
      simpa using eq_of_replaceable hq hl
    · refine spares_of_locate (l := ["p".toList, ".main.tf.tmp-0".toList]) rfl fun q hq hl => ?_
      simpa using eq_of_replaceable hq hl
  have hapart : (ownFolder ".".toList).LeadApart
      [ownOptions.inheritedPath, ownOptions.mainPath] := by
    refine List.pairwise_pair.mpr fun l hl hl' => ?_
    have hinherited : ownOptions.inheritedPath ≠ ownOptions.mainPath := by decide
    rcases eq_of_replaceable (by simp) hl with ⟨-, rfl⟩ | ⟨heq, -⟩
    · simpa [hinherited.symm] using eq_of_replaceable (by simp) hl'
    · exact hinherited heq
  have hout : ∀ folder, some folder ∈ p.folders.values →
      (ownFolder ".".toList).KeepsOut ownOptions.inheritedPath folder := by
    intro folder hfolder
    rw [hfolders] at hfolder
    obtain rfl := Option.some.inj (List.mem_singleton.mp hfolder)
    have hplace : (ownFolder ".".toList).locate ⟨"p/.".toList⟩ =
      .ok (["p".toList], some .folder) := rfl
    have hfolder : Path.steps ⟨"p/.".toList⟩ = [.entry "p".toList] ++ [].map .entry := rfl
    have hinherited : ownOptions.inheritedPath.steps =
      [.entry "p".toList] ++ ["variables-inherited.tf".toList].map .entry := rfl
    refine keepsOut_of_steps h.linkFree hplace hfolder hinherited fun name hname => ?_
    obtain rfl := Option.some.inj hname
    rfl
  obtain ⟨p', hscan', hsame⟩ := Project.rescan h hscan (Prod.ext hreport rfl) rfl hspares hapart
    hcut hassignable hout
  exact ⟨p, p', _, hscan, Prod.ext hreport rfl, hscan', hsame⟩

/-- A source that leaves the folder and comes back to it.  The path to the inherited file from
there has other steps than its own path, and the second scan takes that file for one of the
module. -/
theorem Project.rescan_roundabout :
    (ownFolder "../p".toList).LinkFree ∧ ownOptions.mainPath ≠ ownOptions.inheritedPath ∧
    ∃ p p' report t', Project.scan (ownFolder "../p".toList).disk ownOptions = .ok p ∧
      Update.write editable "0".toList (Update.ofProject p) (ownFolder "../p".toList) =
        (report, t') ∧ report.fault = none ∧
      Project.scan t'.disk ownOptions = .ok p' ∧
      p.files.values.map (List.map VariableFile.name) = [["variables.tf".toList]] ∧
      p'.files.values.map (List.map VariableFile.name) =
        [["variables.tf".toList, "variables-inherited.tf".toList]] := by
  have hfound : ∃ p, Project.scan (ownFolder "../p".toList).disk ownOptions = .ok p ∧
      (Update.write editable "0".toList (Update.ofProject p)
        (ownFolder "../p".toList)).1.fault = none ∧
      p.files.values.map (List.map VariableFile.name) = [["variables.tf".toList]] ∧
      ∃ p', Project.scan (Update.write editable "0".toList (Update.ofProject p)
          (ownFolder "../p".toList)).2.disk ownOptions = .ok p' ∧
        p'.files.values.map (List.map VariableFile.name) =
          [["variables.tf".toList, "variables-inherited.tf".toList]] := by
    decide +kernel
  obtain ⟨p, hscan, hok, hfiles, p', hscan', hfiles'⟩ := hfound
  exact ⟨(isPlain_ownFolder _).linkFree, by decide, p, p', _, _, hscan, rfl, hok, hscan', hfiles,
    hfiles'⟩

end ModuleWiring
