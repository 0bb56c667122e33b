/-
Trees of files held in memory.

A tree maps locations, rows of names from the root, to files, folders and links.
Paths are followed as on a real disk: step by step, each step from a folder,
links being replaced by their targets, at most forty of them.  A slash at the end
of a path asks for a folder.  A name has at most 255 bytes and a path at most 4095.

* `FileTree.locate` — the location that a path leads to, and what is there;
* `FileTree.disk`, `FileTree.editable` — a tree as a disk.
-/
import ModuleWiring.Disk.Basic
import ModuleWiring.OrderedMap

namespace ModuleWiring

/-- A row of names that leads from the root to an entry. -/
abbrev Location := List Text

/-- An entry of a tree. -/
inductive FileNode where
  | file (content : Bytes)
  | folder
  /-- A symbolic link, with the path it stands for. -/
  | link (target : Text)
deriving DecidableEq

/-- A tree of files, and the folder from which relative paths are seen. -/
structure FileTree where
  /-- What is at each location below the root. -/
  entries : List (Location × FileNode) := []
  workingFolder : Location := []

namespace FileTree

/-- What is at a location.  At the root there is a folder. -/
def node? (t : FileTree) (l : Location) : Option FileNode :=
  if l = [] then some .folder else t.entries.lookup l

/-- Put a node at a location, in the place of what is there. -/
def set (t : FileTree) (l : Location) (n : FileNode) : FileTree :=
  { t with entries := OrderedMap.put l n t.entries }

/-- Take away what is at a location. -/
def erase (t : FileTree) (l : Location) : FileTree :=
  { t with entries := t.entries.filter fun e => e.1 ≠ l }

/-- The steps that following a path takes.  An idle part asks for a folder. -/
def stepsOf (path : Text) : List PathStep :=
  (Path.segments path).map fun s => (Path.step? s).getD .here

/-- Where a path starts. -/
def start (t : FileTree) (path : Text) : Location :=
  if path.head? = some '/' then [] else t.workingFolder

/-- The most bytes of a name. -/
def maxNameBytes : Nat := 255

/-- The most bytes of a path. -/
def maxPathBytes : Nat := 4095

/-- How far steps lead without following a link. -/
inductive Walk where
  /-- All steps are taken. -/
  | arrived (place : Location) (node : Option FileNode)
  /-- A step cannot be taken. -/
  | stuck (fault : DiskFault)
  /-- The steps lead to a link in a folder, and others come behind it. -/
  | atLink (folder : Location) (target : Text) (rest : List PathStep)

/-- Take steps from a folder, up to a link that has to be followed.  The last step may
lead to nothing.  A link at the last step is followed only if `followLast` says so. -/
def along (t : FileTree) (followLast : Bool) (place : Location) : List PathStep → Walk
  | [] => .arrived place (some .folder)
  | .root :: steps => along t followLast [] steps
  | .here :: steps => along t followLast place steps
  | .up :: steps => along t followLast place.dropLast steps
  | .entry name :: steps =>
    let l := place ++ [name]
    if name.byteLength > maxNameBytes then .stuck .nameTooLong
    else match t.node? l with
    | none => if steps.isEmpty then .arrived l none else .stuck .notFound
    | some .folder => along t followLast l steps
    | some (.file content) =>
      if steps.isEmpty then .arrived l (some (.file content)) else .stuck .notFolder
    | some (.link target) =>
      if steps.isEmpty && !followLast then .arrived l (some (.link target))
      else .atLink place target steps

/-- Follow steps from a folder: the location they lead to, and what is there.  At most
`links` links are followed. -/
def walk (t : FileTree) (followLast : Bool) (links : Nat) (place : Location)
    (steps : List PathStep) : Except DiskFault (Location × Option FileNode) :=
  match along t followLast place steps, links with
  | .arrived l node, _ => .ok (l, node)
  | .stuck fault, _ => .error fault
  | .atLink .., 0 => .error .tooManyLinks
  | .atLink folder target rest, links + 1 =>
    walk t followLast links (if target.head? = some '/' then [] else folder)
      (stepsOf target ++ rest)

/-- How many links a path may follow. -/
def maxLinks : Nat := 40

/-- Why a path cannot be followed at all. -/
def refusal? (p : Path) : Option DiskFault :=
  if p.text.contains '\x00' then some .nullInPath
  else if p.text.isEmpty then some .notFound
  else if p.text.byteLength > maxPathBytes then some .nameTooLong
  else none

/-- The location that a path leads to, and what is there. -/
def locate (t : FileTree) (p : Path) (followLast : Bool := true) :
    Except DiskFault (Location × Option FileNode) :=
  match refusal? p with
  | some fault => .error fault
  | none => walk t followLast maxLinks (t.start p.text) (stepsOf p.text)

/-- The content of the file at a path. -/
def read (t : FileTree) (p : Path) : Except DiskFault Bytes :=
  match t.locate p with
  | .error e => .error e
  | .ok (_, none) => .error .notFound
  | .ok (_, some (.file content)) => .ok content
  | .ok (_, some _) => .error .isFolder

/-- The name of an entry, if it is a file of the folder at a location. -/
def fileIn? (folder : Location) (entry : Location × FileNode) : Option Text :=
  match entry.2 with
  | .file _ => if entry.1.dropLast = folder then entry.1.getLast? else none
  | _ => none

/-- The names of the files of the folder at a path. -/
def regularFiles (t : FileTree) (p : Path) : Except DiskFault (List Text) :=
  match t.locate p with
  | .error e => .error e
  | .ok (_, none) => .error .notFound
  | .ok (l, some .folder) => .ok (t.entries.filterMap (fileIn? l))
  | .ok (_, some _) => .error .notFolder

/-- Whether there is a file at a path. -/
def isFile (t : FileTree) (p : Path) : Bool :=
  match t.locate p with
  | .ok (_, some (.file _)) => true
  | _ => false

/-- Give the file at a path its content. -/
def write (t : FileTree) (p : Path) (content : Bytes) : Except DiskFault FileTree :=
  match t.locate p with
  | .error e => .error e
  | .ok (l, none) => .ok (t.set l (.file content))
  | .ok (l, some (.file _)) => .ok (t.set l (.file content))
  | .ok (_, some _) => .error .isFolder

/-- The folder that all steps but the last lead to, and the last step. -/
def locateParent (t : FileTree) (p : Path) : Except DiskFault (Location × PathStep) :=
  match refusal? p with
  | some fault => .error fault
  | none =>
    let steps := stepsOf (p.text.reverse.dropWhile (· == '/')).reverse
    match walk t true maxLinks (t.start p.text) steps.dropLast with
    | .error e => .error e
    | .ok (l, some .folder) => .ok (l, steps.getLast?.getD .here)
    | .ok (_, none) => .error .notFound
    | .ok (_, some _) => .error .notFolder

/-- Put the file at one path in the place of what another path names.  A link there
is replaced and not followed; a folder stays. -/
def rename (t : FileTree) (source target : Path) : Except DiskFault FileTree :=
  match t.locate source false, t.locateParent target with
  | .error e, _ => .error e
  | _, .error e => .error e
  | .ok (_, none), _ => .error .notFound
  | .ok (origin, some node), .ok (folder, step) =>
    match step with
    | .entry name =>
      let l := folder ++ [name]
      if name.byteLength > maxNameBytes then .error .nameTooLong
      else if target.text.getLast? = some '/' then .error .notFolder
      else if t.node? l = some .folder then .error .isFolder
      else if origin = l then .ok t
      else .ok ((t.erase origin).set l node)
    | _ => .error .busy

/-- Remove the file or link at a path. -/
def remove (t : FileTree) (p : Path) : Except DiskFault FileTree :=
  match t.locate p false with
  | .error e => .error e
  | .ok (_, none) => .error .notFound
  | .ok (_, some .folder) => .error .isFolder
  | .ok (l, some _) => .ok (t.erase l)

/-- Create the folders that steps from a folder go through. -/
def makeFoldersFrom (t : FileTree) (place : Location) : List PathStep → FileTree
  | [] => t
  | .root :: steps => makeFoldersFrom t [] steps
  | .here :: steps => makeFoldersFrom t place steps
  | .up :: steps => makeFoldersFrom t place.dropLast steps
  | .entry name :: steps =>
    match walk t true maxLinks place [.entry name] with
    | .ok (l, none) => makeFoldersFrom (t.set l .folder) l steps
    | .ok (l, some .folder) => makeFoldersFrom t l steps
    | _ => t

/-- Create the folder at a path, with the folders on the way. -/
def makeFolders (t : FileTree) (p : Path) : FileTree :=
  t.makeFoldersFrom (t.start p.text) (stepsOf p.text)

/-- Create the folder that the entry at a path belongs to. -/
def makeParent (t : FileTree) (p : Path) : FileTree :=
  t.makeFoldersFrom (t.start p.text) (stepsOf p.text).dropLast

/-- Put a symbolic link at a path. -/
def link (t : FileTree) (p : Path) (target : Text) : Except DiskFault FileTree :=
  match t.locateParent p with
  | .ok (folder, .entry name) => .ok (t.set (folder ++ [name]) (.link target))
  | .ok _ => .error .busy
  | .error e => .error e

/-- The entries below a location, with their locations seen from there. -/
def below (t : FileTree) (l : Location) : List (Location × FileNode) :=
  t.entries.filterMap fun (place, node) =>
    if l.isPrefixOf place then some (place.drop l.length, node) else none

/-- A tree as a disk. -/
def disk (t : FileTree) : Disk Id where
  read := t.read
  regularFiles := t.regularFiles
  isFile := t.isFile

/-- An operation that changes a tree, unless it fails. -/
def edit (f : FileTree → Except DiskFault FileTree) : StateM FileTree (Except DiskFault Unit) :=
  fun t => match f t with
    | .ok t' => (.ok (), t')
    | .error e => (.error e, t)

/-- The disk whose state is a tree. -/
def editable : EditableDisk (StateM FileTree) where
  read p := fun t => (t.read p, t)
  regularFiles p := fun t => (t.regularFiles p, t)
  isFile p := fun t => (t.isFile p, t)
  write p content := edit fun t => t.write p content
  rename source target := edit fun t => t.rename source target
  remove p := edit fun t => t.remove p

end FileTree

end ModuleWiring
