/-
What the library asks of a disk.

A disk answers questions about paths, and an editable disk also changes.  Both
are records of operations in a monad, so that the same code runs on a real disk
and on a tree of files held in memory.

* `Disk`, `EditableDisk` — the operations;
* `DiskFault` — why one of them can fail.
-/
import ModuleWiring.Path
import ModuleWiring.Text.Utf8

namespace ModuleWiring

/-- Why an operation on a disk fails. -/
inductive DiskFault where
  /-- There is nothing at the path. -/
  | notFound
  /-- A step of the path goes into something that is no folder. -/
  | notFolder
  /-- There is a folder where a file is needed. -/
  | isFolder
  /-- The last step of the path cannot be renamed. -/
  | busy
  /-- The path follows too many links. -/
  | tooManyLinks
  /-- The path, or one of the names in it, is too long. -/
  | nameTooLong
  /-- The path holds a null character. -/
  | nullInPath
  /-- The file stores no text. -/
  | notText
  /-- Any other reason the system gives. -/
  | other (message : Text)
deriving DecidableEq

/-- How a failure of the disk is reported. -/
def DiskFault.message : DiskFault → Text
  | .notFound => "No such file or directory (os error 2)".toList
  | .notFolder => "Not a directory (os error 20)".toList
  | .isFolder => "Is a directory (os error 21)".toList
  | .busy => "Device or resource busy (os error 16)".toList
  | .tooManyLinks => "Too many levels of symbolic links (os error 40)".toList
  | .nameTooLong => "File name too long (os error 36)".toList
  | .nullInPath => "file name contained an unexpected NUL byte".toList
  | .notText => "stream did not contain valid UTF-8".toList
  | .other message => message

/-- The questions that a disk answers. -/
structure Disk (m : Type → Type) where
  /-- The content of a file. -/
  read : Path → m (Except DiskFault Bytes)
  /-- The names of the regular files of a folder, in any order. -/
  regularFiles : Path → m (Except DiskFault (List Text))
  /-- Whether there is a regular file at a path, perhaps behind links. -/
  isFile : Path → m Bool

/-- A disk that can be changed. -/
structure EditableDisk (m : Type → Type) extends Disk m where
  /-- Give a file its content, and create it if it is missing. -/
  write : Path → Bytes → m (Except DiskFault Unit)
  /-- Put a file in the place of another, in one step. -/
  rename : (source target : Path) → m (Except DiskFault Unit)
  /-- Remove a file. -/
  remove : Path → m (Except DiskFault Unit)

end ModuleWiring
