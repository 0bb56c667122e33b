/-
Why the work on a project stops.

Each fault is a cause, with what is needed to report it.  A report has a code, a
message, and sometimes a hint.
-/
import ModuleWiring.Content.Basic
import ModuleWiring.Disk.Basic

namespace ModuleWiring

/-- A reason to stop. -/
inductive Fault where
  /-- An operation on the disk fails. -/
  | disk (fault : DiskFault)
  /-- A file or folder to read is missing. -/
  | missing (path : Path)
  /-- The main file calls no module. -/
  | noCallSite (path : Path)
  /-- The main file ends inside of a block. -/
  | unclosed (block : Unclosed) (path : Path)
  /-- The settings file cannot be understood. -/
  | settings
deriving DecidableEq

namespace Fault

/-- Whether something to read is missing. -/
def isMissing : Fault → Bool
  | .missing _ => true
  | .disk .notFound => true
  | _ => false

/-- The code of a fault. -/
def code : Fault → Text
  | .disk _ => "tfinherit::io_error".toList
  | .missing _ => "tfinherit::file_not_found".toList
  | .noCallSite _ => "tfinherit::no_module_found".toList
  | .unclosed _ _ => "tfinherit::unclosed_block".toList
  | .settings => "tfinherit::config_parse".toList

/-- What to do about a fault. -/
def hint? : Fault → Option Text
  | .noCallSite _ =>
    some "the main file must contain at least one `module \"<name>\" \x7b` block".toList
  | .unclosed _ _ => some "close the block with a lone `\x7d` at the start of a line".toList
  | .settings => some "check that tfinherit.toml is valid TOML".toList
  | _ => none

/-- What is wrong. -/
def message : Fault → Text
  | .disk fault => fault.message
  | .missing path => "file not found: `".toList ++ path.text ++ "`".toList
  | .noCallSite path =>
    "NO_MODULE_FOUND: no module block found in `".toList ++ path.text ++ "`".toList
  | .unclosed block path =>
    block.kind.keyword ++ " block `".toList ++ block.name ++ "` opened at ".toList ++ path.text ++
      ':' :: Text.ofNat block.line ++ " is never closed".toList
  | .settings => "failed to parse config file".toList

/-- The fault of a failed reading of a path. -/
def ofReading (path : Path) : DiskFault → Fault
  | .notFound => .missing path
  | fault => .disk fault

end Fault

end ModuleWiring
