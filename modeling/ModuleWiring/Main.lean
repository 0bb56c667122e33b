/-
The command line program.

This is the outer layer: the disk of the machine, the two output channels, and
the wait for changes.  All decisions are made by `Request.answer` and
`Watch.cycle`.
-/
import ModuleWiring.Command.Watch

namespace ModuleWiring.Host

/-- Why an operation of the machine's disk failed. -/
def faultOf : IO.Error → DiskFault
  | .noFileOrDirectory .. => .notFound
  | .noSuchThing .. => .notFound
  | .inappropriateType _ code _ => if code == 21 then .isFolder else .notFolder
  | .resourceBusy .. => .busy
  | .invalidArgument _ code details =>
    if code == 40 || code == 0 - 40 then .tooManyLinks
    else if code == 36 || code == 0 - 36 then .nameTooLong
    else .other details.toList
  | .permissionDenied .. => .other "Permission denied (os error 13)".toList
  | e => .other e.toString.toList

/-- Carry out an operation of the machine's disk at a path. -/
def attempt {α : Type} (p : Path) (act : String → IO α) : IO (Except DiskFault α) := do
  if p.text.contains '\x00' then return .error .nullInPath
  if p.text.isEmpty then return .error .notFound
  try
    return .ok (← act (String.ofList p.text))
  catch e =>
    return .error (faultOf e)

/-- The names of the regular files of a folder. -/
def regularFiles (folder : String) : IO (List Text) := do
  let entries ← ((← IO.currentDir) / folder).readDir
  let files ← entries.filterM fun entry => do
    return (← entry.path.symlinkMetadata).type == .file
  return files.toList.map fun entry => entry.fileName.toList

/-- Whether there is a regular file at a path. -/
def isFile (path : String) : IO Bool := do
  return (← ((← IO.currentDir) / path).metadata).type == .file

/-- The disk of the machine. -/
def disk : EditableDisk IO where
  read p := attempt p fun s => return (← IO.FS.readBinFile s).toList
  regularFiles p := attempt p regularFiles
  isFile p := do
    match ← attempt p isFile with
    | .ok b => return b
    | .error _ => return false
  write p content := attempt p fun s => IO.FS.writeBinFile s content.toByteArray
  rename source target := attempt target fun s => IO.FS.rename (String.ofList source.text) s
  remove p := attempt p fun s => IO.FS.removeFile s

/-- What tells the temporary names of this run from others. -/
def stamp : IO Text := do
  return Text.ofNat (← IO.rand 0 1000000000) ++ '-' :: Text.ofNat (← IO.monoNanosNow)

/-- What the program finds around it. -/
def surroundings : IO Surroundings := do
  return {
    workingFolder := ⟨(← IO.currentDir).toString.toList⟩
    color := (← IO.getEnv "NO_COLOR").isNone
    filter := (← IO.getEnv "TFINHERIT_LOG").map String.toList
    stamp := ← stamp }

/-- Say something on the output channel. -/
def say (t : Text) : IO Unit := do
  let out ← IO.getStdout
  out.putStr (String.ofList t)
  out.flush

/-- Say something on the error channel. -/
def complain (t : Text) : IO Unit := do
  let err ← IO.getStderr
  err.putStr (String.ofList t)
  err.flush

/-- Show log lines. -/
def log (lines : List Text) : IO Unit :=
  complain (Text.ofLines lines)

/-- The files below a folder whose changes count, with the times of their last change. -/
partial def watched (folder : String) : IO (List (String × Int × UInt32 × UInt64)) := do
  let entries ← try ((← IO.currentDir) / folder).readDir catch _ => pure #[]
  let mut found := []
  for entry in entries do
    let path := entry.path.toString
    match ← (try some <$> entry.path.symlinkMetadata catch _ => pure none) with
    | none => pure ()
    | some data =>
      if data.type == .dir then found := found ++ (← watched path)
      else if Watch.triggers ⟨path.toList⟩ then
        found := (path, data.modified.sec, data.modified.nsec, data.byteSize) :: found
  return found

/-- Wait until files below a folder are new or changed, and then until all is quiet. -/
partial def awaitChange (folder : String) (seen : List (String × Int × UInt32 × UInt64))
    (hasChanged : Bool) : IO (List (String × Int × UInt32 × UInt64)) := do
  IO.sleep 200
  let now ← watched folder
  let changes := now.any fun file => !seen.contains file
  if changes then awaitChange folder now true
  else if hasChanged then return now
  else awaitChange folder now false

/-- Go on whenever a file changes. -/
partial def watch (i : Invocation) (around : Surroundings) (folder : String)
    (seen : List (String × Int × UInt32 × UInt64)) : IO Unit := do
  let seen ← awaitChange folder seen false
  let (output, outcome) ← Watch.cycle disk { around with stamp := ← stamp } i
  log (i.logLines around outcome)
  say output.out
  complain output.err
  watch i around folder seen

/-- Carry out a command line. -/
def answer (args : List String) : IO UInt32 := do
  let around ← surroundings
  let request := Request.ofArguments (args.map String.toList)
  let (outcome, lines) ← request.answer disk around
  log lines
  say outcome.out
  complain outcome.err
  match outcome.fault with
  | some fault => complain (Report.fault fault)
  | none => pure ()
  match request with
  | .run i =>
    if outcome.watches then
      let folder := String.ofList (i.root around).text
      watch i around folder (← watched folder)
  | _ => pure ()
  return outcome.status.toUInt32

end ModuleWiring.Host

/-- Keep the call sites of a project in step with the variables of its modules. -/
def main (args : List String) : IO UInt32 :=
  ModuleWiring.Host.answer args
