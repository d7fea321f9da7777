import TargetTypes.Command

/-!
# The command line

Takes down what is there on the way to the paths in the arguments, runs the command on that,
and carries out what it decided. The arguments come as plain texts, and only plain texts are printed.
-/

namespace TargetTypes

/-- A path and all paths on the way to it, the shortest first. -/
def Path.stages (path : Path) : List Path :=
  (List.range (path.parts.length + 1)).map fun n => { path with parts := path.parts.take n }

/-- A text as it is handed on; a surrogate has no place there. -/
def spelled (text : Text) : String := String.ofList (text.filterMap CodePoint.scalar?)

def isDirectoryOnDisk (name : String) : IO Bool :=
  try
    let place ← IO.FS.realPath name
    place.isDir
  catch _ => return false

def contentsOnDisk? (name : String) : IO (Option Contents) :=
  try
    let raw ← IO.FS.readBinFile name
    match String.fromUTF8? raw with
    | some text => return some (.text text.toList)
    | none => return some (.bytes raw.toList)
  catch _ => return none

def takeDown (store : Store) (path : Path) : IO Store :=
  path.stages.foldlM (fun seen stage => do
    let name := spelled stage.text
    if ← isDirectoryOnDisk name then return seen.addDirectory stage
    match ← contentsOnDisk? name with
    | some contents => return seen.addFile stage contents
    | none => return seen) store

/-- What is there on the way to the paths that the arguments name. -/
def storeFor (texts : List Text) : IO Store :=
  match Arguments.read texts with
  | .error _ => return {}
  | .ok args =>
    ([args.config, args.definitions, args.output].filterMap id).foldlM
      (fun store text => takeDown store (Path.ofText text)) {}

def writeOnDisk (name : String) : Contents → IO Unit
  | .text plain => IO.FS.writeFile name (String.ofList plain)
  | .bytes raw => IO.FS.writeBinFile name ⟨raw.toArray⟩

/-- Makes the directories and writes the files by which a store differs from an earlier one. -/
def carryOut (before after : Store) : IO Unit := do
  for place in before.newDirectories after do
    if let some name := place.spelling? then IO.FS.createDirAll name
  for (place, contents) in before.changes after do
    if let some name := place.spelling? then writeOnDisk name contents

/-- Faults are reported apart from what is printed; help is no fault to a reader. -/
def report (fault : Fault) : IO UInt32 := do
  let message := spelled fault.message
  if fault = .help then IO.println message else IO.eprintln message
  return fault.exitCode.toUInt32

end TargetTypes

open TargetTypes in
def main (args : List String) : IO UInt32 := do
  let texts := args.map Text.ofString
  let store ← storeFor texts
  let (printed, left) := Command.run Host.strict store texts
  carryOut store left
  match printed with
  | .ok text =>
    IO.print (spelled text)
    return 0
  | .error fault => report fault
