import Kompositum.Command.Run
import Kompositum.Pattern.Parser
import Std.Time.DateTime.Timestamp

/-!
# The program

The outermost layer. It takes a snapshot of the files that a command looks at, runs the command on
it, and makes the changes to the snapshot come true.
-/

namespace Kompositum.Program

/-- The place of a path from the root on. -/
def placeOf (path : Text) : Place := (Path.names path).foldl Files.next []

/-- The path of a place. -/
def pathOf (p : Place) : String := String.ofList (p.flatMap fun name => '/' :: name)

/-- The places on the way that a path takes, with the one that it leads to at the end. -/
def way (files : Files) (path : Text) : List Place :=
  ((Path.names path).foldl (fun places name => places ++ [Files.next (places.getLastD []) name])
    [files.start path])

/-- The content of a file. -/
def content (path : String) : IO Bytes := return (← IO.FS.readBinFile path).toList

/-- A snapshot with what stands at a place: a file, or a folder with the files in it if `deep`. -/
def takePlace (deep : Bool) (files : Files) (p : Place) : IO Files := do
  try
    let real ← IO.FS.realPath (pathOf p)
    if ← real.isDir then
      let mut files := if p.isEmpty then files else files.set p .folder
      if deep then
        for e in ← real.readDir do
          unless ← e.path.isDir do
            files := files.set (p ++ [e.fileName.toList]) (.file (← content e.path.toString))
      return files
    else return files.set p (.file (← content real.toString))
  catch _ => return files

/-- A snapshot with what a path leads to and the folders on the way. What cannot be read is taken
for missing. -/
def takePath (files : Files) (path : Text) : IO Files := do
  if path.isEmpty then return files
  let places := way files path
  let files ← places.dropLast.foldlM (takePlace false) files
  takePlace true files (places.getLastD [])

/-- A snapshot of all that a command looks at. -/
partial def snapshot (c : Command) (known : List Text) (files : Files) : IO Files := do
  let paths := (c.paths files).filter fun p => !known.contains p
  if paths.isEmpty then return files
  snapshot c (paths ++ known) (← paths.foldlM takePath files)

/-- The changes from one snapshot to another one made in the folders themselves. -/
def writeBack (before after : Files) : IO Unit := do
  for (p, e) in after.entries.reverse do
    if before.entry? p != some e then
      match e with
      | .folder => IO.FS.createDirAll (pathOf p)
      | .file bytes => IO.FS.writeBinFile (pathOf p) (ByteArray.mk bytes.toArray)
  for (p, e) in before.entries do
    if e != .folder && (after.entry? p).isNone then IO.FS.removeFile (pathOf p)

/-- All bytes of the input. -/
partial def readAll (input : IO.FS.Stream) (done : ByteArray) : IO Bytes := do
  let bytes ← input.read 65536
  if bytes.isEmpty then return done.toList else readAll input (done ++ bytes)

/-- The present moment. -/
def now : IO Moment := do
  let t := (← Std.Time.Timestamp.now).toNanosecondsSinceUnixEpoch.val
  return .ofSeconds (t / 1000000000) (t % 1000000000).toNat

/-- What is told of a command line that asks for nothing. -/
def usage : String :=
  "Usage: kompositum [OPTIONS] <index|split|rank|decompound|stats> ..."

/-- A command run: its report is printed, or its error told. -/
def run (a : Arguments) : IO UInt32 := do
  let home := placeOf (← IO.currentDir).toString.toList
  let files ← snapshot a.command [] (Files.empty home)
  let input ← if a.command.readsInput then readAll (← IO.getStdin) ByteArray.empty else pure []
  let started ← IO.monoMsNow
  let (result, changed) := a.command.run Pattern (← now) 0 files input
  writeBack files changed
  let elapsed := (← IO.monoMsNow) - started
  match result with
  | .ok report =>
    IO.print (String.ofList ((report.taking elapsed).render a))
    return 0
  | .error e =>
    IO.eprintln ("Error: " ++ String.ofList e.message)
    return 1

end Kompositum.Program

/-- The command line program. -/
def main (args : List String) : IO UInt32 := do
  match Kompositum.Arguments.parse? ("kompositum".toList :: args.map String.toList) with
  | some a => Kompositum.Program.run a
  | none =>
    IO.eprintln Kompositum.Program.usage
    return 2
