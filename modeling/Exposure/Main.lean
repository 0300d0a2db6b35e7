/-
# Main — the command at a terminal

The files that the command reads are taken from the disk before it runs, and the
ones it has written are put there afterwards.
-/
import Exposure.Command.Run
import Exposure.Command.Stamp
import Std.Time.DateTime.Timestamp

namespace Exposure.Terminal

set_option autoImplicit false

/-- The location of a path, by its text alone. -/
def locationOf (files : FileTree) (path : String) : Location :=
  let whole :=
    if FilePath.isAbsolute path then path else Text.joined "/" ("" :: files.work ++ [path])
  (FilePath.elements (FilePath.clean whole)).filter (· != "")

/-- The path of a location. -/
def pathOf (l : Location) : String := "/" ++ Text.joined "/" l

/-- The files with what the disk has at a path. -/
def fetch (files : FileTree) (path : String) : IO FileTree := do
  if path == "" then return files
  let l := locationOf files path
  try
    let content ← IO.FS.readFile (pathOf l)
    return files.put l content
  catch
    | .inappropriateType .. => return { files with directories := files.directories ++ [l] }
    | _ => return files

/-- The files that a command line reads: the configuration first, then what it names. -/
def fetchInputs (files : FileTree) (line : List String) : IO FileTree := do
  let files ← (Command.inputs files line).foldlM fetch files
  (Command.inputs files line).foldlM fetch files

/-- Puts the files that are new or changed on the disk. -/
def store (old new : FileTree) : IO Unit := do
  for (l, content) in new.files do
    if old.content? l != some content then
      IO.FS.createDirAll (pathOf l.dropLast)
      IO.FS.writeFile (pathOf l) content

end Exposure.Terminal

open Exposure in
/-- Runs the command line. -/
def main (line : List String) : IO UInt32 := do
  let work := (FilePath.elements (toString (← IO.currentDir))).filter (· != "")
  let files ← Terminal.fetchInputs { work } line
  let now ← Std.Time.Timestamp.now
  let bytes ← IO.getRandomBytes 16
  let e := Command.run {
    files, time := Stamp.timeText now.toSecondsSinceUnixEpoch.val
    run := Stamp.runName (bytes.toList.map (·.toNat)) } line
  Terminal.store files e.files
  IO.print e.output
  IO.eprint e.errors
  return UInt32.ofNat e.code
