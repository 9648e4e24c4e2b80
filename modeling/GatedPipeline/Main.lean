import GatedPipeline.CommandLine.Basic
import Std.Time.DateTime.Timestamp

namespace GatedPipeline.Main

def entry? (path : String) : IO (Option Entry) := do
  if ← ((← IO.currentDir) / path).isDir then return some .directory
  try
    return some (.file (← IO.FS.readFile path) false)
  catch _ => return none

def addEntry (directory : String) (files : Files) (path : String) : IO Files := do
  let path := Path.resolve directory path
  match ← entry? path with
  | some (.file content _) => return files.write path content
  | some .directory => return files.makeDirectory path
  | none => return files

def machine (words : List String) : IO CommandLine.Machine := do
  let directory := (← IO.currentDir).toString
  let millis := (← Std.Time.Timestamp.now).toMillisecondsSinceUnixEpoch.val.toNat
  let chance := (← IO.getRandomBytes 10).foldl (fun n b => n * 256 + b.toNat) 0
  let m : CommandLine.Machine := {
    environment := .ofText (← IO.FS.readFile "/proc/self/environ")
    directory := directory
    files := Files.empty.makeDirectory directory
    runId := .fresh millis chance
    clock := millis }
  let m := { m with files := ← addEntry directory m.files ".env" }
  let files ← m.prepared.settingsPath?.toList.foldlM (addEntry directory) m.files
  let m := { m with files := files }
  return { m with files := ← (m.mentioned words).foldlM (addEntry directory) files }

def writeChanges (before after : Files) : IO Unit := do
  for (path, entry) in after.entries do
    if before.entry? path ≠ some entry then
      match entry with
      | .directory => IO.FS.createDirAll path
      | .file content _ => IO.FS.writeFile path content

end GatedPipeline.Main

def main (words : List String) : IO UInt32 := do
  let m ← GatedPipeline.Main.machine words
  let (output, error, code, files) := GatedPipeline.CommandLine.execute words m
  IO.print output
  IO.eprint error
  GatedPipeline.Main.writeChanges m.files files
  return code.toUInt32
