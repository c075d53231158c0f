import StubForge.Program

set_option autoImplicit false

/-!
The program on a real file system. The files that it may read are named on standard input, one path
on a line; the files that a run has changed are written back.
-/

namespace StubForge.Main

def addFile (disk : Disk) (place : Place) (data : Bytes) : Disk :=
  let above := (List.range place.length).map place.take
  let disk := above.foldl
    (fun disk folder => if (disk.at? folder).isSome then disk else disk.set folder .folder) disk
  disk.set place (.file (.bytes data))

def placeOf (directory : Place) (name : String) : Place :=
  ((Path.ofString name).resolve directory).parts

def placeText (place : Place) : String := "/" ++ Text.join "/" place

def isSame : Entry → Entry → Bool
  | .folder, .folder => true
  | .file (.bytes a), .file (.bytes b) => a == b
  | _, _ => false

def changes (before after : Disk) : List (Place × Entry) :=
  after.entries.filter fun (place, entry) =>
    match before.at? place with
    | some old => !isSame old entry
    | none => true

def readAll (directory : Place) (names : List String) : IO Disk := do
  let mut disk : Disk := {}
  for name in names do
    let data ← IO.FS.readBinFile name
    disk := addFile disk (placeOf directory name) data.toList
  return disk

def writeBack (changed : List (Place × Entry)) : IO Unit := do
  for (place, entry) in changed do
    match entry with
    | .folder => IO.FS.createDirAll (placeText place)
    | .file (.bytes data) => IO.FS.writeBinFile (placeText place) ⟨data.toArray⟩
    | .file _ => pure ()

partial def readLines (input : IO.FS.Stream) (lines : List String) : IO (List String) := do
  let line ← input.getLine
  if line.isEmpty then return lines
  else readLines input (lines ++ [String.ofList (line.toList.filter (· ≠ '\n'))])

def showRecords (level : Level) (records : List Record) : IO Unit := do
  for record in Record.select level records do
    IO.eprintln (record.level.name ++ " " ++ record.message)

def report (session : Session) : Outcome → IO UInt32
  | .helped => do
      IO.println "usage: ipcstub [-h] [--log-level LOG_LEVEL] \x7bgenerate,inspect\x7d ..."
      return 0
  | .misused program fault => do
      IO.eprintln (program ++ ": error: " ++ fault.message)
      return 2
  | .finished level code lines => do
      showRecords level session.records
      for line in lines do
        IO.println line
      return code.toUInt32
  | .raised level error => do
      showRecords (level.getD .critical) session.records
      IO.eprintln error.message
      return 1

end StubForge.Main

open StubForge
def main (arguments : List String) : IO UInt32 := do
  let directory := Main.placeOf [] ((← IO.getEnv "PWD").getD "/")
  let names ← Main.readLines (← IO.getStdin) []
  let disk ← Main.readAll directory (names.filter (· ≠ ""))
  let clock := (← IO.getEnv "SOURCE_DATE_EPOCH").getD "0"
  let (outcome, session) := (Program.run arguments clock).run { world := World.initial disk, directory }
  Main.writeBack (Main.changes disk session.world.disk)
  Main.report session outcome
