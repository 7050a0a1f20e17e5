import LightningGateway.Host.Rehearsal
import LightningGateway.Settings.Loading

/-
  The command line of the gateway.

  The program reads its settings, sets up its log, and starts
  its host.  It has no connection of its own, so a provider is
  out of its reach.

  Key definitions include:
    * `main`
-/

namespace LightningGateway.Program

open Settings

/- The bytes of a file, if it can be read. -/
def readFile (path : String) : IO (Option (List UInt8)) := do
  try
    let bytes ← IO.FS.readBinFile path
    return some bytes.toList
  catch _ => return none

/- The text of names with slashes between them. -/
def joined (names : List String) : String :=
  "/".intercalate names

/- The name under which the file of the command line is known. -/
def namedFile : String := "named"

/- A tree that holds the file to load, if it is there. -/
def treeOf
    (given : CommandLine.Given)
    (bytes : Option (List UInt8)) : FileTree :=
  match bytes, given.config with
  | none, _ => .empty
  | some b, some _ => .folder [(namedFile, .file b)]
  | some b, none =>
      match (FileTree.empty.makeFolders? scheme.folder).bind
          (FileTree.write? b scheme.file) with
      | .ok t => t
      | .error _ => .empty

/- Load the settings, and write the default file if there is none. -/
def loadSettings
    (given : CommandLine.Given) :
    IO (Except LoadError Settings) := do
  let path := given.config.getD (joined scheme.file)
  let before := treeOf given (← readFile path)
  let known := { given with config := given.config.map fun _ => namedFile }
  let (result, after) := scheme.load [] known before
  match scheme.openDefault [] before, scheme.openDefault [] after with
  | .error _, .ok (.file bytes) =>
      IO.FS.createDirAll (joined scheme.folder)
      IO.FS.writeBinFile (joined scheme.file) ⟨bytes.toArray⟩
  | _, _ => pure ()
  return result

/- Print the lines that the log level lets through. -/
def printLog
    (level : LogLevel)
    (lines : List LogLine) : IO Unit :=
  for l in lines do
    if level.rank ≤ l.level.rank then
      IO.println (l.level.name ++ " " ++ l.text)

/- Build the host and log what it logs until it listens. -/
def startHost
    (s : Settings)
    (level : LogLevel) : IO UInt32 := do
  match Wallet.build s with
  | .error e =>
      printLog level [Host.sourceLine s]
      IO.eprintln ("Error: " ++ e.message)
      return 1
  | .ok w =>
      match Host.Rehearsal.start s w (.outOfReach []) with
      | some r =>
          printLog level (r.move .listen).host.log
          return 0
      | none => return 1

/- Run the program with its arguments. -/
def run (args : List String) : IO UInt32 := do
  match CommandLine.parse args with
  | .error r => return UInt32.ofNat r.exitCode
  | .ok given =>
      match ← loadSettings given with
      | .error e =>
          IO.eprintln ("Error: " ++ e.message)
          return 1
      | .ok s =>
          let environment ← IO.getEnv "RUST_LOG"
          startHost s (.choose s.level environment)

end LightningGateway.Program

/- The program. -/
def main (args : List String) : IO UInt32 :=
  LightningGateway.Program.run args
