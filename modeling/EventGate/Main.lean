import EventGate.Event.Identifier
import EventGate.Log.Packed
import EventGate.Tool.Agent
import EventGate.Tool.Command
import Std.Time.DateTime.Timestamp

/-! # The program

The command line: `agent` takes events from standard input, and every other command inspects a
manifest. Here files are read and written, and here alone.
-/

namespace EventGate.Program

/-! ## What the system knows -/

/-- The time in milliseconds since the beginning of 1970. -/
def wallClock : IO Nat := do
  let now ← Std.Time.Timestamp.now
  return now.toMillisecondsSinceUnixEpoch.toInt.toNat

def newIdentifier : IO String := do
  let bytes ← IO.getRandomBytes 16
  return Identifier.ofBytes bytes.toList

def readStorage (path : String) : IO Storage := do
  try
    let bytes ← IO.FS.readBinFile path
    match String.fromUTF8? bytes with
    | some content => return .text content
    | none => return .bytes
  catch
    | .noFileOrDirectory .. => return .missing
    | _ => return .folder

/-- What stands where the folder of a log is wanted. Only the names of packed files matter. -/
def readPlace (directory : String) : IO Place := do
  try
    let entries ← (← IO.FS.realPath directory).readDir
    let files ← entries.toList.mapM fun entry => do
      if entry.fileName = LogName.current then
        match ← readStorage entry.path.toString with
        | .text content => return (entry.fileName, content)
        | _ => return (entry.fileName, "")
      else return (entry.fileName, "")
    return .folder (files.mergeSort fun a b => decide (a.1 ≤ b.1))
  catch
    | .noFileOrDirectory .. => return .missing
    | _ => return .blocked

/-! ## Keeping a log -/

def saveFile (directory name : String) (before : Option String) (content : String) : IO Unit := do
  let path := directory ++ "/" ++ name
  if name.endsWith ".gz" then
    IO.FS.writeBinFile path (Packed.ofText content)
  else
    match before with
    | some text =>
      if text.isPrefixOf content then
        IO.FS.withFile path .append fun file =>
          file.putStr (String.ofList (content.toList.drop text.length))
      else IO.FS.writeFile path content
    | none => IO.FS.writeFile path content

def saveFolder (directory : String) (before after : Folder) : IO Unit := do
  IO.FS.createDirAll directory
  for file in before do
    unless after.contains file.1 do
      IO.FS.removeFile (directory ++ "/" ++ file.1)
  for file in after do
    let old := before.get? file.1
    unless old = some file.2 do
      saveFile directory file.1 old file.2

def logFiles (agent : Agent) : Option Folder :=
  agent.live.service.log.map fun log => log.writer.place.toList

/-- Keeps the log of an agent; gives what is kept now. -/
def saveLog (config : Config) (kept : Folder) (agent : Agent) : IO Folder := do
  match config.log, logFiles agent with
  | some settings, some files =>
    saveFolder settings.directory kept files
    return files
  | _, _ => return kept

/-! ## The commands -/

def display (printed : Printed) : IO Unit :=
  match printed with
  | .output line => IO.println line
  | .remark line => IO.eprintln line

def chomp (line : String) : String :=
  match line.toList.reverse with
  | '\n' :: '\r' :: rest => String.ofList rest.reverse
  | '\n' :: rest => String.ofList rest.reverse
  | _ => line

partial def takeLines (config : Config) (input : IO.FS.Stream) (kept : Folder) (agent : Agent) :
    IO (Folder × Agent) := do
  let line ← input.getLine
  if line.isEmpty then return (kept, agent)
  let (printed, agent) := agent.take (chomp line) (← newIdentifier) (← wallClock)
  printed.forM display
  let kept ← saveLog config kept agent
  takeLines config input kept agent

def readConfig : IO Config := do
  let values ← Config.variableNames.filterMapM fun name => do
    return (← IO.getEnv name).map fun value => (name, value)
  return .ofVariables fun name => values.lookup name

def runAgent : IO UInt32 := do
  let config ← readConfig
  let session := Session.create (← newIdentifier)
  let cache ← config.cachePath.mapM readStorage
  let place ← match config.log with
    | some settings => readPlace settings.directory
    | none => pure .missing
  let (opening, started) := Agent.start config session cache place (← wallClock)
  opening.forM display
  match started with
  | none => return 1
  | some agent =>
    let kept ← saveLog config place.toList agent
    let (kept, agent) ← takeLines config (← IO.getStdin) kept agent
    let (ending, code, agent) := agent.stop
    ending.forM display
    let _ ← saveLog config kept agent
    return code.toUInt32

def runCommand (arguments : List String) : IO UInt32 := do
  let report ← match Command.parse arguments with
    | .error fault => pure (Command.refusal fault)
    | .ok command =>
      let file ← match command.manifestPath? with
        | some path => readStorage path
        | none => pure .missing
      pure (command.run file (.create (← newIdentifier)) (← newIdentifier) (← wallClock))
  IO.print report.output
  IO.eprint report.errors
  return report.code.toUInt32

end EventGate.Program

def main (arguments : List String) : IO UInt32 :=
  match arguments with
  | ["agent"] => EventGate.Program.runAgent
  | _ => EventGate.Program.runCommand arguments
