import EventGate.Tool.Report

/-! # Usage

What is told about the commands: how each is used, what its words mean, and what is wrong with a
command line.
-/

namespace EventGate

def toolName : String := "manifest-tool"

def optedOutOption : String := "--opted-out"

def channelOption : String := "--channel <CHANNELS>"

/-- What help is about: the tool, or one of its commands. -/
inductive Topic where
  | all
  | validate
  | eval
  | help
deriving DecidableEq, Repr

namespace Topic

def ofName? (name : String) : Option Topic :=
  if name = "validate" then some validate
  else if name = "eval" then some eval
  else if name = "help" then some help
  else none

def values : Topic → List String
  | all => []
  | validate => ["<FILE>"]
  | eval => ["<MANIFEST>", "<EVENT>"]
  | help => ["[COMMAND]..."]

def options : Topic → List (String × String)
  | all => [("help", "--help"), ("version", "--version")]
  | validate => [("help", "--help")]
  | eval => [("opted-out", optedOutOption), ("channel", channelOption), ("help", "--help")]
  | help => []

def head : Topic → List String
  | all => [toolName]
  | validate => [toolName, "validate"]
  | eval => [toolName, "eval"]
  | help => [toolName, "help"]

def usageWith (topic : Topic) (used : List String) : String :=
  let tail := if topic = all then ["<COMMAND>"] else topic.values
  " ".intercalate (topic.head ++ used ++ tail)

def usage (topic : Topic) : String :=
  topic.usageWith (if topic = eval then ["[OPTIONS]"] else [])

def purpose : Topic → String
  | all => "Inspect telemetry manifests"
  | validate => "Parse a manifest and list kept and dropped rules"
  | eval => "Run one event through the pipeline with the given manifest"
  | help => "Print this message or the help of the given subcommand(s)"

def details : Topic → List String
  | all => [
      "Commands:",
      "  validate  " ++ purpose validate,
      "  eval      " ++ purpose eval,
      "  help      " ++ purpose help, "",
      "Options:",
      "  -h, --help     Print help",
      "  -V, --version  Print version"]
  | validate => [
      "Arguments:",
      "  <FILE>  Manifest document", "",
      "Options:",
      "  -h, --help  Print help"]
  | eval => [
      "Arguments:",
      "  <MANIFEST>  Manifest document",
      "  <EVENT>     Event as a JSON object", "",
      "Options:",
      "      --opted-out           Evaluate as an opted-out session",
      "      --channel <CHANNELS>  Register an extra routed channel with this id",
      "  -h, --help                Print help"]
  | help => [
      "Arguments:",
      "  [COMMAND]...  Print help for the subcommand(s)"]

def helpText (topic : Topic) : String :=
  Report.lines ([topic.purpose, "", "Usage: " ++ topic.usage, ""] ++ topic.details)

end Topic

/-- A guess at what was meant: nothing, a value that looks like an option, an option of a similar
name, an option of another command, or the command without the two hyphens before it. -/
inductive Tip where
  | none
  | asValue
  | similar (option : String)
  | elsewhere (command option : String)
  | asCommand
deriving DecidableEq, Repr

inductive UsageFault where
  | noCommand
  | unknownCommand (word : String) (similar : List String) (topic : Topic)
  | unexpected (word : String) (tip : Tip) (usage : String)
  | missing (names : List String) (usage : String)
  | noValue (option : String)
  | needless (value option usage : String)
  | repeated (option usage : String)
deriving DecidableEq, Repr

namespace UsageFault

def inQuotes (word : String) : String :=
  "'" ++ word ++ "'"

def tipLines (word : String) : Tip → List String
  | .none => []
  | .asValue =>
    ["", "  tip: to pass " ++ inQuotes word ++ " as a value, use " ++ inQuotes ("-- " ++ word)]
  | .similar option => ["", "  tip: a similar argument exists: " ++ inQuotes option]
  | .elsewhere command option => ["", "  tip: " ++ inQuotes (command ++ " " ++ option) ++ " exists"]
  | .asCommand =>
    ["", "  tip: subcommand " ++ inQuotes word ++ " exists; to use it, remove the '--' before it"]

def similarLines : List String → List String
  | [] => []
  | [name] => ["", "  tip: a similar subcommand exists: " ++ inQuotes name]
  | names =>
    ["", "  tip: some similar subcommands exist: " ++ ", ".intercalate (names.map inQuotes)]

def usageLines (usage : String) : List String :=
  ["", "Usage: " ++ usage]

def parts : UsageFault → String × List String
  | noCommand => ("", [])
  | unknownCommand word similar topic =>
    ("unrecognized subcommand " ++ inQuotes word, similarLines similar ++ usageLines topic.usage)
  | unexpected word tip usage =>
    ("unexpected argument " ++ inQuotes word ++ " found", tipLines word tip ++ usageLines usage)
  | missing names usage =>
    ("the following required arguments were not provided:\n" ++
      "\n".intercalate (names.map fun name => "  " ++ name), usageLines usage)
  | noValue option =>
    ("a value is required for " ++ inQuotes option ++ " but none was supplied", [])
  | needless value option usage =>
    ("unexpected value " ++ inQuotes value ++ " for " ++ inQuotes option ++
      " found; no more were expected", usageLines usage)
  | repeated option usage =>
    ("the argument " ++ inQuotes option ++ " cannot be used multiple times", usageLines usage)

/-- How to learn more; the command that gives help has no help of its own. -/
def closing : UsageFault → List String
  | unknownCommand _ _ .help => []
  | _ => ["", "For more information, try '--help'."]

def message : UsageFault → String
  | noCommand => Topic.all.helpText
  | fault =>
    let (what, more) := fault.parts
    Report.lines (["error: " ++ what] ++ more ++ fault.closing)

end UsageFault

end EventGate
