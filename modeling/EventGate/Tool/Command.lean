import EventGate.Text.Similarity
import EventGate.Tool.Usage

/-! # The command line

The commands that authors of manifests give: the words of a command line, sorted by what they are,
and what each command does.
-/

namespace EventGate

open Text

inductive Command where
  | validate (manifest : String)
  | eval (manifest event : String) (optedOut : Bool) (channels : List String)
  | help (topic : Topic)
  | version
deriving DecidableEq, Repr

namespace Command

/-- The words behind the name of a command. `used` are the options among them as they are shown. -/
structure Words where
  values : List String
  optedOut : Bool
  channels : List String
  used : List String

def Words.empty : Words := ⟨[], false, [], []⟩

/-- The parts of a long option: its name, and the value behind an equals sign. -/
def longOption? (word : String) : Option (String × Option String) :=
  match word.toList with
  | '-' :: '-' :: name =>
    match splitOnce? '=' name with
    | some (name, value) => some (String.ofList name, some (String.ofList value))
    | none => some (String.ofList name, none)
  | _ => none

namespace Words

def use (words : Words) (option : String) : Words :=
  if words.used.contains option then words else { words with used := words.used ++ [option] }

def usage (words : Words) (topic : Topic) : String :=
  if words.values.isEmpty && words.used.isEmpty then topic.usage
  else topic.usageWith words.used

def wantsValue (words : Words) (topic : Topic) : Bool :=
  decide (words.values.length < topic.values.length)

def addValue (words : Words) (topic : Topic) (value : String) : Except UsageFault Words :=
  if words.wantsValue topic then .ok { words with values := words.values ++ [value] }
  else .error (.unexpected value .none topic.usage)

def addChannel (words : Words) (id : String) : Words :=
  { words.use channelOption with channels := words.channels ++ [id] }

/-- Adds the flag of an opted-out session, which may be given once. -/
def addOptedOut (words : Words) (topic : Topic) : Except UsageFault Words :=
  if words.optedOut then .error (.repeated optedOutOption topic.usage)
  else .ok { words.use optedOutOption with optedOut := true }

def needlessValue (words : Words) (topic : Topic) (option value : String) : UsageFault :=
  .needless value option ((words.use option).usage topic)

def unknownOption (words : Words) (topic : Topic) (name : String) : UsageFault :=
  match (similarTo name (topic.options.map Prod.fst)).getLast? with
  | some similar =>
    let words := words.use ((topic.options.lookup similar).getD similar)
    .unexpected ("--" ++ name) (.similar ("--" ++ similar)) (words.usage topic)
  | none =>
    .unexpected ("--" ++ name) (if topic.values.isEmpty then .none else .asValue)
      (words.usage topic)

def unknownLetter (topic : Topic) (letter : Char) : UsageFault :=
  .unexpected (String.ofList ['-', letter]) (if topic.values.isEmpty then .none else .asValue)
    topic.usage

def addValues (words : Words) (topic : Topic) : List String → Except UsageFault Words
  | [] => .ok words
  | value :: rest => do addValues (← words.addValue topic value) topic rest

/-- Sorts the words behind the name of a command; none if they ask for help. With `awaiting` the
option for channels has been given and its value has not. -/
def sort (topic : Topic) (words : Words) (awaiting : Bool) :
    List String → Except UsageFault (Option Words)
  | [] => if awaiting then .error (.noValue channelOption) else .ok (some words)
  | "--" :: rest =>
    if awaiting && (rest.isEmpty || words.wantsValue topic) then .error (.noValue channelOption)
    else (words.addValues topic rest).map some
  | word :: rest =>
    match longOption? word with
    | some (name, value) =>
      if (topic.options.lookup name).isNone then .error (words.unknownOption topic name)
      else if name = "channel" then
        if awaiting then .error (.noValue channelOption)
        else
          match value with
          | some id => sort topic (words.addChannel id) false rest
          | none => sort topic words true rest
      else
        match value with
        | some value => .error (words.needlessValue topic ("--" ++ name) value)
        | none =>
          if awaiting then .error (.noValue channelOption)
          else if name = "help" then .ok none
          else do sort topic (← words.addOptedOut topic) false rest
    | none =>
      match word.toList with
      | '-' :: 'h' :: _ => if awaiting then .error (.noValue channelOption) else .ok none
      | '-' :: letter :: _ => .error (unknownLetter topic letter)
      | _ =>
        if awaiting then sort topic (words.addChannel word) false rest
        else do sort topic (← words.addValue topic word) false rest

end Words

def ofWords (topic : Topic) (words : Words) : Except UsageFault Command :=
  match topic, words.values with
  | .validate, [manifest] => .ok (.validate manifest)
  | .eval, [manifest, event] => .ok (.eval manifest event words.optedOut words.channels)
  | .all, _ => .error .noCommand
  | topic, values =>
    .error (.missing (topic.values.drop values.length) (topic.usageWith words.used))

/-- A command from the words behind its name. -/
def parseBehind (topic : Topic) (arguments : List String) : Except UsageFault Command := do
  match ← Words.sort topic .empty false arguments with
  | some words => ofWords topic words
  | none => return .help topic

def parseHelp : List String → Except UsageFault Command
  | [] => .ok (.help .all)
  | word :: rest =>
    match Topic.ofName? word, rest with
    | none, _ => .error (.unknownCommand word [] .all)
    | some topic, [] => .ok (.help topic)
    | some topic, word :: _ => .error (.unknownCommand word [] topic)

def unknown (word : String) : UsageFault :=
  .unknownCommand word (similarTo word ["validate", "eval", "help"]) .all

/-- What is wrong with a long option before the name of a command. It may be an option of the
command `eval`, if that follows. -/
def unknownBefore (name : String) (rest : List String) : UsageFault :=
  match (similarTo name (Topic.all.options.map Prod.fst)).getLast?,
    (similarTo name (Topic.eval.options.map Prod.fst)).getLast? with
  | none, some option =>
    if rest.contains "eval" then
      .unexpected ("--" ++ name) (.elsewhere "eval" ("--" ++ option)) Topic.all.usage
    else
      Words.empty.unknownOption .all name
  | _, _ => Words.empty.unknownOption .all name

def parseOption (word : String) (rest : List String) : Except UsageFault Command :=
  match longOption? word with
  | some (name, value) =>
    if (Topic.all.options.lookup name).isNone then .error (unknownBefore name rest)
    else
      match value with
      | some value => .error (Words.empty.needlessValue .all ("--" ++ name) value)
      | none => .ok (if name = "help" then .help .all else .version)
  | none =>
    match word.toList with
    | '-' :: 'h' :: _ => .ok (.help .all)
    | '-' :: 'V' :: _ => .ok .version
    | '-' :: letter :: _ => .error (Words.unknownLetter .all letter)
    | _ => .error (unknown word)

def parse : List String → Except UsageFault Command
  | [] => .error .noCommand
  | "validate" :: arguments => parseBehind .validate arguments
  | "eval" :: arguments => parseBehind .eval arguments
  | "help" :: arguments => parseHelp arguments
  | ["--"] => .error .noCommand
  | "--" :: word :: _ =>
    .error (if (Topic.ofName? word).isSome then .unexpected word .asCommand Topic.all.usage
      else unknown word)
  | word :: rest => parseOption word rest

def manifestPath? : Command → Option String
  | validate manifest => some manifest
  | eval manifest _ _ _ => some manifest
  | help _ => none
  | version => none

def run (command : Command) (file : Storage) (session : Session) (id : String) (now : Nat) :
    Report :=
  match command with
  | validate path => .ofValidation path file
  | eval _ event optedOut channels =>
    .ofTrial file event { session with optedOut } channels id now
  | help topic => ⟨0, topic.helpText, ""⟩
  | version => ⟨0, Report.lines [toolName ++ " " ++ hostVersion], ""⟩

def refusal (fault : UsageFault) : Report :=
  ⟨2, "", fault.message⟩

end Command

end EventGate
