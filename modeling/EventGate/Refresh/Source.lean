import EventGate.Refresh.Storage

/-! # Sources of manifests

Where a refresh gets its text from: a file, a server, or a script of answers.
-/

namespace EventGate

/-- A source. A script gives its answers in turn, the last one for ever, each after a delay in
milliseconds, and keeps whether it was asked for fresh copies. A server is never reached from
here. -/
inductive Source where
  | script (delay : Nat) (answers : List (Except Fault String)) (asked : List Bool)
  | file (path : String) (storage : Storage)
  | server (address : String)

namespace Source

def describe : Source → String
  | script .. => "scripted"
  | file path _ => path
  | server address => address

def ask (source : Source) (bypass : Bool) : Source :=
  match source with
  | script delay answers asked => script delay answers (asked ++ [bypass])
  | other => other

def nextAnswer : List (Except Fault String) → Except Fault String × List (Except Fault String)
  | [] => (.error (.fetch "no responses"), [])
  | [last] => (last, [last])
  | answer :: rest => (answer, rest)

def answer : Source → Except Fault String × Source
  | script delay answers asked =>
    let (answer, rest) := nextAnswer answers
    (answer, script delay rest asked)
  | file path storage => (storage.read.mapError Fault.file, file path storage)
  | server address => (.error (.fetch address), server address)

@[simp] theorem describe_ask (source : Source) (bypass : Bool) :
    (source.ask bypass).describe = source.describe := by
  cases source <;> rfl

@[simp] theorem describe_answer (source : Source) : source.answer.2.describe = source.describe := by
  cases source <;> rfl

end Source

end EventGate
