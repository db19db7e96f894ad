import EventGate.Fault

/-! # Folders

A folder as the list of its files, the one that was made last at the end, and the place where a
folder may stand, be missing, or be blocked by a file of its name.
-/

namespace EventGate

abbrev Folder := List (String × String)

namespace Folder

def get? (folder : Folder) (name : String) : Option String :=
  folder.lookup name

def contains (folder : Folder) (name : String) : Bool :=
  (folder.get? name).isSome

def erase (folder : Folder) (name : String) : Folder :=
  folder.filter fun file => file.1 != name

/-- Makes a file anew, as the last one. -/
def put (folder : Folder) (name text : String) : Folder :=
  folder.erase name ++ [(name, text)]

def append (folder : Folder) (name text : String) : Folder :=
  folder.map fun file => if file.1 = name then (file.1, file.2 ++ text) else file

/-- Gives a file another name, in the place of a file that has it. -/
def rename? (folder : Folder) (name newName : String) : Option Folder :=
  (folder.get? name).map fun text => (folder.erase name).put newName text

@[simp] theorem get?_nil (name : String) : get? [] name = none := rfl

theorem mem_erase {folder : Folder} {name : String} {file : String × String} :
    file ∈ folder.erase name ↔ file ∈ folder ∧ file.1 ≠ name := by
  simp [erase]

theorem get?_append (folder : Folder) (name text : String) :
    (folder.append name text).get? name = (folder.get? name).map (· ++ text) := by
  induction folder with
  | nil => rfl
  | cons file rest ih =>
    obtain ⟨other, old⟩ := file
    by_cases h : other = name
    · simp [append, get?, h]
    · have hne : (name == other) = false := by simpa using fun e => h e.symm
      simp only [append, get?, List.map_cons, h, if_false, List.lookup_cons, hne] at ih ⊢
      exact ih

end Folder

/-- What stands where a folder is wanted. -/
inductive Place where
  | missing
  | blocked
  | folder (files : Folder)

namespace Place

def makeFolder : Place → Except FileFault Folder
  | missing => .ok []
  | blocked => .error .alreadyExists
  | folder files => .ok files

def files : Place → Except FileFault Folder
  | missing => .error .notFound
  | blocked => .error .notDirectory
  | folder files => .ok files

def toList : Place → Folder
  | folder files => files
  | _ => []

end Place

end EventGate
