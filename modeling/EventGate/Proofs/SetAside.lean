import Mathlib.Data.List.Basic
import EventGate.Proofs.LogFolder
import EventGate.Proofs.OneLine

/-! # Files put aside

A file that is put aside has its name from the second and from the count of its writer. Such names
differ if the second or the number does, and none of them is a packed name. So a folder with room
keeps the files that are put aside, each until another one takes its name.
-/

namespace EventGate

/-! ## Names -/

namespace LogName

theorem toDigits_inj {a b : Nat} (h : Nat.toDigits 10 a = Nat.toDigits 10 b) : a = b :=
  calc a = Nat.ofDigitChars 10 (Nat.toDigits 10 a) 0 := Nat.ofDigitChars_ten_toDigits.symm
    _ = Nat.ofDigitChars 10 (Nat.toDigits 10 b) 0 := by rw [h]
    _ = b := Nat.ofDigitChars_ten_toDigits

theorem toList_rotated (second number : Nat) :
    (rotated second number).toList =
      rotatedStart.toList ++ (Nat.toDigits 10 second ++ '-' :: Nat.toDigits 10 number) := by
  simp [rotated, Nat.toList_repr]

/-- The hyphen tells where the second ends. -/
theorem rotated_inj {second number otherSecond otherNumber : Nat} :
    rotated second number = rotated otherSecond otherNumber ↔
      second = otherSecond ∧ number = otherNumber := by
  constructor
  · intro h
    have hhyphen := notMem_toDigits (c := '-') rfl
    have hlists := congrArg String.toList h
    rw [toList_rotated, toList_rotated, List.append_cancel_left_eq,
      List.append_cons_inj_of_notMem (hhyphen _) (hhyphen _)] at hlists
    exact ⟨toDigits_inj hlists.1, toDigits_inj hlists.2.2⟩
  · rintro ⟨rfl, rfl⟩
    rfl

theorem packed_inj {name other : String} : packed name = packed other ↔ name = other := by
  rw [packed, packed, String.append_left_inj]

/-- A packed name has a letter that no rotated name has. -/
theorem packed_ne_rotated (name : String) (second number : Nat) :
    packed name ≠ rotated second number := by
  intro h
  have hdigits := notMem_toDigits (c := 'z') rfl
  have hpacked : 'z' ∈ (packed name).toList := by
    simp [packed]
  have hstart : 'z' ∉ rotatedStart.toList := by
    decide
  rw [h, toList_rotated] at hpacked
  simp [hdigits, hstart] at hpacked

end LogName

/-- A file that is put aside: the second, its number among the files of its writer, whether it is
packed then, and its text. -/
structure AsideFile where
  second : Nat
  number : Nat
  packs : Bool
  text : String

namespace AsideFile

def name (file : AsideFile) : String :=
  LogName.rotated file.second file.number

/-- The name under which it is put aside, and the packed form of it. -/
def names (file : AsideFile) : List String :=
  [file.name, LogName.packed file.name]

def storedName (file : AsideFile) : String :=
  if file.packs then LogName.packed file.name else file.name

theorem name_mem_names (file : AsideFile) : file.name ∈ file.names :=
  List.mem_cons_self

theorem storedName_mem_names (file : AsideFile) : file.storedName ∈ file.names := by
  unfold storedName
  split <;> simp [names]

theorem isRotated_storedName (file : AsideFile) : LogName.isRotated file.storedName = true := by
  unfold storedName
  split
  · exact LogName.isRotated_packed (LogName.isRotated_rotated _ _)
  · exact LogName.isRotated_rotated _ _

theorem name_eq_iff {file other : AsideFile} :
    file.name = other.name ↔ file.second = other.second ∧ file.number = other.number :=
  LogName.rotated_inj

/-- Two files have no name in common if they are put aside under different names. -/
theorem disjoint_names_iff {file other : AsideFile} :
    file.names.Disjoint other.names ↔ file.name ≠ other.name := by
  constructor
  · intro h hsame
    exact h file.name_mem_names (hsame ▸ other.name_mem_names)
  · intro h a ha hb
    simp only [names, List.mem_cons, List.not_mem_nil, or_false] at ha hb
    rcases ha with rfl | rfl
    · rcases hb with hb | hb
      · exact h hb
      · exact LogName.packed_ne_rotated _ _ _ hb.symm
    · rcases hb with hb | hb
      · exact LogName.packed_ne_rotated _ _ _ hb
      · exact h (LogName.packed_inj.mp hb)

end AsideFile

/-! ## Folders with room -/

namespace Folder

theorem get?_eq_of_erase_eq {files later : Folder} {name other : String}
    (h : later.erase name = files.erase name) (hother : other ≠ name) :
    later.get? other = files.get? other := by
  have hsame := congrArg (fun folder => get? folder other) h
  simpa [get?_erase, hother] using hsame

theorem rotatedCount_eq_of_erase_eq {files later : Folder}
    (h : later.erase LogName.current = files.erase LogName.current) :
    later.rotatedCount = files.rotatedCount := by
  rw [← later.rotatedCount_erase_current, h, files.rotatedCount_erase_current]

theorem rotatedCount_erase_le (files : Folder) (name : String) :
    (files.erase name).rotatedCount ≤ files.rotatedCount := by
  rw [rotatedCount, rotatedCount, names_erase]
  exact List.filter_sublist.countP_le

theorem rotatedCount_put_le (files : Folder) (name text : String) :
    (files.put name text).rotatedCount ≤ files.rotatedCount + 1 := by
  have hone : [name].countP LogName.isRotated ≤ 1 := List.countP_le_length
  have hrest := files.rotatedCount_erase_le name
  rw [put, rotatedCount, names, List.map_append, ← names, List.countP_append, ← rotatedCount]
  exact Nat.add_le_add hrest hone

theorem mem_of_get?_eq_some {files : Folder} {name text : String}
    (h : files.get? name = some text) : (name, text) ∈ files := by
  induction files with
  | nil => simp at h
  | cons file rest ih =>
    rw [get?_cons] at h
    by_cases hname : name = file.1
    · rw [if_pos hname, Option.some_inj] at h
      rw [hname, ← h]
      exact List.mem_cons_self
    · rw [if_neg hname] at h
      exact List.mem_cons_of_mem _ (ih h)

/-- Of files put aside one after another, a folder has each one whose name none of those behind it
took. -/
def Holds (files : Folder) (asides : List AsideFile) : Prop :=
  ∀ file later, file :: later <:+ asides → (∀ other ∈ later, other.name ≠ file.name) →
    files.get? file.storedName = some file.text

theorem holds_nil (files : Folder) : files.Holds [] := by
  intro file later hsuffix
  simp at hsuffix

theorem Holds.of_erase_eq {files later : Folder} {asides : List AsideFile}
    (h : files.Holds asides)
    (hsame : later.erase LogName.current = files.erase LogName.current) :
    later.Holds asides := by
  intro file rest hsuffix hfree
  rw [get?_eq_of_erase_eq hsame (LogName.ne_current_of_isRotated file.isRotated_storedName)]
  exact h file rest hsuffix hfree

end Folder

namespace LogSettings

theorem get?_laidAside (settings : LogSettings) (files : Folder) (name text other : String) :
    (settings.laidAside files name text).get? other =
      if other = settings.storedName name then some text
      else if other = name then none
      else if other = LogName.current then none else files.get? other := by
  rw [laidAside, Folder.get?_put, Folder.get?_erase, Folder.get?_erase]

theorem rotatedCount_laidAside_le (settings : LogSettings) (files : Folder) (name text : String) :
    (settings.laidAside files name text).rotatedCount ≤ files.rotatedCount + 1 :=
  calc (settings.laidAside files name text).rotatedCount
      ≤ ((files.erase LogName.current).erase name).rotatedCount + 1 :=
        Folder.rotatedCount_put_le _ _ _
    _ ≤ (files.erase LogName.current).rotatedCount + 1 :=
        Nat.succ_le_succ (Folder.rotatedCount_erase_le _ _)
    _ = files.rotatedCount + 1 := by rw [Folder.rotatedCount_erase_current]

/-- A file put aside joins those that are there, but for one whose name it takes. -/
theorem holds_laidAside {settings : LogSettings} {files : Folder} {asides : List AsideFile}
    (h : files.Holds asides) {file : AsideFile} (hpacks : file.packs = settings.compress) :
    (settings.laidAside files file.name file.text).Holds (asides ++ [file]) := by
  have hstored : settings.storedName file.name = file.storedName := by
    rw [storedName, AsideFile.storedName, hpacks]
  intro earlier later hsuffix hfree
  rw [get?_laidAside, hstored]
  obtain hnil | ⟨front, hfront, hold⟩ := List.suffix_concat_iff.mp hsuffix
  · exact absurd hnil (List.cons_ne_nil _ _)
  · cases front with
    | nil =>
      obtain ⟨rfl, -⟩ := List.cons_eq_cons.mp hfront
      rw [if_pos rfl]
    | cons first rest =>
      obtain ⟨rfl, rfl⟩ := List.cons_eq_cons.mp hfront
      have hother : file.name ≠ earlier.name := hfree file (by simp)
      have happart := AsideFile.disjoint_names_iff.mpr hother
      have hname : earlier.storedName ≠ file.name := fun hsame =>
        happart file.name_mem_names (hsame ▸ earlier.storedName_mem_names)
      have hstays : earlier.storedName ≠ file.storedName := fun hsame =>
        happart file.storedName_mem_names (hsame ▸ earlier.storedName_mem_names)
      rw [if_neg hstays, if_neg hname,
        if_neg (LogName.ne_current_of_isRotated earlier.isRotated_storedName)]
      exact h earlier rest hold fun other hin => hfree other (List.mem_append_left _ hin)

end LogSettings

theorem LogWriter.retain_of_rotatedCount_le {keep : Nat} {files : Folder}
    (h : files.rotatedCount ≤ keep) : retain keep files = files := by
  have hnone : outdated keep files = [] := by
    rw [Folder.rotatedCount, List.countP_eq_length_filter] at h
    rw [outdated, Nat.sub_eq_zero_of_le h, List.take_zero]
  rw [retain_eq, hnone, List.filter_eq_self]
  intro file _
  rfl

end EventGate
