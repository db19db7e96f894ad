import EventGate.Log.Writer
import EventGate.Proofs.KeyedLists

/-! # The files of a log

A folder with distinct names is a map from names to texts. A file that is put aside leaves the
current name for the rotated one, and retention deletes the oldest rotated files beyond a bound.
-/

namespace EventGate

namespace Folder

def names (folder : Folder) : List String :=
  folder.map Prod.fst

theorem get?_cons (file : String × String) (rest : Folder) (name : String) :
    get? (file :: rest) name = if name = file.1 then some file.2 else rest.get? name :=
  lookup_cons_eq_ite file rest name

theorem get?_eq_none_iff {folder : Folder} {name : String} :
    folder.get? name = none ↔ name ∉ folder.names := by
  induction folder with
  | nil => simp [names]
  | cons file rest ih =>
    rw [get?_cons, names, List.map_cons, List.mem_cons, not_or]
    by_cases h : name = file.1
    · simp [h]
    · rw [if_neg h, ih]
      simp [h, names]

theorem get?_filter (folder : Folder) (keeps : String → Bool) (name : String) :
    get? (folder.filter fun file => keeps file.1) name =
      if keeps name = true then folder.get? name else none :=
  lookup_filter_key folder keeps name

theorem get?_erase (folder : Folder) (name other : String) :
    (folder.erase name).get? other = if other = name then none else folder.get? other :=
  lookup_filter_bne folder name other

theorem get?_put (folder : Folder) (name text other : String) :
    (folder.put name text).get? other =
      if other = name then some text else folder.get? other :=
  lookup_put folder name text other

theorem names_append (folder : Folder) (name text : String) :
    (folder.append name text).names = folder.names := by
  simp only [names, append, List.map_map]
  apply List.map_congr_left
  intro file _
  by_cases h : file.1 = name <;> simp [h]

theorem erase_append (folder : Folder) (name text : String) :
    (folder.append name text).erase name = folder.erase name := by
  induction folder with
  | nil => rfl
  | cons file rest ih =>
    by_cases h : file.1 = name <;> simpa [append, erase, h] using ih

@[simp] theorem erase_erase_self (folder : Folder) (name : String) :
    (folder.erase name).erase name = folder.erase name := by
  simp [erase]

@[simp] theorem erase_put_self (folder : Folder) (name text : String) :
    (folder.put name text).erase name = folder.erase name := by
  simp [put, erase]

theorem names_erase (folder : Folder) (name : String) :
    (folder.erase name).names = folder.names.filter (· != name) := by
  simp [names, erase, List.filter_map, Function.comp_def]

theorem names_put (folder : Folder) (name text : String) :
    (folder.put name text).names = folder.names.filter (· != name) ++ [name] := by
  rw [put, names, List.map_append, ← names, names_erase]
  rfl

theorem nodup_names_put {folder : Folder} (h : folder.names.Nodup) (name text : String) :
    (folder.put name text).names.Nodup :=
  nodup_keys_put h name text

theorem names_erase_of_not_mem {folder : Folder} {name : String} (h : name ∉ folder.names) :
    (folder.erase name).names = folder.names := by
  rw [names_erase, List.filter_eq_self]
  intro other hother
  rw [bne_iff_ne]
  intro hsame
  exact h (hsame ▸ hother)

def rotatedCount (folder : Folder) : Nat :=
  folder.names.countP LogName.isRotated

theorem rotatedCount_put {folder : Folder} {name : String} (h : name ∉ folder.names)
    (text : String) :
    (folder.put name text).rotatedCount =
      folder.rotatedCount + if LogName.isRotated name = true then 1 else 0 := by
  rw [rotatedCount, put, names, List.map_append, ← names, names_erase_of_not_mem h,
    List.countP_append, ← rotatedCount, List.map_singleton, List.countP_singleton]

end Folder

namespace LogName

theorem isRotated_current : isRotated current = false := by
  decide

theorem isRotated_packed {name : String} (h : isRotated name = true) :
    isRotated (packed name) = true := by
  rw [isRotated, List.isPrefixOf_iff_prefix] at h ⊢
  rw [packed, String.toList_append]
  exact h.trans (List.prefix_append _ _)

theorem ne_current_of_isRotated {name : String} (h : isRotated name = true) : name ≠ current := by
  intro hsame
  rw [hsame, isRotated_current] at h
  exact Bool.false_ne_true h

end LogName

theorem Folder.rotatedCount_erase_current (folder : Folder) :
    (folder.erase LogName.current).rotatedCount = folder.rotatedCount := by
  rw [rotatedCount, rotatedCount, names_erase, List.countP_filter]
  apply List.countP_congr
  intro other _
  rw [Bool.and_eq_true, bne_iff_ne]
  exact ⟨And.left, fun hother => ⟨hother, LogName.ne_current_of_isRotated hother⟩⟩

namespace LogSettings

/-- The name that a file ends up with when it is put aside under a name. -/
def storedName (settings : LogSettings) (name : String) : String :=
  if settings.compress then LogName.packed name else name

theorem isRotated_storedName (settings : LogSettings) {name : String}
    (h : LogName.isRotated name = true) : LogName.isRotated (settings.storedName name) = true := by
  unfold storedName
  split
  · exact LogName.isRotated_packed h
  · exact h

/-- The folder when its current file has been put aside, before old files are deleted. -/
def laidAside (settings : LogSettings) (files : Folder) (name text : String) : Folder :=
  ((files.erase LogName.current).erase name).put (settings.storedName name) text

theorem get?_laidAside_current (settings : LogSettings) (files : Folder) {name : String}
    (h : LogName.isRotated name = true) (text : String) :
    (settings.laidAside files name text).get? LogName.current = none := by
  have hstored := LogName.ne_current_of_isRotated (settings.isRotated_storedName h)
  rw [laidAside, Folder.get?_put, if_neg hstored.symm, Folder.get?_erase,
    if_neg (LogName.ne_current_of_isRotated h).symm, Folder.get?_erase, if_pos rfl]

theorem nodup_names_laidAside (settings : LogSettings) {files : Folder}
    (h : files.names.Nodup) (name text : String) :
    (settings.laidAside files name text).names.Nodup := by
  apply Folder.nodup_names_put
  rw [Folder.names_erase, Folder.names_erase]
  exact (h.filter _).filter _

theorem rotatedCount_laidAside (settings : LogSettings) {files : Folder} {name : String}
    (h : LogName.isRotated name = true) (hname : name ∉ files.names)
    (hstored : settings.storedName name ∉ files.names) (text : String) :
    (settings.laidAside files name text).rotatedCount = files.rotatedCount + 1 := by
  have hgone {other : String} (hother : other ∉ files.names) :
      other ∉ (files.erase LogName.current).names := by
    rw [Folder.names_erase]
    exact fun hin => hother (List.mem_filter.mp hin).1
  have hrest := Folder.names_erase_of_not_mem (hgone hname)
  rw [laidAside, Folder.rotatedCount_put (hrest ▸ hgone hstored),
    if_pos (settings.isRotated_storedName h), Folder.rotatedCount, hrest, ← Folder.rotatedCount,
    Folder.rotatedCount_erase_current]

end LogSettings

/-! ## Retention -/

namespace LogWriter

def outdated (keep : Nat) (files : Folder) : List String :=
  let rotated := files.names.filter LogName.isRotated
  rotated.take (rotated.length - keep)

theorem retain_eq (keep : Nat) (files : Folder) :
    retain keep files = files.filter fun file => !(outdated keep files).contains file.1 := by
  simp [retain, outdated, Folder.names, List.filter_map, Function.comp_def, List.map_take]

theorem names_retain (keep : Nat) (files : Folder) :
    (retain keep files).names =
      files.names.filter fun name => !(outdated keep files).contains name := by
  rw [retain_eq, Folder.names, Folder.names, List.filter_map]
  rfl

theorem nodup_names_retain {files : Folder} (h : files.names.Nodup) (keep : Nat) :
    (retain keep files).names.Nodup := by
  rw [names_retain]
  exact h.filter _

theorem get?_retain (keep : Nat) (files : Folder) (name : String) :
    (retain keep files).get? name =
      if name ∈ outdated keep files then none else files.get? name := by
  have hfilter := files.get?_filter (fun name => !(outdated keep files).contains name) name
  rw [retain_eq, hfilter]
  by_cases h : name ∈ outdated keep files <;> simp [h]

theorem get?_retain_eq_none {files : Folder} {name : String} (h : files.get? name = none)
    (keep : Nat) : (retain keep files).get? name = none := by
  rw [get?_retain, h, ite_self]

/-- Retention keeps the file that was made last. -/
theorem get?_retain_put {files : Folder} {name : String} (hname : LogName.isRotated name = true)
    {keep : Nat} (hkeep : 0 < keep) (text : String) :
    (retain keep (files.put name text)).get? name = some text := by
  have hrotated : (files.put name text).names.filter LogName.isRotated =
      (files.names.filter (· != name)).filter LogName.isRotated ++ [name] := by
    rw [Folder.names_put, List.filter_append]
    simp [hname]
  have hyoung : name ∉ outdated keep (files.put name text) := by
    rw [outdated, hrotated, List.length_append, List.length_singleton,
      List.take_append_of_le_length (by omega)]
    intro hold
    have hother := (List.mem_filter.mp (List.mem_of_mem_take hold)).1
    simpa using (List.mem_filter.mp hother).2
  rw [get?_retain, if_neg hyoung, Folder.get?_put, if_pos rfl]

theorem filter_not_contains_take {names : List String} (h : names.Nodup) (count : Nat) :
    names.filter (fun name => !(names.take count).contains name) = names.drop count := by
  have hsplit := List.take_append_drop count names
  have hdisjoint : ∀ a ∈ names.take count, ∀ b ∈ names.drop count, a ≠ b := by
    rw [← hsplit, List.nodup_append] at h
    exact h.2.2
  have hfirst : (names.take count).filter
      (fun name => !(names.take count).contains name) = [] := by
    simp
  have hothers : (names.drop count).filter
      (fun name => !(names.take count).contains name) = names.drop count := by
    rw [List.filter_eq_self]
    intro b hb
    simp only [List.contains_eq_mem, Bool.not_eq_true', decide_eq_false_iff_not]
    intro ha
    exact hdisjoint b ha b hb rfl
  calc names.filter (fun name => !(names.take count).contains name)
      = (names.take count ++ names.drop count).filter
          (fun name => !(names.take count).contains name) := by rw [hsplit]
    _ = names.drop count := by rw [List.filter_append, hfirst, hothers, List.nil_append]

theorem rotatedCount_retain {files : Folder} (h : files.names.Nodup) (keep : Nat) :
    (retain keep files).rotatedCount = min keep files.rotatedCount := by
  let rotated := files.names.filter LogName.isRotated
  have hrotated : rotated.Nodup := h.filter _
  have hleft : (retain keep files).names.filter LogName.isRotated =
      rotated.drop (rotated.length - keep) := by
    rw [names_retain, ← filter_not_contains_take hrotated, List.filter_filter, List.filter_filter]
    apply List.filter_congr
    intro name _
    exact Bool.and_comm _ _
  rw [Folder.rotatedCount, List.countP_eq_length_filter, hleft, List.length_drop,
    Folder.rotatedCount, List.countP_eq_length_filter]
  change rotated.length - (rotated.length - keep) = min keep rotated.length
  omega

theorem putAside_eq {settings : LogSettings} {files : Folder} {text : String}
    (h : files.get? LogName.current = some text) (name : String) :
    putAside settings files name =
      .ok (retain settings.keep (settings.laidAside files name text)) := by
  unfold putAside
  rw [Folder.rename?, h, Option.map_some]
  cases hpacks : settings.compress with
  | false =>
    simp [LogSettings.laidAside, LogSettings.storedName, hpacks, Folder.put]
  | true =>
    have hpacked : ((files.erase LogName.current).put name text).rename? name
        (LogName.packed name) = some (settings.laidAside files name text) := by
      rw [Folder.rename?, Folder.get?_put, if_pos rfl, Option.map_some, Folder.erase_put_self,
        LogSettings.laidAside, LogSettings.storedName, hpacks, if_pos rfl]
    simp [hpacked]

end LogWriter

end EventGate
