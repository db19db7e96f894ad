import EventGate.Proofs.Bags
import EventGate.Proofs.Delivery
import EventGate.Proofs.HoldingBack
import EventGate.Proofs.ReservedNames

/-! # Readmission after exclusion

Excluding a property and readmitting it gives back what was sent before, but for the raw text of the
property: readmission gives this free even if it was held back on its own account.
-/

namespace EventGate

open Text

namespace Event

/-- An event with properties set, excluded and readmitted in any order, from none on. -/
inductive Edited : Event → Prop where
  | fresh {event : Event} (hprops : event.properties = .empty) (hfree : event.excluded = .empty) :
      Edited event
  | put {event : Event} (name : String) (value : PropertyValue) (h : Edited event) :
      Edited (event.put name value)
  | excluded {event : Event} (name : String) (h : Edited event) : Edited (event.exclude name)
  | readmitted {event : Event} (name : String) (h : Edited event) :
      Edited (Event.readmit event name)

/-- Excluding tells whether the property itself is held back by it, whatever comes of its raw
text. -/
theorem withhold_fst (event : Event) (name : String) :
    (event.withhold name).1 = (event.properties.contains name && !event.isExcluded name) := by
  have hraw (set : NameSet) : (set.insert (Naming.rawName name)).contains name =
      set.contains name := by
    rw [NameSet.contains_insert, sameName_comm, Naming.sameName_rawName, Bool.or_false]
  unfold withhold isExcluded
  split
  next hthere =>
    dsimp only
    rw [NameSet.add_fst, hthere, Bool.true_and]
    split
    · rw [hraw]
    · rfl
  next habsent => rw [eq_false_of_ne_true habsent, Bool.false_and]

theorem release_fst (event : Event) (name : String) :
    (event.release name).1 = event.isExcluded name := by
  have hraw : sameName (Naming.rawName name) name = false := by
    rw [sameName_comm, Naming.sameName_rawName]
  unfold release
  dsimp only
  rw [NameSet.remove_fst, NameSet.contains_erase, hraw, Bool.not_false, Bool.and_true]
  rfl

theorem isExcluded_readmission (event : Event) (name other : String) :
    (Event.readmit event name).isExcluded other =
      (event.isExcluded other && !sameName (Naming.rawName name) other &&
        !sameName name other) := by
  rw [isExcluded, readmit_eq, NameSet.contains_erase, NameSet.contains_erase]
  rfl

/-- Names are held back only of properties that are there. -/
theorem Edited.contains_of_isExcluded {event : Event} (h : event.Edited) {name : String}
    (hheld : event.isExcluded name = true) : event.properties.contains name = true := by
  -- Setting a property keeps all names of the bag, and only excluding adds to the names held back.
  induction h with
  | fresh hprops hfree => simp [isExcluded, hfree] at hheld
  | put given value h ih =>
    have hbefore := ih hheld
    exact (Bag.contains_insert _ given value name).trans (by rw [hbefore, Bool.true_or])
  | @excluded event given h ih =>
    rw [properties_exclude]
    rw [isExcluded_exclude] at hheld
    simp only [Bool.or_eq_true, Bool.and_eq_true] at hheld
    rcases hheld with hbefore | ⟨hgiven, hsame | ⟨hraw, hsame⟩⟩
    · exact ih hbefore
    · rwa [← event.properties.contains_congr hsame]
    · rwa [← event.properties.contains_congr hsame]
  | readmitted given h ih =>
    rw [isExcluded_readmission, Bool.and_eq_true, Bool.and_eq_true] at hheld
    exact ih hheld.1.1

/-- Excluding a property that is not held back, and readmitting it, changes at most the standing of
its raw text, which is not held back after that. -/
theorem isExcluded_exclude_readmission {event : Event} {name : String}
    (hfree : event.isExcluded name = false) (other : String) :
    (Event.readmit (event.exclude name) name).isExcluded other =
      (event.isExcluded other && !sameName (Naming.rawName name) other) := by
  rw [isExcluded_readmission, isExcluded_exclude]
  cases hsame : sameName name other with
  | true =>
    have hother : event.isExcluded other = false := by
      rw [← event.isExcluded_congr ((sameName_iff name other).mp hsame), hfree]
    simp [hother]
  | false => cases sameName (Naming.rawName name) other <;> simp

/-- What is sent after both is what was sent before, with the raw text in its place. -/
theorem sent_exclude_readmission {event : Event} {name : String}
    (hfree : event.isExcluded name = false) :
    (Event.readmit (event.exclude name) name).sent =
      event.properties.entries.filter fun e =>
        !event.isExcluded e.1 || sameName (Naming.rawName name) e.1 := by
  rw [sent, properties_readmit, properties_exclude]
  refine List.filter_congr fun e _ => ?_
  rw [isExcluded_exclude_readmission hfree, Bool.not_and, Bool.not_not]

/-- Excluding a property and readmitting it leaves every name but that of its raw text as it was. So
all names stand as before, and the same is sent, exactly if the raw text was not held back. -/
theorem Edited.readmission_undoes_exclusion_iff {event : Event} (h : event.Edited) {name : String}
    (hfree : event.isExcluded name = false) :
    let after := Event.readmit (event.exclude name) name
    (∀ other, sameName (Naming.rawName name) other = false →
      after.isExcluded other = event.isExcluded other) ∧
    after.isExcluded (Naming.rawName name) = false ∧
    ((∀ other, after.isExcluded other = event.isExcluded other) ↔
      event.isExcluded (Naming.rawName name) = false) ∧
    (after.sent = event.sent ↔ event.isExcluded (Naming.rawName name) = false) ∧
    after.sent = event.properties.entries.filter fun e =>
      !event.isExcluded e.1 || sameName (Naming.rawName name) e.1 := by
  intro after
  have hnames : ∀ other, after.isExcluded other =
      (event.isExcluded other && !sameName (Naming.rawName name) other) :=
    isExcluded_exclude_readmission hfree
  have hraw : after.isExcluded (Naming.rawName name) = false := by
    rw [hnames, sameName_refl, Bool.not_true, Bool.and_false]
  have hsame : event.isExcluded (Naming.rawName name) = false →
      ∀ other, after.isExcluded other = event.isExcluded other := by
    intro hrawFree other
    rw [hnames]
    cases hother : sameName (Naming.rawName name) other with
    | false => simp
    | true =>
      rw [← event.isExcluded_congr ((sameName_iff _ _).mp hother), hrawFree, Bool.false_and]
  have hprops : after.properties = event.properties := properties_exclude event name
  refine ⟨fun other hother => ?_, hraw, ⟨fun hall => ?_, hsame⟩,
    ⟨fun hsent => ?_, fun hrawFree => ?_⟩, sent_exclude_readmission hfree⟩
  · rw [hnames, hother, Bool.not_false, Bool.and_true]
  · rw [← hall, hraw]
  · -- A raw text that is held back is in the bag, and comes to be sent.
    refine eq_false_of_ne_true fun hheld => ?_
    obtain ⟨e, he, hfold⟩ :=
      List.mem_map.mp ((Bag.contains_iff _ _).mp (h.contains_of_isExcluded hheld))
    have hsentAfter : e ∈ after.sent :=
      mem_sent.mpr ⟨hprops ▸ he, (after.isExcluded_congr hfold).trans hraw⟩
    rw [hsent, mem_sent, event.isExcluded_congr hfold, hheld] at hsentAfter
    exact absurd hsentAfter.2 (by decide)
  · unfold sent
    rw [hprops]
    exact List.filter_congr fun e _ => by rw [hsame hrawFree]

end Event

namespace Sample

def pathLogin : Event :=
  let login := { pageView with name := "Op/Login" }
  (login.put "UserPath" (.text "5e1f")).put "UserPath.NotHashed" (.text "C:/Users/alice")

theorem edited_pathLogin : pathLogin.Edited :=
  .put _ _ (.put _ _ (.fresh rfl rfl))

end Sample

/-- With nothing held back before, the path and its raw text are sent again. -/
theorem path_is_sent_again :
    let after := Event.readmit (Sample.pathLogin.exclude "userpath") "userpath"
    Sample.pathLogin.Edited ∧ Sample.pathLogin.isExcluded "userpath" = false ∧
      (Sample.pathLogin.exclude "userpath").sent.map Prod.fst = [] ∧
      after.sent = Sample.pathLogin.sent := by
  intro after
  have hfree (name : String) : Sample.pathLogin.isExcluded name = false :=
    NameSet.contains_empty name
  obtain ⟨-, -, -, hsent, -⟩ :=
    Sample.edited_pathLogin.readmission_undoes_exclusion_iff (hfree "userpath")
  exact ⟨Sample.edited_pathLogin, hfree "userpath", by decide +kernel, hsent.mpr (hfree _)⟩

/-- A raw text that was held back by itself is sent as well, though it was not before. -/
theorem raw_path_is_sent :
    let event := Sample.pathLogin.exclude "UserPath.NotHashed"
    let after := Event.readmit (event.exclude "UserPath") "UserPath"
    event.Edited ∧ event.properties.contains "UserPath" = true ∧
      event.isExcluded "UserPath" = false ∧
      event.isExcluded "UserPath.NotHashed" = true ∧
      after.isExcluded "UserPath.NotHashed" = false ∧
      event.sent.map Prod.fst = ["UserPath"] ∧
      after.sent.map Prod.fst = ["UserPath", "UserPath.NotHashed"] :=
  ⟨.excluded _ Sample.edited_pathLogin, by decide +kernel⟩

end EventGate
