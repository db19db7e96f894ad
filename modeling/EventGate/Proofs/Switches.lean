import EventGate.Config

/-! # Switches of channels

Of the switches whose ids are the same up to case, the last one counts. A map has no order of its
own, so it has one meaning for a channel exactly if all its switches for that channel agree. Where
they differ, each of them counts in some order.
-/

namespace EventGate

open Text

namespace Overrides

def naming (overrides : Overrides) (id : String) : Overrides :=
  overrides.filter fun o => sameName o.1 id

theorem mem_naming {overrides : Overrides} {id : String} {o : String × Bool} :
    o ∈ overrides.naming id ↔ o ∈ overrides ∧ sameName o.1 id = true :=
  List.mem_filter

theorem lookup_fold (overrides : Overrides) (id : String) :
    (overrides.map fun o => (fold o.1, o.2)).lookup (fold id) =
      (overrides.naming id).head?.map Prod.snd := by
  induction overrides with
  | nil => rfl
  | cons o rest ih =>
    by_cases h : sameName o.1 id = true
    · have hfold : fold o.1 = fold id := (sameName_iff o.1 id).1 h
      simp [naming, h, hfold]
    · have hfold : fold id ≠ fold o.1 := by
        intro hsame
        exact h ((sameName_iff o.1 id).2 hsame.symm)
      have hskip : naming (o :: rest) id = naming rest id := List.filter_cons_of_neg h
      rw [List.map_cons, List.lookup_cons, beq_false_of_ne hfold, hskip]
      exact ih

/-- The switch of a channel is the last one that names it. -/
theorem switch?_eq (overrides : Overrides) (id : String) :
    overrides.switch? id = (overrides.naming id).getLast?.map Prod.snd := by
  rw [switch?, lookup_fold, naming, List.filter_reverse, List.head?_reverse, naming]

theorem isSome_switch?_iff {overrides : Overrides} {id : String} :
    (overrides.switch? id).isSome = true ↔ ∃ o ∈ overrides, sameName o.1 id = true := by
  rw [switch?_eq, Option.isSome_map, List.getLast?_isSome]
  constructor
  · intro hne
    obtain ⟨o, ho⟩ := List.exists_mem_of_ne_nil _ hne
    exact ⟨o, mem_naming.mp ho⟩
  · intro ⟨o, ho⟩
    exact List.ne_nil_of_mem (mem_naming.mpr ho)

theorem exists_mem_of_switch? {overrides : Overrides} {id : String} {on : Bool}
    (h : overrides.switch? id = some on) :
    ∃ o ∈ overrides, sameName o.1 id = true ∧ o.2 = on := by
  rw [switch?_eq, Option.map_eq_some_iff] at h
  obtain ⟨o, hlast, hon⟩ := h
  obtain ⟨hmem, hname⟩ := mem_naming.mp (List.mem_of_getLast? hlast)
  exact ⟨o, hmem, hname, hon⟩

theorem switch?_append_singleton (overrides : Overrides) {id : String} {o : String × Bool}
    (h : sameName o.1 id = true) : switch? (overrides ++ [o]) id = some o.2 := by
  simp [switch?_eq, naming, h]

/-- Each switch that names a channel is the one that counts in some order. -/
theorem exists_perm_switch? {overrides : Overrides} {id : String} {o : String × Bool}
    (hmem : o ∈ overrides) (hname : sameName o.1 id = true) :
    ∃ other : Overrides, other.Perm overrides ∧ other.switch? id = some o.2 := by
  refine ⟨overrides.erase o ++ [o], ?_, switch?_append_singleton _ hname⟩
  exact (List.perm_append_singleton o _).trans (List.perm_cons_erase hmem).symm

/-- The switches of a channel all say the same. -/
def AgreeOn (overrides : Overrides) (id : String) : Prop :=
  ∀ o ∈ overrides, ∀ other ∈ overrides,
    sameName o.1 id = true → sameName other.1 id = true → o.2 = other.2

theorem AgreeOn.of_perm {overrides other : Overrides} {id : String} (h : overrides.AgreeOn id)
    (hperm : other.Perm overrides) : other.AgreeOn id := by
  intro o ho p hp
  exact h o (hperm.mem_iff.mp ho) p (hperm.mem_iff.mp hp)

theorem AgreeOn.switch?_eq_some_iff {overrides : Overrides} {id : String}
    (h : overrides.AgreeOn id) {on : Bool} :
    overrides.switch? id = some on ↔ ∃ o ∈ overrides, sameName o.1 id = true ∧ o.2 = on := by
  constructor
  · exact exists_mem_of_switch?
  · intro ⟨o, hmem, hname, hon⟩
    obtain ⟨last, hlast⟩ :=
      Option.isSome_iff_exists.mp (isSome_switch?_iff.mpr ⟨o, hmem, hname⟩)
    obtain ⟨p, hp, hpname, hplast⟩ := exists_mem_of_switch? hlast
    rw [hlast, ← hplast, h p hp o hmem hpname hname, hon]

theorem AgreeOn.switch?_eq_of_perm {overrides other : Overrides} {id : String}
    (h : overrides.AgreeOn id) (hperm : other.Perm overrides) :
    other.switch? id = overrides.switch? id := by
  apply Option.ext
  intro on
  rw [h.switch?_eq_some_iff, (h.of_perm hperm).switch?_eq_some_iff]
  simp only [hperm.mem_iff]

end Overrides

namespace Validator

theorem validate_override (session : Session) (registration : Registration)
    (overrides : Overrides) :
    (override overrides).validate session registration =
      match overrides.switch? registration.id with
      | some true =>
        (true, { registration with traits := { registration.traits with isDefault := true } })
      | some false => (false, registration)
      | none => (true, registration) := rfl

/-- The entries of a map decide on a channel alike in every order exactly if those that name it
agree. Otherwise each of them decides in some order. -/
theorem override_has_one_meaning_iff (session : Session) (registration : Registration)
    (overrides : Overrides) :
    ((∀ a b : Overrides, a.Perm overrides → b.Perm overrides →
        (override a).validate session registration =
          (override b).validate session registration) ↔
      overrides.AgreeOn registration.id) ∧
    ∀ o ∈ overrides, sameName o.1 registration.id = true →
      ∃ a : Overrides, a.Perm overrides ∧
        ((override a).validate session registration).1 = o.2 := by
  have hdecides : ∀ o ∈ overrides, sameName o.1 registration.id = true →
      ∃ a : Overrides, a.Perm overrides ∧
        ((override a).validate session registration).1 = o.2 := by
    intro o hmem hname
    obtain ⟨a, hperm, hswitch⟩ := Overrides.exists_perm_switch? hmem hname
    refine ⟨a, hperm, ?_⟩
    rw [validate_override, hswitch]
    cases o.2 <;> rfl
  refine ⟨⟨?_, ?_⟩, hdecides⟩
  · intro hsame o hmem other hother hname hothername
    obtain ⟨a, ha, hon⟩ := hdecides o hmem hname
    obtain ⟨b, hb, hoff⟩ := hdecides other hother hothername
    rw [← hon, ← hoff, hsame a b ha hb]
  · intro hagree a b ha hb
    rw [validate_override, validate_override, hagree.switch?_eq_of_perm ha,
      hagree.switch?_eq_of_perm hb]

end Validator

namespace Sample

def sqm : Registration := ⟨"sqm", .plain⟩

def agreeing : Overrides := [("SQM", true), ("ai", false), ("sqm", true)]

/-- A map that names the channel twice, once to force it off, and the same map in another order. -/
def differing : Overrides := [("SQM", true), ("sqm", false)]

def differingBack : Overrides := [("sqm", false), ("SQM", true)]

end Sample

/-- In every order the switches that agree force the channel on. -/
theorem sqm_is_forced_on :
    Overrides.parse "SQM=1,ai=0,sqm=1" = Sample.agreeing ∧
      ∀ a : Overrides, a.Perm Sample.agreeing →
        (Validator.override a).validate (.create "s") Sample.sqm = (true, ⟨"sqm", .default⟩) := by
  have hagree : Sample.agreeing.AgreeOn "sqm" := by
    unfold Overrides.AgreeOn
    decide
  have hone := (Validator.override_has_one_meaning_iff (.create "s") Sample.sqm
    Sample.agreeing).1.mpr hagree
  refine ⟨by decide, ?_⟩
  intro a ha
  rw [hone a Sample.agreeing ha (List.Perm.refl _)]
  decide

/-- The switches that differ force the channel off in one order and on in the other. -/
theorem sqm_depends_on_order :
    Overrides.parse "SQM=1,sqm=0" = Sample.differing ∧
      (Sample.differing.map Prod.fst).Nodup ∧ Sample.differingBack.Perm Sample.differing ∧
      (Validator.override Sample.differing).validate (.create "s") Sample.sqm =
        (false, Sample.sqm) ∧
      (Validator.override Sample.differingBack).validate (.create "s") Sample.sqm =
        (true, ⟨"sqm", .default⟩) :=
  ⟨by decide, by decide, List.Perm.swap _ _ _, by decide, by decide⟩

end EventGate
