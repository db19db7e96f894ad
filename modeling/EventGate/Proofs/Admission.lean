import EventGate.Proofs.Switches
import Mathlib.Data.List.TakeWhile

/-! # Admission by a chain of validators

A validator reads the id of a registration and whether it is for internal users only, and no
validator changes these. So each one in a chain answers as it does on its own, the order decides
only which refusal is named, and a channel that passes comes out of every order the same.
-/

namespace EventGate

open Text

/-- A registration that gets every event if it did so before or is granted it. -/
def Registration.granted (registration : Registration) (grant : Bool) : Registration :=
  { registration with
    traits := { registration.traits with isDefault := registration.traits.isDefault || grant } }

@[simp] theorem Registration.granted_false (registration : Registration) :
    registration.granted false = registration := by
  simp [granted]

@[simp] theorem Registration.granted_granted (registration : Registration) (a b : Bool) :
    (registration.granted a).granted b = registration.granted (a || b) := by
  simp [granted, Bool.or_assoc]

namespace Validator

def accepts (session : Session) (registration : Registration) (validator : Validator) : Bool :=
  (validator.validate session registration).1

/-- Whether a validator forces the channel with an id on. -/
def forcesOn (id : String) : Validator → Bool
  | override overrides => overrides.switch? id == some true
  | _ => false

variable (session : Session) (registration : Registration)

/-- All that a validator does is to answer, and to grant every event to what it forces on. -/
theorem validate_eq (validator : Validator) :
    validator.validate session registration =
      (validator.accepts session registration,
        registration.granted (validator.forcesOn registration.id)) := by
  cases validator with
  | globalSwitch disabled => simp [accepts, validate, forcesOn]
  | internalChannel => simp [accepts, validate, forcesOn]
  | override overrides =>
    rw [accepts, validate_override, forcesOn]
    cases overrides.switch? registration.id with
    | none => simp
    | some on => cases on <;> simp [Registration.granted]

@[simp] theorem accepts_granted (grant : Bool) (validator : Validator) :
    validator.accepts session (registration.granted grant) =
      validator.accepts session registration := by
  cases validator with
  | globalSwitch disabled => rfl
  | internalChannel => rfl
  | override overrides =>
    rw [accepts, accepts, validate_override, validate_override]
    cases h : overrides.switch? registration.id with
    | none => simp [Registration.granted, h]
    | some on => cases on <;> simp [Registration.granted, h]

/-- What refuses a channel does not force it on. -/
theorem forcesOn_of_not_accepts {validator : Validator}
    (h : validator.accepts session registration = false) :
    validator.forcesOn registration.id = false := by
  cases validator with
  | globalSwitch disabled => rfl
  | internalChannel => rfl
  | override overrides =>
    rw [accepts, validate_override] at h
    cases hswitch : overrides.switch? registration.id with
    | none => simp [forcesOn, hswitch]
    | some on => cases on <;> simp_all [forcesOn]

/-- The first validator that refuses the channel on its own is named, and what the ones before it
force on is granted. -/
theorem rejectedBy_eq (validators : List Validator) :
    rejectedBy session validators registration =
      (validators.find? fun v => !v.accepts session registration,
        registration.granted ((validators.takeWhile (accepts session registration)).any
          (forcesOn registration.id))) := by
  induction validators generalizing registration with
  | nil => simp [rejectedBy]
  | cons validator rest ih =>
    rw [rejectedBy, validate_eq]
    cases h : validator.accepts session registration with
    | true =>
      have hsame : accepts session
          (registration.granted (validator.forcesOn registration.id)) =
          accepts session registration := by
        funext v
        exact accepts_granted session registration _ v
      have hid : (registration.granted (validator.forcesOn registration.id)).id =
          registration.id := rfl
      simp [ih, hsame, hid, h]
    | false => simp [h, forcesOn_of_not_accepts session registration h]

theorem rejectedBy_eq_none_iff {validators : List Validator} :
    (rejectedBy session validators registration).1 = none ↔
      ∀ v ∈ validators, v.accepts session registration = true := by
  simp [rejectedBy_eq]

/-- What is left of a registration that passes. -/
theorem rejectedBy_of_accepts {validators : List Validator}
    (h : ∀ v ∈ validators, v.accepts session registration = true) :
    rejectedBy session validators registration =
      (none, registration.granted (validators.any (forcesOn registration.id))) := by
  have hall : validators.takeWhile (accepts session registration) = validators :=
    List.takeWhile_eq_self_iff.mpr h
  have hnone : (validators.find? fun v => !v.accepts session registration) = none := by
    simpa using h
  rw [rejectedBy_eq, hall, hnone]

/-- A channel that passes is forced on exactly if some switch for it is on. -/
theorem any_forcesOn_iff {validators : List Validator}
    (h : ∀ v ∈ validators, v.accepts session registration = true) :
    validators.any (forcesOn registration.id) = true ↔
      ∃ overrides, override overrides ∈ validators ∧
        ∃ o ∈ overrides, sameName o.1 registration.id = true ∧ o.2 = true := by
  rw [List.any_eq_true]
  constructor
  · intro ⟨v, hv, hforces⟩
    cases v with
    | globalSwitch disabled => simp [forcesOn] at hforces
    | internalChannel => simp [forcesOn] at hforces
    | override overrides =>
      exact ⟨overrides, hv, Overrides.exists_mem_of_switch? (beq_iff_eq.mp hforces)⟩
  · intro ⟨overrides, hv, o, ho, hname, hon⟩
    refine ⟨override overrides, hv, ?_⟩
    have haccepts := h _ hv
    obtain ⟨last, hlast⟩ :=
      Option.isSome_iff_exists.mp (Overrides.isSome_switch?_iff.mpr ⟨o, ho, hname⟩)
    -- The last switch for the channel may be another one, but it does not refuse the channel.
    cases last with
    | true => simp [forcesOn, hlast]
    | false => simp [accepts, validate_override, hlast] at haccepts

/-- A chain passes a channel exactly if each of its validators does on its own, so the order does
not matter. A channel that passes is changed in one way only: it gets every event if it did so
before or some switch forces it on. A chain with the global switch off passes no channel. -/
theorem chain_is_conjunction (validators : List Validator) :
    ((rejectedBy session validators registration).1 = none ↔
      ∀ v ∈ validators, (v.validate session registration).1 = true) ∧
    (∀ others : List Validator, others.Perm validators →
      ((rejectedBy session others registration).1 = none ↔
        (rejectedBy session validators registration).1 = none) ∧
      ((rejectedBy session validators registration).1 = none →
        ∃ isDefault,
          (rejectedBy session others registration).2 =
            { registration with traits := { registration.traits with isDefault } } ∧
          (isDefault = true ↔ registration.traits.isDefault = true ∨
            ∃ overrides, override overrides ∈ validators ∧
              ∃ o ∈ overrides, sameName o.1 registration.id = true ∧ o.2 = true))) ∧
    (globalSwitch true ∈ validators →
      (rejectedBy session validators registration).1 ≠ none) := by
  refine ⟨rejectedBy_eq_none_iff session registration, ?_, ?_⟩
  · intro others hperm
    constructor
    · rw [rejectedBy_eq_none_iff, rejectedBy_eq_none_iff]
      simp only [hperm.mem_iff]
    · intro hnone
      have haccepts := (rejectedBy_eq_none_iff session registration).mp hnone
      have hothers : ∀ v ∈ others, v.accepts session registration = true := by
        intro v hv
        exact haccepts v (hperm.mem_iff.mp hv)
      refine ⟨registration.traits.isDefault || others.any (forcesOn registration.id), ?_, ?_⟩
      · rw [rejectedBy_of_accepts session registration hothers]
        rfl
      · rw [Bool.or_eq_true, any_forcesOn_iff session registration hothers]
        simp only [hperm.mem_iff]
  · intro hoff hnone
    have haccepts := (rejectedBy_eq_none_iff session registration).mp hnone _ hoff
    simp [accepts, validate] at haccepts

end Validator

namespace Sample

def dogfood : Registration := ⟨"Dogfood", ⟨false, true, false⟩⟩

def insider : Session := { Session.create "s" with internalUser := true }

def guards : List Validator :=
  [.override [("dogfood", true)], .globalSwitch false, .internalChannel]

end Sample

/-- The channel comes out of the reversed chain as one that gets every event, and no order with the
global switch off lets it pass. -/
theorem dogfood_passes_in_any_order :
    (Validator.rejectedBy Sample.insider Sample.guards Sample.dogfood).1 = none ∧
      (Validator.rejectedBy Sample.insider Sample.guards.reverse Sample.dogfood).2 =
        ⟨"Dogfood", ⟨true, true, false⟩⟩ ∧
      (Validator.rejectedBy Sample.insider (.globalSwitch true :: Sample.guards)
        Sample.dogfood).1 ≠ none := by
  obtain ⟨hpasses, hperm, -⟩ :=
    Validator.chain_is_conjunction Sample.insider Sample.dogfood Sample.guards
  have hnone : (Validator.rejectedBy Sample.insider Sample.guards Sample.dogfood).1 = none := by
    rw [hpasses]
    decide
  obtain ⟨isDefault, hleft, hdefault⟩ := (hperm _ (List.reverse_perm Sample.guards)).2 hnone
  have hforced : isDefault = true := by
    rw [hdefault]
    exact .inr ⟨[("dogfood", true)], List.mem_cons_self, ("dogfood", true), List.mem_cons_self,
      by decide, rfl⟩
  refine ⟨hnone, ?_, ?_⟩
  · rw [hleft, hforced]
    rfl
  · exact (Validator.chain_is_conjunction Sample.insider Sample.dogfood _).2.2 List.mem_cons_self

end EventGate
