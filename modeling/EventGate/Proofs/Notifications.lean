import EventGate.Proofs.LastGoodManifest
import EventGate.Proofs.Requests

/-! # Notifications

A start that is not the first answers with the last notification. This tells of the manifest in
force unless a refresh has failed since; the first start tells of the manifest that it loads.
-/

namespace EventGate

open Desk Relation

/-- A status tells of success and of a manifest: its version and the rules left out of it. -/
structure Status.Describes (status : Status) (manifest : Manifest) : Prop where
  success : status.isSuccess = true
  version : status.version = manifest.version
  dropped : status.dropped = manifest.dropped

theorem Status.describes_success {kind : StatusKind} (h : kind ≠ .failed) (origin : Origin)
    (manifest : Manifest) : (Status.success kind origin manifest).Describes manifest :=
  ⟨bne_iff_ne.mpr h, rfl, rfl⟩

namespace Manager

/-- The last notification, if it tells of no failure, tells of the manifest in force. -/
def Tells (manager : Manager) : Prop :=
  ∀ status, manager.lastStatus? = some status → status.kind ≠ .failed →
    status.Describes manager.active

/-- A manifest was loaded, and all notifications since come from refreshes. -/
def Loaded (manager : Manager) (loaded : Status) (later : List Status) : Prop :=
  loaded.kind = .loaded ∧ (∀ status ∈ later, status.kind ≠ .loaded) ∧
    ∃ before, manager.raised = before ++ loaded :: later

theorem lastStatus?_raise (manager : Manager) (status : Status) :
    (manager.raise status).lastStatus? = some status :=
  List.getLast?_concat

theorem tells_raise {manager : Manager} {status : Status}
    (h : status.kind ≠ .failed → status.Describes manager.active) :
    (manager.raise status).Tells := by
  intro last hlast
  rw [lastStatus?_raise] at hlast
  cases hlast
  exact h

theorem tells_adopt (manager : Manager) (origin : Origin) (manifest : Manifest) :
    (manager.adopt origin manifest).2.Tells :=
  tells_raise fun _ => Status.describes_success (by decide) origin manifest

theorem loaded_adopt (manager : Manager) (origin : Origin) (manifest : Manifest) :
    (manager.adopt origin manifest).2.Loaded (manager.adopt origin manifest).1 [] :=
  ⟨rfl, fun _ h => absurd h List.not_mem_nil, manager.raised, rfl⟩

theorem Loaded.lastStatus? {manager : Manager} {loaded : Status} {later : List Status}
    (h : manager.Loaded loaded later) :
    manager.lastStatus? = some (later.getLast?.getD loaded) := by
  obtain ⟨-, -, before, hraised⟩ := h
  unfold Manager.lastStatus?
  rw [hraised, List.getLast?_append, List.getLast?_cons, Option.some_or]

theorem endLoad_eq_adopt (manager : Manager) :
    ∃ other origin manifest, manager.endLoad = adopt other origin manifest := by
  unfold endLoad
  split <;> exact ⟨_, _, _, rfl⟩

theorem endRefresh_eq_raise (manager : Manager) (location : String) (now : Nat)
    (fetched : Except Fault String) :
    ∃ other status, (manager.endRefresh location now fetched).2 = raise other status ∧
      other.raised = manager.raised ∧ status.kind ≠ .loaded ∧
        (status.kind ≠ .failed → status.Describes other.active) := by
  unfold endRefresh
  split
  · exact ⟨_, _, rfl, rfl, nofun, fun h => absurd rfl h⟩
  · exact ⟨_, _, rfl, rfl, nofun, fun _ => Status.describes_success (by decide) _ _⟩

theorem tells_endRefresh (manager : Manager) (location : String) (now : Nat)
    (fetched : Except Fault String) : (manager.endRefresh location now fetched).2.Tells := by
  obtain ⟨other, status, heq, -, -, hdescribes⟩ :=
    manager.endRefresh_eq_raise location now fetched
  rw [heq]
  exact tells_raise hdescribes

theorem Loaded.endRefresh {manager : Manager} {loaded : Status} {later : List Status}
    (h : manager.Loaded loaded later) (location : String) (now : Nat)
    (fetched : Except Fault String) :
    ∃ status, (manager.endRefresh location now fetched).2.Loaded loaded (later ++ [status]) := by
  obtain ⟨other, status, heq, hraised, hkind, -⟩ :=
    manager.endRefresh_eq_raise location now fetched
  obtain ⟨hloaded, hlater, before, hbefore⟩ := h
  refine ⟨status, hloaded, ?_, before, ?_⟩
  · intro s hs
    rcases List.mem_append.mp hs with hs | hs
    · exact hlater s hs
    · rwa [List.mem_singleton.mp hs]
  · rw [heq]
    change other.raised ++ [status] = _
    rw [hraised, hbefore, List.append_assoc, List.cons_append]

end Manager

/-! ## Changes of the desk -/

namespace Desk

theorem Changes.tells {desk desk' : Desk} (hchanges : Changes desk desk')
    (h : desk.service.manager.Tells) : desk'.service.manager.Tells := by
  induction hchanges with
  | refl => exact h
  | tail _ hchange ih =>
    cases hchange with
    | aside hmanager => rwa [hmanager]
    | call => exact ih
    | beginRefresh => exact ih
    | endRefresh flight location now fetched =>
      exact Manager.tells_endRefresh _ location now fetched
    | noSource => exact ih

theorem Changes.loaded {desk desk' : Desk} (hchanges : Changes desk desk') {loaded : Status}
    {later : List Status} (h : desk.service.manager.Loaded loaded later) :
    ∃ later, desk'.service.manager.Loaded loaded later := by
  induction hchanges with
  | refl => exact ⟨later, h⟩
  | tail _ hchange ih =>
    obtain ⟨later, ih⟩ := ih
    cases hchange with
    | aside hmanager => exact ⟨later, by rwa [hmanager]⟩
    | call => exact ⟨later, ih⟩
    | beginRefresh => exact ⟨later, ih⟩
    | endRefresh flight location now fetched =>
      obtain ⟨status, hloaded⟩ := ih.endRefresh location now fetched
      exact ⟨_, hloaded⟩
    | noSource => exact ⟨later, ih⟩

theorem Changes.started {desk desk' : Desk} (hchanges : Changes desk desk') :
    desk'.service.started = desk.service.started := by
  induction hchanges with
  | refl => rfl
  | tail _ hchange ih =>
    cases hchange with
    | aside _ hstarted => rwa [hstarted]
    | _ => exact ih

end Desk

namespace Live

/-! ## Starts -/

/-- The first start loads a manifest, after others had their turns. -/
theorem start_of_first {live : Live} (hlive : live.service.disposed = false)
    (hfirst : live.service.started = false) :
    ∃ settled : Live, Changes (live.setService live.service.beginStart).state settled.state ∧
      live.start.1 = .ok settled.service.manager.endLoad.1 ∧
      live.start.2.service =
        { settled.service with manager := settled.service.manager.endLoad.2 } := by
  have hensure : live.service.ensureLive = .ok () := by simp [Service.ensureLive, hlive]
  have hearlier : live.service.earlierStart? = none := by simp [Service.earlierStart?, hfirst]
  have hsettled (other : Live) : Changes other.state other.settleForCache.state := by
    unfold settleForCache
    split
    · exact changes_course (Clockwork.course_settle act other)
    · exact .refl
  refine ⟨_, hsettled _, ?_⟩
  unfold start
  rw [hensure]
  dsimp only
  rw [hearlier]
  dsimp only
  split <;> exact ⟨rfl, rfl⟩

/-- A later start answers with the last notification, and changes nothing. -/
theorem start_of_started {live : Live} (hlive : live.service.disposed = false)
    (hstarted : live.service.started = true) {status : Status}
    (hlast : live.service.manager.lastStatus? = some status) : live.start = (.ok status, live) := by
  have hensure : live.service.ensureLive = .ok () := by simp [Service.ensureLive, hlive]
  have hearlier : live.service.earlierStart? = some status := by
    simp [Service.earlierStart?, hstarted, hlast]
  unfold start
  rw [hensure]
  dsimp only
  rw [hearlier]

/-- What the notifications say of a service between requests. -/
structure Informed (live : Live) : Prop where
  tells : live.service.manager.Tells
  loaded : live.service.started = true → ∃ loaded later, live.service.manager.Loaded loaded later

theorem Informed.of_changes {live live' : Live} (h : live.Informed)
    (hchanges : Changes live.state live'.state) : live'.Informed where
  tells := hchanges.tells h.tells
  loaded hstarted := by
    obtain ⟨loaded, later, hloaded⟩ := h.loaded (hchanges.started ▸ hstarted)
    exact ⟨loaded, hchanges.loaded hloaded⟩

theorem Informed.start {live : Live} (h : live.Informed) : live.start.2.Informed := by
  cases hlive : live.service.disposed with
  | true =>
    have hstart : live.start.2 = live := by simp [Live.start, Service.ensureLive, hlive]
    rwa [hstart]
  | false =>
    cases hstarted : live.service.started with
    | true =>
      obtain ⟨loaded, later, hloaded⟩ := h.loaded hstarted
      rwa [start_of_started hlive hstarted hloaded.lastStatus?]
    | false =>
      obtain ⟨settled, -, -, hservice⟩ := start_of_first hlive hstarted
      obtain ⟨other, origin, manifest, hadopt⟩ := settled.service.manager.endLoad_eq_adopt
      constructor
      · rw [hservice, hadopt]
        exact Manager.tells_adopt other origin manifest
      · rw [hservice, hadopt]
        exact fun _ => ⟨_, _, Manager.loaded_adopt other origin manifest⟩

theorem Informed.after {live : Live} (h : live.Informed) (requests : List Request) :
    (live.after requests).Informed := by
  induction requests generalizing live with
  | nil => exact h
  | cons request requests ih =>
    refine ih ?_
    by_cases hstart : request = .start
    · subst hstart
      exact h.start
    · exact h.of_changes (changes_next live hstart)

theorem informed_create {config : Config} {session : Session} {source : Option Source}
    {cache : Option Storage} {place : Place} {now : Nat} {service : Service}
    (h : Service.create config session source cache place now = .ok service) :
    (create service).Informed := by
  obtain ⟨processor, log, notes, rfl⟩ := Service.create_eq_ok h
  refine ⟨fun status hlast => ?_, fun hstarted => ?_⟩
  · cases hlast
  · cases hstarted

/-- Every start of a service that is not disposed is answered. The first one tells of the manifest
that it puts into force. A later one changes nothing, and tells of the manifest in force unless the
last refresh that has ended since the first start, if there is one, failed. -/
theorem start_tells_of_manifest {config : Config} {session : Session} {source : Option Source}
    {cache : Option Storage} {place : Place} {now : Nat} {service : Service}
    (hcreate : Service.create config session source cache place now = .ok service)
    (requests : List Request)
    (hlive : ((create service).after requests).service.disposed = false) :
    let live := (create service).after requests
    ∃ status, live.start.1 = .ok status ∧
      (live.service.started = false → status.Describes live.start.2.service.manifest) ∧
      (live.service.started = true →
        live.start.2 = live ∧
          ∃ loaded later, live.service.manager.Loaded loaded later ∧
            status = later.getLast?.getD loaded ∧
            (status.Describes live.service.manifest ↔
              ∀ last, later.getLast? = some last → last.kind ≠ .failed)) := by
  intro live
  have hinformed : live.Informed := (informed_create hcreate).after requests
  cases hstarted : live.service.started with
  | false =>
    obtain ⟨settled, -, hanswer, hservice⟩ := start_of_first hlive hstarted
    obtain ⟨other, origin, manifest, hadopt⟩ := settled.service.manager.endLoad_eq_adopt
    refine ⟨_, hanswer, fun _ => ?_, nofun⟩
    rw [Service.manifest, hservice, hadopt]
    exact Status.describes_success (by decide) origin manifest
  | true =>
    obtain ⟨loaded, later, hloaded⟩ := hinformed.loaded hstarted
    have hlast := hloaded.lastStatus?
    have hstart := start_of_started hlive hstarted hlast
    refine ⟨_, congrArg Prod.fst hstart, nofun, fun _ =>
      ⟨congrArg Prod.snd hstart, loaded, later, hloaded, rfl, ?_⟩⟩
    constructor
    · intro hdescribes last hlater
      have hsuccess := hdescribes.success
      rw [hlater] at hsuccess
      exact bne_iff_ne.mp hsuccess
    · intro hlater
      refine hinformed.tells _ hlast ?_
      cases hgot : later.getLast? with
      | none => exact fun hkind => by simp [hloaded.1] at hkind
      | some last => exact hlater last hgot

end Live

namespace Sample

def failing : List (Except Fault String) :=
  [.error (.fetch "down"), .ok second]

/-- A service that was started and whose refresh failed. -/
def failed : Live :=
  (Live.create (scripted none failing)).after [.start, .refresh]

def recovered : Live :=
  (Live.create (scripted none failing)).after [.start, .refresh, .refresh]

end Sample

/-- After a failed refresh a start tells of the failure, although a manifest is in force. -/
theorem start_after_failed_refresh :
    Sample.failed.service.disposed = false ∧
      ∃ status, Sample.failed.start.1 = .ok status ∧ status.isSuccess = false ∧
        ¬ status.Describes Sample.failed.start.2.service.manifest := by
  have hkind : Sample.failed.start.1.toOption.map Status.isSuccess = some false := by
    decide +kernel
  refine ⟨by decide +kernel, ?_⟩
  generalize Sample.failed.start = answer at hkind ⊢
  obtain ⟨answer, after⟩ := answer
  cases answer with
  | error fault => cases hkind
  | ok status =>
    have hfailed : status.isSuccess = false := Option.some.inj hkind
    refine ⟨status, rfl, hfailed, fun h => ?_⟩
    rw [h.success] at hfailed
    cases hfailed

theorem start_after_successful_refresh :
    Service.create Sample.unscheduled (.create "s") (some (.script 0 Sample.failing [])) none
        .missing 0 = .ok (Sample.scripted none Sample.failing) ∧
      Sample.recovered.service.disposed = false ∧ Sample.recovered.service.started = true ∧
      ∃ status, Sample.recovered.start.1 = .ok status ∧
        Sample.recovered.start.2 = Sample.recovered ∧
        status.Describes Sample.recovered.service.manifest ∧ status.version = some "2" := by
  have hcreate := Sample.create_scripted none Sample.failing
  have hlive : Sample.recovered.service.disposed = false := by decide +kernel
  have hstarted : Sample.recovered.service.started = true := by decide +kernel
  have hversion : Sample.recovered.service.manifest.version = some "2" := by decide +kernel
  have hkind : Sample.recovered.start.1.toOption.map Status.isSuccess = some true := by
    decide +kernel
  obtain ⟨status, hanswer, -, hagain⟩ :=
    Live.start_tells_of_manifest hcreate [.start, .refresh, .refresh] hlive
  change Sample.recovered.start.1 = .ok status at hanswer
  obtain ⟨hsame, loaded, later, -, hstatus, hdescribes⟩ := hagain hstarted
  have hsuccess : status.isSuccess = true := by
    rw [hanswer] at hkind
    exact Option.some.inj hkind
  have htells : status.Describes Sample.recovered.service.manifest := by
    refine hdescribes.mpr fun last hlast => ?_
    rw [hlast, Option.getD_some] at hstatus
    rw [hstatus] at hsuccess
    exact bne_iff_ne.mp hsuccess
  exact ⟨hcreate, hlive, hstarted, status, hanswer, hsame, htells,
    htells.version.trans hversion⟩

end EventGate
