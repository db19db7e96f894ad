import EventGate.Proofs.Notifications
import EventGate.Proofs.QuietService

/-! # A refreshed manifest

A manifest that a refresh brought stays in force until another refresh succeeds, with one exception.
The first start loads a manifest whatever is in force: that of the local copy, which holds the
refreshed one if it could be written, or else the bundled one.
-/

namespace EventGate

/-- A request that leaves nothing to the background, and the service at work. -/
def Request.isDirect : Request → Bool
  | refreshLater | dispose | disposeWithin _ => false
  | _ => true

namespace Manager

theorem refresh_of_good {text : String} {manifest : Manifest}
    (h : Manifest.parse text = .ok manifest) (manager : Manager) (location : String) (now : Nat) :
    ∃ report raised, manager.refresh location now (.ok text) =
      (.ok report,
        { manager with
          active := manifest
          state := .active
          cache := manager.cache.map fun storage => storage.store text
          lastRefresh := some now
          raised }) := by
  unfold refresh endRefresh
  rw [parsed_of_parse h]
  exact ⟨_, _, rfl⟩

theorem restored_of_stored {text : String} {manifest : Manifest}
    (h : Manifest.parse text = .ok manifest) {storage : Storage}
    (hwritable : storage.isWritable = true) :
    restored (some (storage.store text)) = manifest := by
  have hstore : storage.store text = .text text := by
    cases storage with
    | folder => cases hwritable
    | missing => rfl
    | text content => rfl
    | bytes => rfl
  rw [hstore, restored_eq_of_parse h]

end Manager

/-- A refresh fails and leaves the manifest and its local copy, or it puts the fetched manifest into
force. -/
theorem Service.refreshed_cases (service : Service) (time : Nat) :
    (∃ fault, (service.refreshed time).1 = .error fault ∧
      (service.refreshed time).2.manifest = service.manifest ∧
        (service.refreshed time).2.manager.cache = service.manager.cache) ∨
    ∃ report source text, (service.refreshed time).1 = .ok report ∧
      service.source = some source ∧ (source.ask true).answer.1 = .ok text ∧
        Manifest.parse text = .ok (service.refreshed time).2.manifest ∧
          (service.refreshed time).2.manager.cache =
            service.manager.cache.map fun storage => storage.store text := by
  unfold refreshed
  cases hsource : service.source with
  | none => exact .inl ⟨_, rfl, rfl, rfl⟩
  | some source =>
    dsimp only
    rcases Manager.parsed_eq_error_or_ok (source.ask true).answer.1 with
      ⟨fault, hparsed⟩ | ⟨text, manifest, hanswer, hparse⟩
    · rw [Manager.refresh_of_failed hparsed]
      exact .inl ⟨_, rfl, rfl, rfl⟩
    · obtain ⟨report, raised, heq⟩ :=
        Manager.refresh_of_good hparse service.manager (source.ask true).describe time
      rw [hanswer, heq]
      exact .inr ⟨report, source, text, rfl, rfl, hanswer, hparse, rfl⟩

namespace Live

/-- The outcomes of those refreshes among requests that the host waits for. -/
def outcomes (live : Live) : List Request → List RefreshOutcome
  | [] => []
  | .refresh :: rest =>
    live.forceRefresh.1.toOption.join.toList ++ (live.next .refresh).outcomes rest
  | request :: rest => (live.next request).outcomes rest

/-- The manifest in force, its local copy and the first start are as before. -/
structure Keeps (live after : Live) : Prop where
  manifest : after.service.manifest = live.service.manifest
  cache : after.service.manager.cache = live.service.manager.cache
  started : after.service.started = live.service.started

/-- What a request does to a quiet service: a first start loads the manifest of the local copy, a
refresh may succeed, and all else keeps the manifest. -/
inductive Treats (live : Live) : Request → Live → Prop where
  | load {after : Live} : live.service.started = false → after.service.started = true →
      after.service.manifest = Manager.restored live.service.manager.cache →
        after.service.manager.cache = live.service.manager.cache → Treats live .start after
  | refresh {after : Live} {report : RefreshReport} :
      live.forceRefresh.1 = .ok (some (.ok report)) → Treats live .refresh after
  | keep {request : Request} {after : Live} :
      (request = .start → live.service.started = true) → Keeps live after →
        Treats live request after

theorem Keeps.setService {live : Live} {service : Service}
    (hmanager : service.manager = live.service.manager)
    (hstarted : service.started = live.service.started) : Keeps live (live.setService service) :=
  ⟨congrArg Manager.active hmanager, congrArg Manager.cache hmanager, hstarted⟩

namespace Quiet

variable {live : Live}

theorem start (h : live.Quiet) (hinformed : live.Informed) :
    live.start.2.Quiet ∧ Treats live .start live.start.2 := by
  cases hstarted : live.service.started with
  | false =>
    obtain ⟨hservice, hquiet⟩ := h.start_eq hstarted
    obtain ⟨raised, hload⟩ := live.service.manager.load_eq
    have hmanager : live.start.2.service.manager = live.service.manager.load.2 := by
      rw [hservice]
      rfl
    refine ⟨hquiet, .load hstarted ?_ ?_ ?_⟩
    · rw [hservice]
      rfl
    · rw [Service.manifest, hmanager, hload]
    · rw [hmanager, hload]
  | true =>
    obtain ⟨loaded, later, hloaded⟩ := hinformed.loaded hstarted
    rw [start_of_started h.lasting hstarted hloaded.lastStatus?]
    exact ⟨h, .keep (fun _ => hstarted) ⟨rfl, rfl, rfl⟩⟩

theorem forceRefresh (h : live.Quiet) :
    live.forceRefresh.2.Quiet ∧ Treats live .refresh live.forceRefresh.2 := by
  obtain ⟨time, houtcome, hservice, hquiet⟩ := h.forceRefresh_eq
  refine ⟨hquiet, ?_⟩
  rcases live.service.refreshed_cases time with
    ⟨fault, -, hmanifest, hcache⟩ | ⟨report, source, text, hreport, -⟩
  · obtain ⟨source, manager, heq⟩ := live.service.refreshed_eq time
    refine .keep nofun ⟨?_, ?_, ?_⟩
    · rw [hservice, hmanifest]
    · rw [hservice, hcache]
    · rw [hservice, heq]
  · rw [hreport] at houtcome
    exact .refresh houtcome

theorem next (h : live.Quiet) (hinformed : live.Informed) {request : Request}
    (hdirect : request.isDirect = true) :
    (live.next request).Quiet ∧ Treats live request (live.next request) := by
  cases request with
  | start => exact h.start hinformed
  | refresh => exact h.forceRefresh
  | refreshLater => cases hdirect
  | post now event =>
    unfold Live.next
    dsimp only
    split
    · obtain ⟨processor, log, notes, rfl⟩ := Service.post_eq_ok ‹_›
      exact ⟨h.setService rfl rfl, .keep nofun (.setService rfl rfl)⟩
    · exact ⟨h, .keep nofun ⟨rfl, rfl, rfl⟩⟩
  | register channel traits =>
    unfold Live.next
    dsimp only
    split
    · obtain ⟨processor, log, rfl⟩ := Service.register_eq_ok ‹_›
      exact ⟨h.setService rfl rfl, .keep nofun (.setService rfl rfl)⟩
    · exact ⟨h, .keep nofun ⟨rfl, rfl, rfl⟩⟩
  | sourceFile storage =>
    unfold Live.next setSourceFile
    dsimp only
    split
    · exact ⟨h.setService rfl rfl, .keep nofun (.setService rfl rfl)⟩
    · exact ⟨h, .keep nofun ⟨rfl, rfl, rfl⟩⟩
  | wait time =>
    obtain ⟨hservice, hquiet⟩ := h.advance_eq time
    exact ⟨hquiet, .keep nofun ⟨congrArg Service.manifest hservice,
      congrArg (fun service => service.manager.cache) hservice,
      congrArg Service.started hservice⟩⟩
  | dispose => cases hdirect
  | disposeWithin budget => cases hdirect

theorem after (h : live.Quiet) (hinformed : live.Informed) {requests : List Request}
    (hdirect : ∀ request ∈ requests, request.isDirect = true) :
    (live.after requests).Quiet := by
  induction requests generalizing live with
  | nil => exact h
  | cons request requests ih =>
    have hnext := h.next hinformed (hdirect request List.mem_cons_self)
    exact ih hnext.1 (hinformed.after [request]) fun r hr => hdirect r (List.mem_cons_of_mem _ hr)

/-- As long as no refresh succeeds, only a first start touches the manifest. -/
theorem manifest_after (h : live.Quiet) (hinformed : live.Informed) {requests : List Request}
    (hdirect : ∀ request ∈ requests, request.isDirect = true)
    (hnone : ∀ report, .ok report ∉ live.outcomes requests) :
    (live.after requests).service.manager.cache = live.service.manager.cache ∧
      (live.service.started = true ∨ .start ∉ requests →
        (live.after requests).service.manifest = live.service.manifest) ∧
      (live.service.started = false → .start ∈ requests →
        (live.after requests).service.manifest =
          Manager.restored live.service.manager.cache) := by
  induction requests generalizing live with
  | nil => exact ⟨rfl, fun _ => rfl, fun _ h => absurd h List.not_mem_nil⟩
  | cons request requests ih =>
    obtain ⟨hquiet, htreats⟩ := h.next hinformed (hdirect request List.mem_cons_self)
    have hlater (report : RefreshReport) : .ok report ∉ (live.next request).outcomes requests := by
      refine fun hmem => hnone report ?_
      cases request with
      | refresh => exact List.mem_append_right _ hmem
      | _ => exact hmem
    obtain ⟨hcache, hkeeps, hloads⟩ := ih hquiet (hinformed.after [request])
      (fun r hr => hdirect r (List.mem_cons_of_mem _ hr)) hlater
    rw [after_cons]
    generalize live.next request = next at htreats hcache hkeeps hloads
    cases htreats with
    | load hfirst hstarted hmanifest hcopy =>
      refine ⟨hcache.trans hcopy, fun h => ?_, fun _ _ => (hkeeps (.inl hstarted)).trans hmanifest⟩
      rcases h with h | h
      · rw [hfirst] at h
        cases h
      · exact absurd List.mem_cons_self h
    | @refresh _ report hreport =>
      refine absurd (List.mem_append_left _ ?_) (hnone report)
      rw [hreport]
      exact List.mem_singleton_self _
    | keep hstart hkeep =>
      refine ⟨hcache.trans hkeep.cache, fun h => ?_, fun hfirst hmem => ?_⟩
      · refine (hkeeps ?_).trans hkeep.manifest
        rw [hkeep.started]
        exact h.imp_right fun h hmem => h (List.mem_cons_of_mem _ hmem)
      · rcases List.mem_cons.mp hmem with rfl | hmem
        · rw [hstart rfl] at hfirst
          cases hfirst
        · rw [← hkeep.cache]
          exact hloads (hkeep.started.trans hfirst) hmem

end Quiet

/-- Where nothing is refreshed in the background, a refresh that succeeds puts the fetched manifest
into force, and there it stays whatever is asked for, until another refresh succeeds. Only a first
start after the refresh loads the manifest of the local copy: the same one if the copy could be
written, and the bundled one if no copy is wanted. -/
theorem refreshed_manifest_stays {config : Config} {session : Session} {source : Option Source}
    {cache : Option Storage} {place : Place} {now : Nat} {service : Service}
    (hcreate : Service.create config session source cache place now = .ok service)
    (hplan : config.refresh.enabled = false) {before later : List Request}
    (hbefore : ∀ request ∈ before, request.isDirect = true)
    (hlater : ∀ request ∈ later, request.isDirect = true) {report : RefreshReport}
    (hreport : ((create service).after before).forceRefresh.1 = .ok (some (.ok report)))
    (hnone : ∀ report,
      .ok report ∉ ((create service).after before).forceRefresh.2.outcomes later) :
    let live := (create service).after before
    let refreshed := live.forceRefresh.2
    let last := refreshed.after later
    (∃ source text, live.service.source = some source ∧
      (source.ask true).answer.1 = .ok text ∧
      Manifest.parse text = .ok refreshed.service.manifest ∧
      refreshed.service.manager.cache =
        live.service.manager.cache.map fun storage => storage.store text) ∧
    (live.service.started = true ∨ .start ∉ later →
      last.service.manifest = refreshed.service.manifest) ∧
    (live.service.started = false → .start ∈ later →
      last.service.manifest = Manager.restored refreshed.service.manager.cache ∧
      (∀ storage, live.service.manager.cache = some storage → storage.isWritable = true →
        last.service.manifest = refreshed.service.manifest) ∧
      (live.service.manager.cache = none → last.service.manifest = .bundled)) := by
  intro live refreshed last
  have hinformed : live.Informed := (informed_create hcreate).after before
  have hquiet : live.Quiet := (quiet_create hcreate hplan).after (informed_create hcreate) hbefore
  obtain ⟨time, houtcome, hservice, hrefreshed⟩ := hquiet.forceRefresh_eq
  obtain ⟨source, text, hsource, hanswer, hparse, hcache⟩ : ∃ source text,
      live.service.source = some source ∧ (source.ask true).answer.1 = .ok text ∧
        Manifest.parse text = .ok refreshed.service.manifest ∧
          refreshed.service.manager.cache =
            live.service.manager.cache.map fun storage => storage.store text := by
    rcases live.service.refreshed_cases time with
      ⟨fault, hfault, -⟩ | ⟨_, source, text, -, hsource, hanswer, hparse, hcache⟩
    · rw [hfault] at houtcome
      cases hreport.symm.trans houtcome
    · exact ⟨source, text, hsource, hanswer, hservice ▸ hparse, hservice ▸ hcache⟩
  have hstarted : refreshed.service.started = live.service.started :=
    (changes_forceRefresh live).started
  obtain ⟨-, hkeeps, hloads⟩ :=
    hrefreshed.manifest_after (hinformed.after [.refresh]) hlater hnone
  refine ⟨⟨source, text, hsource, hanswer, hparse, hcache⟩, fun h => hkeeps (hstarted ▸ h),
    fun hfirst hmem => ?_⟩
  have hloaded := hloads (hstarted.trans hfirst) hmem
  refine ⟨hloaded, fun storage hstorage hwritable => ?_, fun hwithout => ?_⟩
  · rw [hcache, hstorage] at hloaded
    exact hloaded.trans (Manager.restored_of_stored hparse hwritable)
  · rw [hcache, hwithout] at hloaded
    exact hloaded

end Live

namespace Sample

def unstarted (cache : Option Storage) : Live :=
  Live.create (scripted cache [.ok second, .error (.fetch "down")])

def refreshedFirst (cache : Option Storage) : Live :=
  (unstarted cache).forceRefresh.2

theorem answer_eq {answer : Except Fault (Option RefreshOutcome)} {report : RefreshReport}
    (h : answer.toOption.join.bind Except.toOption = some report) :
    answer = .ok (some (.ok report)) := by
  match answer, h with
  | .ok (some (.ok report)), rfl => rfl

end Sample

/-- Without a local copy the first start puts the bundled manifest in the place of a refreshed
one. -/
theorem first_start_after_refresh :
    Sample.unscheduled.refresh.enabled = false ∧
      (Sample.unstarted none).forceRefresh.1 = .ok (some (.ok ⟨0, 0⟩)) ∧
      (Sample.refreshedFirst none).service.manifest.version = some "2" ∧
      (Sample.refreshedFirst none).outcomes [.start] = [] ∧
      ((Sample.refreshedFirst none).after [.start]).service.manifest.version =
        some "bundled" := by
  have hreport : (Sample.unstarted none).forceRefresh.1.toOption.join.bind Except.toOption =
      some ⟨0, 0⟩ := by decide +kernel
  exact ⟨rfl, Sample.answer_eq hreport, by decide +kernel, rfl, by decide +kernel⟩

theorem stored_refresh_survives_first_start :
    (Sample.unstarted (some .bytes)).forceRefresh.1 = .ok (some (.ok ⟨0, 0⟩)) ∧
      (∀ report, .ok report ∉ (Sample.refreshedFirst (some .bytes)).outcomes [.refresh, .start]) ∧
      ((Sample.refreshedFirst (some .bytes)).after [.refresh, .start]).service.manifest =
        (Sample.refreshedFirst (some .bytes)).service.manifest ∧
      (Sample.refreshedFirst (some .bytes)).service.manifest.version = some "2" := by
  have hreport : (Sample.unstarted (some .bytes)).forceRefresh.1 = .ok (some (.ok ⟨0, 0⟩)) :=
    Sample.answer_eq (by decide +kernel)
  have hfailed : ((Sample.refreshedFirst (some .bytes)).outcomes [.refresh, .start]).all
      (fun outcome => outcome.toOption.isNone) = true := by decide +kernel
  have hnone (report : RefreshReport) :
      .ok report ∉ (Sample.refreshedFirst (some .bytes)).outcomes [.refresh, .start] :=
    fun hmem => nomatch List.all_eq_true.mp hfailed _ hmem
  obtain ⟨-, -, hfirst⟩ := Live.refreshed_manifest_stays
    (Sample.create_scripted (some .bytes) [.ok Sample.second, .error (.fetch "down")]) rfl
    (fun _ h => absurd h List.not_mem_nil) (by decide) hreport hnone
  obtain ⟨-, hstored, -⟩ := hfirst rfl (List.mem_cons_of_mem _ List.mem_cons_self)
  exact ⟨hreport, hnone, hstored .bytes rfl rfl, by decide +kernel⟩

end EventGate
