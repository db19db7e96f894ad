import EventGate.Refresh.Manager

/-! # The last good manifest

Between calls the manifest in force is the one that a restart on the local copy would bring back:
the last one that a refresh brought, or else what the copy held at first, or else the bundled one.
-/

namespace EventGate

/-- What a manager is asked for. A refresh comes with what its source answers. -/
inductive ManagerCall where
  | load
  | refresh (location : String) (now : Nat) (fetched : Except Fault String)

namespace ManagerCall

def goodText? : ManagerCall → Option String
  | load => none
  | refresh _ _ (.error _) => none
  | refresh _ _ (.ok text) => if (Manifest.parse text).isOk then some text else none

def lastGood? (calls : List ManagerCall) : Option String :=
  (calls.filterMap goodText?).getLast?

theorem lastGood?_cons (call : ManagerCall) (calls : List ManagerCall) :
    lastGood? (call :: calls) = (lastGood? calls).or call.goodText? := by
  unfold lastGood?
  rw [List.filterMap_cons]
  cases call.goodText? with
  | none => rw [Option.or_none]
  | some text =>
    dsimp only
    rw [List.getLast?_cons]
    cases (calls.filterMap goodText?).getLast? <;> rfl

theorem goodText?_refresh_eq_some_iff {location : String} {now : Nat}
    {fetched : Except Fault String} {text : String} :
    (refresh location now fetched).goodText? = some text ↔
      fetched = .ok text ∧ ∃ manifest, Manifest.parse text = .ok manifest := by
  cases fetched with
  | error fault => simp [goodText?]
  | ok other =>
    cases hparse : Manifest.parse other with
    | error fault =>
      simp only [goodText?, hparse]
      refine iff_of_false (by simp [Except.isOk, Except.toBool]) ?_
      rintro ⟨heq, manifest, hmanifest⟩
      cases heq
      rw [hparse] at hmanifest
      cases hmanifest
    | ok manifest =>
      simp only [goodText?, hparse]
      constructor
      · intro h
        cases h
        exact ⟨rfl, manifest, hparse⟩
      · rintro ⟨heq, -⟩
        cases heq
        rfl

theorem parse_of_lastGood? {calls : List ManagerCall} {text : String}
    (h : lastGood? calls = some text) : ∃ manifest, Manifest.parse text = .ok manifest := by
  obtain ⟨call, -, hcall⟩ := List.mem_filterMap.mp (List.mem_of_getLast? h)
  cases call with
  | load => cases hcall
  | refresh location now fetched => exact (goodText?_refresh_eq_some_iff.mp hcall).2

end ManagerCall

namespace Manager

def next (manager : Manager) : ManagerCall → Manager
  | .load => manager.load.2
  | .refresh location now fetched => (manager.refresh location now fetched).2

def after (manager : Manager) (calls : List ManagerCall) : Manager :=
  calls.foldl next manager

@[simp] theorem after_nil (manager : Manager) : manager.after [] = manager := rfl

@[simp] theorem after_cons (manager : Manager) (call : ManagerCall) (calls : List ManagerCall) :
    manager.after (call :: calls) = (manager.next call).after calls := rfl

/-- The manifest that a new manager puts into force at its start. -/
def restored (cache : Option Storage) : Manifest :=
  (create cache).load.2.active

/-! ## Loading -/

theorem restored_eq (cache : Option Storage) :
    restored cache =
      match cached cache with
      | .ok (some manifest) => manifest
      | _ => .bundled := by
  unfold restored load endLoad beginLoad create
  dsimp only
  cases cached cache with
  | error fault => rfl
  | ok manifest? => cases manifest? <;> rfl

/-- Whatever a manager held, loading puts the manifest of the local copy into force. -/
theorem load_eq (manager : Manager) :
    ∃ raised, manager.load.2 =
      { manager with active := restored manager.cache, state := .active, raised } := by
  rw [restored_eq]
  unfold load endLoad beginLoad
  dsimp only
  cases cached manager.cache with
  | error fault => exact ⟨_, rfl⟩
  | ok manifest? => cases manifest? <;> exact ⟨_, rfl⟩

theorem restored_eq_of_parse {text : String} {manifest : Manifest}
    (h : Manifest.parse text = .ok manifest) : restored (some (.text text)) = manifest := by
  have hcached : cached (some (.text text)) = .ok (some manifest) := congrArg (Except.map some) h
  rw [restored_eq, hcached]

theorem restored_eq_bundled {storage : Storage}
    (h : ∀ text manifest, storage = .text text → Manifest.parse text ≠ .ok manifest) :
    restored (some storage) = .bundled := by
  rw [restored_eq]
  cases storage with
  | missing => rfl
  | bytes => rfl
  | folder => rfl
  | text text =>
    cases hparse : Manifest.parse text with
    | ok manifest => exact absurd hparse (h text manifest rfl)
    | error fault =>
      have hcached : cached (some (.text text)) = .error fault := congrArg (Except.map some) hparse
      rw [hcached]

/-! ## Refreshing -/

theorem parsed_of_parse {text : String} {manifest : Manifest}
    (h : Manifest.parse text = .ok manifest) : parsed (.ok text) = .ok (text, manifest) := by
  unfold parsed
  dsimp only [Bind.bind, Except.bind]
  rw [h]
  rfl

theorem parsed_of_parse_error {text : String} {fault : Fault}
    (h : Manifest.parse text = .error fault) : parsed (.ok text) = .error fault := by
  unfold parsed
  dsimp only [Bind.bind, Except.bind]
  rw [h]

theorem refresh_of_failed {manager : Manager} {fetched : Except Fault String} {fault : Fault}
    (h : parsed fetched = .error fault) (location : String) (now : Nat) :
    manager.refresh location now fetched =
      (.error (.because fault),
        { manager with
          state := .failed
          raised := manager.raised ++ [.failure (.remote location) fault] }) := by
  unfold refresh endRefresh
  rw [h]
  rfl

theorem refresh_of_parse {manager : Manager} {storage : Storage} {text : String}
    {manifest : Manifest} (hcache : manager.cache = some storage)
    (hwritable : storage.isWritable = true) (h : Manifest.parse text = .ok manifest)
    (location : String) (now : Nat) :
    manager.refresh location now (.ok text) =
      (.ok ⟨manifest.actions.length, manifest.dropped.length⟩,
        { manager with
          active := manifest
          state := .active
          cache := some (.text text)
          lastRefresh := some now
          raised := manager.raised ++
            [.success .refreshed (.remote location) manifest] }) := by
  have hstore : storage.store text = .text text := by
    cases storage with
    | folder => cases hwritable
    | missing => rfl
    | text content => rfl
    | bytes => rfl
  unfold refresh endRefresh
  rw [parsed_of_parse h]
  dsimp only [beginRefresh, raise]
  rw [hcache, Option.map_some, hstore]

theorem parsed_eq_error_or_ok (fetched : Except Fault String) :
    (∃ fault, parsed fetched = .error fault) ∨
      ∃ text manifest, fetched = .ok text ∧ Manifest.parse text = .ok manifest := by
  cases fetched with
  | error fault => exact .inl ⟨fault, rfl⟩
  | ok text =>
    cases hparse : Manifest.parse text with
    | ok manifest => exact .inr ⟨text, manifest, rfl, hparse⟩
    | error fault => exact .inl ⟨fault, parsed_of_parse_error hparse⟩

/-! ## Runs -/

/-- The local copy holds the last good text, or what it held at first, and the manifest in force is
the one that a restart would bring back. -/
structure Serves (manager : Manager) (start : Storage) (good : Option String) : Prop where
  cache : manager.cache = some (good.elim start .text)
  active : manager.active = restored manager.cache
  state : manager.state = .active ∨ manager.state = .failed

namespace Serves

variable {manager : Manager} {start : Storage} {good : Option String}

theorem of_load (hcache : manager.cache = some (good.elim start .text)) :
    Serves (manager.next .load) start good := by
  obtain ⟨raised, hload⟩ := load_eq manager
  change Serves manager.load.2 start good
  rw [hload]
  exact ⟨hcache, rfl, .inl rfl⟩

theorem isWritable_elim (hstart : start.isWritable = true) (good : Option String) :
    (good.elim start .text).isWritable = true := by
  cases good with
  | none => exact hstart
  | some text => rfl

theorem next (h : Serves manager start good) (hstart : start.isWritable = true)
    (call : ManagerCall) : Serves (manager.next call) start (call.goodText?.or good) := by
  cases call with
  | load => exact of_load h.cache
  | refresh location now fetched =>
    change Serves (manager.refresh location now fetched).2 _ _
    rcases parsed_eq_error_or_ok fetched with ⟨fault, hparsed⟩ | ⟨text, manifest, rfl, hparse⟩
    · have hgood : (ManagerCall.refresh location now fetched).goodText? = none := by
        refine Option.eq_none_iff_forall_ne_some.mpr fun text htext => ?_
        obtain ⟨rfl, manifest, hparse⟩ := ManagerCall.goodText?_refresh_eq_some_iff.mp htext
        rw [parsed_of_parse hparse] at hparsed
        cases hparsed
      rw [hgood, Option.none_or, refresh_of_failed hparsed]
      exact ⟨h.cache, h.active, .inr rfl⟩
    · have hgood : (ManagerCall.refresh location now (.ok text)).goodText? = some text :=
        ManagerCall.goodText?_refresh_eq_some_iff.mpr ⟨rfl, manifest, hparse⟩
      rw [hgood, Option.some_or, refresh_of_parse h.cache (isWritable_elim hstart good) hparse]
      exact ⟨rfl, (restored_eq_of_parse hparse).symm, .inl rfl⟩

theorem after (h : Serves manager start good) (hstart : start.isWritable = true)
    (calls : List ManagerCall) :
    Serves (manager.after calls) start ((ManagerCall.lastGood? calls).or good) := by
  -- The good text before a call is that of the calls before it, so it varies along the run.
  induction calls generalizing manager good with
  | nil => exact h
  | cons call calls ih =>
    rw [ManagerCall.lastGood?_cons, Option.or_assoc]
    exact ih (h.next hstart call)

end Serves

/-- At any time after the start, the manifest in force is the one that a restart would bring back:
that of the last good text, or else that of the local copy there was, or else the bundled one. A
refresh that fails changes the state alone and raises one failure; one that succeeds stores its text
and puts it into force. -/
theorem active_after_restart {start : Storage} (hstart : start.isWritable = true)
    (calls : List ManagerCall) (location : String) (now : Nat) :
    let manager := (create (some start)).after (.load :: calls)
    manager.active = restored manager.cache ∧
      (∀ text, ManagerCall.lastGood? calls = some text →
        manager.cache = some (.text text) ∧ Manifest.parse text = .ok manager.active) ∧
      (ManagerCall.lastGood? calls = none →
        (∀ text manifest, start = .text text → Manifest.parse text = .ok manifest →
          manager.active = manifest) ∧
        ((∀ text manifest, start = .text text → Manifest.parse text ≠ .ok manifest) →
          manager.active = .bundled)) ∧
      (manager.state = .active ∨ manager.state = .failed) ∧
      (∀ fault, manager.refresh location now (.error fault) =
        (.error (.because fault),
          { manager with
            state := .failed
            raised := manager.raised ++ [⟨.failed, .remote location, none, [], some fault⟩] })) ∧
      (∀ text fault, Manifest.parse text = .error fault →
        manager.refresh location now (.ok text) =
          (.error (.because fault),
            { manager with
              state := .failed
              raised := manager.raised ++
                [⟨.failed, .remote location, none, [], some fault⟩] })) ∧
      ∀ text manifest, Manifest.parse text = .ok manifest →
        manager.refresh location now (.ok text) =
          (.ok ⟨manifest.actions.length, manifest.dropped.length⟩,
            { manager with
              active := manifest
              state := .active
              cache := some (.text text)
              lastRefresh := some now
              raised := manager.raised ++
                [⟨.refreshed, .remote location, manifest.version, manifest.dropped, none⟩] }) := by
  intro manager
  have hserves : Serves manager start (ManagerCall.lastGood? calls) := by
    have hloaded : Serves ((create (some start)).next .load) start none := Serves.of_load rfl
    have hafter := hloaded.after hstart calls
    rwa [Option.or_none] at hafter
  refine ⟨hserves.active, ?_, ?_, hserves.state, ?_, ?_, ?_⟩
  · intro text hgood
    have hcache : manager.cache = some (.text text) := by
      rw [hserves.cache, hgood]
      rfl
    obtain ⟨manifest, hparse⟩ := ManagerCall.parse_of_lastGood? hgood
    refine ⟨hcache, ?_⟩
    rw [hserves.active, hcache, restored_eq_of_parse hparse, hparse]
  · intro hgood
    have hactive : manager.active = restored (some start) := by
      rw [hserves.active, hserves.cache, hgood]
      rfl
    constructor
    · rintro text manifest rfl hparse
      exact hactive.trans (restored_eq_of_parse hparse)
    · exact fun h => hactive.trans (restored_eq_bundled h)
  · exact fun fault => refresh_of_failed rfl location now
  · exact fun text fault h => refresh_of_failed (parsed_of_parse_error h) location now
  · exact fun text manifest h =>
      refresh_of_parse hserves.cache (Serves.isWritable_elim hstart _) h location now

end Manager

namespace Sample

def second : String := "\x7b\"version\": \"2\"\x7d"

def refreshes : List ManagerCall :=
  [.refresh "here" 5 (.ok second), .refresh "here" 6 (.ok "2"),
    .refresh "here" 7 (.error (.fetch "here"))]

end Sample

theorem second_manifest_stays :
    let manager := (Manager.create (some .bytes)).after (.load :: Sample.refreshes)
    Storage.bytes.isWritable = true ∧
      ManagerCall.lastGood? Sample.refreshes = some Sample.second ∧
      manager.active.version = some "2" ∧
      manager.cache = some (.text Sample.second) ∧
      (Manager.restored manager.cache).version = some "2" ∧
      manager.state = .failed ∧
      (manager.refresh "here" 8 (.error (.fetch "here"))).2.active = manager.active := by
  intro manager
  have hwritable : Storage.bytes.isWritable = true := rfl
  obtain ⟨hrestart, hgood, -, -, hfailed, -⟩ :=
    Manager.active_after_restart hwritable Sample.refreshes "here" 8
  have hlast : ManagerCall.lastGood? Sample.refreshes = some Sample.second := by decide +kernel
  obtain ⟨hcache, hparse⟩ := hgood Sample.second hlast
  have hversion : manager.active.version = some "2" := by
    have hsecond : (Manifest.parse Sample.second).toOption.bind Manifest.version = some "2" := by
      decide +kernel
    rw [hparse] at hsecond
    exact hsecond
  refine ⟨hwritable, hlast, hversion, hcache, hrestart ▸ hversion, ?_, ?_⟩
  · decide +kernel
  · rw [hfailed]

end EventGate
