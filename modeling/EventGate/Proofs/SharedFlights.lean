import EventGate.Refresh.Flight
import EventGate.Refresh.Manager

/-! # Shared flights

Callers, ends of flights and handings out come in any order. At any time one flight at most is
under way, and every caller gets one outcome: that of the flight that was open when it called.
-/

namespace EventGate

variable {ο : Type}

/-- What happens to flights: a caller asks, a flight under way ends, and the outcome of a landed
flight is handed out. -/
inductive FlightEvent (ο : Type) where
  | call (caller : Nat)
  | land (flight : Nat) (outcome : ο)
  | handOut (flight : Nat)

def FlightEvent.isLanding : FlightEvent ο → Bool
  | land .. => true
  | _ => false

namespace Flights

def next (flights : Flights ο) : FlightEvent ο → Flights ο
  | .call caller => (flights.call caller).2
  | .land flight outcome => flights.land flight outcome
  | .handOut flight => flights.handOut flight

def after (events : List (FlightEvent ο)) : Flights ο :=
  events.foldl next create

def outcomesFor (received : List (Nat × ο)) (caller : Nat) : List ο :=
  (received.filter fun r => r.1 == caller).map Prod.snd

def outcomesOf (flights : Flights ο) (caller : Nat) : List ο :=
  outcomesFor flights.received caller

/-- Whether an event can happen: every call has a caller of its own, a flight ends while it is under
way, and what is handed out has landed. -/
def Allows (flights : Flights ο) : FlightEvent ο → Prop
  | .call caller => caller ∉ flights.aboard.map Prod.fst ∧ flights.outcomesOf caller = []
  | .land flight _ => flight ∈ flights.flying
  | .handOut flight => flight ∈ flights.landed.map Prod.fst

inductive Proper : List (FlightEvent ο) → Prop where
  | nil : Proper []
  | snoc {events : List (FlightEvent ο)} {event : FlightEvent ο} :
    Proper events → (after events).Allows event → Proper (events ++ [event])

/-- Among events, a caller asks for a flight: the one that is open right after its call. -/
def Joins (events : List (FlightEvent ο)) (caller flight : Nat) : Prop :=
  ∃ before later, events = before ++ .call caller :: later ∧
    (after (before ++ [.call caller])).open? = some flight

def callsOnClosed (flights : Flights ο) : List (FlightEvent ο) → Nat
  | [] => 0
  | .call caller :: events =>
    (if flights.open?.isNone then 1 else 0) + (flights.next (.call caller)).callsOnClosed events
  | event :: events => (flights.next event).callsOnClosed events

theorem after_snoc (events : List (FlightEvent ο)) (event : FlightEvent ο) :
    after (events ++ [event]) = (after events).next event := by
  unfold after
  rw [List.foldl_append]
  rfl

theorem callsOnClosed_append (flights : Flights ο) (events others : List (FlightEvent ο)) :
    flights.callsOnClosed (events ++ others) =
      flights.callsOnClosed events + (events.foldl next flights).callsOnClosed others := by
  induction events generalizing flights with
  | nil => exact (Nat.zero_add _).symm
  | cons event events ih =>
    cases event with
    | call caller =>
      simp only [List.cons_append, callsOnClosed, List.foldl_cons, ih, Nat.add_assoc]
    | land flight outcome => exact ih _
    | handOut flight => exact ih _

theorem callsOnClosed_snoc (events : List (FlightEvent ο)) (event : FlightEvent ο) :
    create.callsOnClosed (events ++ [event]) =
      create.callsOnClosed events + (after events).callsOnClosed [event] :=
  callsOnClosed_append create events [event]

/-! ## Joining -/

theorem joins_snoc {events : List (FlightEvent ο)} {event : FlightEvent ο} {caller flight : Nat}
    (h : Joins (events ++ [event]) caller flight) :
    Joins events caller flight ∨
      event = .call caller ∧ (after (events ++ [event])).open? = some flight := by
  obtain ⟨before, later, heq, hopen⟩ := h
  rcases List.eq_nil_or_concat later with rfl | ⟨later, last, rfl⟩
  · obtain ⟨rfl, hevent⟩ := List.append_inj' heq rfl
    obtain rfl := List.singleton_inj.mp hevent
    exact .inr ⟨rfl, hopen⟩
  · rw [List.concat_eq_append, ← List.cons_append, ← List.append_assoc] at heq
    obtain ⟨rfl, -⟩ := List.append_inj' heq rfl
    exact .inl ⟨before, later, rfl, hopen⟩

theorem Joins.mem {events : List (FlightEvent ο)} {caller flight : Nat}
    (h : Joins events caller flight) : .call caller ∈ events := by
  obtain ⟨before, later, rfl, -⟩ := h
  exact List.mem_append_right before List.mem_cons_self

/-! ## The phases of a flight -/

/-- No flight is open, or one is and all who wait are aboard: it is under way, or has landed. -/
inductive Phase : Flights ο → Prop where
  | closed (started : Nat) (received : List (Nat × ο)) : Phase ⟨started, none, [], [], [], received⟩
  | flying (flight : Nat) (aboard : List (Nat × Nat)) (received : List (Nat × ο)) :
    (∀ a ∈ aboard, a.2 = flight) →
      Phase ⟨flight + 1, some flight, [flight], [], aboard, received⟩
  | landed (flight : Nat) (outcome : ο) (aboard : List (Nat × Nat)) (received : List (Nat × ο)) :
    (∀ a ∈ aboard, a.2 = flight) →
      Phase ⟨flight + 1, some flight, [], [(flight, outcome)], aboard, received⟩

/-- What an event does: a call starts a flight or joins the open one, the flight under way lands,
and the one that landed closes with its outcome for all aboard. -/
inductive Moves : Flights ο → FlightEvent ο → Flights ο → Prop where
  | start (started : Nat) (received : List (Nat × ο)) (caller : Nat) :
    Moves ⟨started, none, [], [], [], received⟩ (.call caller)
      ⟨started + 1, some started, [started], [], [(caller, started)], received⟩
  | join (flight : Nat) (flying : List Nat) (landed : List (Nat × ο)) (aboard : List (Nat × Nat))
    (received : List (Nat × ο)) (caller : Nat) :
    Moves ⟨flight + 1, some flight, flying, landed, aboard, received⟩ (.call caller)
      ⟨flight + 1, some flight, flying, landed, aboard ++ [(caller, flight)], received⟩
  | land (flight : Nat) (outcome : ο) (aboard : List (Nat × Nat)) (received : List (Nat × ο)) :
    Moves ⟨flight + 1, some flight, [flight], [], aboard, received⟩ (.land flight outcome)
      ⟨flight + 1, some flight, [], [(flight, outcome)], aboard, received⟩
  | handOut (flight : Nat) (outcome : ο) (aboard : List (Nat × Nat)) (received : List (Nat × ο)) :
    (∀ a ∈ aboard, a.2 = flight) →
    Moves ⟨flight + 1, some flight, [], [(flight, outcome)], aboard, received⟩ (.handOut flight)
      ⟨flight + 1, none, [], [], [], received ++ aboard.map fun a => (a.1, outcome)⟩

theorem Phase.moves {flights : Flights ο} (h : Phase flights) {event : FlightEvent ο}
    (hallowed : flights.Allows event) : Moves flights event (flights.next event) := by
  cases event with
  | call caller =>
    cases h with
    | closed started received => exact .start started received caller
    | flying flight aboard received _ => exact .join flight [flight] [] aboard received caller
    | landed flight outcome aboard received _ =>
      exact .join flight [] [(flight, outcome)] aboard received caller
  | land flight outcome =>
    cases h with
    | closed => cases hallowed
    | landed => cases hallowed
    | flying other aboard received _ =>
      obtain rfl := List.mem_singleton.mp hallowed
      have hnext : Flights.next ⟨flight + 1, some flight, [flight], [], aboard, received⟩
          (.land flight outcome) =
          ⟨flight + 1, some flight, [], [(flight, outcome)], aboard, received⟩ := by
        simp [Flights.next, Flights.land]
      exact hnext ▸ .land flight outcome aboard received
  | handOut flight =>
    cases h with
    | closed => cases hallowed
    | flying => cases hallowed
    | landed other outcome aboard received hall =>
      obtain rfl := List.mem_singleton.mp hallowed
      have hnobody : (aboard.filter fun a => a.2 != flight) = [] :=
        List.filter_eq_nil_iff.mpr fun a ha => by simp [hall a ha]
      have hall' : (aboard.filter fun a => a.2 == flight) = aboard :=
        List.filter_eq_self.mpr fun a ha => by simp [hall a ha]
      have hnext : Flights.next ⟨flight + 1, some flight, [], [(flight, outcome)], aboard, received⟩
          (.handOut flight) =
          ⟨flight + 1, none, [], [], [], received ++ aboard.map fun a => (a.1, outcome)⟩ := by
        simp [Flights.next, Flights.handOut, hnobody, hall']
      exact hnext ▸ .handOut flight outcome aboard received hall

theorem Phase.next {flights : Flights ο} (h : Phase flights) {event : FlightEvent ο}
    (hallowed : flights.Allows event) : Phase (flights.next event) := by
  have hmoves := h.moves hallowed
  generalize flights.next event = flights' at hmoves ⊢
  cases hmoves with
  | start started received caller => exact .flying started _ received (by simp)
  | join flight flying landed aboard received caller =>
    cases h with
    | flying _ _ _ hall =>
      exact .flying flight _ received (by simpa [or_imp, forall_and] using hall)
    | landed _ outcome _ _ hall =>
      exact .landed flight outcome _ received (by simpa [or_imp, forall_and] using hall)
  | land flight outcome aboard received =>
    cases h with
    | flying _ _ _ hall => exact .landed flight outcome aboard received hall
  | handOut flight outcome aboard received => exact .closed _ _

theorem Proper.phase {events : List (FlightEvent ο)} (h : Proper events) :
    Phase (after events) := by
  induction h with
  | nil => exact .closed 0 []
  | snoc _ hallowed ih =>
    rw [after_snoc]
    exact ih.next hallowed

/-! ## The course of every flight -/

/-- What the events so far say about flights: an open flight is one that has not been handed out,
and each ends once. -/
structure Logged (events : List (FlightEvent ο)) (flights : Flights ο) : Prop where
  ended : ∀ {flight outcome}, .land flight outcome ∈ events →
    flight < flights.started ∧ flight ∉ flights.flying
  same : ∀ {flight first second}, .land flight first ∈ events → .land flight second ∈ events →
    first = second
  landed : ∀ {flight outcome}, (flight, outcome) ∈ flights.landed → .land flight outcome ∈ events
  handedOut : ∀ {flight}, .handOut flight ∈ events → flight < flights.started
  open_iff : ∀ flight,
    flights.open? = some flight ↔ flight < flights.started ∧ .handOut flight ∉ events
  started : flights.started = create.callsOnClosed events
  landings : events.countP FlightEvent.isLanding + flights.flying.length = flights.started

theorem Logged.snoc {events : List (FlightEvent ο)} {event : FlightEvent ο}
    {flights : Flights ο} (h : Logged events (after events))
    (hmoves : Moves (after events) event flights) : Logged (events ++ [event]) flights := by
  have hcount := callsOnClosed_snoc events event
  generalize after events = before at h hmoves hcount
  obtain ⟨hended, hsame, hlanded, hhanded, hopen, hstarted, hlandings⟩ := h
  cases hmoves with
  | start started received caller =>
    constructor
    case ended =>
      intro flight outcome hland
      have hold := (hended (by simpa using hland)).1
      exact ⟨Nat.lt_succ_of_lt hold, fun hmem => Nat.ne_of_lt hold (List.mem_singleton.mp hmem)⟩
    case same => exact fun hfirst hsecond => hsame (by simpa using hfirst) (by simpa using hsecond)
    case landed => exact fun hmem => absurd hmem List.not_mem_nil
    case handedOut => exact fun hhand => Nat.lt_succ_of_lt (hhanded (by simpa using hhand))
    case open_iff =>
      intro flight
      have hnone : flight < started → .handOut flight ∈ events := fun hlt =>
        Classical.byContradiction fun hnot => nomatch (hopen flight).mpr ⟨hlt, hnot⟩
      have hnew : .handOut started ∉ events := fun hhand => Nat.lt_irrefl _ (hhanded hhand)
      simp only [Option.some.injEq, List.mem_append, List.mem_singleton, reduceCtorEq, or_false]
      grind
    case started =>
      rw [hcount, ← hstarted]
      rfl
    case landings => simpa [FlightEvent.isLanding] using hlandings
  | join flight flying landed aboard received caller =>
    constructor
    case ended => exact fun hland => hended (by simpa using hland)
    case same => exact fun hfirst hsecond => hsame (by simpa using hfirst) (by simpa using hsecond)
    case landed => exact fun hmem => by simpa using hlanded hmem
    case handedOut => exact fun hhand => hhanded (by simpa using hhand)
    case open_iff => simpa using hopen
    case started =>
      rw [hcount, ← hstarted]
      rfl
    case landings => simpa [FlightEvent.isLanding] using hlandings
  | land flight outcome aboard received =>
    have hnew : ∀ other, .land flight other ∉ events := fun other hland =>
      (hended hland).2 List.mem_cons_self
    constructor
    case ended =>
      intro other result hland
      rcases List.mem_append.mp hland with hold | hlast
      · exact ⟨(hended hold).1, List.not_mem_nil⟩
      · cases List.mem_singleton.mp hlast
        exact ⟨Nat.lt_succ_self flight, List.not_mem_nil⟩
    case same =>
      intro other first second hfirst hsecond
      simp only [List.mem_append, List.mem_singleton, FlightEvent.land.injEq] at hfirst hsecond
      grind
    case landed =>
      intro other result hmem
      cases List.mem_singleton.mp hmem
      exact List.mem_append_right events List.mem_cons_self
    case handedOut => exact fun hhand => hhanded (by simpa using hhand)
    case open_iff => simpa using hopen
    case started =>
      rw [hcount, ← hstarted]
      rfl
    case landings => simpa [FlightEvent.isLanding] using hlandings
  | handOut flight outcome aboard received =>
    constructor
    case ended => exact fun hland => hended (by simpa using hland)
    case same => exact fun hfirst hsecond => hsame (by simpa using hfirst) (by simpa using hsecond)
    case landed => exact fun hmem => absurd hmem List.not_mem_nil
    case handedOut =>
      intro other hhand
      rcases List.mem_append.mp hhand with hold | hlast
      · exact hhanded hold
      · cases List.mem_singleton.mp hlast
        exact Nat.lt_succ_self flight
    case open_iff =>
      intro other
      have hother := hopen other
      simp only [Option.some.injEq] at hother
      simp only [reduceCtorEq, List.mem_append, List.mem_singleton, FlightEvent.handOut.injEq]
      grind
    case started =>
      rw [hcount, ← hstarted]
      rfl
    case landings => simpa [FlightEvent.isLanding] using hlandings

theorem Proper.logged {events : List (FlightEvent ο)} (h : Proper events) :
    Logged events (after events) := by
  induction h with
  | nil =>
    exact ⟨nofun, nofun, nofun, nofun,
      fun flight => iff_of_false nofun fun h => Nat.not_lt_zero _ h.1, rfl, rfl⟩
  | snoc hproper hallowed ih =>
    rw [after_snoc]
    exact ih.snoc (hproper.phase.moves hallowed)

/-! ## What callers get -/

/-- A caller waits aboard the flight that was open at its call, or it got one outcome: the one that
this flight ended with. -/
structure Delivered (events : List (FlightEvent ο)) (flights : Flights ο) : Prop where
  nodup : (flights.aboard.map Prod.fst).Nodup
  patient : ∀ a ∈ flights.aboard, flights.outcomesOf a.1 = []
  waiting : ∀ {caller flight}, Joins events caller flight → .handOut flight ∉ events →
    (caller, flight) ∈ flights.aboard
  served : ∀ {caller flight}, Joins events caller flight → .handOut flight ∈ events →
    ∃ outcome, .land flight outcome ∈ events ∧ flights.outcomesOf caller = [outcome]

theorem outcomesFor_append (received more : List (Nat × ο)) (caller : Nat) :
    outcomesFor (received ++ more) caller =
      outcomesFor received caller ++ outcomesFor more caller := by
  simp only [outcomesFor, List.filter_append, List.map_append]

theorem outcomesFor_aboard_of_not_mem {aboard : List (Nat × Nat)} {caller : Nat}
    (h : caller ∉ aboard.map Prod.fst) (outcome : ο) :
    outcomesFor (aboard.map fun a => (a.1, outcome)) caller = [] := by
  unfold outcomesFor
  rw [List.map_eq_nil_iff, List.filter_eq_nil_iff]
  intro r hr
  obtain ⟨a, ha, rfl⟩ := List.mem_map.mp hr
  rw [beq_iff_eq]
  rintro rfl
  exact h (List.mem_map_of_mem ha)

theorem outcomesFor_aboard_of_mem {aboard : List (Nat × Nat)} {caller : Nat}
    (hnodup : (aboard.map Prod.fst).Nodup) (h : caller ∈ aboard.map Prod.fst) (outcome : ο) :
    outcomesFor (aboard.map fun a => (a.1, outcome)) caller = [outcome] := by
  induction aboard with
  | nil => exact absurd h List.not_mem_nil
  | cons a aboard ih =>
    rw [List.map_cons, List.nodup_cons] at hnodup
    rw [List.map_cons, ← List.singleton_append, outcomesFor_append]
    by_cases ha : a.1 = caller
    · subst ha
      rw [outcomesFor_aboard_of_not_mem hnodup.1]
      simp [outcomesFor]
    · rw [List.map_cons, List.mem_cons] at h
      rw [ih hnodup.2 (h.resolve_left (Ne.symm ha))]
      simp [outcomesFor, ha]

theorem Delivered.snoc {events : List (FlightEvent ο)} {event : FlightEvent ο}
    {flights : Flights ο} (h : Delivered events (after events))
    (hlogged : Logged events (after events))
    (hallowed : (after events).Allows event) (hmoves : Moves (after events) event flights)
    (hafter : after (events ++ [event]) = flights) : Delivered (events ++ [event]) flights := by
  have hjoins {caller flight : Nat} (hjoin : Joins (events ++ [event]) caller flight) :
      Joins events caller flight ∨ event = .call caller ∧ flights.open? = some flight :=
    hafter ▸ joins_snoc hjoin
  generalize after events = before at h hlogged hallowed hmoves
  cases hmoves with
  | start started received caller =>
    refine ⟨List.pairwise_singleton _ _, ?_, ?_, ?_⟩
    · intro a ha
      obtain rfl := List.mem_singleton.mp ha
      exact hallowed.2
    · intro other flight hjoin hnot
      rcases hjoins hjoin with hold | ⟨heq, hopen⟩
      · exact absurd (h.waiting hold (by simpa using hnot)) List.not_mem_nil
      · cases heq
        cases hopen
        exact List.mem_cons_self
    · intro other flight hjoin hhand
      have hhand : .handOut flight ∈ events := by simpa using hhand
      rcases hjoins hjoin with hold | ⟨heq, hopen⟩
      · obtain ⟨outcome, hland, hgot⟩ := h.served hold hhand
        exact ⟨outcome, List.mem_append_left _ hland, hgot⟩
      · cases hopen
        exact absurd (hlogged.handedOut hhand) (Nat.lt_irrefl _)
  | join flight flying landed aboard received caller =>
    constructor
    case nodup =>
      rw [List.map_append, List.nodup_append]
      refine ⟨h.nodup, List.pairwise_singleton _ _, fun a ha b hb => ?_⟩
      rw [List.mem_singleton.mp hb]
      rintro rfl
      exact hallowed.1 ha
    case patient =>
      intro a ha
      rcases List.mem_append.mp ha with hold | hlast
      · exact h.patient a hold
      · obtain rfl := List.mem_singleton.mp hlast
        exact hallowed.2
    case waiting =>
      intro other joined hjoin hnot
      rcases hjoins hjoin with hold | ⟨heq, hopen⟩
      · exact List.mem_append_left _ (h.waiting hold (by simpa using hnot))
      · cases heq
        cases hopen
        exact List.mem_append_right _ List.mem_cons_self
    case served =>
      intro other joined hjoin hhand
      have hhand : .handOut joined ∈ events := by simpa using hhand
      rcases hjoins hjoin with hold | ⟨heq, hopen⟩
      · obtain ⟨outcome, hland, hgot⟩ := h.served hold hhand
        exact ⟨outcome, List.mem_append_left _ hland, hgot⟩
      · exact absurd hhand ((hlogged.open_iff joined).mp hopen).2
  | land flight outcome aboard received =>
    refine ⟨h.nodup, h.patient, ?_, ?_⟩
    · intro caller joined hjoin hnot
      rcases hjoins hjoin with hold | ⟨heq, -⟩
      · exact h.waiting hold (by simpa using hnot)
      · cases heq
    · intro caller joined hjoin hhand
      rcases hjoins hjoin with hold | ⟨heq, -⟩
      · obtain ⟨result, hland, hgot⟩ := h.served hold (by simpa using hhand)
        exact ⟨result, List.mem_append_left _ hland, hgot⟩
      · cases heq
  | handOut flight outcome aboard received hall =>
    have hold {caller joined : Nat} (hjoin : Joins (events ++ [.handOut flight]) caller joined) :
        Joins events caller joined :=
      (hjoins hjoin).resolve_right fun hnew => nomatch hnew.1
    refine ⟨List.nodup_nil, nofun, ?_, ?_⟩
    · intro caller joined hjoin hnot
      rw [List.mem_append, not_or, List.mem_singleton] at hnot
      have haboard := h.waiting (hold hjoin) hnot.1
      exact absurd (congrArg FlightEvent.handOut (hall _ haboard)) hnot.2
    · intro caller joined hjoin hhand
      change ∃ result, _ ∧ outcomesFor (received ++ _) caller = [result]
      rw [outcomesFor_append]
      by_cases hearlier : .handOut joined ∈ events
      · obtain ⟨result, hland, hgot⟩ := h.served (hold hjoin) hearlier
        have hgot : outcomesFor received caller = [result] := hgot
        refine ⟨result, List.mem_append_left _ hland, ?_⟩
        -- Who was served is not aboard any more: those aboard have got nothing yet.
        have hleft : caller ∉ aboard.map Prod.fst := fun hmem => by
          obtain ⟨a, ha, rfl⟩ := List.mem_map.mp hmem
          have hnone : outcomesFor received a.1 = [] := h.patient a ha
          rw [hgot] at hnone
          cases hnone
        rw [hgot, outcomesFor_aboard_of_not_mem hleft]
        rfl
      · have haboard := h.waiting (hold hjoin) hearlier
        obtain rfl : joined = flight := hall _ haboard
        have hnone : outcomesFor received caller = [] := h.patient _ haboard
        refine ⟨outcome, List.mem_append_left _ (hlogged.landed List.mem_cons_self), ?_⟩
        rw [hnone, outcomesFor_aboard_of_mem h.nodup (List.mem_map_of_mem haboard)]
        rfl

theorem Proper.delivered {events : List (FlightEvent ο)} (h : Proper events) :
    Delivered events (after events) := by
  induction h with
  | nil =>
    exact ⟨List.nodup_nil, nofun, fun hjoin => absurd hjoin.mem List.not_mem_nil,
      fun hjoin => absurd hjoin.mem List.not_mem_nil⟩
  | @snoc events event hproper hallowed ih =>
    have hdelivered := ih.snoc hproper.logged hallowed (hproper.phase.moves hallowed)
      (after_snoc events event)
    rwa [← after_snoc] at hdelivered

/-! ## Runs -/

theorem open?_call (flights : Flights ο) (caller : Nat) :
    ∃ flight, (flights.call caller).2.open? = some flight := by
  unfold call
  split
  · exact ⟨_, ‹_›⟩
  · exact ⟨flights.started, rfl⟩

theorem exists_joins {events : List (FlightEvent ο)} {caller : Nat} (h : .call caller ∈ events) :
    ∃ flight, Joins events caller flight := by
  obtain ⟨before, later, rfl⟩ := List.append_of_mem h
  obtain ⟨flight, hopen⟩ := open?_call (after before) caller
  exact ⟨flight, before, later, rfl, after_snoc before (.call caller) ▸ hopen⟩

theorem Phase.length_flying_le {flights : Flights ο} (h : Phase flights) :
    flights.flying.length ≤ 1 := by
  cases h with
  | closed => exact Nat.zero_le 1
  | flying => exact Nat.le_refl 1
  | landed => exact Nat.zero_le 1

/-- The open flight can go on: it is under way, or it can be handed out. -/
theorem Phase.allows_of_open {flights : Flights ο} (h : Phase flights) {flight : Nat}
    (hopen : flights.open? = some flight) :
    (∀ outcome, flights.Allows (.land flight outcome)) ∨ flights.Allows (.handOut flight) := by
  cases h with
  | closed => cases hopen
  | flying other aboard received _ =>
    cases hopen
    exact .inl fun _ => List.mem_cons_self
  | landed other outcome aboard received _ =>
    cases hopen
    exact .inr List.mem_cons_self

/-- In any order of events one flight at most is under way, and a flight is open exactly from its
start until it is handed out; a flight is started for every call that finds none open, and flown
once. Every caller joins the flight that is open at its call, and gets one outcome, that of this
flight, when this flight is handed out; until then the flight can go on. -/
theorem single_flight {events : List (FlightEvent ο)} (h : Proper events) :
    let flights := after events
    flights.flying.length ≤ 1 ∧
      (∀ flight, flights.open? = some flight ↔
        flight < flights.started ∧ .handOut flight ∉ events) ∧
      flights.started = create.callsOnClosed events ∧
      events.countP FlightEvent.isLanding + flights.flying.length = create.callsOnClosed events ∧
      (∀ caller, .call caller ∈ events → ∃ flight, Joins events caller flight) ∧
      (∀ caller flight, Joins events caller flight →
        (.handOut flight ∈ events →
          ∃ outcome, (∀ other, .land flight other ∈ events ↔ other = outcome) ∧
            flights.outcomesOf caller = [outcome]) ∧
        (.handOut flight ∉ events →
          flights.outcomesOf caller = [] ∧
            ((∀ outcome, flights.Allows (.land flight outcome)) ∨
              flights.Allows (.handOut flight)))) ∧
      ∀ first second flight, Joins events first flight → Joins events second flight →
        flights.outcomesOf first = flights.outcomesOf second := by
  intro flights
  have hphase : Phase flights := h.phase
  have hlogged : Logged events flights := h.logged
  have hdelivered : Delivered events flights := h.delivered
  have hwaiting {caller flight : Nat} (hjoin : Joins events caller flight)
      (hnot : .handOut flight ∉ events) :
      flights.open? = some flight ∧ flights.outcomesOf caller = [] := by
    have haboard := hdelivered.waiting hjoin hnot
    refine ⟨?_, hdelivered.patient _ haboard⟩
    generalize flights = flights at hphase haboard
    cases hphase with
    | closed => exact absurd haboard List.not_mem_nil
    | flying other aboard received hall => exact congrArg some (hall _ haboard).symm
    | landed other outcome aboard received hall => exact congrArg some (hall _ haboard).symm
  refine ⟨hphase.length_flying_le, hlogged.open_iff, hlogged.started,
    hlogged.landings.trans hlogged.started, fun _ => exists_joins, ?_, ?_⟩
  · intro caller flight hjoin
    refine ⟨fun hhand => ?_, fun hnot => ?_⟩
    · obtain ⟨outcome, hland, hgot⟩ := hdelivered.served hjoin hhand
      exact ⟨outcome, fun other => ⟨fun hother => hlogged.same hother hland, (· ▸ hland)⟩, hgot⟩
    · obtain ⟨hopen, hnone⟩ := hwaiting hjoin hnot
      exact ⟨hnone, hphase.allows_of_open hopen⟩
  · intro first second flight hfirst hsecond
    by_cases hhand : .handOut flight ∈ events
    · obtain ⟨outcome, hland, hgot⟩ := hdelivered.served hfirst hhand
      obtain ⟨other, hother, hgot'⟩ := hdelivered.served hsecond hhand
      rw [hgot, hgot', hlogged.same hland hother]
    · rw [(hwaiting hfirst hhand).2, (hwaiting hsecond hhand).2]

end Flights

namespace Sample

/-- Two callers share a flight with a third that comes after its end; a fourth finds none open. -/
def fourCalls : List (FlightEvent RefreshOutcome) :=
  [.call 1, .call 2, .land 0 (.ok ⟨2, 1⟩), .call 3, .handOut 0, .call 4]

end Sample

theorem third_caller_joins_landed_flight :
    Flights.Proper Sample.fourCalls ∧
      Flights.Joins Sample.fourCalls 3 0 ∧ .handOut 0 ∈ Sample.fourCalls ∧
      (Flights.after Sample.fourCalls).outcomesOf 3 = [.ok ⟨2, 1⟩] ∧
      (Flights.after Sample.fourCalls).outcomesOf 3 =
        (Flights.after Sample.fourCalls).outcomesOf 1 ∧
      (Flights.after Sample.fourCalls).started = 2 := by
  have hproper : Flights.Proper Sample.fourCalls := by
    have hfirst := @Flights.Proper.snoc RefreshOutcome [] (.call 1) .nil ⟨by decide, rfl⟩
    have hsecond := @Flights.Proper.snoc _ _ (.call 2) hfirst ⟨by decide, rfl⟩
    have hland := @Flights.Proper.snoc _ _ (.land 0 (.ok ⟨2, 1⟩)) hsecond List.mem_cons_self
    have hthird := @Flights.Proper.snoc _ _ (.call 3) hland ⟨by decide, rfl⟩
    have hhand := @Flights.Proper.snoc _ _ (.handOut 0) hthird List.mem_cons_self
    exact @Flights.Proper.snoc _ _ (.call 4) hhand ⟨by decide, rfl⟩
  obtain ⟨-, -, hstarted, -, -, hcallers, hshared⟩ := Flights.single_flight hproper
  have hthird : Flights.Joins Sample.fourCalls 3 0 :=
    ⟨[.call 1, .call 2, .land 0 (.ok ⟨2, 1⟩)], [.handOut 0, .call 4], rfl, rfl⟩
  have hfirst : Flights.Joins Sample.fourCalls 1 0 := ⟨[], _, rfl, rfl⟩
  have hhand : .handOut 0 ∈ Sample.fourCalls := by simp [Sample.fourCalls]
  obtain ⟨outcome, hland, hgot⟩ := (hcallers 3 0 hthird).1 hhand
  have houtcome : .ok ⟨2, 1⟩ = outcome := (hland _).mp (by simp [Sample.fourCalls])
  exact ⟨hproper, hthird, hhand, houtcome ▸ hgot, hshared 3 1 0 hthird hfirst, hstarted⟩

end EventGate
