import EventGate.Pipeline.Stage

/-! # Runs of stages

A sound stage stops an event exactly by dropping it, and lets a dropped event alone. A run of such
stages is the chain of what each of them does, and can be cut at any point.
-/

namespace EventGate.Stage

variable {σ : Type}

/-- The pass as a stage leaves it, whether or not the event goes on. -/
def effect (around : Surroundings) (stage : Stage σ) (pass : Pass σ) : Pass σ :=
  (stage.run around pass).2

/-- A stage that stops an event exactly by dropping it, and lets a dropped event alone. -/
structure Sound (stage : Stage σ) : Prop where
  idle : ∀ around pass, pass.context.dropped = true → stage.run around pass = (false, pass)
  stops : ∀ around pass, (stage.run around pass).1 = !(stage.effect around pass).context.dropped

/-- The stages that run on an event: all up to the first one that stops it. -/
def ran (around : Surroundings) : List (Stage σ) → Pass σ → List (Stage σ)
  | [], _ => []
  | stage :: rest, pass =>
    match stage.run around pass with
    | (true, after) => stage :: ran around rest after
    | (false, _) => [stage]

/-! ## One stage -/

theorem Sound.effect_of_dropped {stage : Stage σ} (hs : stage.Sound) {around : Surroundings}
    {pass : Pass σ} (hd : pass.context.dropped = true) : stage.effect around pass = pass := by
  rw [effect, hs.idle around pass hd]

theorem Sound.run_eq {stage : Stage σ} (hs : stage.Sound) (around : Surroundings)
    (pass : Pass σ) :
    stage.run around pass =
      (!(stage.effect around pass).context.dropped, stage.effect around pass) :=
  Prod.ext (hs.stops around pass) rfl

/-! ## Composition -/

theorem runAll_of_dropped {around : Surroundings} {stages : List (Stage σ)} {pass : Pass σ}
    (hs : ∀ stage ∈ stages, stage.Sound) (hd : pass.context.dropped = true) :
    runAll around stages pass = pass := by
  cases stages with
  | nil => rfl
  | cons stage rest =>
    have hrun := (hs stage List.mem_cons_self).idle around pass hd
    simp [runAll, hrun]

theorem runAll_cons {around : Surroundings} {stage : Stage σ} {rest : List (Stage σ)}
    (hs : ∀ s ∈ stage :: rest, s.Sound) (pass : Pass σ) :
    runAll around (stage :: rest) pass = runAll around rest (stage.effect around pass) := by
  have hrun := (hs stage List.mem_cons_self).run_eq around pass
  have hrest : ∀ s ∈ rest, s.Sound := fun s hm => hs s (List.mem_cons_of_mem stage hm)
  cases hd : (stage.effect around pass).context.dropped with
  | false => simp [runAll, hrun, hd]
  | true =>
    rw [runAll_of_dropped hrest hd]
    simp [runAll, hrun, hd]

theorem runAll_append {around : Surroundings} {first second : List (Stage σ)}
    (hs : ∀ s ∈ first ++ second, s.Sound) (pass : Pass σ) :
    runAll around (first ++ second) pass = runAll around second (runAll around first pass) := by
  induction first generalizing pass with
  | nil => rfl
  | cons stage rest ih =>
    have htail : ∀ s ∈ rest ++ second, s.Sound := fun s hm => hs s (List.mem_cons_of_mem stage hm)
    have hfirst : ∀ s ∈ stage :: rest, s.Sound :=
      fun s hm => hs s (List.mem_append_left second hm)
    calc
      runAll around (stage :: (rest ++ second)) pass =
          runAll around (rest ++ second) (stage.effect around pass) := runAll_cons hs pass
      _ = runAll around second (runAll around rest (stage.effect around pass)) := ih htail _
      _ = runAll around second (runAll around (stage :: rest) pass) := by
        rw [runAll_cons hfirst]

theorem runAll_flatMap {ι : Type} {around : Surroundings} {places : List ι}
    {group : ι → List (Stage σ)} (hs : ∀ q ∈ places, ∀ s ∈ group q, s.Sound) (pass : Pass σ) :
    runAll around (places.flatMap group) pass =
      places.foldl (fun pass q => runAll around (group q) pass) pass := by
  induction places generalizing pass with
  | nil => rfl
  | cons q rest ih =>
    have hall : ∀ s ∈ group q ++ rest.flatMap group, s.Sound := by
      intro s hm
      rcases List.mem_append.mp hm with hm | hm
      · exact hs q List.mem_cons_self s hm
      · obtain ⟨r, hr, hsr⟩ := List.mem_flatMap.mp hm
        exact hs r (List.mem_cons_of_mem q hr) s hsr
    have hrest : ∀ r ∈ rest, ∀ s ∈ group r, s.Sound :=
      fun r hr => hs r (List.mem_cons_of_mem q hr)
    rw [List.flatMap_cons, runAll_append hall, List.foldl_cons, ih hrest]

/-! ## The stages that run -/

theorem ran_sublist (around : Surroundings) (stages : List (Stage σ)) (pass : Pass σ) :
    (ran around stages pass).Sublist stages := by
  induction stages generalizing pass with
  | nil => exact List.Sublist.refl []
  | cons stage rest ih =>
    unfold ran
    split
    · exact (ih _).cons_cons stage
    · exact (List.nil_sublist rest).cons_cons stage

/-- What becomes of an event is the work of the stages that run on it. -/
theorem runAll_eq_foldl_ran (around : Surroundings) (stages : List (Stage σ)) (pass : Pass σ) :
    runAll around stages pass =
      (ran around stages pass).foldl (fun pass stage => stage.effect around pass) pass := by
  induction stages generalizing pass with
  | nil => rfl
  | cons stage rest ih =>
    unfold runAll ran effect
    cases hrun : stage.run around pass with
    | mk goesOn after =>
      cases goesOn with
      | true =>
        simp only [List.foldl_cons, hrun]
        exact ih after
      | false => simp [hrun]

theorem ran_append_of_dropped {around : Surroundings} {first second : List (Stage σ)}
    {pass : Pass σ} (hs : ∀ s ∈ first, s.Sound) (hstart : pass.context.dropped = false)
    (hend : (runAll around first pass).context.dropped = true) :
    ran around (first ++ second) pass = ran around first pass := by
  induction first generalizing pass with
  | nil => simp [runAll, hstart] at hend
  | cons stage rest ih =>
    have hrun := (hs stage List.mem_cons_self).run_eq around pass
    have hrest : ∀ s ∈ rest, s.Sound := fun s hm => hs s (List.mem_cons_of_mem stage hm)
    rw [runAll_cons hs] at hend
    cases hd : (stage.effect around pass).context.dropped with
    | false => simp [ran, hrun, hd, ih hrest hd hend]
    | true => simp [ran, hrun, hd]

/-! ## Order -/

def isAt (place : Priority) (stage : Stage σ) : Bool :=
  decide (stage.priority = place)

def Ordered (stages : List (Stage σ)) : Prop :=
  stages.Pairwise fun a b => before a b = true

theorem before_iff (a b : Stage σ) :
    before a b = true ↔ a.priority.value ≤ b.priority.value :=
  decide_eq_true_iff

theorem before_trans (a b c : Stage σ) (hab : before a b = true) (hbc : before b c = true) :
    before a c = true := by
  rw [before_iff] at *
  exact Nat.le_trans hab hbc

theorem before_total (a b : Stage σ) : (before a b || before b a) = true := by
  rw [Bool.or_eq_true, before_iff, before_iff]
  exact Nat.le_total _ _

theorem ordered_sort (stages : List (Stage σ)) : Ordered (sort stages) :=
  List.pairwise_mergeSort before_trans before_total stages

theorem mem_sort {stages : List (Stage σ)} {stage : Stage σ} :
    stage ∈ sort stages ↔ stage ∈ stages :=
  List.mem_mergeSort

theorem merge_eq_merge (left right : List (Stage σ)) :
    merge left right = List.merge left right before := by
  induction left, right using merge.induct with
  | case1 right => simp [merge]
  | case2 left h => cases left <;> simp [merge]
  | case3 a left b right h ih => simp [merge, h, ih]
  | case4 a left b right h ih => simp [merge, h, ih]

theorem mem_merge {left right : List (Stage σ)} {stage : Stage σ} :
    stage ∈ merge left right ↔ stage ∈ left ∨ stage ∈ right := by
  rw [merge_eq_merge, List.mem_merge]

theorem Ordered.merge {left right : List (Stage σ)} (hl : Ordered left) (hr : Ordered right) :
    Ordered (Stage.merge left right) := by
  rw [merge_eq_merge]
  exact List.pairwise_merge before_trans before_total left right hl hr

theorem filter_isAt_merge {left right : List (Stage σ)} (hl : Ordered left) (place : Priority) :
    (Stage.merge left right).filter (isAt place) =
      left.filter (isAt place) ++ right.filter (isAt place) := by
  induction left, right using merge.induct with
  | case1 right => simp [Stage.merge]
  | case2 left h => cases left <;> simp [Stage.merge]
  | case3 a left b right h ih =>
    have ih := ih (List.Pairwise.of_cons hl)
    simp only [Stage.merge, if_pos h, List.filter_cons, ih]
    split <;> rfl
  | case4 a left b right h ih =>
    have ih := ih hl
    rw [Stage.merge, if_neg h, List.filter_cons, ih]
    by_cases hb : isAt place b = true
    · -- What is left of the first list comes behind `b`, so none of it has the place of `b`.
      have hnone : (a :: left).filter (isAt place) = [] := by
        rw [List.filter_eq_nil_iff]
        intro s hs hat
        have has : before a s = true := by
          rcases List.mem_cons.mp hs with rfl | hs
          · exact (before_iff s s).2 (Nat.le_refl _)
          · exact List.rel_of_pairwise_cons hl hs
        have hsame : s.priority = b.priority :=
          (of_decide_eq_true hat).trans (of_decide_eq_true hb).symm
        exact h (by rwa [before_iff, hsame, ← before_iff] at has)
      rw [hnone, if_pos hb, List.filter_cons_of_pos hb]
      rfl
    · rw [if_neg hb, List.filter_cons_of_neg hb]

theorem Ordered.eq_below_append {stages : List (Stage σ)} (h : Ordered stages) (bound : Nat) :
    stages = stages.filter (fun s => decide (s.priority.value < bound)) ++
      stages.filter (fun s => decide (bound ≤ s.priority.value)) := by
  induction stages with
  | nil => rfl
  | cons stage rest ih =>
    have ih := ih (List.Pairwise.of_cons h)
    by_cases hlt : stage.priority.value < bound
    · rw [List.filter_cons_of_pos (by simpa using hlt),
        List.filter_cons_of_neg (by simpa using hlt), List.cons_append, ← ih]
    · have hge : bound ≤ stage.priority.value := Nat.le_of_not_lt hlt
      have hnone : rest.filter (fun s => decide (s.priority.value < bound)) = [] := by
        rw [List.filter_eq_nil_iff]
        intro s hs hat
        have hle := (before_iff stage s).1 (List.rel_of_pairwise_cons h hs)
        have hsb : s.priority.value < bound := of_decide_eq_true hat
        omega
      rw [hnone, List.nil_append] at ih
      rw [List.filter_cons_of_neg (by simpa using hge), hnone, List.nil_append,
        List.filter_cons_of_pos (by simpa using hge), ← ih]

theorem Ordered.filter {stages : List (Stage σ)} (h : Ordered stages)
    (keep : Stage σ → Bool) : Ordered (stages.filter keep) :=
  h.sublist List.filter_sublist

/-- Stages in order are those of the first place, then those of the second one, and so on. -/
theorem Ordered.eq_flatMap {stages : List (Stage σ)} (h : Ordered stages)
    (places : List Priority) (hp : places.Pairwise fun q r => q.value < r.value)
    (hmem : ∀ s ∈ stages, s.priority ∈ places) :
    stages = places.flatMap fun q => stages.filter (isAt q) := by
  induction places generalizing stages with
  | nil =>
    cases stages with
    | nil => rfl
    | cons s rest => exact absurd (hmem s List.mem_cons_self) List.not_mem_nil
  | cons q qs ih =>
    have hq : ∀ r ∈ qs, q.value < r.value := fun r hr => List.rel_of_pairwise_cons hp hr
    have hfirst : stages.filter (fun s => decide (s.priority.value < q.value + 1)) =
        stages.filter (isAt q) := by
      refine List.filter_congr fun s hs => ?_
      rcases List.mem_cons.mp (hmem s hs) with hsq | hsq
      · simp [isAt, hsq]
      · have hlt := hq _ hsq
        have hne : s.priority ≠ q := fun he => by simp [he] at hlt
        simp [isAt, hne]
        omega
    have hrest := ih (h.filter fun s => decide (q.value + 1 ≤ s.priority.value))
      (List.Pairwise.of_cons hp) (by
        intro s hs
        obtain ⟨hs, hlt⟩ := List.mem_filter.mp hs
        rcases List.mem_cons.mp (hmem s hs) with hsq | hsq
        · rw [hsq, decide_eq_true_iff] at hlt
          omega
        · exact hsq)
    have hgroup : ∀ r ∈ qs,
        (stages.filter (fun s => decide (q.value + 1 ≤ s.priority.value))).filter (isAt r) =
          stages.filter (isAt r) := by
      intro r hr
      rw [List.filter_filter]
      refine List.filter_congr fun s hs => ?_
      by_cases hsr : s.priority = r
      · have hlt := hq r hr
        simp [isAt, hsr]
        omega
      · simp [isAt, hsr]
    calc
      stages = stages.filter (fun s => decide (s.priority.value < q.value + 1)) ++
          stages.filter (fun s => decide (q.value + 1 ≤ s.priority.value)) :=
        h.eq_below_append (q.value + 1)
      _ = stages.filter (isAt q) ++ qs.flatMap fun r =>
          (stages.filter (fun s => decide (q.value + 1 ≤ s.priority.value))).filter (isAt r) := by
        rw [hfirst, ← hrest]
      _ = stages.filter (isAt q) ++ qs.flatMap fun r => stages.filter (isAt r) := by
        rw [List.flatMap_def, List.map_congr_left hgroup, ← List.flatMap_def]
      _ = (q :: qs).flatMap fun r => stages.filter (isAt r) := rfl

/-- Stages in order are given by those of each place. -/
theorem Ordered.ext {left right : List (Stage σ)} (hl : Ordered left) (hr : Ordered right)
    (h : ∀ place, left.filter (isAt place) = right.filter (isAt place)) : left = right :=
  calc
    left = Priority.all.flatMap fun q => left.filter (isAt q) :=
      hl.eq_flatMap Priority.all Priority.all_ordered fun s _ => s.priority.mem_all
    _ = Priority.all.flatMap fun q => right.filter (isAt q) := by simp only [h]
    _ = right :=
      (hr.eq_flatMap Priority.all Priority.all_ordered fun s _ => s.priority.mem_all).symm

/-- Sorting keeps the order of the stages of a place. -/
theorem filter_isAt_sort (stages : List (Stage σ)) (place : Priority) :
    (sort stages).filter (isAt place) = stages.filter (isAt place) := by
  have hsame : (stages.filter (isAt place)).Pairwise fun a b => before a b = true := by
    refine List.pairwise_of_forall_mem_list fun a ha b hb => ?_
    have hplace : a.priority = b.priority :=
      (of_decide_eq_true (List.mem_filter.mp ha).2).trans
        (of_decide_eq_true (List.mem_filter.mp hb).2).symm
    exact (before_iff a b).mpr (Nat.le_of_eq (congrArg Priority.value hplace))
  have hsub : (stages.filter (isAt place)).Sublist ((sort stages).filter (isAt place)) := by
    have hsorted := List.sublist_mergeSort before_trans before_total hsame List.filter_sublist
    have htwice : (stages.filter (isAt place)).filter (isAt place) =
        stages.filter (isAt place) := by
      simp [List.filter_filter]
    rw [← htwice]
    exact hsorted.filter (isAt place)
  have hlength : (stages.filter (isAt place)).length =
      ((sort stages).filter (isAt place)).length :=
    ((List.mergeSort_perm stages before).symm.filter (isAt place)).length_eq
  exact (hsub.eq_of_length hlength).symm

/-- Stages in order up to a bound are those up to a lower one, and then those of the places in
between. -/
theorem Ordered.below_eq_append {stages : List (Stage σ)} (h : Ordered stages) {a b : Nat}
    (hab : a ≤ b) :
    stages.filter (fun s => decide (s.priority.value < b)) =
      stages.filter (fun s => decide (s.priority.value < a)) ++
        (Priority.all.filter fun q => decide (a ≤ q.value) && decide (q.value < b)).flatMap
          fun q => stages.filter (isAt q) := by
  have hb : Ordered (stages.filter fun s => decide (s.priority.value < b)) := h.filter _
  have hlow : (stages.filter (fun s => decide (s.priority.value < b))).filter
      (fun s => decide (s.priority.value < a)) =
        stages.filter fun s => decide (s.priority.value < a) := by
    rw [List.filter_filter]
    refine List.filter_congr fun s _ => ?_
    by_cases hlt : s.priority.value < a
    · simp [hlt, Nat.lt_of_lt_of_le hlt hab]
    · simp [hlt]
  have hgroups := (hb.filter fun s => decide (a ≤ s.priority.value)).eq_flatMap
    (Priority.all.filter fun q => decide (a ≤ q.value) && decide (q.value < b))
    (Priority.all_ordered.sublist List.filter_sublist) (by
      intro s hs
      simp only [List.mem_filter] at hs
      simp [List.mem_filter, Priority.mem_all, of_decide_eq_true hs.1.2, of_decide_eq_true hs.2])
  have hgroup : ∀ q ∈ Priority.all.filter (fun q => decide (a ≤ q.value) && decide (q.value < b)),
      ((stages.filter fun s => decide (s.priority.value < b)).filter
        fun s => decide (a ≤ s.priority.value)).filter (isAt q) = stages.filter (isAt q) := by
    intro q hq
    simp only [List.mem_filter, Bool.and_eq_true, decide_eq_true_eq] at hq
    rw [List.filter_filter, List.filter_filter]
    refine List.filter_congr fun s _ => ?_
    by_cases hsq : s.priority = q
    · simp [isAt, hsq, hq.2.1, hq.2.2]
    · simp [isAt, hsq]
  rw [List.flatMap_def, List.map_congr_left hgroup, ← List.flatMap_def] at hgroups
  rw [← hgroups, ← hlow]
  exact hb.eq_below_append a

end EventGate.Stage
