/-
# Schedules of a pool

The collecting loop as a transition system.  `Step` is one turn of a run that waits for tasks: the
time limit has passed, or any portion of the pending tasks is handed over, the empty one included.
`Reaches` is what turns, taken one after the other, make of a run.

* `Reaches.going`, the invariant of the loop: a run that goes on has been handed succeeding tasks
  only, and its progress is `Progress.after` them;
* `Reaches.concludes`: what every run ends in, told by the tasks and the turns alone;
* `exists_run` and `Reaches.runSchedule_append`: the runs are those of `runSchedule`, so that what
  holds of every run holds of the pool under every schedule;
* `runSchedule_values_iff`: the schedules under which a run has results, told by the turns in front
  of the one at which the time limit has passed.
-/
import StoredFunctions.Proofs.Pool.Progress

namespace StoredFunctions.Pool

variable {ε α : Type} {tasks : List (Except ε α)} {p q : Progress α} {turn : Turn}
  {turns earlier later schedule : List Turn} {e : Ending ε α}

/-! ## 1. Turns -/

/-- Where a run stands. -/
inductive State (ε α : Type) where
  | going (p : Progress α)
  | ended (e : Ending ε α)

/-- **One turn** of a run that waits for tasks. -/
inductive Step (tasks : List (Except ε α)) (p : Progress α) : Turn → State ε α → Prop
  | expired : Step tasks p .expired (.ended (.timedOut p.completed))
  | collected {done : List Nat} {q : Progress α}
      (h : collect tasks (p.pending.filter done.contains) p = .ok q) :
      Step tasks p (.batch done) (.going q)
  | failed {done : List Nat} {i : Nat} {cause : ε}
      (h : collect tasks (p.pending.filter done.contains) p = .error (i, cause)) :
      Step tasks p (.batch done) (.ended (.failed i cause))

/-- **What turns make of a run.**  A turn is taken while tasks are pending, and no other. -/
inductive Reaches (tasks : List (Except ε α)) : List Turn → State ε α → Prop
  | start : Reaches tasks [] (.going (.start tasks))
  | turn {turns : List Turn} {p : Progress α} {turn : Turn} {s : State ε α}
      (h : Reaches tasks turns (.going p)) (hpending : p.pending ≠ [])
      (hstep : Step tasks p turn s) : Reaches tasks (turns ++ [turn]) s
  | finish {turns : List Turn} {p : Progress α}
      (h : Reaches tasks turns (.going p)) (hpending : p.pending = []) :
      Reaches tasks turns (.ended (.results (p.results.filterMap id)))

/-- The positions that turns hand over. -/
def handed (turns : List Turn) : List Nat :=
  turns.flatMap fun
    | .expired => []
    | .batch done => done

@[simp] theorem handed_nil : handed [] = [] := rfl

@[simp] theorem handed_concat_batch {done : List Nat} :
    handed (turns ++ [.batch done]) = handed turns ++ done := by
  simp [handed]

/-! ## 2. What one turn does -/

/-- **A turn of a run that has not failed**: which of the three things happens is settled by the
tasks that are handed over. -/
theorem Step.cases_after {seen : List Nat} {s : State ε α} (hseen : ∀ i ∈ seen, ¬ Fails tasks i)
    (h : Step tasks (Progress.after tasks seen) turn s) :
    (turn = .expired ∧
        s = .ended (.timedOut ((List.range tasks.length).countP (· ∈ seen)))) ∨
      (∃ done, turn = .batch done ∧ (∀ i ∈ done, ¬ Fails tasks i) ∧
        s = .going (Progress.after tasks (seen ++ done))) ∨
      ∃ done i cause, turn = .batch done ∧ FirstFailure tasks done i cause ∧
        s = .ended (.failed i cause) := by
  cases h with
  | expired => exact Or.inl ⟨rfl, rfl⟩
  | @collected done q h =>
    by_cases hfails : ∃ i ∈ done, Fails tasks i
    · obtain ⟨i, cause, hfirst⟩ := exists_firstFailure hfails
      have herror := collect_of_failing hseen hfirst
      exact absurd (h.symm.trans herror) (by simp)
    · have hdone : ∀ i ∈ done, ¬ Fails tasks i := fun i hi hf => hfails ⟨i, hi, hf⟩
      obtain rfl : q = Progress.after tasks (seen ++ done) :=
        Except.ok.inj (h.symm.trans (collect_of_succeeding hdone))
      exact Or.inr (Or.inl ⟨done, rfl, hdone, rfl⟩)
  | @failed done i cause h =>
    by_cases hfails : ∃ i ∈ done, Fails tasks i
    · obtain ⟨j, cause', hfirst⟩ := exists_firstFailure hfails
      have hsame := Except.error.inj (h.symm.trans (collect_of_failing hseen hfirst))
      obtain ⟨rfl, rfl⟩ := Prod.mk.inj hsame
      exact Or.inr (Or.inr ⟨done, i, cause, rfl, hfirst, rfl⟩)
    · have hdone : ∀ i ∈ done, ¬ Fails tasks i := fun i hi hf => hfails ⟨i, hi, hf⟩
      exact absurd (h.symm.trans (collect_of_succeeding hdone)) (by simp)

/-! ## 3. What a run has come to -/

/-- **The invariant of the loop.** -/
theorem Reaches.going {s : State ε α} (h : Reaches tasks turns s) :
    ∀ {p}, s = .going p → .expired ∉ turns ∧ (∀ i ∈ handed turns, ¬ Fails tasks i) ∧
      p = Progress.after tasks (handed turns) := by
  induction h with
  | start =>
    rintro p ⟨⟩
    exact ⟨by simp, by simp, Progress.after_nil.symm⟩
  | @turn turns p turn s _ _ hstep ih =>
    rintro q rfl
    obtain ⟨hexpired, hsucceeds, rfl⟩ := ih rfl
    rcases hstep.cases_after hsucceeds with ⟨-, hs⟩ | ⟨done, rfl, hdone, hs⟩ | ⟨_, _, _, -, -, hs⟩
    · exact absurd hs (by simp)
    · refine ⟨by simp [hexpired], ?_, by rw [handed_concat_batch]; exact State.going.inj hs⟩
      intro i hi
      rw [handed_concat_batch, List.mem_append] at hi
      exact hi.elim (hsucceeds i) (hdone i)
    · exact absurd hs (by simp)
  | finish _ _ _ =>
    rintro p ⟨⟩

/-- A run that was handed all tasks and goes on has their values. -/
theorem Reaches.eq_map_results (h : Reaches tasks turns (.going p))
    (hall : ∀ i < tasks.length, i ∈ handed turns) :
    tasks = (p.results.filterMap id).map .ok := by
  obtain ⟨-, hsucceeds, rfl⟩ := h.going rfl
  obtain ⟨values, rfl⟩ := exists_values fun i hi => hsucceeds i (hall i hi.lt_length) hi
  rw [results_after fun i hi => hall i (by simpa using hi)]

theorem Reaches.pending_eq_nil (h : Reaches tasks turns (.going p))
    (hall : ∀ i < tasks.length, i ∈ handed turns) : p.pending = [] := by
  obtain ⟨-, -, rfl⟩ := h.going rfl
  exact pending_eq_nil_iff.mpr hall

/-- How a run has to end that took these turns. -/
inductive Concludes (tasks : List (Except ε α)) : List Turn → Ending ε α → Prop
  /-- No task fails, and all were handed over. -/
  | results {turns : List Turn} {values : List α} (hexpired : .expired ∉ turns)
      (htasks : tasks = values.map .ok) (hall : ∀ i < tasks.length, i ∈ handed turns) :
      Concludes tasks turns (.results values)
  /-- The last turn is the first to hand over a task that fails. -/
  | failed {earlier : List Turn} {done : List Nat} {i : Nat} {cause : ε}
      (hexpired : .expired ∉ earlier) (hsucceeds : ∀ k ∈ handed earlier, ¬ Fails tasks k)
      (hfirst : FirstFailure tasks done i cause) :
      Concludes tasks (earlier ++ [.batch done]) (.failed i cause)
  /-- The time limit has passed while a task was pending. -/
  | timedOut {earlier : List Turn} {completed : Nat} (hexpired : .expired ∉ earlier)
      (hsucceeds : ∀ k ∈ handed earlier, ¬ Fails tasks k)
      (hcompleted : completed = (List.range tasks.length).countP (· ∈ handed earlier))
      (hmissing : completed < tasks.length) :
      Concludes tasks (earlier ++ [.expired]) (.timedOut completed)

/-- **How every run ends.** -/
theorem Reaches.concludes (h : Reaches tasks turns (.ended e)) : Concludes tasks turns e := by
  generalize hs : State.ended e = s at h
  cases h with
  | start => exact absurd hs (by simp)
  | turn h hpending hstep =>
    obtain ⟨hexpired, hsucceeds, rfl⟩ := h.going rfl
    rcases hstep.cases_after hsucceeds with
      ⟨rfl, rfl⟩ | ⟨_, -, -, rfl⟩ | ⟨_, _, _, rfl, hfirst, rfl⟩
    · obtain rfl := State.ended.inj hs
      obtain ⟨i, hi⟩ := List.exists_mem_of_ne_nil _ hpending
      obtain ⟨hlt, hnew⟩ := mem_pending.mp hi
      exact .timedOut hexpired hsucceeds rfl (countP_lt hlt hnew)
    · exact absurd hs (by simp)
    · obtain rfl := State.ended.inj hs
      exact .failed hexpired hsucceeds hfirst
  | finish h hpending =>
    obtain rfl := State.ended.inj hs
    obtain ⟨hexpired, -, rfl⟩ := h.going rfl
    have hall := pending_eq_nil_iff.mp hpending
    exact .results hexpired (h.eq_map_results hall) hall

/-- Without a time limit that has passed, a run ends with the values of all tasks, or with the
failure of one. -/
theorem Concludes.cases_unexpired (h : Concludes tasks turns e) (hexpired : .expired ∉ turns) :
    (∃ values, tasks = values.map .ok ∧ e = .results values) ∨
      ∃ i cause, tasks[i]? = some (.error cause) ∧ e = .failed i cause := by
  cases h with
  | results _ htasks _ => exact Or.inl ⟨_, htasks, rfl⟩
  | failed _ _ hfirst => exact Or.inr ⟨_, _, hfirst.fails, rfl⟩
  | timedOut _ _ _ _ => exact absurd hexpired (by simp)

/-! ## 4. Schedules -/

/-- How a run ends that stands here and goes on under a schedule. -/
def State.ending (tasks : List (Except ε α)) (later : List Turn) : State ε α → Ending ε α
  | going p => runTurns tasks later p
  | ended e => e

/-- A run that waits for tasks can take any turn. -/
theorem exists_step : ∃ s, Step tasks p turn s := by
  cases turn with
  | expired => exact ⟨_, .expired⟩
  | batch done =>
    cases h : collect tasks (p.pending.filter done.contains) p with
    | ok q => exact ⟨_, .collected h⟩
    | error failure => exact ⟨_, .failed h⟩

theorem Step.runTurns_cons {s : State ε α} (hpending : p.pending ≠ []) (h : Step tasks p turn s) :
    runTurns tasks (turn :: later) p = s.ending tasks later := by
  cases h with
  | expired => simp [State.ending, runTurns, hpending]
  | collected h => simp [State.ending, runTurns, hpending, h]
  | failed h => simp [State.ending, runTurns, hpending, h]

theorem runTurns_of_finished (hpending : p.pending = []) :
    runTurns tasks later p = .results (p.results.filterMap id) := by
  cases later with
  | nil => simp [runTurns, hpending, collect]
  | cons turn later => simp [runTurns, hpending]

/-- **A run's turns**, with any others behind them, are a schedule that leads to its end. -/
theorem Reaches.runSchedule_append {s : State ε α} (h : Reaches tasks turns s) :
    ∀ later, runSchedule tasks (turns ++ later) = s.ending tasks later := by
  induction h with
  | start => exact fun later => rfl
  | turn h hpending hstep ih =>
    intro later
    rw [List.append_assoc, List.singleton_append, ih]
    exact hstep.runTurns_cons hpending
  | finish h hpending ih =>
    intro later
    rw [ih]
    exact runTurns_of_finished hpending

/-- At the end of a schedule all tasks are handed over that are still pending. -/
theorem Reaches.runTurns_nil (h : Reaches tasks turns (.going p)) :
    runTurns tasks [] p = runTurns tasks [.batch (List.range tasks.length)] p := by
  by_cases hpending : p.pending = []
  · rw [runTurns_of_finished hpending, runTurns_of_finished hpending]
  have hrest : p.pending.filter (List.range tasks.length).contains = p.pending := by
    obtain ⟨-, -, rfl⟩ := h.going rfl
    refine List.filter_eq_self.mpr fun i hi => ?_
    simpa using (mem_pending.mp hi).1
  cases hcollect : collect tasks p.pending p with
  | error failure => simp [runTurns, hpending, hrest, hcollect]
  | ok q =>
    have hstep : Step tasks p (.batch (List.range tasks.length)) (.going q) :=
      .collected (hrest.symm ▸ hcollect)
    have hnone : q.pending = [] := (h.turn hpending hstep).pending_eq_nil fun i hi => by simp [hi]
    rw [hstep.runTurns_cons hpending, State.ending, runTurns_of_finished hnone, runTurns, hcollect]

/-- **Every schedule is a run**: of its first turns, or of all of them and one more that hands over
what is left. -/
theorem Reaches.exists_used :
    ∀ {schedule turns : List Turn} {p : Progress α}, Reaches tasks turns (.going p) →
      ∃ used, used <+: schedule ++ [.batch (List.range tasks.length)] ∧
        Reaches tasks (turns ++ used) (.ended (runTurns tasks schedule p))
  | schedule, _, p, h => by
    by_cases hpending : p.pending = []
    · refine ⟨[], List.nil_prefix, ?_⟩
      rw [runTurns_of_finished hpending, List.append_nil]
      exact h.finish hpending
    cases schedule with
    | nil =>
      obtain ⟨s, hstep⟩ : ∃ s, Step tasks p (.batch (List.range tasks.length)) s := exists_step
      have hturn := h.turn hpending hstep
      refine ⟨_, List.prefix_rfl, ?_⟩
      rw [List.nil_append, h.runTurns_nil, hstep.runTurns_cons hpending]
      cases s with
      | going q =>
        have hnone : q.pending = [] := hturn.pending_eq_nil fun i hi => by simp [hi]
        rw [State.ending, runTurns_of_finished hnone]
        exact hturn.finish hnone
      | ended e => exact hturn
    | cons turn schedule =>
      obtain ⟨s, hstep⟩ : ∃ s, Step tasks p turn s := exists_step
      have hturn := h.turn hpending hstep
      rw [hstep.runTurns_cons hpending]
      cases s with
      | going q =>
        obtain ⟨used, hused, hreaches⟩ := hturn.exists_used
        refine ⟨turn :: used, List.cons_prefix_cons.mpr ⟨rfl, hused⟩, ?_⟩
        rw [List.append_assoc, List.singleton_append] at hreaches
        exact hreaches
      | ended e =>
        exact ⟨[turn], List.cons_prefix_cons.mpr ⟨rfl, List.nil_prefix⟩, hturn⟩

theorem exists_run (tasks : List (Except ε α)) (schedule : List Turn) :
    ∃ turns, turns <+: schedule ++ [.batch (List.range tasks.length)] ∧
      Reaches tasks turns (.ended (runSchedule tasks schedule)) :=
  Reaches.start.exists_used

/-! ## 5. Time -/

/-- The turns of a schedule up to the one at which the time limit passes. -/
def beforeExpiry (schedule : List Turn) : List Turn := schedule.takeWhile (· != .expired)

/-- **A schedule that leaves time for so many tasks**: if the time limit passes at all, then behind
turns that hand all of them over. -/
def LeavesTime (schedule : List Turn) (total : Nat) : Prop :=
  .expired ∈ schedule → ∀ i < total, i ∈ handed (beforeExpiry schedule)

theorem handed_subset_of_prefix (h : earlier <+: later) : handed earlier ⊆ handed later := by
  obtain ⟨more, rfl⟩ := h
  simp [handed]

/-- A run whose time limit does not pass has taken none of the turns behind that one. -/
theorem prefix_beforeExpiry : ∀ {schedule turns last : List Turn},
    turns <+: schedule ++ last → .expired ∉ turns → .expired ∈ schedule →
      turns <+: beforeExpiry schedule
  | [], _, _, _, _, h => absurd h (by simp)
  | _ :: _, [], _, _, _, _ => List.nil_prefix
  | turn :: schedule, first :: turns, last, hprefix, hturns, hexpired => by
    obtain ⟨rfl, hmore⟩ := List.cons_prefix_cons.mp hprefix
    obtain ⟨hfirst, hnone⟩ := not_or.mp (List.mem_cons.not.mp hturns)
    have hmem := (List.mem_cons.mp hexpired).resolve_left hfirst
    rw [beforeExpiry, List.takeWhile_cons_of_pos (by simpa using Ne.symm hfirst)]
    exact List.cons_prefix_cons.mpr ⟨rfl, prefix_beforeExpiry hmore hnone hmem⟩

/-- A run whose time limit passes has taken all turns in front of that one. -/
theorem eq_beforeExpiry : ∀ {schedule earlier : List Turn} {done : List Nat},
    earlier ++ [.expired] <+: schedule ++ [.batch done] → .expired ∉ earlier →
      .expired ∈ schedule ∧ earlier = beforeExpiry schedule
  | [], earlier, done, hprefix, _ => by
    have hmem : Turn.expired ∈ [Turn.batch done] := hprefix.subset (by simp)
    exact absurd hmem (by simp)
  | turn :: schedule, [], _, hprefix, _ => by
    obtain ⟨rfl, -⟩ := List.cons_prefix_cons.mp hprefix
    exact ⟨by simp, by simp [beforeExpiry]⟩
  | turn :: schedule, first :: earlier, done, hprefix, hexpired => by
    obtain ⟨rfl, hmore⟩ := List.cons_prefix_cons.mp hprefix
    obtain ⟨hfirst, hnone⟩ := not_or.mp (List.mem_cons.not.mp hexpired)
    obtain ⟨hmem, heq⟩ := eq_beforeExpiry hmore hnone
    refine ⟨List.mem_cons_of_mem _ hmem, ?_⟩
    rw [beforeExpiry, List.takeWhile_cons_of_pos (by simpa using Ne.symm hfirst), heq, beforeExpiry]

/-- **Tasks of which none fails have their values exactly if the schedule leaves time for them.** -/
theorem runSchedule_values_iff (values : List α) :
    runSchedule (values.map (.ok : α → Except ε α)) schedule = .results values ↔
      LeavesTime schedule values.length := by
  obtain ⟨turns, hprefix, h⟩ := exists_run (values.map (.ok : α → Except ε α)) schedule
  have hconcludes := h.concludes
  generalize runSchedule (values.map (.ok : α → Except ε α)) schedule = e at hconcludes ⊢
  cases hconcludes with
  | results hexpired htasks hall =>
    obtain rfl := (List.map_inj_right fun _ _ => Except.ok.inj).mp htasks
    refine iff_of_true rfl fun hmem i hi => ?_
    exact handed_subset_of_prefix (prefix_beforeExpiry hprefix hexpired hmem)
      (hall i (by simpa using hi))
  | failed _ _ hfirst => exact absurd ⟨_, hfirst.fails⟩ not_fails_map_ok
  | timedOut hexpired _ hcompleted hmissing =>
    obtain ⟨hmem, rfl⟩ := eq_beforeExpiry hprefix hexpired
    refine iff_of_false (by simp) fun hleaves => ?_
    have hall : (List.range (values.map (.ok : α → Except ε α)).length).countP
        (· ∈ handed (beforeExpiry schedule)) = values.length := by
      rw [List.countP_eq_length.mpr, List.length_range, List.length_map]
      intro i hi
      simpa using hleaves hmem i (by simpa using hi)
    rw [List.length_map] at hmissing
    omega

/-! ## 6. Answers -/

/-- What a pool answers when its run ends so. -/
def Ending.answer (mode : Mode) (limit : Option Binary64) (total : Nat) :
    Ending ε α → Except (Error ε) (List α)
  | results values => .ok values
  | failed i cause => .error (.failed i mode cause)
  | timedOut completed => .error (.timedOut (limit.getD .nan) completed total)

section

variable {settings : Section} {request : Request} {found : Defaults}

theorem firstInert_computations :
    firstInert (tasks.map Task.computation) = none := by
  rw [firstInert, List.findIdx?_eq_none_iff]
  simp [Task.outcome?]

theorem filterMap_outcome_computations :
    (tasks.map Task.computation).filterMap Task.outcome? = tasks := by
  rw [List.filterMap_map]
  exact List.filterMap_some

/-- A pool answers by the end of its run; without tasks it does not even read its settings. -/
theorem runUnder_computations {turns : Option Binary64 → List Turn}
    (hfound : defaults settings request.mode = .ok found) :
    runUnder turns settings request (tasks.map .computation) =
      (runSchedule tasks (turns (request.timeout.or found.timeout))).answer found.mode
        (request.timeout.or found.timeout) tasks.length := by
  rw [runUnder, firstInert_computations, filterMap_outcome_computations, hfound]
  cases tasks with
  | nil =>
    have hrun : runSchedule ([] : List (Except ε α)) (turns (request.timeout.or found.timeout)) =
        .results [] := runTurns_of_finished rfl
    rw [hrun]
    rfl
  | cons task tasks =>
    rw [if_neg (by simp), List.length_map]
    rfl

/-- A run that has ended answers, and no later turn changes that. -/
theorem Reaches.runUnder_append (h : Reaches tasks turns (.ended e))
    (hfound : defaults settings request.mode = .ok found) (later : List Turn) :
    runUnder (fun _ => turns ++ later) settings request (tasks.map .computation) =
      e.answer found.mode (request.timeout.or found.timeout) tasks.length := by
  rw [runUnder_computations hfound, h.runSchedule_append, State.ending]

/-- A pool with tasks reads its settings before it runs any of them. -/
theorem runUnder_of_unreadable {turns : Option Binary64 → List Turn} {e : SettingError}
    (htasks : tasks ≠ []) (hsettings : defaults settings request.mode = .error e) :
    runUnder turns settings request (tasks.map .computation) = .error (.setting e) := by
  rw [runUnder, firstInert_computations, hsettings, if_neg (by simpa using htasks)]

/-- **A pool that answers with values has those of all tasks**, under every schedule. -/
theorem eq_map_of_runUnder {turns : Option Binary64 → List Turn} {values : List α}
    (h : runUnder turns settings request (tasks.map .computation) = .ok values) :
    tasks = values.map .ok := by
  cases hsettings : defaults settings request.mode with
  | error e =>
    by_cases htasks : tasks = []
    · subst htasks
      obtain rfl : [] = values := Except.ok.inj h
      rfl
    · rw [runUnder_of_unreadable htasks hsettings] at h
      exact absurd h (by simp)
  | ok found =>
    obtain ⟨taken, -, hreaches⟩ := exists_run tasks (turns (request.timeout.or found.timeout))
    have hconcludes := hreaches.concludes
    rw [runUnder_computations hsettings] at h
    generalize runSchedule tasks (turns (request.timeout.or found.timeout)) = e at h hconcludes
    cases hconcludes with
    | results _ htasks _ => rw [htasks, Except.ok.inj h]
    | failed _ _ _ => exact absurd h (by simp [Ending.answer])
    | timedOut _ _ _ _ => exact absurd h (by simp [Ending.answer])

/-- Without a time limit that passes, a pool has the values of all tasks, or the failure of one. -/
theorem runUnder_unexpired (tasks : List (Except ε α))
    (hfound : defaults settings request.mode = .ok found) (hexpired : .expired ∉ schedule) :
    (∃ values, tasks = values.map .ok ∧
        runUnder (fun _ => schedule) settings request (tasks.map .computation) = .ok values) ∨
      ∃ i cause, tasks[i]? = some (.error cause) ∧
        runUnder (fun _ => schedule) settings request (tasks.map .computation) =
          .error (.failed i found.mode cause) := by
  obtain ⟨turns, hprefix, h⟩ := exists_run tasks schedule
  have hturns : .expired ∉ turns := fun hmem => by simpa [hexpired] using hprefix.subset hmem
  rw [runUnder_computations hfound]
  rcases h.concludes.cases_unexpired hturns with ⟨values, htasks, he⟩ | ⟨i, cause, hi, he⟩
  · exact Or.inl ⟨values, htasks, by rw [he, Ending.answer]⟩
  · exact Or.inr ⟨i, cause, hi, by rw [he, Ending.answer]⟩

/-- **A pool of threads under every order of completion.**  Every schedule is a run, and of a run
the tasks and the turns say how the pool answers:

* no task fails, and the time limit does not pass: the values of all tasks, in their order;
* one fails, and the time limit does not pass: the failure of the first task, by position, of the
  first portion with one that fails, with its own cause;
* the time limit passes: the number of tasks that were handed over before, which is not all. -/
theorem runUnder_every_order (tasks : List (Except ε α))
    (hfound : defaults settings request.mode = .ok found) (hmode : found.mode = .thread) :
    let limit := request.timeout.or found.timeout
    let pool := fun schedule =>
      runUnder (fun _ => schedule) settings request (tasks.map .computation)
    (∀ schedule, ∃ turns e, turns <+: schedule ++ [.batch (List.range tasks.length)] ∧
      Reaches tasks turns (.ended e) ∧ pool schedule = pool turns) ∧
    (∀ turns p, Reaches tasks turns (.going p) → (∀ i < tasks.length, i ∈ handed turns) →
      ∃ values, tasks = values.map .ok ∧ Reaches tasks turns (.ended (.results values))) ∧
    ∀ turns e, Reaches tasks turns (.ended e) →
      (∀ later, pool (turns ++ later) = pool turns) ∧
      (.expired ∉ turns → (∀ i, ¬ Fails tasks i) →
        ∃ values, tasks = values.map .ok ∧ pool turns = .ok values) ∧
      (.expired ∉ turns → (∃ i, Fails tasks i) →
        ∃ earlier done i cause, turns = earlier ++ [.batch done] ∧
          (∀ k ∈ handed earlier, ¬ Fails tasks k) ∧ FirstFailure tasks done i cause ∧
          pool turns = .error (.failed i .thread cause)) ∧
      (∀ t, limit = some t → .expired ∈ turns →
        ∃ earlier completed, turns = earlier ++ [.expired] ∧
          completed = (List.range tasks.length).countP (· ∈ handed earlier) ∧
          completed < tasks.length ∧
          pool turns = .error (.timedOut t completed tasks.length)) := by
  intro limit pool
  have hended : ∀ {turns e}, Reaches tasks turns (.ended e) → ∀ later,
      pool (turns ++ later) = e.answer .thread limit tasks.length := by
    intro turns e h later
    rw [← hmode]
    exact h.runUnder_append hfound later
  have hpool : ∀ {turns e}, Reaches tasks turns (.ended e) →
      pool turns = e.answer .thread limit tasks.length := by
    intro turns e h
    rw [← hended h [], List.append_nil]
  refine ⟨?_, ?_, ?_⟩
  · intro schedule
    obtain ⟨turns, hprefix, h⟩ := exists_run tasks schedule
    refine ⟨turns, _, hprefix, h, ?_⟩
    rw [hpool h, ← hmode]
    exact runUnder_computations hfound
  · intro turns p h hall
    exact ⟨_, h.eq_map_results hall, h.finish (h.pending_eq_nil hall)⟩
  · intro turns e h
    refine ⟨fun later => by rw [hended h, hpool h], ?_⟩
    cases h.concludes with
    | @results _ values hexpired htasks hall =>
      have hnone : ∀ i, ¬ Fails tasks i := fun i hf => not_fails_map_ok (htasks ▸ hf)
      exact ⟨fun _ _ => ⟨values, htasks, hpool h⟩, fun _ ⟨i, hi⟩ => absurd hi (hnone i),
        fun _ _ hmem => absurd hmem hexpired⟩
    | @failed earlier done i cause hexpired hsucceeds hfirst =>
      refine ⟨fun _ hnone => absurd ⟨cause, hfirst.fails⟩ (hnone i), fun _ _ => ?_,
        fun _ _ hmem => absurd hmem (by simp [hexpired])⟩
      exact ⟨earlier, done, i, cause, rfl, hsucceeds, hfirst, hpool h⟩
    | @timedOut earlier completed hexpired hsucceeds hcompleted hmissing =>
      refine ⟨fun hmem => absurd hmem (by simp), fun hmem => absurd hmem (by simp),
        fun t ht _ => ?_⟩
      refine ⟨earlier, completed, rfl, hcompleted, hmissing, ?_⟩
      rw [hpool h, Ending.answer, ht, Option.getD_some]

/-- Four tasks, of which the second and the fourth fail and are handed over last, in the other
order. -/
theorem runUnder_late_failures :
    let tasks : List (Except Nat Nat) := [.ok 10, .error 11, .ok 12, .error 13]
    let turns : List Turn := [.batch [2], .batch [], .batch [3, 1]]
    defaults [] Request.none.mode = .ok ⟨.thread, none, none⟩ ∧ .expired ∉ turns ∧ Fails tasks 3 ∧
      Reaches tasks turns (.ended (.failed 1 11)) ∧
      ∃ earlier done i cause, turns = earlier ++ [.batch done] ∧
        (∀ k ∈ handed earlier, ¬ Fails tasks k) ∧ FirstFailure tasks done i cause ∧
        runUnder (fun _ => turns) [] Request.none (tasks.map .computation) =
          .error (.failed i .thread cause) := by
  intro tasks turns
  have hfound : defaults [] Request.none.mode = .ok ⟨.thread, none, none⟩ := by decide +kernel
  have hexpired : .expired ∉ turns := by decide
  have hfails : Fails tasks 3 := ⟨13, rfl⟩
  have hfirst : Reaches tasks [.batch [2]] (.going ⟨[none, none, some 12, none], [0, 1, 3], 1⟩) :=
    Reaches.start.turn (by decide) (.collected rfl)
  have hidle : Reaches tasks [.batch [2], .batch []]
      (.going ⟨[none, none, some 12, none], [0, 1, 3], 1⟩) :=
    hfirst.turn (by decide) (.collected rfl)
  have hreaches : Reaches tasks turns (.ended (.failed 1 11)) :=
    hidle.turn (by decide) (.failed rfl)
  have hpool := runUnder_every_order tasks hfound rfl
  exact ⟨hfound, hexpired, hfails, hreaches,
    (hpool.2.2 turns _ hreaches).2.2.1 hexpired ⟨3, hfails⟩⟩

end

end StoredFunctions.Pool
