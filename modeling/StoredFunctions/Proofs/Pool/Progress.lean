/-
# Progress of a pool

What the collecting loop knows is settled by the tasks that it has been handed so far, in whatever
order and in whatever portions: `Progress.after tasks seen` has the results of the tasks in `seen`,
the positions of the others, and their number.  Every progress that a run makes has this form.

* `collect_of_succeeding`: a portion in which no task fails adds its tasks to those seen;
* `collect_of_failing`: a portion in which one does ends the run, with the first of those that
  fail by position, whatever order the portion was handed over in.
-/
import Mathlib.Data.Nat.Find
import StoredFunctions.Pool.Run

namespace StoredFunctions.Pool

variable {ε α : Type} {tasks : List (Except ε α)} {seen done : List Nat} {i : Nat} {v : α}
  {cause : ε}

/-! ## 1. Tasks that fail -/

/-- The task at a position fails. -/
def Fails (tasks : List (Except ε α)) (i : Nat) : Prop := ∃ cause, tasks[i]? = some (.error cause)

/-- Of the tasks in `done` that fail, the one at `i` has the first position. -/
structure FirstFailure (tasks : List (Except ε α)) (done : List Nat) (i : Nat) (cause : ε) :
    Prop where
  mem : i ∈ done
  fails : tasks[i]? = some (.error cause)
  least : ∀ j ∈ done, Fails tasks j → i ≤ j

theorem Fails.lt_length (h : Fails tasks i) : i < tasks.length := by
  obtain ⟨cause, h⟩ := h
  exact (List.getElem?_eq_some_iff.mp h).1

theorem exists_firstFailure (h : ∃ i ∈ done, Fails tasks i) :
    ∃ i cause, FirstFailure tasks done i cause := by
  classical
  obtain ⟨hmem, cause, hfails⟩ := Nat.find_spec h
  exact ⟨Nat.find h, cause, hmem, hfails, fun j hj hfails => Nat.find_min' h ⟨hj, hfails⟩⟩

theorem exists_value (h : ¬ Fails tasks i) (hi : i < tasks.length) :
    ∃ v, tasks[i]? = some (.ok v) := by
  rw [List.getElem?_eq_getElem hi]
  cases htask : tasks[i] with
  | error cause => exact absurd ⟨cause, List.getElem?_eq_some_iff.mpr ⟨hi, htask⟩⟩ h
  | ok v => exact ⟨v, rfl⟩

/-- Tasks none of which fails are their values. -/
theorem exists_values (h : ∀ i, ¬ Fails tasks i) : ∃ values : List α, tasks = values.map .ok := by
  induction tasks with
  | nil => exact ⟨[], rfl⟩
  | cons task tasks ih =>
    obtain ⟨v, hv⟩ := exists_value (h 0) (by simp)
    obtain ⟨values, rfl⟩ := ih fun i hi => h (i + 1) (by simpa [Fails] using hi)
    obtain rfl : task = .ok v := by simpa using hv
    exact ⟨v :: values, rfl⟩

theorem not_fails_map_ok {values : List α} : ¬ Fails (values.map (.ok : α → Except ε α)) i := by
  rintro ⟨cause, h⟩
  obtain ⟨v, -, h⟩ := List.mem_map.mp (List.mem_of_getElem? h)
  exact absurd h (by simp)

/-! ## 2. Progress -/

/-- How far a run has got that has been handed the tasks in `seen`. -/
def Progress.after (tasks : List (Except ε α)) (seen : List Nat) : Progress α :=
  ⟨tasks.mapIdx fun i task => if i ∈ seen then task.toOption else none,
    (List.range tasks.length).filter (· ∉ seen),
    (List.range tasks.length).countP (· ∈ seen)⟩

theorem Progress.after_nil : Progress.after tasks [] = Progress.start tasks := by
  have hresults : (tasks.mapIdx fun _ _ => (none : Option α)) = tasks.map fun _ => none :=
    List.ext_getElem (by simp) fun i _ _ => by simp
  simp [Progress.after, Progress.start, hresults]

/-- Only the positions matter that there are, and how often one is handed over does not. -/
theorem Progress.after_congr {other : List Nat}
    (h : ∀ i < tasks.length, i ∈ seen ↔ i ∈ other) :
    Progress.after tasks seen = Progress.after tasks other := by
  have hrange : ∀ i ∈ List.range tasks.length, (i ∈ seen) = (i ∈ other) := fun i hi =>
    propext (h i (List.mem_range.mp hi))
  unfold Progress.after
  congr 1
  · refine List.ext_getElem (by simp) fun i hi _ => ?_
    have hlt : i < tasks.length := by simpa using hi
    simp [h i hlt]
  · exact List.filter_congr fun i hi => by simp [hrange i hi]
  · exact List.countP_congr fun i hi => by simp [hrange i hi]

theorem mem_pending : i ∈ (Progress.after tasks seen).pending ↔ i < tasks.length ∧ i ∉ seen := by
  simp [Progress.after]

theorem pending_eq_nil_iff :
    (Progress.after tasks seen).pending = [] ↔ ∀ i < tasks.length, i ∈ seen := by
  simp [Progress.after]

/-- One more position counts once. -/
theorem countP_concat (hi : i < tasks.length) (hnew : i ∉ seen) :
    (List.range tasks.length).countP (· ∈ seen ++ [i]) =
      (List.range tasks.length).countP (· ∈ seen) + 1 := by
  have hperm := List.perm_cons_erase (List.mem_range.mpr hi)
  have hne : ∀ j ∈ (List.range tasks.length).erase i, j ≠ i := fun j hj =>
    ((List.nodup_range.mem_erase_iff).mp hj).1
  have hothers : ((List.range tasks.length).erase i).countP (· ∈ seen ++ [i]) =
      ((List.range tasks.length).erase i).countP (· ∈ seen) :=
    List.countP_congr fun j hj => by simp [hne j hj]
  calc (List.range tasks.length).countP (· ∈ seen ++ [i])
      = (i :: (List.range tasks.length).erase i).countP (· ∈ seen ++ [i]) := hperm.countP_eq _
    _ = ((List.range tasks.length).erase i).countP (· ∈ seen) + 1 := by
        rw [List.countP_cons, hothers]
        simp
    _ = (i :: (List.range tasks.length).erase i).countP (· ∈ seen) + 1 := by
        rw [List.countP_cons]
        simp [hnew]
    _ = (List.range tasks.length).countP (· ∈ seen) + 1 := by rw [hperm.countP_eq]

theorem countP_lt (hi : i < tasks.length) (hnew : i ∉ seen) :
    (List.range tasks.length).countP (· ∈ seen) < tasks.length := by
  have hle : (List.range tasks.length).countP (· ∈ seen ++ [i]) ≤ tasks.length := by
    simpa using List.countP_le_length (l := List.range tasks.length)
  rw [countP_concat hi hnew] at hle
  exact hle

/-- **A task that is collected** is one more that was handed over. -/
theorem Progress.collected_after (hv : tasks[i]? = some (.ok v)) (hnew : i ∉ seen) :
    (Progress.after tasks seen).collected i v = Progress.after tasks (seen ++ [i]) := by
  obtain ⟨hi, htask⟩ := List.getElem?_eq_some_iff.mp hv
  unfold Progress.collected
  have hresults : (Progress.after tasks seen).results.set i (some v) =
      (Progress.after tasks (seen ++ [i])).results := by
    refine List.ext_getElem (by simp [Progress.after]) fun j hj _ => ?_
    simp only [Progress.after, List.getElem_set, List.getElem_mapIdx, List.mem_append,
      List.mem_singleton]
    by_cases hji : i = j
    · subst hji
      simp [htask, Except.toOption]
    · have hji' : ¬ j = i := fun h => hji h.symm
      simp [hji, hji']
  have hpending : (Progress.after tasks seen).pending.filter (· != i) =
      (Progress.after tasks (seen ++ [i])).pending := by
    simp only [Progress.after, List.filter_filter]
    refine List.filter_congr fun j _ => ?_
    by_cases hji : j = i
    · simp [hji]
    · simp [hji]
  rw [hresults, hpending]
  exact congrArg _ (countP_concat hi hnew).symm

/-- When every task was handed over and none has failed, the results are the values. -/
theorem results_after {values : List α}
    (h : ∀ i < values.length, i ∈ seen) :
    (Progress.after (values.map (.ok : α → Except ε α)) seen).results.filterMap id = values := by
  have hresults : (Progress.after (values.map (.ok : α → Except ε α)) seen).results =
      values.map some := by
    refine List.ext_getElem (by simp [Progress.after]) fun i hi _ => ?_
    have hlt : i < values.length := by simpa [Progress.after] using hi
    simp [Progress.after, h i hlt, Except.toOption]
  rw [hresults, List.filterMap_map]
  exact List.filterMap_some

/-! ## 3. Portions -/

/-- The positions that the loop goes through when it is handed `done`: those of them that were
pending, in order. -/
def portion (tasks : List (Except ε α)) (seen done : List Nat) : List Nat :=
  (Progress.after tasks seen).pending.filter done.contains

theorem mem_portion : i ∈ portion tasks seen done ↔ i < tasks.length ∧ i ∉ seen ∧ i ∈ done := by
  rw [portion, List.mem_filter, mem_pending, List.contains_iff_mem, and_assoc]

theorem pairwise_portion : (portion tasks seen done).Pairwise (· < ·) :=
  List.pairwise_lt_range.sublist (List.filter_sublist.trans List.filter_sublist)

theorem collect_of_values :
    ∀ {batch seen : List Nat}, batch.Nodup → (∀ i ∈ batch, i ∉ seen) →
      (∀ i ∈ batch, ∃ v, tasks[i]? = some (.ok v)) →
        collect tasks batch (Progress.after tasks seen) =
          .ok (Progress.after tasks (seen ++ batch))
  | [], seen, _, _, _ => by simp [collect]
  | i :: batch, seen, hnodup, hnew, hvalue => by
    obtain ⟨hi, hnodup⟩ := List.nodup_cons.mp hnodup
    obtain ⟨v, hv⟩ := hvalue i (by simp)
    have hnew' : ∀ j ∈ batch, j ∉ seen ++ [i] := by
      intro j hj hmem
      rcases List.mem_append.mp hmem with hmem | hmem
      · exact hnew j (by simp [hj]) hmem
      · obtain rfl := List.mem_singleton.mp hmem
        exact hi hj
    have hmore := collect_of_values hnodup hnew' fun j hj => hvalue j (by simp [hj])
    rw [List.append_assoc, List.singleton_append] at hmore
    simp only [collect, hv]
    rw [Progress.collected_after hv (hnew i (by simp)), hmore]

/-- **A portion without failures** adds its tasks to those seen. -/
theorem collect_of_succeeding (hdone : ∀ i ∈ done, ¬ Fails tasks i) :
    collect tasks (portion tasks seen done) (Progress.after tasks seen) =
      .ok (Progress.after tasks (seen ++ done)) := by
  have hvalue : ∀ i ∈ portion tasks seen done, ∃ v, tasks[i]? = some (.ok v) := by
    intro i hi
    obtain ⟨hlt, -, hmem⟩ := mem_portion.mp hi
    exact exists_value (hdone i hmem) hlt
  rw [collect_of_values (pairwise_portion.imp Nat.ne_of_lt)
    (fun i hi => (mem_portion.mp hi).2.1) hvalue]
  congr 1
  refine Progress.after_congr fun i hi => ?_
  by_cases hseen : i ∈ seen
  · simp [hseen]
  · simp [hseen, mem_portion, hi]

theorem collect_of_front {front back : List Nat} (hfails : tasks[i]? = some (.error cause)) :
    ∀ {p : Progress α}, (∀ j ∈ front, ∃ v, tasks[j]? = some (.ok v)) →
      collect tasks (front ++ i :: back) p = .error (i, cause) := by
  induction front with
  | nil =>
    intro p _
    simp [collect, hfails]
  | cons j front ih =>
    intro p hfront
    obtain ⟨v, hv⟩ := hfront j (by simp)
    simp only [List.cons_append, collect, hv]
    exact ih fun k hk => hfront k (by simp [hk])

/-- **A portion with failures** ends the run with the first of them. -/
theorem collect_of_failing (hseen : ∀ i ∈ seen, ¬ Fails tasks i)
    (h : FirstFailure tasks done i cause) :
    collect tasks (portion tasks seen done) (Progress.after tasks seen) = .error (i, cause) := by
  have hfails : Fails tasks i := ⟨cause, h.fails⟩
  have hmem : i ∈ portion tasks seen done :=
    mem_portion.mpr ⟨hfails.lt_length, fun hi => hseen i hi hfails, h.mem⟩
  obtain ⟨front, back, hsplit⟩ := List.append_of_mem hmem
  have hsorted : (portion tasks seen done).Pairwise (· < ·) := pairwise_portion
  rw [hsplit, List.pairwise_append] at hsorted
  rw [hsplit]
  refine collect_of_front h.fails fun j hj => ?_
  obtain ⟨hlt, -, hdone⟩ := mem_portion.mp (show j ∈ portion tasks seen done by
    rw [hsplit]
    exact List.mem_append_left _ hj)
  -- what stands in front has a smaller position, so it is none of those that fail
  have hji : j < i := hsorted.2.2 j hj i (by simp)
  exact exists_value (fun hfails => absurd (h.least j hdone hfails) (by omega)) hlt

end StoredFunctions.Pool
