/-
# Running tasks in a pool

A pool is handed a list of tasks and returns their results in the order of the tasks, whatever the
order in which they were completed.  The collecting loop takes **turns**.  At each turn either the
time limit has passed, which ends the run, or some of the pending tasks have been completed, which
are then collected by position; the first failed one ends the run.

A schedule says what happens at each turn.  When it comes to its end all pending tasks are
completed at once, so that every schedule leads to an outcome.

Which schedule a run meets is not the pool's choice: it depends on how long the tasks take.  The
collecting loop of `run_parallel` is `runTurns`, and `runUnder` is the whole of it for any
schedules; results are about `runUnder`.  To run tasks that are completed already, `run` takes one
schedule out of the many.
-/
import StoredFunctions.Pool.Defaults

namespace StoredFunctions.Pool

variable {ε α : Type}

/-! ## 1. Turns -/

/-- What happens at a turn. -/
inductive Turn where
  /-- The time limit has passed. -/
  | expired
  /-- The tasks at these positions have been completed. -/
  | batch (done : List Nat)
  deriving DecidableEq, Repr

/-- How far a run has got. -/
structure Progress (α : Type) where
  /-- The result of each task that was collected. -/
  results : List (Option α)
  /-- The positions of the other tasks, in order. -/
  pending : List Nat
  /-- How many tasks were collected. -/
  completed : Nat

/-- How a run ends. -/
inductive Ending (ε α : Type) where
  | results (values : List α)
  | failed (index : Nat) (cause : ε)
  | timedOut (completed : Nat)

/-- A run at its start. -/
def Progress.start (tasks : List (Except ε α)) : Progress α :=
  ⟨tasks.map fun _ => none, List.range tasks.length, 0⟩

/-- A run after the task at this position was collected with this result. -/
def Progress.collected (p : Progress α) (index : Nat) (value : α) : Progress α :=
  ⟨p.results.set index (some value), p.pending.filter (· != index), p.completed + 1⟩

/-- Collects completed tasks one after the other. -/
def collect (tasks : List (Except ε α)) :
    List Nat → Progress α → Except (Nat × ε) (Progress α)
  | [], p => .ok p
  | index :: more, p =>
    match tasks[index]? with
    | some (.ok value) => collect tasks more (p.collected index value)
    | some (.error cause) => .error (index, cause)
    | none => collect tasks more p

/-- The run from some progress on. -/
def runTurns (tasks : List (Except ε α)) : List Turn → Progress α → Ending ε α
  | [], p =>
    match collect tasks p.pending p with
    | .ok p => .results (p.results.filterMap id)
    | .error (index, cause) => .failed index cause
  | turn :: more, p =>
    if p.pending.isEmpty then .results (p.results.filterMap id)
    else match turn with
      | .expired => .timedOut p.completed
      | .batch done =>
        match collect tasks (p.pending.filter done.contains) p with
        | .ok p => runTurns tasks more p
        | .error (index, cause) => .failed index cause

/-- The run of tasks under a schedule. -/
def runSchedule (tasks : List (Except ε α)) (schedule : List Turn) : Ending ε α :=
  runTurns tasks schedule (Progress.start tasks)

/-! ## 2. Requests -/

/-- What is handed to a pool. -/
inductive Task (ε α : Type) where
  /-- A computation, with its outcome. -/
  | computation (outcome : Except ε α)
  /-- Something that cannot be run. -/
  | inert

/-- The outcome of a computation. -/
def Task.outcome? : Task ε α → Option (Except ε α)
  | computation outcome => some outcome
  | inert => none

/-- Why a pool has no results. -/
inductive Error (ε : Type) where
  /-- The task at this position cannot be run. -/
  | notRunnable (index : Nat)
  | setting (e : SettingError)
  /-- The task at this position failed. -/
  | failed (index : Nat) (mode : Mode) (cause : ε)
  /-- The time limit passed when so many of the tasks were collected. -/
  | timedOut (timeout : Binary64) (completed total : Nat)

/-- The wording of a failed task, for the wording of its cause. -/
def failedMessage (index : Nat) (mode : Mode) (cause : Text) : Text :=
  "parallel task " ++ Text.ofNat index ++ " failed in " ++ mode.text ++ " mode:" ++ " " ++ cause

/-- The wording of a time limit that has passed. -/
def timedOutMessage (timeout : Binary64) : Text :=
  "parallel execution timed out after " ++ timeout.threePlaces ++ "s"

/-- What a caller asks of a pool beside the settings. -/
structure Request where
  mode : Option Text
  timeout : Option Binary64

/-- A request that leaves everything to the settings. -/
def Request.none : Request := ⟨.none, .none⟩

/-- One schedule of a run with this time limit, that of tasks which take no time: a limit that is
not positive has passed at the first turn, and any other leaves time for all tasks.  Tasks that do
take time may meet any other schedule. -/
def schedule : Option Binary64 → List Turn
  | some timeout => if timeout.atMostZero then [.expired] else []
  | none => []

/-- The position of the first task that cannot be run. -/
def firstInert (tasks : List (Task ε α)) : Option Nat :=
  tasks.findIdx? fun t => t.outcome?.isNone

/-- The results of tasks in their order, where `turns` gives the schedule for a time limit. -/
def runUnder (turns : Option Binary64 → List Turn) (settings : Section) (request : Request)
    (tasks : List (Task ε α)) : Except (Error ε) (List α) :=
  if tasks.isEmpty then .ok []
  else match firstInert tasks with
    | some index => .error (.notRunnable index)
    | none =>
      match defaults settings request.mode with
      | .error e => .error (.setting e)
      | .ok found =>
        let timeout := request.timeout.or found.timeout
        match runSchedule (tasks.filterMap Task.outcome?) (turns timeout) with
        | .results values => .ok values
        | .failed index cause => .error (.failed index found.mode cause)
        | .timedOut completed =>
          .error (.timedOut (timeout.getD .nan) completed tasks.length)

/-- The results of tasks which take no time. -/
def run (settings : Section) (request : Request) (tasks : List (Task ε α)) :
    Except (Error ε) (List α) :=
  runUnder schedule settings request tasks

end StoredFunctions.Pool
