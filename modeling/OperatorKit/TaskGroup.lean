/-!
# Task groups

A group of running tasks and a clock that moves only while somebody waits for the group. A wait
takes finished tasks out one by one, the earliest first, until none is left or the time is up.
-/

namespace OperatorKit

/-- A task of a group. -/
structure Task where
  /-- How many tasks the group had started before this one. -/
  number : Nat
  /-- The time at which it ends by itself, if it ever does. -/
  ending : Option Nat
  panics : Bool
  isAborted : Bool
deriving DecidableEq

namespace Task

/-- Whether taking the task out of its group is a failure. -/
def fails (task : Task) : Bool :=
  task.isAborted || task.panics

/-- The time at which a wait that goes on at `clock` finds the task finished. An aborted task is
found at once. -/
def finish? (task : Task) (clock : Nat) : Option Nat :=
  if task.isAborted then some clock else task.ending.map (max clock)

end Task

/-- A finished task, the time at which it is found, and the other tasks. -/
structure Finished where
  time : Nat
  task : Task
  others : List Task

/-- The task that is found finished first. -/
def earliest? (clock : Nat) : List Task → Option Finished
  | [] => none
  | task :: tasks =>
    match task.finish? clock, earliest? clock tasks with
    | none, none => none
    | some time, none => some ⟨time, task, tasks⟩
    | none, some later => some { later with others := task :: later.others }
    | some time, some later =>
      if time ≤ later.time then some ⟨time, task, tasks⟩
      else some { later with others := task :: later.others }

/-- Taking a finished task out leaves one task less. -/
theorem length_of_earliest? {clock : Nat} {tasks : List Task} {finished : Finished}
    (found : earliest? clock tasks = some finished) :
    finished.others.length + 1 = tasks.length := by
  induction tasks generalizing finished with
  | nil => simp [earliest?] at found
  | cons task tasks inductionHypothesis =>
    simp only [earliest?] at found
    split at found
    · cases found
    · cases found
      rfl
    · rename_i found'
      cases found
      simpa using inductionHypothesis found'
    · rename_i found'
      split at found
      · cases found
        rfl
      · cases found
        simpa using inductionHypothesis found'

/-- Tasks that run together. -/
structure TaskGroup where
  clock : Nat
  tasks : List Task
  /-- How many tasks were ever started. -/
  started : Nat
  /-- How many failures were reported so far. -/
  failures : Nat

/-- How a wait ends. -/
structure Waited where
  group : TaskGroup
  /-- The tasks taken out, the earliest first. -/
  finished : List Task
  /-- Whether the time was up before the group was empty. -/
  timedOut : Bool

namespace TaskGroup

/-- A group without tasks at the beginning of time. -/
def empty : TaskGroup :=
  ⟨0, [], 0, 0⟩

/-- Starts a task that sleeps for a while, or for ever, and then ends or panics. -/
def spawn (group : TaskGroup) (sleep : Option Nat) (panics : Bool) : TaskGroup :=
  let task := ⟨group.started, sleep.map (group.clock + ·), panics, false⟩
  { group with tasks := group.tasks ++ [task], started := group.started + 1 }

/-- Aborts all tasks of the group. They stay until the next wait finds them. -/
def abort (group : TaskGroup) : TaskGroup :=
  { group with tasks := group.tasks.map fun task => { task with isAborted := true } }

/-- Takes a finished task out and reports it if it failed. -/
def takeOut (group : TaskGroup) (finished : Finished) : TaskGroup :=
  { group with
    clock := finished.time
    tasks := finished.others
    failures := group.failures + if finished.task.fails then 1 else 0 }

/-- Takes out the tasks that finish before the deadline. The clock stops at the last of them if none
is left, and at the deadline otherwise. -/
def drain (deadline : Nat) (group : TaskGroup) : Waited :=
  if group.tasks.isEmpty then ⟨group, [], false⟩
  else
    match _found : earliest? group.clock group.tasks with
    | none => ⟨{ group with clock := deadline }, [], true⟩
    | some finished =>
      if finished.time < deadline then
        let waited := drain deadline (group.takeOut finished)
        { waited with finished := finished.task :: waited.finished }
      else ⟨{ group with clock := deadline }, [], true⟩
termination_by group.tasks.length
decreasing_by
  have fewer := length_of_earliest? (by assumption)
  simp only [takeOut]
  omega

/-- Waits for all tasks, but no longer than `timeout`. -/
def wait (group : TaskGroup) (timeout : Nat) : Waited :=
  group.drain (group.clock + timeout)

/-- Something done to a group. -/
inductive Step where
  | spawn (sleep : Option Nat) (panics : Bool)
  | wait (timeout : Nat)
  | abort

/-- What a step leaves: the group and, after a wait, whether the time was up. -/
structure Outcome where
  group : TaskGroup
  finished : List Task
  timedOut : Option Bool

/-- Does one step. -/
def step (group : TaskGroup) : Step → Outcome
  | .spawn sleep panics => ⟨group.spawn sleep panics, [], none⟩
  | .wait timeout =>
    let waited := group.wait timeout
    ⟨waited.group, waited.finished, some waited.timedOut⟩
  | .abort => ⟨group.abort, [], none⟩

/-- Does steps one after the other. -/
def outcomes (group : TaskGroup) : List Step → List Outcome
  | [] => []
  | step :: steps =>
    let outcome := group.step step
    outcome :: outcome.group.outcomes steps

end TaskGroup

end OperatorKit
