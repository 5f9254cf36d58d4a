import Mathlib.Order.Bounds.Basic
import OperatorKit.TaskGroup

/-!
# What a wait takes out

A wait finds one task after the other, and which ones it finds before its deadline does not depend
on where its clock stands: a task is due if it was aborted or if its sleep is over in time. All due
tasks are taken out and the others stay, in their order.
-/

namespace OperatorKit

namespace Task

/-- The time at which the task ends for a wait that begins at `start`. An aborted task ends there,
any other when its sleep is over. -/
def endAt? (task : Task) (start : Nat) : Option Nat :=
  if task.isAborted then some start else task.ending

/-- Whether the task ends before the deadline of a wait. -/
def endsBefore (start deadline : Nat) (task : Task) : Bool :=
  (task.endAt? start).any (· < deadline)

/-- Whether the task ends after the deadline of a wait, or never. -/
def endsAfter (start deadline : Nat) (task : Task) : Bool :=
  (task.endAt? start).all (deadline < ·)

/-- Whether a wait that goes on until the deadline takes the task out. -/
def isDue (deadline : Nat) (task : Task) : Bool :=
  task.isAborted || task.ending.any (· < deadline)

variable {task : Task} {clock start deadline time : Nat}

/-- A wait finds a task where it ends, but never behind its clock. -/
theorem finish?_eq (task : Task) (clock : Nat) :
    task.finish? clock = (task.endAt? clock).map (max clock) := by
  unfold finish? endAt?
  split
  · rw [Option.map_some, Nat.max_self]
  · rfl

/-- A wait whose time is not up finds the tasks before its deadline that are due. -/
theorem isDue_iff_finish? (early : clock < deadline) :
    task.isDue deadline = true ↔ ∃ time, task.finish? clock = some time ∧ time < deadline := by
  unfold isDue finish?
  cases aborted : task.isAborted with
  | true => simpa using early
  | false =>
    cases task.ending with
    | none => simp
    | some ending =>
      simp only [Bool.false_or, Option.any_some, decide_eq_true_eq, Bool.false_eq_true, if_false,
        Option.map_some, Option.some.injEq, exists_eq_left']
      omega

/-- The tasks that end before the deadline of a wait are due. -/
theorem endsBefore_eq_isDue (early : start < deadline) :
    task.endsBefore start deadline = task.isDue deadline := by
  unfold endsBefore isDue endAt?
  cases task.isAborted with
  | true => simpa using early
  | false => simp

/-- A task that does not end exactly at the deadline ends after it unless it ends before. -/
theorem endsAfter_eq_not_endsBefore (noTie : task.endAt? start ≠ some deadline) :
    task.endsAfter start deadline = !task.endsBefore start deadline := by
  unfold endsAfter endsBefore
  cases atEnd : task.endAt? start with
  | none => rfl
  | some time =>
    have different : time ≠ deadline := by
      rintro rfl
      exact noTie atEnd
    simp only [Option.all_some, Option.any_some, ← decide_not, decide_eq_decide]
    omega

end Task

/-- The finished task stands among the tasks, no other is found earlier, and the others keep their
order. -/
structure IsEarliest (clock : Nat) (tasks : List Task) (finished : Finished) : Prop where
  split : ∃ before after,
    tasks = before ++ finished.task :: after ∧ finished.others = before ++ after
  found : finished.task.finish? clock = some finished.time
  first : ∀ task ∈ tasks, ∀ time, task.finish? clock = some time → finished.time ≤ time

section Earliest

variable {clock : Nat} {task : Task} {tasks : List Task} {finished : Finished}

/-- A task that is found no later than all others is the earliest. -/
theorem IsEarliest.head {time : Nat} (found : task.finish? clock = some time)
    (first : ∀ other ∈ tasks, ∀ later, other.finish? clock = some later → time ≤ later) :
    IsEarliest clock (task :: tasks) ⟨time, task, tasks⟩ where
  split := ⟨[], tasks, rfl, rfl⟩
  found := found
  first := by
    rw [List.forall_mem_cons]
    refine ⟨?_, first⟩
    intro later foundAgain
    rw [found, Option.some.injEq] at foundAgain
    exact Nat.le_of_eq foundAgain

/-- The earliest of other tasks stays the earliest beside a task that is not found before it. -/
theorem IsEarliest.tail (earliest : IsEarliest clock tasks finished)
    (later : ∀ time, task.finish? clock = some time → finished.time ≤ time) :
    IsEarliest clock (task :: tasks) { finished with others := task :: finished.others } where
  split := by
    obtain ⟨before, after, tasksSplit, othersSplit⟩ := earliest.split
    exact ⟨task :: before, after, congrArg _ tasksSplit, congrArg _ othersSplit⟩
  found := earliest.found
  first := List.forall_mem_cons.2 ⟨later, earliest.first⟩

/-- Nothing is found where no task ever ends. -/
theorem finish?_of_earliest?_eq_none (nothing : earliest? clock tasks = none) :
    ∀ task ∈ tasks, task.finish? clock = none := by
  induction tasks with
  | nil => exact List.forall_mem_nil _
  | cons task tasks inductionHypothesis =>
    unfold earliest? at nothing
    split at nothing
    · rename_i never nothingLater
      exact List.forall_mem_cons.2 ⟨never, inductionHypothesis nothingLater⟩
    · cases nothing
    · cases nothing
    · split at nothing <;> cases nothing

/-- What is found is the earliest task. -/
theorem isEarliest_of_earliest? (found : earliest? clock tasks = some finished) :
    IsEarliest clock tasks finished := by
  induction tasks generalizing finished with
  | nil => cases found
  | cons task tasks inductionHypothesis =>
    unfold earliest? at found
    split at found
    · cases found
    · rename_i time foundHere nothingLater
      cases found
      refine .head foundHere fun other inTasks later foundLater => ?_
      rw [finish?_of_earliest?_eq_none nothingLater other inTasks] at foundLater
      cases foundLater
    · rename_i later never foundLater
      cases found
      refine (inductionHypothesis foundLater).tail fun time foundHere => ?_
      rw [never] at foundHere
      cases foundHere
    · rename_i time later foundHere foundLater
      have earliestLater := inductionHypothesis foundLater
      split at found
      · rename_i noLater
        cases found
        exact .head foundHere fun other inTasks otherTime foundOther =>
          Nat.le_trans noLater (earliestLater.first other inTasks otherTime foundOther)
      · rename_i laterIsEarlier
        cases found
        refine earliestLater.tail fun otherTime foundAgain => ?_
        rw [foundHere, Option.some.injEq] at foundAgain
        omega

end Earliest

namespace TaskGroup

/-- No task is lost or made up while a group is waited for, and every failure is counted. -/
structure Conserves (group : TaskGroup) (waited : Waited) : Prop where
  tasks : (waited.finished ++ waited.group.tasks).Perm group.tasks
  started : waited.group.started = group.started
  failures : waited.group.failures = group.failures + waited.finished.countP Task.fails

/-- What is left of a group, and at what time, when a wait for it ends. -/
structure Drained (deadline : Nat) (group : TaskGroup) (waited : Waited) : Prop where
  left : waited.group.tasks = group.tasks.filter (!·.isDue deadline)
  timedOut : waited.timedOut = true ↔ waited.group.tasks ≠ []
  clockInTime : waited.timedOut = false →
    IsGreatest {time | time = group.clock ∨
      ∃ task ∈ group.tasks, task.endAt? group.clock = some time} waited.group.clock
  clockTimedOut : waited.timedOut = true → waited.group.clock = deadline

variable {group : TaskGroup} {deadline : Nat} {finished : Finished} {waited : Waited}

/-- A wait for no task ends at once. -/
theorem drain_of_isEmpty (empty : group.tasks = []) : group.drain deadline = ⟨group, [], false⟩ := by
  rw [drain, if_pos (List.isEmpty_iff.2 empty)]

/-- A group of which no task is taken out keeps them all. -/
theorem conserves_nothing (clock : Nat) (timedOut : Bool) :
    Conserves group ⟨{ group with clock := clock }, [], timedOut⟩ where
  tasks := .refl _
  started := rfl
  failures := rfl

/-- A task that is taken out is reported before what is taken out of the others. -/
theorem Conserves.takeOut (earliest : IsEarliest group.clock group.tasks finished)
    (conserves : Conserves (group.takeOut finished) waited) :
    Conserves group { waited with finished := finished.task :: waited.finished } where
  tasks := by
    obtain ⟨before, after, tasksSplit, othersSplit⟩ := earliest.split
    have others : (group.takeOut finished).tasks = before ++ after := othersSplit
    have rest := conserves.tasks
    rw [others] at rest
    rw [tasksSplit]
    exact (rest.cons _).trans List.perm_middle.symm
  started := conserves.started
  failures := by
    have failures := conserves.failures
    simp only [TaskGroup.takeOut] at failures
    rw [List.countP_cons, failures]
    omega

/-- Every wait takes out some tasks and leaves the others. -/
theorem conserves_drain (deadline : Nat) (group : TaskGroup) :
    Conserves group (group.drain deadline) := by
  fun_induction drain deadline group with
  | case1 group empty => exact conserves_nothing group.clock false
  | case2 group nonempty nothing => exact conserves_nothing deadline true
  | case3 group nonempty finished found inTime waited inductionHypothesis =>
    exact inductionHypothesis.takeOut (isEarliest_of_earliest? found)
  | case4 group nonempty finished found late => exact conserves_nothing deadline true

@[inherit_doc conserves_drain]
theorem conserves_wait (timeout : Nat) (group : TaskGroup) :
    Conserves group (group.wait timeout) :=
  conserves_drain _ group

/-- A group without tasks is left as it is. -/
theorem drained_of_isEmpty (empty : group.tasks = []) :
    Drained deadline group ⟨group, [], false⟩ where
  left := by simp [empty]
  timedOut := by simp [empty]
  clockInTime _ := by simp [empty, isGreatest_singleton]
  clockTimedOut := nofun

/-- A group of which no task is due is left at the deadline. -/
theorem drained_of_none_due (nonempty : group.tasks ≠ [])
    (noneDue : ∀ task ∈ group.tasks, task.isDue deadline = false) :
    Drained deadline group ⟨{ group with clock := deadline }, [], true⟩ where
  left := (List.filter_eq_self.2 fun task inTasks => by simp [noneDue task inTasks]).symm
  timedOut := iff_of_true rfl nonempty
  clockInTime := nofun
  clockTimedOut _ := rfl

/-- The latest end is the same whether a task that was found first is counted by its end or by the
clock at which it was found. -/
theorem isGreatest_of_takeOut {latest : Nat}
    (earliest : IsEarliest group.clock group.tasks finished)
    (greatest : IsGreatest {time | time = finished.time ∨
      ∃ task ∈ finished.others, task.endAt? finished.time = some time} latest) :
    IsGreatest {time | time = group.clock ∨
      ∃ task ∈ group.tasks, task.endAt? group.clock = some time} latest := by
  obtain ⟨before, after, tasksSplit, othersSplit⟩ := earliest.split
  have found := earliest.found
  rw [Task.finish?_eq, Option.map_eq_some_iff] at found
  obtain ⟨time, atEnd, isTime⟩ := found
  have inTasks : ∀ task, task ∈ group.tasks ↔ task = finished.task ∨ task ∈ finished.others := by
    intro task
    rw [tasksSplit, othersSplit]
    simp only [List.mem_append, List.mem_cons]
    tauto
  have timeIsLate : finished.time ≤ latest := greatest.2 (Or.inl rfl)
  have timeIsEnd : finished.time = group.clock ∨
      ∃ task ∈ group.tasks, task.endAt? group.clock = some finished.time := by
    rcases Nat.le_total group.clock time with isLater | isEarlier
    · rw [Nat.max_eq_right isLater] at isTime
      exact Or.inr ⟨finished.task, (inTasks _).2 (Or.inl rfl), isTime ▸ atEnd⟩
    · rw [Nat.max_eq_left isEarlier] at isTime
      exact Or.inl isTime.symm
  -- Only the ends of aborted tasks move with the clock, and they never move beyond it.
  have sameEnd : ∀ task : Task, task.isAborted = false →
      task.endAt? finished.time = task.endAt? group.clock := by
    intro task notAborted
    simp [Task.endAt?, notAborted]
  have abortedEnd : ∀ (task : Task) (start : Nat), task.isAborted = true →
      task.endAt? start = some start := by
    intro task start aborted
    simp [Task.endAt?, aborted]
  constructor
  · rcases greatest.1 with isTime' | ⟨task, inOthers, taskEnd⟩
    · rw [isTime']
      exact timeIsEnd
    · cases aborted : task.isAborted with
      | true =>
        rw [abortedEnd task _ aborted, Option.some.injEq] at taskEnd
        rw [← taskEnd]
        exact timeIsEnd
      | false =>
        rw [sameEnd task aborted] at taskEnd
        exact Or.inr ⟨task, (inTasks task).2 (Or.inr inOthers), taskEnd⟩
  · rintro other (rfl | ⟨task, inGroup, taskEnd⟩)
    · omega
    · cases aborted : task.isAborted with
      | true =>
        rw [abortedEnd task _ aborted, Option.some.injEq] at taskEnd
        omega
      | false =>
        rcases (inTasks task).1 inGroup with rfl | inOthers
        · rw [atEnd, Option.some.injEq] at taskEnd
          omega
        · exact greatest.2 (Or.inr ⟨task, inOthers, by rw [sameEnd task aborted, taskEnd]⟩)

/-- Taking out the earliest task, which is due, and then what is due of the others. -/
theorem Drained.takeOut (earliest : IsEarliest group.clock group.tasks finished)
    (due : finished.task.isDue deadline = true)
    (drained : Drained deadline (group.takeOut finished) waited) :
    Drained deadline group { waited with finished := finished.task :: waited.finished } where
  left := by
    obtain ⟨before, after, tasksSplit, othersSplit⟩ := earliest.split
    have others : (group.takeOut finished).tasks = before ++ after := othersSplit
    rw [drained.left, others, tasksSplit, List.filter_append, List.filter_append,
      List.filter_cons_of_neg (by simp [due])]
  timedOut := drained.timedOut
  clockInTime inTime := isGreatest_of_takeOut earliest (drained.clockInTime inTime)
  clockTimedOut := drained.clockTimedOut

/-- A wait whose time is not up leaves exactly the tasks that are not due. -/
theorem drained_drain (group : TaskGroup) (early : group.clock < deadline) :
    Drained deadline group (group.drain deadline) := by
  fun_induction drain deadline group with
  | case1 group empty => exact drained_of_isEmpty (List.isEmpty_iff.1 empty)
  | case2 group nonempty nothing =>
    refine drained_of_none_due (by simpa using nonempty) fun task inTasks => ?_
    rw [Bool.eq_false_iff, Ne, Task.isDue_iff_finish? early,
      finish?_of_earliest?_eq_none nothing task inTasks]
    rintro ⟨time, ⟨⟩, -⟩
  | case3 group nonempty finished found inTime waited inductionHypothesis =>
    have earliest := isEarliest_of_earliest? found
    have due := (Task.isDue_iff_finish? early).2 ⟨finished.time, earliest.found, inTime⟩
    exact (inductionHypothesis inTime).takeOut earliest due
  | case4 group nonempty finished found late =>
    have earliest := isEarliest_of_earliest? found
    refine drained_of_none_due (by simpa using nonempty) fun task inTasks => ?_
    rw [Bool.eq_false_iff, Ne, Task.isDue_iff_finish? early]
    rintro ⟨time, foundTask, inTime⟩
    have := earliest.first task inTasks time foundTask
    omega

/-- What is not left was taken out. -/
theorem Drained.finished_perm (drained : Drained deadline group waited)
    (conserves : Conserves group waited) :
    waited.finished.Perm (group.tasks.filter (·.isDue deadline)) := by
  have parted := List.filter_append_perm (·.isDue deadline) group.tasks
  have tasks := conserves.tasks
  rw [drained.left] at tasks
  exact (List.perm_append_right_iff _).1 (tasks.trans parted.symm)

end TaskGroup

end OperatorKit
