import Mathlib.Data.List.Induction
import OperatorKit.Proofs.TaskGroup.Wait

/-!
# The accounts of a run

A run starts tasks, aborts them and waits for them. At every point of it each task that was started
is either still in the group or was taken out once, and the failures reported are those of the tasks
taken out. How each wait ends is settled by when the tasks in the group end.
-/

namespace OperatorKit.TaskGroup

namespace Step

/-- Whether a step starts a task. -/
def isSpawn : Step → Bool
  | spawn _ _ => true
  | wait _ | abort => false

/-- Whether a step aborts the tasks of the group. -/
def isAbort : Step → Bool
  | abort => true
  | spawn _ _ | wait _ => false

/-- Whether a step leaves no tie to break: no task ends exactly at the deadline of a wait, and a
wait without time finds no task. -/
def IsTieFree (group : TaskGroup) : Step → Prop
  | wait timeout =>
    (∀ task ∈ group.tasks, task.endAt? group.clock ≠ some (group.clock + timeout)) ∧
      (timeout = 0 → group.tasks = [])
  | spawn _ _ | abort => True

instance (group : TaskGroup) : (step : Step) → Decidable (step.IsTieFree group)
  | wait _ => inferInstanceAs (Decidable (_ ∧ _))
  | spawn _ _ | abort => inferInstanceAs (Decidable True)

end Step

/-- The group after a run that begins without tasks. -/
def reached (steps : List Step) : TaskGroup :=
  steps.foldl (fun group step => (group.step step).group) empty

/-- The tasks taken out during a run, in order. -/
def removed (steps : List Step) : List Task :=
  (empty.outcomes steps).flatMap Outcome.finished

/-- A run without ties: no step leaves one in the group that the steps before it reached. -/
def TieFree (steps : List Step) : Prop :=
  ∀ index (inRun : index < steps.length), steps[index].IsTieFree (reached (steps.take index))

instance (steps : List Step) : Decidable (TieFree steps) :=
  inferInstanceAs (Decidable (∀ index (inRun : index < steps.length),
    steps[index].IsTieFree (reached (steps.take index))))

/-- The task was started by a step of the run, with the next free number and at the time reached
before that step; it is aborted if an abort followed. -/
def Started (steps : List Step) (task : Task) : Prop :=
  ∃ earlier sleep panics later, steps = earlier ++ .spawn sleep panics :: later ∧
    task = ⟨earlier.countP Step.isSpawn, sleep.map ((reached earlier).clock + ·), panics,
      later.any Step.isAbort⟩

/-- How a wait for a group ends. -/
structure Settles (timeout : Nat) (group : TaskGroup) (waited : Waited) : Prop where
  /-- The time is not up exactly if all tasks end in time. -/
  inTime_iff : waited.timedOut = false ↔ ∀ task ∈ group.tasks,
    ∃ time, task.endAt? group.clock = some time ∧ time < group.clock + timeout
  /-- Then the group is empty and the clock stands at the last end, or where it stood. -/
  inTime : waited.timedOut = false → waited.group.tasks = [] ∧
    IsGreatest {time | time = group.clock ∨
      ∃ task ∈ group.tasks, task.endAt? group.clock = some time} waited.group.clock
  /-- Otherwise the tasks that end later are left at the deadline. -/
  timedOut : waited.timedOut = true → waited.group.clock = group.clock + timeout ∧
    waited.group.tasks = group.tasks.filter (·.endsAfter group.clock (group.clock + timeout))
  /-- In either case the tasks that end in time are taken out. -/
  finished : waited.finished.Perm
    (group.tasks.filter (·.endsBefore group.clock (group.clock + timeout)))

/-- What holds at every point of a run. -/
structure Accounted (steps : List Step) : Prop where
  /-- Every wait ends as its tasks end. -/
  waits : ∀ earlier timeout later, steps = earlier ++ .wait timeout :: later →
    Settles timeout (reached earlier) ((reached earlier).wait timeout)
  /-- Every task that was started is in the group or was taken out, and only once. -/
  once : ∀ earlier, earlier <+: steps →
    ((removed earlier ++ (reached earlier).tasks).map Task.number).Perm
      (List.range (earlier.countP Step.isSpawn))
  /-- The tasks in the group are as they were started and since aborted. -/
  started : ∀ earlier, earlier <+: steps → ∀ task ∈ (reached earlier).tasks, Started earlier task
  /-- So were the tasks taken out when the wait began that found them. -/
  takenOut : ∀ earlier, earlier <+: steps → ∀ task ∈ removed earlier, ∃ before timeout after,
    earlier = before ++ .wait timeout :: after ∧ Started before task
  /-- A failure was reported for each task taken out that was aborted or panicked, and for no
  other. -/
  failures : ∀ earlier, earlier <+: steps → (reached earlier).failures =
    (removed earlier).countP fun task => task.isAborted || task.panics

section Wait

variable {group : TaskGroup} {timeout : Nat}

/-- A wait for no task ends at once. -/
theorem settles_of_isEmpty (empty : group.tasks = []) :
    Settles timeout group (group.wait timeout) := by
  rw [wait, drain_of_isEmpty empty]
  exact {
    inTime_iff := by simp [empty]
    inTime := fun _ => by simp [empty, isGreatest_singleton]
    timedOut := nofun
    finished := by simp [empty] }

/-- A wait with some time takes out the tasks that end in time. -/
theorem settles_of_pos (positive : 0 < timeout)
    (noTie : ∀ task ∈ group.tasks, task.endAt? group.clock ≠ some (group.clock + timeout)) :
    Settles timeout group (group.wait timeout) := by
  have early : group.clock < group.clock + timeout := Nat.lt_add_of_pos_right positive
  have drained := drained_drain group early
  have left : (group.wait timeout).group.tasks =
      group.tasks.filter (·.endsAfter group.clock (group.clock + timeout)) := by
    refine drained.left.trans (List.filter_congr fun task inTasks => ?_)
    rw [Task.endsAfter_eq_not_endsBefore (noTie task inTasks), Task.endsBefore_eq_isDue early]
  have empty_of_inTime (inTime : (group.wait timeout).timedOut = false) :
      (group.wait timeout).group.tasks = [] := by
    by_contra nonempty
    have timedOut := drained.timedOut.2 nonempty
    rw [wait] at inTime
    rw [inTime] at timedOut
    cases timedOut
  refine ⟨?_, fun inTime => ⟨empty_of_inTime inTime, drained.clockInTime inTime⟩,
    fun timedOut => ⟨drained.clockTimedOut timedOut, left⟩, ?_⟩
  · have inTime_iff : (group.wait timeout).timedOut = false ↔
        (group.wait timeout).group.tasks = [] := by
      rw [← Bool.not_eq_true, wait, drained.timedOut, not_not]
    rw [inTime_iff, wait, drained.left, List.filter_eq_nil_iff]
    refine forall₂_congr fun task inTasks => ?_
    rw [Bool.not_eq_true', Bool.not_eq_false, ← Task.endsBefore_eq_isDue early, Task.endsBefore,
      Option.any_eq_true]
    simp only [decide_eq_true_eq]
  · have finished := drained.finished_perm (conserves_wait timeout group)
    refine finished.trans (List.Perm.of_eq (List.filter_congr fun task inTasks => ?_))
    exact (Task.endsBefore_eq_isDue early).symm

/-- A wait without ties ends as its tasks end. -/
theorem settles_wait (tieFree : (Step.wait timeout).IsTieFree group) :
    Settles timeout group (group.wait timeout) := by
  obtain ⟨noTie, atOnce⟩ := tieFree
  rcases Nat.eq_zero_or_pos timeout with isZero | positive
  · exact settles_of_isEmpty (atOnce isZero)
  · exact settles_of_pos positive noTie

end Wait

section Runs

variable {steps : List Step}

/-- The last step of a run goes on from where the others led. -/
theorem reached_append (step : Step) :
    reached (steps ++ [step]) = ((reached steps).step step).group := by
  rw [reached, List.foldl_append]
  rfl

/-- The outcomes of a run end with that of its last step. -/
theorem outcomes_append (group : TaskGroup) (step : Step) :
    group.outcomes (steps ++ [step]) = group.outcomes steps ++
      [(steps.foldl (fun group step => (group.step step).group) group).step step] := by
  induction steps generalizing group with
  | nil => rfl
  | cons first steps inductionHypothesis => exact congrArg _ (inductionHypothesis _)

/-- The last step of a run takes its tasks out last. -/
theorem removed_append (step : Step) :
    removed (steps ++ [step]) = removed steps ++ ((reached steps).step step).finished := by
  rw [removed, outcomes_append, List.flatMap_append, List.flatMap_singleton]
  rfl

/-- The tasks that were started are numbered by the steps that start one. -/
theorem started_reached (steps : List Step) :
    (reached steps).started = steps.countP Step.isSpawn := by
  induction steps using List.reverseRecOn with
  | nil => rfl
  | append_singleton steps step inductionHypothesis =>
    rw [reached_append, List.countP_append, ← inductionHypothesis]
    cases step with
    | spawn sleep panics => rfl
    | wait timeout => exact (conserves_wait _ _).started
    | abort => rfl

/-- Every task that was started is in the group or was taken out, and only once. -/
theorem perm_range (steps : List Step) :
    ((removed steps ++ (reached steps).tasks).map Task.number).Perm
      (List.range (steps.countP Step.isSpawn)) := by
  induction steps using List.reverseRecOn with
  | nil => exact .refl _
  | append_singleton steps step inductionHypothesis =>
    rw [removed_append, reached_append, List.append_assoc, List.countP_append]
    cases step with
    | spawn sleep panics =>
      have started := started_reached steps
      have numbers := inductionHypothesis.append_right [(reached steps).started]
      rw [← started] at numbers ⊢
      rw [List.map_append] at numbers
      simpa [step, spawn, Step.isSpawn, List.range_succ] using numbers
    | wait timeout =>
      have tasks := (conserves_wait timeout (reached steps)).tasks
      exact ((tasks.append_left _).map _).trans inductionHypothesis
    | abort =>
      have sameNumbers : (reached steps).abort.tasks.map Task.number =
          (reached steps).tasks.map Task.number := List.map_map
      rw [List.map_append] at inductionHypothesis
      rw [step, List.nil_append, List.map_append, sameNumbers]
      exact inductionHypothesis

/-- The failures are those of the tasks taken out. -/
theorem failures_reached (steps : List Step) :
    (reached steps).failures = (removed steps).countP Task.fails := by
  induction steps using List.reverseRecOn with
  | nil => rfl
  | append_singleton steps step inductionHypothesis =>
    rw [removed_append, reached_append, List.countP_append, ← inductionHypothesis]
    cases step with
    | spawn sleep panics => rfl
    | wait timeout => exact (conserves_wait _ _).failures
    | abort => rfl

/-- A task stays as it was started while nothing is aborted. -/
theorem Started.append {task : Task} {step : Step} (started : Started steps task)
    (noAbort : step.isAbort = false) : Started (steps ++ [step]) task := by
  obtain ⟨earlier, sleep, panics, later, rfl, rfl⟩ := started
  refine ⟨earlier, sleep, panics, later ++ [step], by simp, ?_⟩
  simp [noAbort]

/-- A task that was started may be aborted. -/
theorem Started.abort {task : Task} (started : Started steps task) :
    Started (steps ++ [.abort]) { task with isAborted := true } := by
  obtain ⟨earlier, sleep, panics, later, rfl, rfl⟩ := started
  refine ⟨earlier, sleep, panics, later ++ [.abort], by simp, ?_⟩
  simp [Step.isAbort]

/-- The tasks in the group are as they were started and since aborted. -/
theorem started_of_mem_reached (steps : List Step) :
    ∀ task ∈ (reached steps).tasks, Started steps task := by
  induction steps using List.reverseRecOn with
  | nil => exact List.forall_mem_nil _
  | append_singleton steps step inductionHypothesis =>
    rw [reached_append]
    cases step with
    | spawn sleep panics =>
      intro task inTasks
      rcases List.mem_append.1 inTasks with inEarlier | isNew
      · exact (inductionHypothesis task inEarlier).append rfl
      · refine ⟨steps, sleep, panics, [], rfl, ?_⟩
        rw [List.mem_singleton.1 isNew, started_reached]
        rfl
    | wait timeout =>
      intro task isLeft
      have tasks := (conserves_wait timeout (reached steps)).tasks
      have inEarlier := tasks.subset (List.mem_append_right _ isLeft)
      exact (inductionHypothesis task inEarlier).append rfl
    | abort =>
      intro task inTasks
      obtain ⟨before, inEarlier, rfl⟩ := List.mem_map.1 inTasks
      exact (inductionHypothesis before inEarlier).abort

/-- The tasks taken out were as they were started and since aborted when a wait found them. -/
theorem started_of_mem_removed (steps : List Step) : ∀ task ∈ removed steps,
    ∃ before timeout after, steps = before ++ .wait timeout :: after ∧ Started before task := by
  induction steps using List.reverseRecOn with
  | nil => exact List.forall_mem_nil _
  | append_singleton steps step inductionHypothesis =>
    rw [removed_append]
    intro task isRemoved
    rcases List.mem_append.1 isRemoved with removedEarlier | removedHere
    · obtain ⟨before, timeout, after, rfl, started⟩ := inductionHypothesis task removedEarlier
      exact ⟨before, timeout, after ++ [step], by simp, started⟩
    · cases step with
      | wait timeout =>
        have tasks := (conserves_wait timeout (reached steps)).tasks
        have inGroup := tasks.subset (List.mem_append_left _ removedHere)
        exact ⟨steps, timeout, [], rfl, started_of_mem_reached steps task inGroup⟩
      | spawn sleep panics => cases removedHere
      | abort => cases removedHere

/-- The accounts of every run without ties are in order. -/
theorem accounted_of_tieFree (tieFree : TieFree steps) : Accounted steps where
  waits earlier timeout later split := by
    subst split
    have tieFreeHere := tieFree earlier.length (by simp)
    simp only [List.getElem_append_right (Nat.le_refl _), Nat.sub_self, List.getElem_cons_zero,
      List.take_left] at tieFreeHere
    exact settles_wait tieFreeHere
  once earlier _ := perm_range earlier
  started earlier _ := started_of_mem_reached earlier
  takenOut earlier _ := started_of_mem_removed earlier
  failures earlier _ := failures_reached earlier

/-- A task that ends as it should and one that panics, tasks that outlive a first wait and are
aborted with one that is over already, a panic after the abort, and a wait for nothing. -/
theorem accounted_of_tieFree_at_abort :
    let steps : List Step := [.spawn (some 3) false, .spawn (some 5) true, .spawn (some 30) false,
      .spawn none true, .wait 10, .spawn (some 0) false, .abort, .spawn (some 1) true, .wait 7,
      .wait 0]
    TieFree steps ∧ (reached steps).clock = 11 ∧ (removed steps).length = 6 ∧
      (reached steps).failures = 5 ∧ Accounted steps := by
  intro steps
  have tieFree : TieFree steps := by decide +kernel
  have clock : (reached steps).clock = 11 := by decide +kernel
  have count : (removed steps).length = 6 := by decide +kernel
  have failures : (reached steps).failures = 5 := by decide +kernel
  exact ⟨tieFree, clock, count, failures, accounted_of_tieFree tieFree⟩

end Runs

end OperatorKit.TaskGroup
