import OperatorKit.Proofs.TaskGroup.Accounting

/-!
# Waits in parts

A wait may be cut into several that take as long together. The later parts go on where the earlier
ones stopped, and since a wait only ever looks for the task that ends next, its end does not tell
how often it was interrupted. It does not matter where the cuts lie, not even if a task ends there.
-/

namespace OperatorKit

variable {clock moment deadline later : Nat} {tasks : List Task}

/-- A task that ends no earlier than a moment is found at the same time from there. -/
theorem Task.finish?_eq_of_le {task : Task} (inOrder : clock ≤ moment)
    (notBefore : ∀ time, task.finish? clock = some time → moment ≤ time) :
    task.finish? moment = task.finish? clock := by
  unfold finish? at notBefore ⊢
  split
  · rename_i aborted
    have same := notBefore clock (if_pos aborted)
    rw [Nat.le_antisymm inOrder same]
  · rename_i notAborted
    cases ending : task.ending with
    | none => rfl
    | some time =>
      have atEnd := notBefore (max clock time) (by rw [if_neg notAborted, ending, Option.map_some])
      simp only [Option.map_some, Option.some.injEq]
      omega

/-- The earliest of tasks that are found at the same times is the same. -/
theorem earliest?_congr
    (same : ∀ task ∈ tasks, task.finish? moment = task.finish? clock) :
    earliest? moment tasks = earliest? clock tasks := by
  induction tasks with
  | nil => rfl
  | cons task tasks inductionHypothesis =>
    rw [List.forall_mem_cons] at same
    rw [earliest?, earliest?, same.1, inductionHypothesis same.2]

namespace TaskGroup

/-- The second run takes the steps of the first, but with waits cut into some that take as long
together. -/
inductive CutInto : List Step → List Step → Prop where
  | nil : CutInto [] []
  | keep {steps parts : List Step} (step : Step) (rest : CutInto steps parts) :
      CutInto (step :: steps) (step :: parts)
  | cut {steps parts : List Step} (first second : Nat)
      (rest : CutInto (.wait second :: steps) parts) :
      CutInto (.wait (first + second) :: steps) (.wait first :: parts)

variable {group : TaskGroup} {finished : Finished}

/-- A wait for tasks that never end is given up at the deadline. -/
theorem drain_of_none (group : TaskGroup) (nonempty : group.tasks ≠ [])
    (nothing : earliest? group.clock group.tasks = none) :
    group.drain deadline = ⟨{ group with clock := deadline }, [], true⟩ := by
  rw [drain, if_neg (by simpa using nonempty)]
  split
  · rfl
  · rename_i found
    rw [nothing] at found
    cases found

/-- A group in which something is found has tasks. -/
theorem ne_nil_of_earliest? (found : earliest? group.clock group.tasks = some finished) :
    group.tasks ≠ [] := by
  intro empty
  rw [empty] at found
  cases found

/-- A task that is found in time is taken out, and the wait goes on for the others. -/
theorem drain_of_inTime (group : TaskGroup)
    (found : earliest? group.clock group.tasks = some finished)
    (inTime : finished.time < deadline) : group.drain deadline =
      { (group.takeOut finished).drain deadline with
        finished := finished.task :: ((group.takeOut finished).drain deadline).finished } := by
  rw [drain, if_neg (by simpa using ne_nil_of_earliest? found)]
  split
  · rename_i nothing
    rw [found] at nothing
    cases nothing
  · rename_i foundAgain
    rw [found] at foundAgain
    cases foundAgain
    rw [if_pos inTime]

/-- A wait whose first task is found too late is given up at the deadline. -/
theorem drain_of_late (group : TaskGroup)
    (found : earliest? group.clock group.tasks = some finished)
    (late : ¬ finished.time < deadline) :
    group.drain deadline = ⟨{ group with clock := deadline }, [], true⟩ := by
  rw [drain, if_neg (by simpa using ne_nil_of_earliest? found)]
  split
  · rfl
  · rename_i foundAgain
    rw [found] at foundAgain
    cases foundAgain
    rw [if_neg late]

/-- A wait may begin as well at any moment before which no task ends. -/
theorem drain_from (nonempty : group.tasks ≠ []) (inOrder : group.clock ≤ moment)
    (notBefore : ∀ task ∈ group.tasks, ∀ time,
      task.finish? group.clock = some time → moment ≤ time) :
    drain deadline { group with clock := moment } = group.drain deadline := by
  have same : earliest? moment group.tasks = earliest? group.clock group.tasks :=
    earliest?_congr fun task inTasks => Task.finish?_eq_of_le inOrder (notBefore task inTasks)
  let moved := { group with clock := moment }
  cases found : earliest? group.clock group.tasks with
  | none => rw [drain_of_none group nonempty found, drain_of_none moved nonempty (same.trans found)]
  | some finished =>
    by_cases inTime : finished.time < deadline
    · rw [drain_of_inTime group found inTime, drain_of_inTime moved (same.trans found) inTime]
      rfl
    · rw [drain_of_late group found inTime, drain_of_late moved (same.trans found) inTime]

/-- Waiting until a deadline and then until a later one is waiting until the later one. -/
theorem drain_drain (inOrder : group.clock ≤ deadline) (later_le : deadline ≤ later) :
    group.drain later =
      { (group.drain deadline).group.drain later with
        finished := (group.drain deadline).finished ++
          ((group.drain deadline).group.drain later).finished } := by
  -- Both waits find the same tasks up to the first deadline. Where the first is given up, the second
  -- begins at a later clock than the whole wait has, but before any other task ends.
  fun_induction drain deadline group with
  | case1 group empty => rfl
  | case2 group nonempty nothing =>
    rw [drain_from (by simpa using nonempty) inOrder]
    · rfl
    · intro task inTasks time found
      rw [finish?_of_earliest?_eq_none nothing task inTasks] at found
      cases found
  | case3 group nonempty finished found inTime waited inductionHypothesis =>
    rw [drain_of_inTime group found (Nat.lt_of_lt_of_le inTime later_le),
      inductionHypothesis (Nat.le_of_lt inTime)]
    rfl
  | case4 group nonempty finished found late =>
    have earliest := isEarliest_of_earliest? found
    rw [drain_from (by simpa using nonempty) inOrder]
    · rfl
    · intro task inTasks time foundTask
      exact Nat.le_trans (Nat.le_of_not_lt late) (earliest.first task inTasks time foundTask)

/-- When a wait ends no task is left, or the clock stands at the deadline. -/
theorem empty_or_clock_drain (deadline : Nat) (group : TaskGroup) :
    (group.drain deadline).group.tasks = [] ∨ (group.drain deadline).group.clock = deadline := by
  fun_induction drain deadline group with
  | case1 group empty => exact Or.inl (List.isEmpty_iff.1 empty)
  | case2 | case4 => exact Or.inr rfl
  | case3 group nonempty finished found inTime waited inductionHypothesis =>
    exact inductionHypothesis

/-- A wait is two waits that take as long together. -/
theorem wait_add (group : TaskGroup) (first second : Nat) :
    group.wait (first + second) =
      { (group.wait first).group.wait second with
        finished := (group.wait first).finished ++
          ((group.wait first).group.wait second).finished } := by
  have early : group.clock ≤ group.clock + first := Nat.le_add_right _ _
  have whole := drain_drain early (Nat.le_add_right (group.clock + first) second)
  have rest : (group.wait first).group.wait second =
      (group.wait first).group.drain (group.clock + first + second) := by
    rcases empty_or_clock_drain (group.clock + first) group with empty | atDeadline
    · exact (drain_of_isEmpty empty).trans (drain_of_isEmpty empty).symm
    · rw [wait, wait, atDeadline]
  rw [rest, wait, ← Nat.add_assoc]
  exact whole

/-- From every group a run with waits cut takes out the same tasks and leads to the same group. -/
theorem CutInto.sameRun {steps parts : List Step} (cutInto : CutInto steps parts)
    (group : TaskGroup) :
    (group.outcomes parts).flatMap Outcome.finished =
        (group.outcomes steps).flatMap Outcome.finished ∧
      parts.foldl (fun group step => (group.step step).group) group =
        steps.foldl (fun group step => (group.step step).group) group := by
  induction cutInto generalizing group with
  | nil => exact ⟨rfl, rfl⟩
  | keep step rest inductionHypothesis =>
    obtain ⟨sameFinished, sameEnd⟩ := inductionHypothesis (group.step step).group
    simp only [outcomes, List.flatMap_cons, List.foldl_cons, sameFinished, sameEnd, and_self]
  | cut first second rest inductionHypothesis =>
    obtain ⟨sameFinished, sameEnd⟩ := inductionHypothesis (group.wait first).group
    simp only [outcomes, step, List.flatMap_cons, List.foldl_cons] at sameFinished sameEnd ⊢
    simp only [sameFinished, sameEnd, wait_add, List.append_assoc, and_self]

/-- Two waits leave the group that one of the same length leaves, and the second returns what the
one returns. So a run with its waits cut, however often, takes out the same tasks and leads to the
same group. -/
theorem waits_cut :
    (∀ (group : TaskGroup) (first second : Nat),
      let rest := (group.wait first).group.wait second
      let whole := group.wait (first + second)
      rest.group = whole.group ∧ rest.timedOut = whole.timedOut) ∧
    ∀ steps parts, CutInto steps parts →
      removed parts = removed steps ∧ reached parts = reached steps := by
  refine ⟨fun group first second => ?_, fun steps parts cutInto => cutInto.sameRun empty⟩
  intro rest whole
  have isWhole : whole = _ := wait_add group first second
  rw [isWhole]
  exact ⟨rfl, rfl⟩

end TaskGroup

end OperatorKit
