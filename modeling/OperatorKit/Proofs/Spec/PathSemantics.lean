import OperatorKit.Proofs.Spec.Overlay
import OperatorKit.Proofs.Spec.Paths

/-!
# What a merge resolves at each path

`FilledAt` says which value a result has at a path from what both sides have there: it names the
first place on the path at which the changed document has no object, and never looks at a whole
value or at the order of keys. `filledAt_iff_eq_merge` shows that the merge, and nothing but the
merge, follows these rules on all paths.
-/

namespace OperatorKit.Spec

open OperatorKit.Json

namespace Document

/-- `stop` is the shortest non-empty beginning of `path` at which the document has no object. -/
structure StopsAt (document : Document) (path stop : Value.Path) : Prop where
  nonempty : stop ≠ []
  beginning : stop <+: path
  noObject : ¬ document.HasObjectAt stop
  shortest : ∀ other, other ≠ [] → other <+: path → ¬ document.HasObjectAt other →
    stop.length ≤ other.length

/-- Where the first entry is no object, every path stops at its first key. -/
theorem stopsAt_singleton {document : Document} {key : String}
    (notObject : ∀ inner, document.entry key ≠ .object inner) (path : Value.Path) :
    document.StopsAt (key :: path) [key] where
  nonempty := List.cons_ne_nil _ _
  beginning := ⟨path, rfl⟩
  noObject := fun hasObject => by
    obtain ⟨inner, isObject⟩ := exists_object_of_hasObjectAt hasObject
    exact notObject inner isObject
  shortest := fun other nonempty _ _ => List.length_pos_iff.2 nonempty

/-- A path stops in one place only. -/
theorem StopsAt.unique {document : Document} {path first second : Value.Path}
    (left : document.StopsAt path first) (right : document.StopsAt path second) :
    first = second := by
  have lengths : first.length = second.length :=
    Nat.le_antisymm
      (left.shortest _ right.nonempty right.beginning right.noObject)
      (right.shortest _ left.nonempty left.beginning left.noObject)
  exact (List.prefix_of_prefix_length_le left.beginning right.beginning
    (Nat.le_of_eq lengths)).eq_of_length lengths

/-- A path that stops somewhere is not empty. -/
theorem StopsAt.path_ne_nil {document : Document} {path stop : Value.Path}
    (stops : document.StopsAt path stop) : path ≠ [] := by
  rintro rfl
  exact stops.nonempty (List.prefix_nil.1 stops.beginning)

/-- A path through an object stops where it stops inside. -/
theorem stopsAt_cons {document inner : Document} {key : String} {path stop : Value.Path}
    (isObject : document.entry key = .object inner) :
    document.StopsAt (key :: path) stop ↔
      ∃ rest, stop = key :: rest ∧ inner.StopsAt path rest := by
  constructor
  · intro stops
    obtain ⟨rest, rfl, beginning⟩ := exists_of_beginning stops.nonempty stops.beginning
    have noObject : ¬ inner.HasObjectAt rest := fun hasObject =>
      stops.noObject ((hasObjectAt_cons isObject rest).2 hasObject)
    refine ⟨rest, rfl, ?_, beginning, noObject, ?_⟩
    · rintro rfl
      exact noObject (hasObjectAt_nil inner)
    · intro other _ otherBeginning otherNoObject
      have shorter := stops.shortest (key :: other) (List.cons_ne_nil _ _)
        (List.cons_prefix_cons.2 ⟨rfl, otherBeginning⟩)
        (fun hasObject => otherNoObject ((hasObjectAt_cons isObject other).1 hasObject))
      exact Nat.le_of_succ_le_succ shorter
  · rintro ⟨rest, rfl, stops⟩
    refine ⟨List.cons_ne_nil _ _, List.cons_prefix_cons.2 ⟨rfl, stops.beginning⟩, ?_, ?_⟩
    · intro hasObject
      exact stops.noObject ((hasObjectAt_cons isObject rest).1 hasObject)
    · intro other nonempty beginning noObject
      obtain ⟨otherRest, rfl, otherBeginning⟩ := exists_of_beginning nonempty beginning
      have restNoObject : ¬ inner.HasObjectAt otherRest := fun hasObject =>
        noObject ((hasObjectAt_cons isObject otherRest).2 hasObject)
      have restNonempty : otherRest ≠ [] := by
        rintro rfl
        exact restNoObject (hasObjectAt_nil inner)
      exact Nat.succ_le_succ
        (stops.shortest otherRest restNonempty otherBeginning restNoObject)

end Document

/-- What a result has at a path, from the first place on it at which the changed document has no
object: nothing there, a `null` or a leaf. -/
structure FilledAt (default changed result : Document) (path : Value.Path) : Prop where
  /-- A path that never leaves the objects of the changed document leads to an object. -/
  ofObject : (¬ ∃ stop, changed.StopsAt path stop) → result.HasObjectAt path
  /-- A leaf stays as it is, and nothing lies below it. -/
  ofLeaf : ∀ stop value, changed.StopsAt path stop → changed.at? stop = some value →
    value.IsLeaf → result.at? stop = some value ∧ (path ≠ stop → result.at? path = none)
  /-- A `null` gives way to whatever the default has there, and stays if it has nothing. -/
  ofNull : ∀ stop, changed.StopsAt path stop → changed.at? stop = some .null →
    ((default.at? stop).isSome → result.at? path = default.at? path) ∧
      (default.at? stop = none → result.at? stop = some .null)
  /-- From a place at which nothing is said the default decides. -/
  ofMissing : ∀ stop, changed.StopsAt path stop → changed.at? stop = none →
    result.at? path = default.at? path

namespace FilledAt

open Document

variable {default changed result : Document} {path stop : Value.Path}

/-- A path stops in one place only, so the rules for a stop are shown for that place alone. -/
theorem of_stopsAt (stops : changed.StopsAt path stop)
    (ofLeaf : ∀ value, changed.at? stop = some value → value.IsLeaf →
      result.at? stop = some value ∧ (path ≠ stop → result.at? path = none))
    (ofNull : changed.at? stop = some .null →
      ((default.at? stop).isSome → result.at? path = default.at? path) ∧
        (default.at? stop = none → result.at? stop = some .null))
    (ofMissing : changed.at? stop = none → result.at? path = default.at? path) :
    FilledAt default changed result path where
  ofObject := fun goesOn => absurd ⟨stop, stops⟩ goesOn
  ofLeaf := fun other value otherStops => by
    rw [otherStops.unique stops]
    exact ofLeaf value
  ofNull := fun other otherStops => by
    rw [otherStops.unique stops]
    exact ofNull
  ofMissing := fun other otherStops => by
    rw [otherStops.unique stops]
    exact ofMissing

/-- The rules hold on a path through objects if they hold inside them. -/
theorem cons {key : String} {changedInner resultInner : Document}
    (changedObject : changed.entry key = .object changedInner)
    (resultObject : result.entry key = .object resultInner)
    (inside : FilledAt (default.entry key).inner changedInner resultInner path) :
    FilledAt default changed result (key :: path) where
  ofObject := fun goesOn => by
    rw [hasObjectAt_cons resultObject]
    apply inside.ofObject
    rintro ⟨stop, stops⟩
    exact goesOn ⟨key :: stop, (stopsAt_cons changedObject).2 ⟨stop, rfl, stops⟩⟩
  ofLeaf := fun stop value stops found isLeaf => by
    obtain ⟨rest, rfl, stopsInside⟩ := (stopsAt_cons changedObject).1 stops
    rw [at?_cons_of_object changedObject] at found
    rw [at?_cons_of_object resultObject, at?_cons_of_object resultObject]
    obtain ⟨kept, nothingBelow⟩ := inside.ofLeaf rest value stopsInside found isLeaf
    exact ⟨kept, fun longer => nothingBelow fun equal => longer (congrArg _ equal)⟩
  ofNull := fun stop stops found => by
    obtain ⟨rest, rfl, stopsInside⟩ := (stopsAt_cons changedObject).1 stops
    rw [at?_cons_of_object changedObject] at found
    rw [at?_cons_of_object resultObject, at?_cons_of_object resultObject,
      at?_cons_of_ne_nil default key stopsInside.nonempty,
      at?_cons_of_ne_nil default key stopsInside.path_ne_nil]
    exact inside.ofNull rest stopsInside found
  ofMissing := fun stop stops found => by
    obtain ⟨rest, rfl, stopsInside⟩ := (stopsAt_cons changedObject).1 stops
    rw [at?_cons_of_object changedObject] at found
    rw [at?_cons_of_object resultObject, at?_cons_of_ne_nil default key stopsInside.path_ne_nil]
    exact inside.ofMissing rest stopsInside found

end FilledAt

/-- The merge follows the rules at every path. -/
theorem filledAt_merge (default changed : Document) (path : Value.Path) :
    FilledAt default changed (default.merge changed) path := by
  induction path generalizing default changed with
  | nil =>
    exact {
      ofObject := fun _ => Document.hasObjectAt_nil _
      ofLeaf := fun _ _ stops => absurd rfl stops.path_ne_nil
      ofNull := fun _ stops => absurd rfl stops.path_ne_nil
      ofMissing := fun _ stops => absurd rfl stops.path_ne_nil }
  | cons key path inductionHypothesis =>
    have merged := Document.entry_merge default changed key
    cases entry : changed.entry key with
    | object inner =>
      rw [entry, Entry.fill_object] at merged
      exact FilledAt.cons entry merged (inductionHypothesis _ inner)
    | missing =>
      rw [entry, Entry.fill_missing] at merged
      apply FilledAt.of_stopsAt (Document.stopsAt_singleton (by simp [entry]) path)
      · simp [entry, Entry.value?]
      · simp [entry, Entry.value?]
      · intro _
        exact Document.at?_cons_of_entry_eq merged path
    | null =>
      rw [entry] at merged
      apply FilledAt.of_stopsAt (Document.stopsAt_singleton (by simp [entry]) path)
      · rintro value found ⟨notNull, -⟩
        rw [Document.at?_singleton, entry] at found
        cases found
        exact absurd rfl notNull
      · intro _
        rw [Document.at?_singleton, Document.at?_singleton, merged]
        constructor
        · intro present
          have notMissing : default.entry key ≠ .missing := fun missing => by
            simp [missing, Entry.value?] at present
          rw [Entry.fill_null notMissing] at merged
          exact Document.at?_cons_of_entry_eq merged path
        · intro nothing
          rw [Entry.value?_eq_none.1 nothing, Entry.missing_fill]
          rfl
      · simp [entry, Entry.value?]
    | leaf value isLeaf =>
      rw [entry, Entry.fill_leaf] at merged
      apply FilledAt.of_stopsAt (Document.stopsAt_singleton (by simp [entry]) path)
      · intro other found _
        rw [Document.at?_singleton, entry] at found
        cases found
        have kept : (default.merge changed).at? [key] = some value := by
          rw [Document.at?_singleton, merged, Entry.value?]
        refine ⟨kept, fun longer => ?_⟩
        have below : path ≠ [] := fun empty => longer (empty ▸ rfl)
        exact Document.at?_append_of_not_isObject kept isLeaf.2 below
      · intro found
        rw [Document.at?_singleton, entry] at found
        cases found
        exact absurd rfl isLeaf.1
      · simp [entry, Entry.value?]

/-- The rules leave no choice: two results that follow them resolve the path alike, up to what is
inside an object. -/
theorem FilledAt.determined {default changed left right : Document} {path : Value.Path}
    (leftFilled : FilledAt default changed left path)
    (rightFilled : FilledAt default changed right path) :
    left.at? path = right.at? path ∨ left.HasObjectAt path ∧ right.HasObjectAt path := by
  by_cases goesOn : ∃ stop, changed.StopsAt path stop
  · obtain ⟨stop, stops⟩ := goesOn
    left
    obtain ⟨back, atBack⟩ := stops.beginning
    cases found : changed.at? stop with
    | none => rw [leftFilled.ofMissing stop stops found, rightFilled.ofMissing stop stops found]
    | some value =>
      cases kind : value.kind with
      | object => exact absurd ⟨value, found, kind⟩ stops.noObject
      | null =>
        have isNull : value = .null := by cases value <;> first | rfl | cases kind
        rw [isNull] at found
        obtain ⟨leftPresent, leftAbsent⟩ := leftFilled.ofNull stop stops found
        obtain ⟨rightPresent, rightAbsent⟩ := rightFilled.ofNull stop stops found
        cases atDefault : default.at? stop with
        | some other =>
          rw [leftPresent (by simp [atDefault]), rightPresent (by simp [atDefault])]
        | none =>
          have leftNull := leftAbsent atDefault
          have rightNull := rightAbsent atDefault
          cases back with
          | nil =>
            rw [List.append_nil] at atBack
            rw [← atBack, leftNull, rightNull]
          | cons key back =>
            rw [← atBack, Document.at?_append_of_not_isObject leftNull Value.not_isObject_null
                (List.cons_ne_nil key back),
              Document.at?_append_of_not_isObject rightNull Value.not_isObject_null
                (List.cons_ne_nil key back)]
      | boolean | number | string | array =>
        have isLeaf : value.IsLeaf := by simp [Value.IsLeaf, kind]
        obtain ⟨leftKept, leftBelow⟩ := leftFilled.ofLeaf stop value stops found isLeaf
        obtain ⟨rightKept, rightBelow⟩ := rightFilled.ofLeaf stop value stops found isLeaf
        by_cases here : path = stop
        · rw [here, leftKept, rightKept]
        · rw [leftBelow here, rightBelow here]
  · exact Or.inr ⟨leftFilled.ofObject goesOn, rightFilled.ofObject goesOn⟩

/-- Documents that resolve all paths alike, up to what is inside an object, are the same. -/
theorem Document.ext_at? {left right : Document}
    (alike : ∀ path, path ≠ [] →
      left.at? path = right.at? path ∨ left.HasObjectAt path ∧ right.HasObjectAt path) :
    left = right := by
  induction left using Document.entryInduction generalizing right with
  | step left inductionHypothesis =>
    apply Document.ext_entry
    intro key
    rcases alike [key] (List.cons_ne_nil _ _) with same | ⟨leftObject, rightObject⟩
    · rw [Document.at?_singleton, Document.at?_singleton] at same
      exact Entry.ext_value? same
    · obtain ⟨leftInner, leftEntry⟩ := Document.exists_object_of_hasObjectAt leftObject
      obtain ⟨rightInner, rightEntry⟩ := Document.exists_object_of_hasObjectAt rightObject
      have sameInner : leftInner = rightInner := by
        apply inductionHypothesis key leftInner leftEntry
        intro path _
        have inside := alike (key :: path) (List.cons_ne_nil _ _)
        rwa [Document.at?_cons_of_object leftEntry, Document.at?_cons_of_object rightEntry,
          Document.hasObjectAt_cons leftEntry, Document.hasObjectAt_cons rightEntry] at inside
      rw [leftEntry, rightEntry, sameInner]

/-- A result is the merge of two documents exactly if it follows the rules at every path that is not
empty. -/
theorem filledAt_iff_eq_merge (default changed result : Document) :
    (∀ path, path ≠ [] → FilledAt default changed result path) ↔ result = default.merge changed := by
  constructor
  · intro filled
    apply Document.ext_at?
    intro path nonempty
    exact (filled path nonempty).determined (filledAt_merge default changed path)
  · rintro rfl path _
    exact filledAt_merge default changed path

end OperatorKit.Spec
