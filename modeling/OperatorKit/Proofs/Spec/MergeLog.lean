import Mathlib.Data.Finset.Card
import Mathlib.Data.List.Pairwise
import Mathlib.Tactic.Choose
import OperatorKit.Proofs.Spec.Notes
import OperatorKit.Proofs.Spec.Paths
import OperatorKit.Proofs.Text.ByteOrder

/-!
# What a merge reports

`Reported` says at which paths a merge reports something, and what, from the values that both sides
have there. The events of a merge are these, each place once and in the order of their paths, and
then one with the numbers of keys. A merge that reports no filling has left the changed document as
it was, and the other way round.
-/

namespace OperatorKit.Spec

open OperatorKit.Text OperatorKit.Json

/-- The order of paths: by the first keys that differ, and these by their bytes. -/
def Before : (left right : Value.Path) → Prop :=
  List.Lex fun left right => Utf8.encode left.toList < Utf8.encode right.toList

/-- What is reported of a place with this last key, from the values that both sides have there. -/
inductive ReportedFor (key : String) : (default changed : Option Value) → Event → Prop where
  | missing {value : Value} : ReportedFor key (some value) none
      ⟨.trace, "Filling missing key from default", [("key", key)]⟩
  | null {value : Value} (set : value ≠ .null) : ReportedFor key (some value) (some .null)
      ⟨.trace, "Filling null key from default", [("key", key)]⟩
  | kept {value kept : Value} (isObject : value.IsObject) (isLeaf : kept.IsLeaf) :
      ReportedFor key (some value) (some kept) ⟨.trace, "Keeping changed value over default object",
        [("key", key), ("changed", kept.kind.name)]⟩

/-- At this path a merge reports this event: the changed document leads there, and the values that
both sides have there call for the event. -/
structure Reported (default changed : Document) (path : Value.Path) (event : Event) : Prop where
  leadsThere : changed.LeadsTo path
  values : ∃ key, path.getLast? = some key ∧
    ReportedFor key (default.at? path) (changed.at? path) event

/-- The events are those reported at all paths, one after the other in the order of the paths. -/
def Tells (reported : Value.Path → Event → Prop) (events : List Event) : Prop :=
  ∃ places : List (Value.Path × Event), places.map Prod.snd = events ∧
    places.Pairwise (fun left right => Before left.1 right.1) ∧
    ∀ path event, (path, event) ∈ places ↔ reported path event

/-- The event with the numbers of keys at the top of both sides, and of the keys of either side. -/
def keyCounts (default changed : Document) : Event :=
  let count (keys : Finset String) := toString keys.card
  ⟨.debug, "Merged spec", [("default_keys", count default.keys.toFinset),
    ("changed_keys", count changed.keys.toFinset),
    ("merged_keys", count (default.keys.toFinset ∪ changed.keys.toFinset))]⟩

/-- What the events of a merge tell. -/
structure IsMergeLog (default changed : Document) (events : List Event) : Prop where
  /-- All that is to be reported is told in order, and then the numbers of keys. -/
  complete : ∃ traces, Tells (Reported default changed) traces ∧
    events = traces ++ [keyCounts default changed]
  /-- The changed document is the result exactly if no filling is among the events. -/
  unchanged_iff : default.merge changed = changed ↔
    ∀ event ∈ events, event.message ≠ "Filling missing key from default" ∧
      event.message ≠ "Filling null key from default"

section Tells

variable {reported other : Value.Path → Event → Prop} {events : List Event}

/-- The same events are told of what is reported alike. -/
theorem Tells.congr (tells : Tells reported events)
    (alike : ∀ path event, other path event ↔ reported path event) : Tells other events := by
  obtain ⟨places, told, ordered, complete⟩ := tells
  exact ⟨places, told, ordered, fun path event => (complete path event).trans (alike path event).symm⟩

/-- At most one event can be told of a single place. -/
theorem tells_of_place (few : events.length ≤ 1)
    (here : ∀ path event, reported path event ↔ path = [] ∧ event ∈ events) :
    Tells reported events := by
  refine ⟨events.map fun event => ([], event), ?_, ?_, ?_⟩
  · rw [List.map_map]
    exact List.map_id events
  · match events, few with
    | [], _ => exact .nil
    | [event], _ => exact List.pairwise_singleton _ _
  · intro path event
    rw [here, List.mem_map]
    constructor
    · rintro ⟨_, member, same⟩
      cases same
      exact ⟨rfl, member⟩
    · rintro ⟨rfl, member⟩
      exact ⟨event, member, rfl⟩

/-- What is told of the places behind each of ascending keys is told of all of them. -/
theorem tells_flatMap {keys : List String} (ascending : keys.Pairwise (· < ·))
    {reported : String → Value.Path → Event → Prop} {events : String → List Event}
    (each : ∀ key, Tells (reported key) (events key)) :
    Tells (fun path event => ∃ key ∈ keys, ∃ rest, path = key :: rest ∧ reported key rest event)
      (keys.flatMap events) := by
  choose places told ordered complete using each
  refine ⟨keys.flatMap fun key => (places key).map fun place => (key :: place.1, place.2), ?_, ?_, ?_⟩
  · rw [List.map_flatMap]
    apply List.flatMap_congr
    intro key _
    rw [List.map_map]
    exact told key
  · rw [List.pairwise_flatMap]
    constructor
    · intro key _
      rw [List.pairwise_map]
      exact (ordered key).imp fun earlier => List.Lex.cons earlier
    · apply ascending.imp
      intro left right smaller leftPlace inLeft rightPlace inRight
      obtain ⟨_, -, rfl⟩ := List.mem_map.1 inLeft
      obtain ⟨_, -, rfl⟩ := List.mem_map.1 inRight
      exact List.Lex.rel (Utf8.encode_lt_encode (String.lt_iff.1 smaller))
  · intro path event
    simp only [List.mem_flatMap, List.mem_map, Prod.mk.injEq, Prod.exists, complete]
    constructor
    · rintro ⟨key, isKey, rest, _, reportedThere, rfl, rfl⟩
      exact ⟨key, isKey, rest, rfl, reportedThere⟩
    · rintro ⟨key, isKey, rest, rfl, reportedThere⟩
      exact ⟨key, isKey, rest, event, reportedThere, rfl, rfl⟩

end Tells

section Reported

variable {default changed : Document} {key : String} {path : Value.Path} {event : Event}

/-- Something is reported only behind a key of the default. -/
theorem Reported.exists_key (reported : Reported default changed path event) :
    ∃ key ∈ default.keys, ∃ rest, path = key :: rest := by
  obtain ⟨-, last, atLast, values⟩ := reported
  cases path with
  | nil => cases atLast
  | cons key rest =>
    refine ⟨key, Document.mem_keys_iff.2 fun missing => ?_, rest, rfl⟩
    have asInEmpty : default.entry key = Document.empty.entry key := by
      rw [missing, Document.entry_empty]
    rw [Document.at?_cons_of_entry_eq asInEmpty] at values
    cases values

/-- Where the changed document has no object nothing is reported further down. -/
theorem Reported.eq_nil (reported : Reported default changed (key :: path) event)
    (notObject : ∀ inner, changed.entry key ≠ .object inner) : path = [] := by
  by_contra further
  have hasObject := reported.leadsThere [key] (List.cons_ne_nil _ _) ⟨path, rfl⟩
    fun equal => further (List.cons.inj equal).2.symm
  obtain ⟨inner, isObject⟩ := Document.exists_object_of_hasObjectAt hasObject
  exact notObject inner isObject

/-- What is reported at a key depends on the two entries there. -/
theorem reported_singleton : Reported default changed [key] event ↔
    ReportedFor key (default.entry key).value? (changed.entry key).value? event := by
  rw [← Document.at?_singleton, ← Document.at?_singleton]
  constructor
  · rintro ⟨-, last, atLast, values⟩
    cases atLast
    exact values
  · intro values
    exact ⟨Document.leadsTo_singleton changed key, key, rfl, values⟩

/-- Nothing is reported of a place at which the changed document has an object. -/
theorem not_reportedFor_object {value? : Option Value} (inner : Document) :
    ¬ ReportedFor key value? (some inner.toValue) event := by
  intro values
  cases values with
  | kept isObject isLeaf => exact isLeaf.2 rfl

/-- Inside objects of both sides a merge reports what it reports of these. -/
theorem reported_cons {defaultInner changedInner : Document}
    (defaultObject : default.entry key = .object defaultInner)
    (changedObject : changed.entry key = .object changedInner) :
    Reported default changed (key :: path) event ↔ Reported defaultInner changedInner path event := by
  cases path with
  | nil =>
    rw [reported_singleton, changedObject]
    constructor
    · intro values
      exact absurd values (not_reportedFor_object changedInner)
    · rintro ⟨-, last, atLast, -⟩
      cases atLast
  | cons next path =>
    have values := fun document inner (isObject : Document.entry document key = .object inner) =>
      Document.at?_cons_of_object isObject (next :: path)
    constructor
    · rintro ⟨leads, last, atLast, reported⟩
      rw [values _ _ defaultObject, values _ _ changedObject] at reported
      exact ⟨(Document.leadsTo_cons changedObject).1 leads, last, atLast, reported⟩
    · rintro ⟨leads, last, atLast, reported⟩
      rw [← values _ _ defaultObject, ← values _ _ changedObject] at reported
      exact ⟨(Document.leadsTo_cons changedObject).2 leads, last, atLast, reported⟩

/-- Inside an object nothing is reported if the default has none there. -/
theorem not_reported_cons {inner : Document} (notObject : (default.entry key).inner = .empty)
    (changedObject : changed.entry key = .object inner) :
    ¬ Reported default changed (key :: path) event := by
  intro reported
  cases path with
  | nil =>
    rw [reported_singleton, changedObject] at reported
    exact not_reportedFor_object inner reported
  | cons next path =>
    obtain ⟨-, last, -, values⟩ := reported
    rw [Document.at?_cons_of_ne_nil default key (List.cons_ne_nil next path), notObject] at values
    cases values

/-- A missing value is reported as filled. -/
theorem reportedFor_missing {value : Value} :
    ReportedFor key (some value) none event ↔ event = (Note.filledMissing key).event := by
  constructor
  · rintro ⟨⟩
    rfl
  · rintro rfl
    exact .missing

/-- A `null` is reported as filled with anything else. -/
theorem reportedFor_null {value : Value} : ReportedFor key (some value) (some .null) event ↔
    value ≠ .null ∧ event = (Note.filledNull key).event := by
  constructor
  · intro values
    cases values with
    | null set => exact ⟨set, rfl⟩
    | kept isObject isLeaf => exact absurd rfl isLeaf.1
  · rintro ⟨set, rfl⟩
    exact .null set

/-- A leaf is reported as kept over an object. -/
theorem reportedFor_leaf {value kept : Value} (isLeaf : kept.IsLeaf) :
    ReportedFor key (some value) (some kept) event ↔
      value.IsObject ∧ event = (Note.keptOverObject key kept.kind).event := by
  constructor
  · intro values
    cases values with
    | null set => exact absurd rfl isLeaf.1
    | kept isObject isLeaf => exact ⟨isObject, rfl⟩
  · rintro ⟨isObject, rfl⟩
    exact .kept isObject isLeaf

/-- What is reported of two entries is what is noted on them, if the changed one is no object. -/
theorem reportedFor_iff {default changed : Entry} (notObject : ∀ inner, changed ≠ .object inner) :
    ReportedFor key default.value? changed.value? event ↔
      event ∈ (default.notes key changed).map Note.event := by
  cases default with
  | missing =>
    refine iff_of_false nofun ?_
    simp [Entry.notes]
  | null =>
    cases changed with
    | missing => simp [Entry.value?, Entry.notes, reportedFor_missing]
    | null => simp [Entry.value?, Entry.notes, reportedFor_null]
    | leaf kept isLeaf =>
      simp [Entry.value?, Entry.notes, reportedFor_leaf isLeaf, Value.not_isObject_null]
    | object inner => exact absurd rfl (notObject inner)
  | leaf value valueIsLeaf =>
    have notNull : value ≠ .null := fun equal => valueIsLeaf.1 (equal ▸ rfl)
    have notIsObject : ¬ value.IsObject := valueIsLeaf.2
    cases changed with
    | missing => simp [Entry.value?, Entry.notes, reportedFor_missing]
    | null => simp [Entry.value?, Entry.notes, reportedFor_null, notNull]
    | leaf kept isLeaf => simp [Entry.value?, Entry.notes, reportedFor_leaf isLeaf, notIsObject]
    | object inner => exact absurd rfl (notObject inner)
  | object defaultInner =>
    have notNull : defaultInner.toValue ≠ .null := Value.noConfusion
    have isObject : defaultInner.toValue.IsObject := rfl
    cases changed with
    | missing => simp [Entry.value?, Entry.notes, reportedFor_missing]
    | null => simp [Entry.value?, Entry.notes, reportedFor_null, notNull]
    | leaf kept isLeaf => simp [Entry.value?, Entry.notes, reportedFor_leaf isLeaf, isObject]
    | object inner => exact absurd rfl (notObject inner)

/-- Where the changed document has no object, a merge tells what it notes there. -/
theorem tells_entry (notObject : ∀ inner, changed.entry key ≠ .object inner) :
    Tells (fun path event => Reported default changed (key :: path) event)
      (((default.entry key).notes key (changed.entry key)).map Note.event) := by
  apply tells_of_place
  · rw [List.length_map]
    cases changedEntry : changed.entry key with
    | object inner => exact absurd changedEntry (notObject inner)
    | missing | null | leaf _ _ => cases default.entry key <;> simp [Entry.notes]
  · intro path event
    rw [← reportedFor_iff notObject, ← reported_singleton]
    constructor
    · intro reported
      obtain rfl := reported.eq_nil notObject
      exact ⟨rfl, reported⟩
    · rintro ⟨rfl, reported⟩
      exact reported

end Reported

/-- The notes of a merge tell all that there is to be reported. -/
theorem tells_notes (default changed : Document) :
    Tells (Reported default changed) ((default.fill changed).notes.map Note.event) := by
  induction changed using Document.entryInduction generalizing default with
  | step changed inductionHypothesis =>
    have each (key : String) :
        Tells (fun path event => Reported default changed (key :: path) event)
          (((default.entry key).notes key (changed.entry key)).map Note.event) := by
      cases changedEntry : changed.entry key with
      | missing | null | leaf _ _ =>
        rw [← changedEntry]
        exact tells_entry (by simp [changedEntry])
      | object inner =>
        cases defaultEntry : default.entry key with
        | object defaultInner =>
          exact (inductionHypothesis key inner changedEntry defaultInner).congr fun _ _ =>
            reported_cons defaultEntry changedEntry
        | missing | null | leaf _ _ =>
          have notObject : (default.entry key).inner = .empty := by rw [defaultEntry, Entry.inner]
          exact tells_of_place (Nat.zero_le 1) fun path event =>
            iff_of_false (not_reported_cons notObject changedEntry) fun here =>
              List.not_mem_nil here.2
    rw [Document.notes_fill, List.map_flatMap]
    refine (tells_flatMap default.keys_ascending each).congr fun path event => ?_
    constructor
    · intro reported
      obtain ⟨key, isKey, rest, rfl⟩ := reported.exists_key
      exact ⟨key, isKey, rest, rfl, reported⟩
    · rintro ⟨key, -, rest, rfl, reported⟩
      exact reported

/-- A document has as many fields as keys. -/
theorem card_keys (document : Document) : document.keys.toFinset.card = document.size := by
  have distinct : document.keys.Nodup := by
    apply document.keys_ascending.imp
    intro left right smaller equal
    exact String.lt_irrefl right (equal ▸ smaller)
  rw [List.toFinset_card_of_nodup distinct, Document.keys, List.length_map, Document.size]

/-- The keys of a merge are those of both sides. -/
theorem toFinset_keys_merge (default changed : Document) :
    (default.merge changed).keys.toFinset = default.keys.toFinset ∪ changed.keys.toFinset := by
  ext key
  simp only [Finset.mem_union, List.mem_toFinset, Document.mem_keys_iff, Document.entry_merge]
  cases changed.entry key <;> cases default.entry key <;> simp [Entry.fill]

/-- The last event of a merge has the numbers of keys. -/
theorem mergeEvents_eq (default changed : Document) :
    default.mergeEvents changed =
      (default.fill changed).notes.map Note.event ++ [keyCounts default changed] := by
  simp only [keyCounts, ← toFinset_keys_merge, card_keys]
  rfl

/-- A note tells that something was filled exactly if its event has one of two messages. -/
theorem not_isFilling_iff {note : Note} : ¬ note.IsFilling ↔
    note.event.message ≠ "Filling missing key from default" ∧
      note.event.message ≠ "Filling null key from default" := by
  cases note <;> simp [Note.event, Note.IsFilling]

/-- A merge leaves the changed document as it was exactly if it reports no filling. -/
theorem merge_eq_iff_events (default changed : Document) : default.merge changed = changed ↔
    ∀ event ∈ default.mergeEvents changed,
      event.message ≠ "Filling missing key from default" ∧
        event.message ≠ "Filling null key from default" := by
  have unchanged : default.merge changed = changed ↔ _ := Document.absorbs_iff_notes
  rw [unchanged, mergeEvents_eq, List.forall_mem_append, List.forall_mem_map,
    List.forall_mem_singleton, and_iff_left (by simp [keyCounts])]
  simp only [not_isFilling_iff]

/-- The events of a merge are complete and in order, and tell whether anything was filled. -/
theorem isMergeLog_mergeEvents (default changed : Document) :
    IsMergeLog default changed (default.mergeEvents changed) where
  complete := ⟨_, tells_notes default changed, mergeEvents_eq default changed⟩
  unchanged_iff := merge_eq_iff_events default changed

end OperatorKit.Spec
