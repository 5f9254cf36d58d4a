import OperatorKit.Spec.Fill

/-!
# Merging texts

Both sides of a merge as JSON texts. An empty text is a side that was not supplied, and the other
side is then the result as it stands. A side that is no document is reported; the lenient merge goes
on with an empty document in its place, the strict one stops.
-/

namespace OperatorKit.Spec

open OperatorKit.Text

/-- The side of a merge. -/
inductive Role where
  | default
  | changed
deriving DecidableEq

/-- The name of a side in messages. -/
def Role.name : Role → String
  | default => "default"
  | changed => "changed"

/-- A side that is no document, and why. -/
structure InputFault where
  role : Role
  source : DecodeFault

/-- The wording of the fault of a side. -/
def InputFault.message (fault : InputFault) : String :=
  "failed to decode " ++ fault.role.name ++ " spec: " ++ fault.source.message

/-- Reads one side; there is no document if it was not supplied. -/
def readSide (role : Role) (text : Bytes) : Except InputFault (Option Document) :=
  if text.isEmpty then .ok none
  else
    match Document.decode text with
    | .ok document => .ok (some document)
    | .error fault => .error ⟨role, fault⟩

/-- Merges the sides that were supplied. -/
def combine : (default changed : Option Document) → Document
  | none, none => .empty
  | some document, none | none, some document => document
  | some default, some changed => default.merge changed

/-- Merges two texts, or gives the fault of the first side that is no document. -/
def mergeStrict (default changed : Bytes) : Except InputFault Document := do
  let default ← readSide .default default
  let changed ← readSide .changed changed
  .ok (combine default changed)

/-- A merged document, and the faults of the sides that were taken as empty. -/
structure Lenient where
  document : Document
  faults : List InputFault

/-- A side, or an empty document in its place with the fault. -/
def orEmpty : Except InputFault (Option Document) → Option Document × List InputFault
  | .ok side => (side, [])
  | .error fault => (some .empty, [fault])

/-- Merges two texts, taking a side that is no document as empty. -/
def mergeLenient (default changed : Bytes) : Lenient :=
  let (default, defaultFaults) := orEmpty (readSide .default default)
  let (changed, changedFaults) := orEmpty (readSide .changed changed)
  ⟨combine default changed, defaultFaults ++ changedFaults⟩

/-- The fault of a side that is taken as empty, as an event. -/
def InputFault.event (fault : InputFault) : Event :=
  ⟨.error, "Treating undecodable spec as empty", [("error", fault.message)]⟩

/-- The events of merging the sides that were supplied. -/
def combineEvents : (default changed : Option Document) → List Event
  | some default, some changed => default.mergeEvents changed
  | _, _ => []

/-- The events of a lenient merge: the faults of the sides, then the events of the merge itself. -/
def lenientEvents (default changed : Bytes) : List Event :=
  (mergeLenient default changed).faults.map InputFault.event ++
    combineEvents (orEmpty (readSide .default default)).1 (orEmpty (readSide .changed changed)).1

end OperatorKit.Spec
