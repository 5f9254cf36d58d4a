import OperatorKit.Proofs.Spec.Entry

/-!
# Paths in a document

A path of keys leads through the entries of a document, from object to object. It ends below a leaf
or a `null`, and where nothing is said.
-/

namespace OperatorKit.Spec

open OperatorKit.Json

namespace Document

/-- A beginning of a path that is not empty holds its first key. -/
theorem exists_of_beginning {key : String} {path other : Value.Path} (nonempty : other ≠ [])
    (beginning : other <+: key :: path) : ∃ rest, other = key :: rest ∧ rest <+: path := by
  cases other with
  | nil => exact absurd rfl nonempty
  | cons first rest =>
    obtain ⟨rfl, rests⟩ := List.cons_prefix_cons.1 beginning
    exact ⟨rest, rfl, rests⟩

/-- The value to which a document resolves a path, going down through objects only. -/
def at? (document : Document) (path : Value.Path) : Option Value :=
  document.toValue.at? path

/-- The empty path leads to the document itself. -/
@[simp] theorem at?_nil (document : Document) : document.at? [] = some document.toValue :=
  rfl

/-- A path of one key leads to the entry at that key. -/
@[simp] theorem at?_singleton (document : Document) (key : String) :
    document.at? [key] = (document.entry key).value? := by
  rw [value?_entry]
  simp [at?, toValue, Value.at?]

/-- Nothing lies below a value that is no object. -/
theorem at?_append_of_not_isObject {document : Document} {front back : Value.Path} {value : Value}
    (found : document.at? front = some value) (notObject : ¬ value.IsObject) (below : back ≠ []) :
    document.at? (front ++ back) = none := by
  rw [at?] at found ⊢
  rw [Value.at?_append, found, Option.bind_some]
  exact Value.at?_of_not_isObject notObject below

/-- Documents with the same entry at the first key of a path resolve the path alike. -/
theorem at?_cons_of_entry_eq {left right : Document} {key : String}
    (same : left.entry key = right.entry key) (path : Value.Path) :
    left.at? (key :: path) = right.at? (key :: path) := by
  simp only [at?, toValue, Value.at?, ← value?_entry, same]

/-- A longer path goes on inside the entry of its first key. -/
theorem at?_cons_of_ne_nil (document : Document) (key : String) {path : Value.Path}
    (longer : path ≠ []) : document.at? (key :: path) = (document.entry key).inner.at? path := by
  have found : (document.entry key).value? = document.fields.find? key := value?_entry document key
  have nothing : empty.at? path = none := by
    cases path with
    | nil => exact absurd rfl longer
    | cons next path => rfl
  simp only [at?, toValue, Value.at?, ← found]
  cases document.entry key with
  | missing => exact nothing.symm
  | null => exact (Value.at?_of_not_isObject Value.not_isObject_null longer).trans nothing.symm
  | leaf value isLeaf => exact (Value.at?_of_not_isObject isLeaf.2 longer).trans nothing.symm
  | object inner => rfl

/-- A path through an object goes on inside it. -/
theorem at?_cons_of_object {document inner : Document} {key : String}
    (isObject : document.entry key = .object inner) (path : Value.Path) :
    document.at? (key :: path) = inner.at? path := by
  cases path with
  | nil => rw [at?_singleton, isObject, at?_nil, Entry.value?]
  | cons next path =>
    rw [at?_cons_of_ne_nil document key (List.cons_ne_nil next path), isObject, Entry.inner]

/-- The document resolves the path to an object. -/
def HasObjectAt (document : Document) (path : Value.Path) : Prop :=
  ∃ value, document.at? path = some value ∧ value.IsObject

/-- The empty path leads to an object. -/
theorem hasObjectAt_nil (document : Document) : document.HasObjectAt [] :=
  ⟨document.toValue, at?_nil document, rfl⟩

/-- A path through an object leads to an object exactly if it does so inside. -/
theorem hasObjectAt_cons {document inner : Document} {key : String}
    (isObject : document.entry key = .object inner) (path : Value.Path) :
    document.HasObjectAt (key :: path) ↔ inner.HasObjectAt path := by
  rw [HasObjectAt, HasObjectAt, at?_cons_of_object isObject]

/-- There is an object at the key of an object. -/
theorem hasObjectAt_singleton {document inner : Document} {key : String}
    (isObject : document.entry key = .object inner) : document.HasObjectAt [key] :=
  (hasObjectAt_cons isObject []).2 (hasObjectAt_nil inner)

/-- A path leads to an object only through an object. -/
theorem exists_object_of_hasObjectAt {document : Document} {key : String} {path : Value.Path}
    (hasObject : document.HasObjectAt (key :: path)) :
    ∃ inner, document.entry key = .object inner := by
  obtain ⟨value, found, isObject⟩ := hasObject
  cases path with
  | nil =>
    rw [at?_singleton] at found
    exact Entry.exists_object_of_isObject found isObject
  | cons next path =>
    rw [at?_cons_of_ne_nil document key (List.cons_ne_nil next path)] at found
    cases entry : document.entry key with
    | object inner => exact ⟨inner, rfl⟩
    | missing | null | leaf _ _ =>
      rw [entry] at found
      cases found

/-- The document has objects all the way down to the path, whatever it has there. -/
def LeadsTo (document : Document) (path : Value.Path) : Prop :=
  ∀ front, front ≠ [] → front <+: path → front ≠ path → document.HasObjectAt front

/-- Every document leads to its own keys. -/
theorem leadsTo_singleton (document : Document) (key : String) : document.LeadsTo [key] := by
  intro front nonempty beginning shorter
  obtain ⟨rest, rfl, restBeginning⟩ := exists_of_beginning nonempty beginning
  rw [List.prefix_nil.1 restBeginning] at shorter
  exact absurd rfl shorter

/-- A document leads through an object to where the object leads. -/
theorem leadsTo_cons {document inner : Document} {key : String} {path : Value.Path}
    (isObject : document.entry key = .object inner) :
    document.LeadsTo (key :: path) ↔ inner.LeadsTo path := by
  constructor
  · intro leads front nonempty beginning shorter
    rw [← hasObjectAt_cons isObject]
    exact leads (key :: front) (List.cons_ne_nil _ _) (List.cons_prefix_cons.2 ⟨rfl, beginning⟩)
      fun equal => shorter (List.cons.inj equal).2
  · intro leads front nonempty beginning shorter
    obtain ⟨rest, rfl, restBeginning⟩ := exists_of_beginning nonempty beginning
    rw [hasObjectAt_cons isObject]
    by_cases first : rest = []
    · rw [first]
      exact hasObjectAt_nil inner
    · exact leads rest first restBeginning fun equal => shorter (equal ▸ rfl)

end Document

end OperatorKit.Spec
