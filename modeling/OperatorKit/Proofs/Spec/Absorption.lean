import OperatorKit.Proofs.Spec.Overlay

/-!
# Defaults that have nothing left to fill

A document absorbs a default if filling it from the default changes nothing. A merge absorbs both of
its sides, and whatever is filled in later leaves that so, because filling only ever adds to what a
document says.
-/

namespace OperatorKit.Spec

open OperatorKit.Json

namespace Document

/-- Filling the document from the default changes nothing. -/
def Absorbs (document default : Document) : Prop :=
  default.merge document = document

/-- The document after it was filled from one default after the other. -/
def filledFrom (document : Document) (defaults : List Document) : Document :=
  defaults.foldl (fun state default => default.merge state) document

/-- A document absorbs a default exactly if each of its entries does. -/
theorem absorbs_iff {document default : Document} :
    document.Absorbs default ↔
      ∀ key, (default.entry key).fill (document.entry key) = document.entry key := by
  constructor
  · intro absorbs key
    rw [← entry_merge, absorbs]
  · intro absorbs
    apply ext_entry
    intro key
    rw [entry_merge, absorbs key]

/-- Filling a document further keeps what it has absorbed. -/
theorem Absorbs.merge {document default : Document} (absorbs : document.Absorbs default)
    (other : Document) : (other.merge document).Absorbs default := by
  induction document using entryInduction generalizing default other with
  | step document inductionHypothesis =>
    rw [absorbs_iff] at absorbs ⊢
    intro key
    have here := absorbs key
    rw [entry_merge]
    cases entry : document.entry key with
    | missing =>
      rw [entry, Entry.fill_missing] at here
      rw [here, Entry.missing_fill]
    | null =>
      rw [entry] at here
      cases atDefault : default.entry key with
      | missing => rw [Entry.missing_fill]
      | null => cases other.entry key <;> rfl
      | leaf value isLeaf =>
        rw [atDefault] at here
        cases here
      | object inner =>
        rw [atDefault] at here
        cases here
    | leaf value isLeaf => rw [Entry.fill_leaf, Entry.fill_leaf]
    | object inner =>
      rw [entry, Entry.fill_object, Entry.object.injEq] at here
      rw [Entry.fill_object, Entry.fill_object, Entry.object.injEq]
      exact inductionHypothesis key inner entry here (other.entry key).inner

/-- However many defaults follow, a document keeps what it has absorbed. -/
theorem Absorbs.filledFrom {document default : Document} (absorbs : document.Absorbs default)
    (others : List Document) : (document.filledFrom others).Absorbs default := by
  induction others generalizing document with
  | nil => exact absorbs
  | cons other others inductionHypothesis => exact inductionHypothesis (absorbs.merge other)

/-- A document absorbs itself. -/
theorem absorbs_self (document : Document) : document.Absorbs document := by
  induction document using entryInduction with
  | step document inductionHypothesis =>
    rw [absorbs_iff]
    intro key
    cases entry : document.entry key with
    | missing | null | leaf _ _ => rfl
    | object inner =>
      rw [Entry.fill_object, Entry.object.injEq]
      exact inductionHypothesis key inner entry

/-- An entry is not changed by filling it from itself. -/
theorem fill_self (entry : Entry) : entry.fill entry = entry := by
  cases entry with
  | missing | null | leaf _ _ => rfl
  | object inner =>
    rw [Entry.fill_object, Entry.object.injEq]
    exact absorbs_self inner

/-- A merge absorbs its default. -/
theorem merge_absorbs_default (default changed : Document) :
    (default.merge changed).Absorbs default := by
  induction changed using entryInduction generalizing default with
  | step changed inductionHypothesis =>
    rw [absorbs_iff]
    intro key
    rw [entry_merge]
    cases entry : changed.entry key with
    | missing => rw [Entry.fill_missing, fill_self]
    | null =>
      by_cases missing : default.entry key = .missing
      · rw [missing, Entry.missing_fill]
      · rw [Entry.fill_null missing, fill_self]
    | leaf value isLeaf => rw [Entry.fill_leaf, Entry.fill_leaf]
    | object inner =>
      rw [Entry.fill_object, Entry.fill_object, Entry.object.injEq]
      exact inductionHypothesis key inner entry (default.entry key).inner

/-- A merge absorbs its changed document. -/
theorem merge_absorbs_changed (default changed : Document) :
    (default.merge changed).Absorbs changed :=
  (absorbs_self changed).merge default

/-- The changed document is filled from a merge as it was filled from the default. -/
theorem merge_merge_changed (default changed : Document) :
    (default.merge changed).merge changed = default.merge changed := by
  induction changed using entryInduction generalizing default with
  | step changed inductionHypothesis =>
    apply ext_entry
    intro key
    rw [entry_merge, entry_merge]
    cases entry : changed.entry key with
    | missing => rw [Entry.fill_missing]
    | null =>
      apply Entry.fill_null
      cases default.entry key <;> nofun
    | leaf value isLeaf => rw [Entry.fill_leaf, Entry.fill_leaf]
    | object inner =>
      rw [Entry.fill_object, Entry.fill_object, Entry.object.injEq]
      exact inductionHypothesis key inner entry (default.entry key).inner

/-- A default once filled in stays filled in whatever defaults follow, and merging the result with
the changed document again, in either order, gives the result. -/
theorem merge_absorbs_sides (default changed : Document) (others : List Document) :
    let merged := default.merge changed
    default.merge (merged.filledFrom others) = merged.filledFrom others ∧
      merged.merge changed = merged ∧ changed.merge merged = merged :=
  ⟨(merge_absorbs_default default changed).filledFrom others,
    merge_merge_changed default changed, merge_absorbs_changed default changed⟩

end Document

end OperatorKit.Spec
