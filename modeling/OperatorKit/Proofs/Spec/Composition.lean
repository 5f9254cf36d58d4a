import OperatorKit.Proofs.Spec.Overlay
import OperatorKit.Proofs.Spec.Paths

/-!
# Combining defaults beforehand

Two defaults may be merged before the changed document is known, unless a leaf of the middle
document stands between an object beneath it and an object on top of it. Such a leaf hides the
object beneath if these two are merged first, but gives way to the object on top if those two are,
which is then filled from the object beneath.
-/

namespace OperatorKit.Spec

open OperatorKit.Json

/-- At this place a leaf stands between two objects. -/
structure ConflictAt (base middle top : Document) (path : Value.Path) : Prop where
  beneath : base.HasObjectAt path
  between : ∃ value, middle.at? path = some value ∧ value.IsLeaf
  onTop : top.HasObjectAt path

namespace Document

/-- A conflict inside objects of the two upper documents is a conflict of the whole documents. -/
theorem conflictAt_cons {base middle top middleInner topInner : Document} {key : String}
    {path : Value.Path} (middleObject : middle.entry key = .object middleInner)
    (topObject : top.entry key = .object topInner)
    (inside : ConflictAt (base.entry key).inner middleInner topInner path) :
    ConflictAt base middle top (key :: path) := by
  obtain ⟨⟨value, found, isObject⟩, ⟨leaf, between, isLeaf⟩, onTop⟩ := inside
  have below : path ≠ [] := by
    rintro rfl
    rw [at?_nil, Option.some.injEq] at between
    subst between
    exact isLeaf.2 rfl
  refine ⟨⟨value, ?_, isObject⟩, ⟨leaf, ?_, isLeaf⟩, (hasObjectAt_cons topObject path).2 onTop⟩
  · rw [at?_cons_of_ne_nil base key below, found]
  · rw [at?_cons_of_object middleObject, between]

/-- Three documents without a conflict may be merged in either grouping. -/
theorem merge_assoc_of_noConflict (base middle top : Document)
    (noConflict : ∀ path, ¬ ConflictAt base middle top path) :
    base.merge (middle.merge top) = (base.merge middle).merge top := by
  induction top using entryInduction generalizing base middle with
  | step top inductionHypothesis =>
    apply ext_entry
    intro key
    simp only [entry_merge]
    cases onTop : top.entry key with
    | missing => simp
    | null => cases middle.entry key <;> cases base.entry key <;> rfl
    | leaf value isLeaf => simp
    | object topInner =>
      simp only [Entry.fill_object, Entry.object.injEq]
      cases between : middle.entry key with
      | missing => simp [Entry.inner]
      | null => cases base.entry key <;> rfl
      | leaf value isLeaf =>
        -- The leaf hides the default beneath, which therefore must be no object.
        cases beneath : base.entry key with
        | missing | null | leaf _ _ => rfl
        | object baseInner =>
          have conflict : ConflictAt base middle top [key] :=
            ⟨hasObjectAt_singleton beneath, ⟨value, by simp [between, Entry.value?], isLeaf⟩,
              hasObjectAt_singleton onTop⟩
          exact absurd conflict (noConflict [key])
      | object middleInner =>
        simp only [Entry.fill_object, Entry.inner]
        apply inductionHypothesis key topInner onTop
        intro path conflict
        exact noConflict (key :: path) (conflictAt_cons between onTop conflict)

/-- Three documents that share an object, with a leaf and an object at one key of it and a `null` at
another, have no conflict. -/
theorem merge_assoc_of_shared_limits :
    let base := ofMembers [("limits", .object [("cpu", .object [("max", .string "2")])])]
    let middle := ofMembers [("limits", .object [("gpu", .string "none"), ("cpu", .null)])]
    let top := ofMembers
      [("limits", .object [("cpu", .object [("min", .null)]), ("gpu", .object [])]), ("mode", .null)]
    (∀ path, ¬ ConflictAt base middle top path) ∧
      base.merge (middle.merge top) = (base.merge middle).merge top := by
  intro base middle top
  have noConflict : ∀ path, ¬ ConflictAt base middle top path := by
    rintro path ⟨⟨beneath, beneathFound, -⟩, ⟨leaf, found, isLeaf⟩, -⟩
    -- The only leaf of the middle document is the string, and nothing stands beneath it.
    change Value.at? path
      (.object [("limits", .object [("cpu", .null), ("gpu", .string "none")])]) = _ at found
    cases path with
    | nil =>
      cases found
      exact isLeaf.2 rfl
    | cons first path =>
      simp only [Value.at?, Fields.find?] at found
      split at found
      · rename_i isLimits
        cases path with
        | nil =>
          cases found
          exact isLeaf.2 rfl
        | cons second path =>
          simp only [Value.at?, Fields.find?, Option.bind_some] at found
          split at found
          · cases path with
            | nil =>
              cases found
              exact isLeaf.1 rfl
            | cons third path => cases found
          · split at found
            · rename_i isGpu
              subst isLimits isGpu
              cases beneathFound
            · cases found
      · cases found
  exact ⟨noConflict, merge_assoc_of_noConflict base middle top noConflict⟩

end Document

end OperatorKit.Spec
