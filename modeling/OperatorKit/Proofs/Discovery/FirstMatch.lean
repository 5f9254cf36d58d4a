import Mathlib.Data.List.Forall2
import Mathlib.Logic.Relation
import OperatorKit.Discovery.Lookup

/-!
# The first match

A group version may have several lists and a kind may stand in them several times. The answers about
a kind are told by the first of its resources alone, so they do not notice how the resources are
spread over lists, nor what comes after that one; whether there is one does not depend on any order.
-/

namespace OperatorKit.Discovery

open Source

/-- The resources of a kind in the lists of a group version, in order. -/
def matching (groupVersion kind : String) (lists : List ResourceList) : List Resource :=
  lists.flatMap fun list =>
    if list.groupVersion = groupVersion then list.resources.filter (·.kind = kind) else []

/-- One change to resource lists that does not touch the first match. -/
inductive Change (groupVersion kind : String) : List ResourceList → List ResourceList → Prop where
  /-- Lists of other group versions are put in, taken out or moved. -/
  | others {lists changed : List ResourceList}
      (same : lists.filter (·.groupVersion == groupVersion) =
        changed.filter (·.groupVersion == groupVersion)) :
      Change groupVersion kind lists changed
  /-- All lists of the group version are gathered in one, which may stand anywhere among others. -/
  | gather {before after : List ResourceList}
      (others : ∀ list ∈ before ++ after, list.groupVersion ≠ groupVersion)
      (lists : List ResourceList) :
      Change groupVersion kind lists
        (before ++ ⟨groupVersion, offered groupVersion lists⟩ :: after)
  /-- A list of the group version is split. -/
  | split (before after : List ResourceList) (parts : List (List Resource)) :
      Change groupVersion kind (before ++ ⟨groupVersion, parts.flatten⟩ :: after)
        (before ++ (parts.map (⟨groupVersion, ·⟩) ++ after))
  /-- Anything is changed behind the first match. -/
  | behind {before : List ResourceList} {passed : List Resource} {found : Resource}
      (noneBefore : ∀ list ∈ before, list.groupVersion = groupVersion →
        ∀ resource ∈ list.resources, resource.kind ≠ kind)
      (nonePassed : ∀ resource ∈ passed, resource.kind ≠ kind) (isMatch : found.kind = kind)
      (rest changedRest : List Resource) (after changedAfter : List ResourceList) :
      Change groupVersion kind (before ++ ⟨groupVersion, passed ++ found :: rest⟩ :: after)
        (before ++ ⟨groupVersion, passed ++ found :: changedRest⟩ :: changedAfter)

/-- Lists that such changes, made or undone, lead to from each other. -/
abbrev Rearranged (groupVersion kind : String) : List ResourceList → List ResourceList → Prop :=
  Relation.EqvGen (Change groupVersion kind)

/-- The second lists are the first in some order, each with its resources in some order. -/
def Reordered (lists others : List ResourceList) : Prop :=
  ∃ moved, lists.Perm moved ∧
    List.Forall₂ (fun list other => list.groupVersion = other.groupVersion ∧
      list.resources.Perm other.resources) moved others

/-- What is answered about a kind of a group version. -/
structure AnswersByFirstMatch (groupVersion kind : String) : Prop where
  /-- A source that fails answers both questions with its fault. -/
  fails : ∀ fault, hasKind (.error fault) groupVersion kind = .error fault ∧
    isNamespaced (.error fault) groupVersion kind = .error fault
  hasKind_eq : ∀ lists, hasKind (.ok lists) groupVersion kind =
    .ok !(matching groupVersion kind lists).isEmpty
  isNamespaced_eq : ∀ lists, isNamespaced (.ok lists) groupVersion kind =
    .ok ((matching groupVersion kind lists).head?.any Resource.namespaced)
  /-- A kind that lives in a namespace is there. -/
  hasKind_of_isNamespaced : ∀ source, isNamespaced source groupVersion kind = .ok true →
    hasKind source groupVersion kind = .ok true
  /-- Neither answer notices changes that do not touch the first match. -/
  rearranged : ∀ lists others, Rearranged groupVersion kind lists others →
    hasKind (.ok lists) groupVersion kind = hasKind (.ok others) groupVersion kind ∧
      isNamespaced (.ok lists) groupVersion kind = isNamespaced (.ok others) groupVersion kind
  /-- Whether a kind is there does not depend on the order of lists and resources. -/
  reordered : ∀ lists others, Reordered lists others →
    hasKind (.ok lists) groupVersion kind = hasKind (.ok others) groupVersion kind

section Offered

variable {groupVersion kind : String} {lists others : List ResourceList}

/-- What is offered in lists is offered in the first of them, then in the others. -/
theorem offered_append (lists others : List ResourceList) :
    offered groupVersion (lists ++ others) =
      offered groupVersion lists ++ offered groupVersion others := by
  rw [offered, List.filter_append, List.flatMap_append]
  rfl

/-- The first list offers its resources before the others if it is one of the group version. -/
theorem offered_cons (list : ResourceList) (lists : List ResourceList) :
    offered groupVersion (list :: lists) =
      if list.groupVersion = groupVersion then list.resources ++ offered groupVersion lists
      else offered groupVersion lists := by
  by_cases same : list.groupVersion = groupVersion <;> simp [offered, same]

/-- A list of the group version offers its resources. -/
theorem offered_cons_self (resources : List Resource) (lists : List ResourceList) :
    offered groupVersion (⟨groupVersion, resources⟩ :: lists) =
      resources ++ offered groupVersion lists := by
  rw [offered_cons, if_pos rfl]

/-- What is offered stands in a list of the group version. -/
theorem mem_offered_iff {resource : Resource} : resource ∈ offered groupVersion lists ↔
    ∃ list ∈ lists, list.groupVersion = groupVersion ∧ resource ∈ list.resources := by
  simp [offered, and_assoc]

/-- Lists of other group versions offer nothing. -/
theorem offered_eq_nil (noneOfIt : ∀ list ∈ lists, list.groupVersion ≠ groupVersion) :
    offered groupVersion lists = [] := by
  rw [offered, List.filter_eq_nil_iff.2, List.flatMap_nil]
  simpa using noneOfIt

/-- A list that is gathered offers what the lists offered. -/
theorem offered_gather {before after : List ResourceList}
    (noneOfIt : ∀ list ∈ before ++ after, list.groupVersion ≠ groupVersion)
    (lists : List ResourceList) :
    offered groupVersion (before ++ ⟨groupVersion, offered groupVersion lists⟩ :: after) =
      offered groupVersion lists := by
  rw [List.forall_mem_append] at noneOfIt
  rw [offered_append, offered_cons_self, offered_eq_nil noneOfIt.1, offered_eq_nil noneOfIt.2,
    List.nil_append, List.append_nil]

/-- The parts of a list offer together what the list offers. -/
theorem offered_parts (parts : List (List Resource)) :
    offered groupVersion (parts.map (⟨groupVersion, ·⟩)) = parts.flatten := by
  induction parts with
  | nil => rfl
  | cons resources parts inductionHypothesis =>
    rw [List.map_cons, offered_cons_self, inductionHypothesis, List.flatten_cons]

/-- Lists in another order offer the same in another order. -/
theorem offered_perm (reordered : Reordered lists others) :
    (offered groupVersion lists).Perm (offered groupVersion others) := by
  obtain ⟨moved, perm, within⟩ := reordered
  have movedPerm : (offered groupVersion lists).Perm (offered groupVersion moved) :=
    (perm.filter _).flatMap_right _
  refine movedPerm.trans ?_
  clear perm movedPerm
  induction within with
  | nil => exact .refl _
  | cons same within inductionHypothesis =>
    rw [offered_cons, offered_cons, same.1]
    split
    · exact same.2.append inductionHypothesis
    · exact inductionHypothesis

end Offered

section Matching

variable {groupVersion kind : String} {lists others : List ResourceList}

/-- The matches are those among what is offered. -/
theorem matching_eq_filter (groupVersion kind : String) (lists : List ResourceList) :
    matching groupVersion kind lists = (offered groupVersion lists).filter (·.kind == kind) := by
  induction lists with
  | nil => rfl
  | cons list lists inductionHypothesis =>
    rw [offered_cons, matching, List.flatMap_cons, ← matching, inductionHypothesis]
    split
    · rw [List.filter_append]
      rfl
    · rw [List.nil_append]

/-- The resource that answers is the first match. -/
theorem find?_ok (groupVersion kind : String) (lists : List ResourceList) :
    find? (.ok lists) groupVersion kind = .ok (matching groupVersion kind lists).head? := by
  rw [matching_eq_filter, List.head?_filter]
  rfl

/-- A kind is there if it has a match. -/
theorem hasKind_ok (groupVersion kind : String) (lists : List ResourceList) :
    hasKind (.ok lists) groupVersion kind = .ok !(matching groupVersion kind lists).isEmpty := by
  rw [hasKind, find?_ok]
  cases matching groupVersion kind lists <;> rfl

/-- A kind lives in a namespace if its first match does. -/
theorem isNamespaced_ok (groupVersion kind : String) (lists : List ResourceList) :
    isNamespaced (.ok lists) groupVersion kind =
      .ok ((matching groupVersion kind lists).head?.any Resource.namespaced) := by
  rw [isNamespaced, find?_ok]
  rfl

/-- Lists in another order have the same matches in another order. -/
theorem matching_perm (reordered : Reordered lists others) :
    (matching groupVersion kind lists).Perm (matching groupVersion kind others) := by
  rw [matching_eq_filter, matching_eq_filter]
  exact (offered_perm reordered).filter _

/-- A resource of the kind with none before it is the first match, whatever comes behind it. -/
theorem head?_matching_eq {before : List ResourceList} {passed : List Resource} {found : Resource}
    (noneBefore : ∀ list ∈ before, list.groupVersion = groupVersion →
      ∀ resource ∈ list.resources, resource.kind ≠ kind)
    (nonePassed : ∀ resource ∈ passed, resource.kind ≠ kind) (isMatch : found.kind = kind)
    {rest : List Resource} {after : List ResourceList} :
    (matching groupVersion kind
      (before ++ ⟨groupVersion, passed ++ found :: rest⟩ :: after)).head? = some found := by
  have noneOffered :
      ∀ resource ∈ offered groupVersion before, ¬ (resource.kind == kind) = true := by
    intro resource member
    obtain ⟨list, inBefore, ofVersion, inList⟩ := mem_offered_iff.1 member
    simpa using noneBefore list inBefore ofVersion resource inList
  have nonePassed : ∀ resource ∈ passed, ¬ (resource.kind == kind) = true := by
    simpa using nonePassed
  rw [matching_eq_filter, List.head?_filter, offered_append, offered_cons_self, List.find?_append,
    List.find?_eq_none.2 noneOffered, Option.none_or, List.append_assoc, List.find?_append,
    List.find?_eq_none.2 nonePassed, Option.none_or, List.cons_append]
  exact List.find?_cons_of_pos (beq_iff_eq.2 isMatch)

/-- A change does not touch the first match. -/
theorem Change.head?_matching (change : Change groupVersion kind lists others) :
    (matching groupVersion kind lists).head? = (matching groupVersion kind others).head? := by
  -- All changes but the last kind keep everything that is offered.
  cases change with
  | others same =>
    have sameOffer : offered groupVersion lists = offered groupVersion others := by
      rw [offered, same, offered]
    rw [matching_eq_filter, matching_eq_filter, sameOffer]
  | gather noneOfIt => rw [matching_eq_filter, matching_eq_filter, offered_gather noneOfIt]
  | split before after parts =>
    simp only [matching_eq_filter, offered_append, offered_cons_self, offered_parts]
  | behind noneBefore nonePassed isMatch rest changedRest after changedAfter =>
    rw [head?_matching_eq noneBefore nonePassed isMatch,
      head?_matching_eq noneBefore nonePassed isMatch]

/-- Nor does any number of changes. -/
theorem Rearranged.head?_matching (rearranged : Rearranged groupVersion kind lists others) :
    (matching groupVersion kind lists).head? = (matching groupVersion kind others).head? := by
  induction rearranged with
  | rel lists others change => exact change.head?_matching
  | refl lists => rfl
  | symm lists others _ inductionHypothesis => exact inductionHypothesis.symm
  | trans lists middle others _ _ first second => exact first.trans second

/-- Both answers about a kind are told by its first match, and by nothing else. -/
theorem answersByFirstMatch (groupVersion kind : String) :
    AnswersByFirstMatch groupVersion kind where
  fails fault := ⟨rfl, rfl⟩
  hasKind_eq := hasKind_ok groupVersion kind
  isNamespaced_eq := isNamespaced_ok groupVersion kind
  hasKind_of_isNamespaced source inNamespace := by
    cases source with
    | error fault => cases inNamespace
    | ok lists =>
      rw [isNamespaced_ok] at inNamespace
      rw [hasKind_ok]
      cases found : matching groupVersion kind lists with
      | nil =>
        rw [found] at inNamespace
        cases inNamespace
      | cons first others => rfl
  rearranged lists others rearranged := by
    simp only [hasKind, isNamespaced, find?_ok, rearranged.head?_matching, and_self]
  reordered lists others reordered := by
    rw [hasKind_ok, hasKind_ok, (matching_perm reordered).isEmpty_eq]

-- The order of the resources decides where they disagree about the namespace.
example : isNamespaced (.ok [⟨"v1", [⟨"pods", "Pod", false⟩, ⟨"pods", "Pod", true⟩]⟩]) "v1" "Pod" ≠
    isNamespaced (.ok [⟨"v1", [⟨"pods", "Pod", true⟩, ⟨"pods", "Pod", false⟩]⟩]) "v1" "Pod" :=
  nofun

end Matching

end OperatorKit.Discovery
