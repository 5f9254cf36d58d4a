import OperatorKit.Discovery.Lookup
import OperatorKit.Proofs.Json.RecordText
import OperatorKit.Proofs.Json.Skipping

/-!
# Reading written discovery documents

A discovery document may be written in many ways: in any layout, with the members of its objects in
any order, with unknown members among them and without the fields that have their default. The main
statement says that all of them are read back as the resource lists that were written.
-/

namespace OperatorKit.Discovery

open OperatorKit.Text OperatorKit.Json

/-- The names of the fields of a resource. -/
def Resource.fieldNames : List String :=
  ["name", "kind", "namespaced"]

/-- The values that a resource may be written as. Outside of namespaces the last field may be left
out. -/
inductive Resource.WrittenAs (resource : Resource) : Value → Prop where
  | full {members : List (String × Value)} (holds : HoldsFields Resource.fieldNames [
      ("name", .string resource.name),
      ("kind", .string resource.kind),
      ("namespaced", .boolean resource.namespaced)] members) :
      WrittenAs resource (.object members)
  | short {members : List (String × Value)} (isDefault : resource.namespaced = false)
      (holds : HoldsFields Resource.fieldNames [
        ("name", .string resource.name),
        ("kind", .string resource.kind)] members) :
      WrittenAs resource (.object members)

/-- The names of the fields of a resource list. -/
def ResourceList.fieldNames : List String :=
  ["groupVersion", "resources"]

/-- The values that a resource list may be written as. Without resources the last field may be left
out. -/
inductive ResourceList.WrittenAs (list : ResourceList) : Value → Prop where
  | full {items : List Value} {members : List (String × Value)}
      (areWritten : List.Forall₂ Resource.WrittenAs list.resources items)
      (holds : HoldsFields ResourceList.fieldNames [
        ("groupVersion", .string list.groupVersion),
        ("resources", .array items)] members) :
      WrittenAs list (.object members)
  | short {members : List (String × Value)} (isDefault : list.resources = [])
      (holds : HoldsFields ResourceList.fieldNames [
        ("groupVersion", .string list.groupVersion)] members) :
      WrittenAs list (.object members)

variable {layout : Layout} {members : List (String × Value)} {closing rest : Bytes}

section Resources

/-- The members of a resource are taken if each of its fields is. -/
theorem takesMembers_resource {state final : PartialResource}
    (takesName : TakesField expectText layout "name" members state.name final.name)
    (takesKind : TakesField expectText layout "kind" members state.kind final.kind)
    (takesNamespaced :
      TakesField expectBoolean layout "namespaced" members state.namespaced final.namespaced) :
    TakesMembers resourceMember layout state members final := by
  induction members generalizing state with
  | nil =>
    obtain ⟨name, kind, namespaced⟩ := state
    obtain ⟨finalName, finalKind, finalNamespaced⟩ := final
    cases takesName
    cases takesKind
    cases takesNamespaced
    exact .nil _
  | cons member members inductionHypothesis =>
    obtain ⟨key, value⟩ := member
    -- The member takes the field of its name one step on; the other fields go on waiting.
    by_cases isName : key = "name"
    · subst isName
      obtain ⟨name, takesName, reads⟩ := takesName.ofName
      have first : TakesMember resourceMember layout state "name" value
          { state with name := some name } := fun rest ends =>
        (reads rest ends).change fun fewer => ⟨fewer, rfl⟩
      exact .cons first (inductionHypothesis takesName (takesKind.ofOther (by decide))
        (takesNamespaced.ofOther (by decide)))
    replace takesName := takesName.ofOther isName
    by_cases isKind : key = "kind"
    · subst isKind
      obtain ⟨kind, takesKind, reads⟩ := takesKind.ofName
      have first : TakesMember resourceMember layout state "kind" value
          { state with kind := some kind } := fun rest ends =>
        (reads rest ends).change fun fewer => ⟨fewer, rfl⟩
      exact .cons first (inductionHypothesis takesName takesKind
        (takesNamespaced.ofOther (by decide)))
    replace takesKind := takesKind.ofOther isKind
    by_cases isNamespaced : key = "namespaced"
    · subst isNamespaced
      obtain ⟨namespaced, takesNamespaced, reads⟩ := takesNamespaced.ofName
      have first : TakesMember resourceMember layout state "namespaced" value
          { state with namespaced := some namespaced } := fun rest ends =>
        (reads rest ends).change fun fewer => ⟨fewer, rfl⟩
      exact .cons first (inductionHypothesis takesName takesKind takesNamespaced)
    have first : TakesMember resourceMember layout state key value state := by
      intro rest ends
      rw [resourceMember, if_neg isName, if_neg isKind, if_neg isNamespaced]
      exact ((skipValue_written layout value).afterColon ends).change fun fewer => ⟨fewer, rfl⟩
    exact .cons first
      (inductionHypothesis takesName takesKind (takesNamespaced.ofOther isNamespaced))

/-- A resource is taken from its members, outside of namespaces unless they say otherwise. -/
theorem resourceObject_written {name kind : String} {namespaced : Option Bool}
    (takes : TakesMembers resourceMember layout ⟨none, none, none⟩ members
      ⟨some name, some kind, namespaced⟩)
    (closes : skipBlanks closing = Ascii.closeBrace :: rest) :
    Reads (resourceObject (Utf8.encode (Value.membersChars layout true members) ++ closing))
      ⟨name, kind, namespaced.getD false⟩ rest := by
  apply (foldMembers_written takes true closes).bind
  intro fewer
  exact ⟨fewer, rfl⟩

/-- A resource is taken as it was written. -/
theorem Resource.WrittenAs.takes {resource : Resource} {value : Value}
    (isWritten : resource.WrittenAs value) : TakesWritten readResource layout value resource := by
  obtain ⟨name, kind, namespaced⟩ := resource
  cases isWritten with
  | @full members holds =>
    have takes : TakesMembers resourceMember layout.deeper ⟨none, none, none⟩ members
        ⟨some name, some kind, some namespaced⟩ :=
      takesMembers_resource
        (.ofHolds holds (by decide) (by simp) (by simp) (expectText_written name))
        (.ofHolds holds (by decide) (by simp) (by simp) (expectText_written kind))
        (.ofHolds holds (by decide) (by simp) (by simp) (expectBoolean_written namespaced))
    exact expectRecord_written fun closing rest closes => resourceObject_written takes closes
  | @short members isDefault holds =>
    have takes : TakesMembers resourceMember layout.deeper ⟨none, none, none⟩ members
        ⟨some name, some kind, none⟩ :=
      takesMembers_resource
        (.ofHolds holds (by decide) (by simp) (by simp) (expectText_written name))
        (.ofHolds holds (by decide) (by simp) (by simp) (expectText_written kind))
        (.ofHoldsNot holds (by decide) (by simp))
    cases isDefault
    exact expectRecord_written fun closing rest closes => resourceObject_written takes closes

end Resources

section Lists

/-- The members of a resource list are taken if each of its fields is. -/
theorem takesMembers_list {state final : PartialList}
    (takesGroupVersion :
      TakesField expectText layout "groupVersion" members state.groupVersion final.groupVersion)
    (takesResources : TakesField (expectSequence readResource) layout "resources" members
      state.resources final.resources) :
    TakesMembers listMember layout state members final := by
  induction members generalizing state with
  | nil =>
    obtain ⟨groupVersion, resources⟩ := state
    obtain ⟨finalGroupVersion, finalResources⟩ := final
    cases takesGroupVersion
    cases takesResources
    exact .nil _
  | cons member members inductionHypothesis =>
    obtain ⟨key, value⟩ := member
    by_cases isGroupVersion : key = "groupVersion"
    · subst isGroupVersion
      obtain ⟨groupVersion, takesGroupVersion, reads⟩ := takesGroupVersion.ofName
      have first : TakesMember listMember layout state "groupVersion" value
          { state with groupVersion := some groupVersion } := fun rest ends =>
        (reads rest ends).change fun fewer => ⟨fewer, rfl⟩
      exact .cons first
        (inductionHypothesis takesGroupVersion (takesResources.ofOther (by decide)))
    replace takesGroupVersion := takesGroupVersion.ofOther isGroupVersion
    by_cases isResources : key = "resources"
    · subst isResources
      obtain ⟨resources, takesResources, reads⟩ := takesResources.ofName
      have first : TakesMember listMember layout state "resources" value
          { state with resources := some resources } := fun rest ends =>
        (reads rest ends).change fun fewer => ⟨fewer, rfl⟩
      exact .cons first (inductionHypothesis takesGroupVersion takesResources)
    have first : TakesMember listMember layout state key value state := by
      intro rest ends
      rw [listMember, if_neg isGroupVersion, if_neg isResources]
      exact ((skipValue_written layout value).afterColon ends).change fun fewer => ⟨fewer, rfl⟩
    exact .cons first
      (inductionHypothesis takesGroupVersion (takesResources.ofOther isResources))

/-- A resource list is taken from its members, without resources unless they name some. -/
theorem listObject_written {groupVersion : String} {resources : Option (List Resource)}
    (takes : TakesMembers listMember layout ⟨none, none⟩ members ⟨some groupVersion, resources⟩)
    (closes : skipBlanks closing = Ascii.closeBrace :: rest) :
    Reads (listObject (Utf8.encode (Value.membersChars layout true members) ++ closing))
      ⟨groupVersion, resources.getD []⟩ rest := by
  apply (foldMembers_written takes true closes).bind
  intro fewer
  exact ⟨fewer, rfl⟩

/-- A resource list is taken as it was written. -/
theorem ResourceList.WrittenAs.takes {list : ResourceList} {value : Value}
    (isWritten : list.WrittenAs value) : TakesWritten readList layout value list := by
  obtain ⟨groupVersion, resources⟩ := list
  cases isWritten with
  | @full items members areWritten holds =>
    have takesItems : TakesWritten (expectSequence readResource) layout.deeper (.array items)
        resources :=
      expectSequence_written (areWritten.flip.imp fun _ _ isWritten => isWritten.takes)
    have takes : TakesMembers listMember layout.deeper ⟨none, none⟩ members
        ⟨some groupVersion, some resources⟩ :=
      takesMembers_list
        (.ofHolds holds (by decide) (by simp) (by simp) (expectText_written groupVersion))
        (.ofHolds holds (by decide) (by simp) (by simp) takesItems)
    exact expectRecord_written fun closing rest closes => listObject_written takes closes
  | @short members isDefault holds =>
    have takes : TakesMembers listMember layout.deeper ⟨none, none⟩ members
        ⟨some groupVersion, none⟩ :=
      takesMembers_list
        (.ofHolds holds (by decide) (by simp) (by simp) (expectText_written groupVersion))
        (.ofHoldsNot holds (by decide) (by simp))
    cases isDefault
    exact expectRecord_written fun closing rest closes => listObject_written takes closes

end Lists

/-- A resource is written as its own value. -/
theorem Resource.writtenAs_toValue (resource : Resource) :
    resource.WrittenAs resource.toValue :=
  .full (holdsFields_self _ _)

/-- A resource list is written as its own value. -/
theorem ResourceList.writtenAs_toValue (list : ResourceList) : list.WrittenAs list.toValue :=
  .full (List.forall₂_map_right_iff.2 (List.forall₂_same.2 fun resource _ =>
    resource.writtenAs_toValue)) (holdsFields_self _ _)

/-- A document is read back whichever way its resource lists are written. -/
theorem ofDocument_written {lists : List ResourceList} {items : List Value}
    (areWritten : List.Forall₂ ResourceList.WrittenAs lists items) (layout : Layout) :
    Source.ofDocument (Utf8.encode ((Value.array items).chars layout)) = .ok lists := by
  have takes : TakesWritten (expectSequence readList) layout (.array items) lists :=
    expectSequence_written (areWritten.flip.imp fun _ _ isWritten => isWritten.takes)
  have whole := readWhole_written takes (List.forall_mem_nil _)
  rw [List.append_nil] at whole
  rw [Source.ofDocument, readDocument, whole]
  rfl

/-- Resource lists are read back from their document and from every other text that they may be
written as. -/
theorem lists_read_back :
    (∀ lists : List ResourceList,
      Source.ofDocument (Utf8.encode (documentText lists).toList) = .ok lists) ∧
    ∀ (lists : List ResourceList) (items : List Value) (layout : Layout),
      List.Forall₂ ResourceList.WrittenAs lists items →
        Source.ofDocument (Utf8.encode ((Value.array items).chars layout)) = .ok lists := by
  constructor
  · intro lists
    have areWritten : List.Forall₂ ResourceList.WrittenAs lists
        (lists.map ResourceList.toValue) :=
      List.forall₂_map_right_iff.2
        (List.forall₂_same.2 fun list _ => list.writtenAs_toValue)
    rw [documentText, Value.compactText, String.toList_ofList]
    exact ofDocument_written areWritten .compact
  · intro lists items layout areWritten
    exact ofDocument_written areWritten layout

/-- A list whose members stand the other way round, with an unknown number and an unknown nesting
among them and without the default of its resource, is read back before an empty one without
resources. -/
theorem lists_read_back_of_reversed :
    let node : Value :=
      .object [("groupVersion", .null), ("kind", .string "Node"), ("name", .string "nodes")]
    let verbs : Value :=
      .array [.number (.double (.zero true)), .object [("verbs", .array [.null])]]
    let items : List Value := [
      .object [
        ("verbs", verbs), ("resources", .array [node]), ("groupVersion", .string "apps/v1")],
      .object [("groupVersion", .string "v1")]]
    let lists : List ResourceList := [⟨"apps/v1", [⟨"nodes", "Node", false⟩]⟩, ⟨"v1", []⟩]
    List.Forall₂ ResourceList.WrittenAs lists items ∧
      Source.ofDocument (Utf8.encode ((Value.array items).chars (.indented 0))) = .ok lists := by
  intro node verbs items lists
  have nodeWritten : Resource.WrittenAs ⟨"nodes", "Node", false⟩ node :=
    .short rfl ⟨[("groupVersion", .null)], List.reverse_perm [_, _, _],
      List.forall_mem_singleton.2 (by decide)⟩
  have areWritten : List.Forall₂ ResourceList.WrittenAs lists items :=
    .cons (.full (.cons nodeWritten .nil) ⟨[("verbs", verbs)], List.reverse_perm [_, _, _],
      List.forall_mem_singleton.2 (by decide)⟩)
    (.cons (.short rfl (holdsFields_self _ _)) .nil)
  exact ⟨areWritten, lists_read_back.2 lists items (.indented 0) areWritten⟩

end OperatorKit.Discovery
