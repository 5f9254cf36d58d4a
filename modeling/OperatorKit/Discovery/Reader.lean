import OperatorKit.Discovery.Resource
import OperatorKit.Json.Typed

/-!
# Reading discovery documents

A discovery document is a sequence of resource lists. Lists and resources are records: the fields of
an object may stand in any order among unknown ones, which are passed over, and the last field of
each record may be left out.
-/

namespace OperatorKit.Discovery

open OperatorKit.Text OperatorKit.Json

/-- A resource of which some fields are not yet read. -/
structure PartialResource where
  name : Option String
  kind : Option String
  namespaced : Option Bool

/-- Takes a member of a resource. -/
def resourceMember (resource : PartialResource) (key : String) : Reader PartialResource :=
  fun text =>
    if key = "name" then
      (readField key resource.name.isSome expectText text).map
        (·.map fun name => { resource with name := some name })
    else if key = "kind" then
      (readField key resource.kind.isSome expectText text).map
        (·.map fun kind => { resource with kind := some kind })
    else if key = "namespaced" then
      (readField key resource.namespaced.isSome expectBoolean text).map
        (·.map fun namespaced => { resource with namespaced := some namespaced })
    else (readAfterColon skipValue text).map (·.map fun _ => resource)

/-- Takes what follows the brace of a resource. -/
def resourceObject : Reader Resource := fun text => do
  let members ← foldMembers resourceMember true ⟨none, none, none⟩ text
  let name ← requireField "name" members.value.name members.rest
  let kind ← requireField "kind" members.value.kind members.rest
  .ok (members.map fun resource => ⟨name, kind, resource.namespaced.getD false⟩)

/-- Takes what follows the bracket of a resource. -/
def resourceArray : Reader Resource := fun text => do
  let expected := "struct ApiResource with 3 elements"
  let name ← requireElement expected 0 expectText text
  let kind ← requireElement expected 1 expectText name.rest
  let namespaced ← readLastElement false expectBoolean kind.rest
  .ok ((name.after (kind.after namespaced)).map fun namespaced =>
    ⟨name.value, kind.value, namespaced⟩)

/-- Takes a resource. -/
def readResource : Reader Resource :=
  expectRecord "struct ApiResource" resourceArray resourceObject

/-- A resource list of which some fields are not yet read. -/
structure PartialList where
  groupVersion : Option String
  resources : Option (List Resource)

/-- Takes a member of a resource list. -/
def listMember (list : PartialList) (key : String) : Reader PartialList :=
  fun text =>
    if key = "groupVersion" then
      (readField key list.groupVersion.isSome expectText text).map
        (·.map fun groupVersion => { list with groupVersion := some groupVersion })
    else if key = "resources" then
      (readField key list.resources.isSome (expectSequence readResource) text).map
        (·.map fun resources => { list with resources := some resources })
    else (readAfterColon skipValue text).map (·.map fun _ => list)

/-- Takes what follows the brace of a resource list. -/
def listObject : Reader ResourceList := fun text => do
  let members ← foldMembers listMember true ⟨none, none⟩ text
  let groupVersion ← requireField "groupVersion" members.value.groupVersion members.rest
  .ok (members.map fun list => ⟨groupVersion, list.resources.getD []⟩)

/-- Takes what follows the bracket of a resource list. -/
def listArray : Reader ResourceList := fun text => do
  let groupVersion ← requireElement "struct ApiResourceList with 2 elements" 0 expectText text
  let resources ← readLastElement [] (expectSequence readResource) groupVersion.rest
  .ok ((groupVersion.after resources).map fun resources => ⟨groupVersion.value, resources⟩)

/-- Takes a resource list. -/
def readList : Reader ResourceList :=
  expectRecord "struct ApiResourceList" listArray listObject

/-- Reads a discovery document. -/
def readDocument (text : Bytes) : Except SyntaxFault (List ResourceList) :=
  readWhole (expectSequence readList) text

end OperatorKit.Discovery
