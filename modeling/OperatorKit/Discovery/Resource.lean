import OperatorKit.Json.Writer

/-!
# Resources

What a server offers: one list of resources per group version. A group version may have several
lists, and a list may name a kind more than once.
-/

namespace OperatorKit.Discovery

open OperatorKit.Json

/-- A resource that the server offers. -/
structure Resource where
  name : String
  kind : String
  /-- Whether it lives in a namespace. -/
  namespaced : Bool
deriving DecidableEq

/-- The resources offered under one group version. -/
structure ResourceList where
  groupVersion : String
  resources : List Resource
deriving DecidableEq

/-- A resource as a JSON value. -/
def Resource.toValue (resource : Resource) : Value :=
  .object [
    ("name", .string resource.name),
    ("kind", .string resource.kind),
    ("namespaced", .boolean resource.namespaced)]

/-- A resource list as a JSON value. -/
def ResourceList.toValue (list : ResourceList) : Value :=
  .object [
    ("groupVersion", .string list.groupVersion),
    ("resources", .array (list.resources.map Resource.toValue))]

/-- A discovery document on one line. -/
def documentText (lists : List ResourceList) : String :=
  (Value.array (lists.map ResourceList.toValue)).compactText

end OperatorKit.Discovery
