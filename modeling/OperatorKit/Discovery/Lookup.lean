import OperatorKit.Discovery.Reader

/-!
# Looking up kinds

A source either lists what the server offers or fails, and then every question to it fails the same
way. The first resource of a kind, over all lists of its group version, is the one that answers.
-/

namespace OperatorKit.Discovery

open OperatorKit.Text OperatorKit.Json

/-- Why a source fails. -/
inductive DiscoveryFault where
  | request (reason : String)
  | document (fault : SyntaxFault)

/-- The wording of the fault of a source. -/
def DiscoveryFault.message : DiscoveryFault → String
  | request reason => "discovery request error: " ++ reason
  | document fault => "discovery parse error: " ++ fault.message

/-- What a server answers when it is asked for its resource lists. -/
abbrev Source := Except DiscoveryFault (List ResourceList)

namespace Source

/-- The source that a discovery document describes. -/
def ofDocument (text : Bytes) : Source :=
  (readDocument text).mapError .document

/-- The resources offered under a group version, in order. -/
def offered (groupVersion : String) (lists : List ResourceList) : List Resource :=
  (lists.filter (·.groupVersion == groupVersion)).flatMap ResourceList.resources

/-- The resource that answers for a kind. -/
def find? (source : Source) (groupVersion kind : String) :
    Except DiscoveryFault (Option Resource) :=
  source.map fun lists => (offered groupVersion lists).find? (·.kind == kind)

/-- Whether a kind is offered under a group version. -/
def hasKind (source : Source) (groupVersion kind : String) : Except DiscoveryFault Bool :=
  (source.find? groupVersion kind).map Option.isSome

/-- Whether a kind offered under a group version lives in a namespace; an unknown kind does not. -/
def isNamespaced (source : Source) (groupVersion kind : String) : Except DiscoveryFault Bool :=
  (source.find? groupVersion kind).map fun found => found.any Resource.namespaced

end Source

end OperatorKit.Discovery
