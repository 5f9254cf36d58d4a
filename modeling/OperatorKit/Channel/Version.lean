import OperatorKit.Channel.Component
import OperatorKit.Decimal.Integer

/-!
# Channel versions

The components of a channel name, all of them read. Versions are equal if their components are, so
`v1.0` and `v1.0.0` differ; in the order a missing component counts as zero.
-/

namespace OperatorKit.Channel

/-- The components of a channel, the most significant first. -/
structure Version where
  components : List Int
deriving DecidableEq

/-- The integers of the pieces from a position on. -/
def readPieces (channel : String) (position : Nat) :
    List (List Char) → Except VersionFault (List Int)
  | [] => .ok []
  | piece :: more => do
    let component ← readPiece channel position piece
    let components ← readPieces channel (position + 1) more
    .ok (component :: components)

/-- Whether the first difference, over the length of the first list, favours it. -/
def isNewerList : (mine theirs : List Int) → Bool
  | [], _ => false
  | component :: mine, theirs =>
    let other := theirs.headD 0
    if other < component then true
    else if component < other then false
    else isNewerList mine theirs.tail

namespace Version

/-- Reads a channel name. -/
def parse (channel : String) : Except VersionFault Version :=
  (readPieces channel 0 (pieces channel)).map Version.mk

/-- Whether a version comes strictly after another. Components of the other beyond the length of
this one are not looked at. -/
def isNewerThan (version other : Version) : Bool :=
  isNewerList version.components other.components

/-- The canonical name of a version. -/
def text (version : Version) : String :=
  String.ofList ('v' :: ['.'].intercalate (version.components.map Decimal.integerChars))

end Version

end OperatorKit.Channel
