import OperatorKit.Channel.Component
import OperatorKit.Event

/-!
# Comparing channels

Two channel names compared piece by piece. A piece is read only when the comparison reaches it, so
what stands after the first difference may be anything.
-/

namespace OperatorKit.Channel

/-- How a channel compares with another. -/
inductive Verdict where
  /-- Its component at this position is larger. -/
  | newer (position : Nat)
  /-- Its component at this position is smaller. -/
  | older (position : Nat)
  /-- None of its components differs. -/
  | level
deriving DecidableEq

/-- Compares the pieces from a position on, over the length of the first list; a piece that the
second list lacks counts as zero. -/
def comparePieces (channel other : String) (position : Nat) :
    (mine theirs : List (List Char)) → Except VersionFault Verdict
  | [], _ => .ok .level
  | piece :: mine, theirs => do
    let component ← readPiece channel position piece
    let otherComponent ← match theirs with
      | [] => .ok 0
      | otherPiece :: _ => readPiece other position otherPiece
    if otherComponent < component then .ok (.newer position)
    else if component < otherComponent then .ok (.older position)
    else comparePieces channel other (position + 1) mine theirs.tail

/-- Compares two channel names. -/
def compare (channel other : String) : Except VersionFault Verdict :=
  comparePieces channel other 0 (pieces channel) (pieces other)

/-- Whether the verdict is that the channel is strictly newer. -/
def Verdict.isNewer : Verdict → Bool
  | newer _ => true
  | older _ | level => false

/-- Whether a channel is strictly newer than another. -/
def isNewer (channel other : String) : Except VersionFault Bool :=
  (compare channel other).map Verdict.isNewer

/-- What a comparison reports; nothing where a smaller component decided. -/
def Verdict.events (channel other : String) : Verdict → List Event
  | newer position =>
    [⟨.trace, "Channel v1 is newer",
      [("v1", channel), ("v2", other), ("position", toString position)]⟩]
  | level => [⟨.trace, "Channel v1 is not newer", [("v1", channel), ("v2", other)]⟩]
  | older _ => []

end OperatorKit.Channel
