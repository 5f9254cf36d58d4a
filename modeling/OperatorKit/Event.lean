/-!
# Events

What an operation reports besides its result: a message with named details, all of them texts.
-/

namespace OperatorKit

/-- How much an event matters. -/
inductive Level where
  | trace
  | debug
  | error
deriving DecidableEq

/-- The name of a level. -/
def Level.name : Level → String
  | trace => "TRACE"
  | debug => "DEBUG"
  | error => "ERROR"

/-- One reported event. -/
structure Event where
  level : Level
  message : String
  fields : List (String × String)
deriving DecidableEq

end OperatorKit
