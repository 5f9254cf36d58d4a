/-!
# Failure reports

What a command shows when it fails: a message, and the chain of causes behind it. A single cause
stands alone, several are numbered from zero.
-/

namespace OperatorKit.CommandLine

/-- Why a command failed. -/
structure Report where
  message : String
  causes : List String
deriving DecidableEq

namespace Report

/-- Causes with their numbers, one a line. -/
def numbered (number : Nat) : List String → String
  | [] => ""
  | cause :: causes =>
    "    " ++ toString number ++ ": " ++ cause ++ "\n" ++ numbered (number + 1) causes

/-- The causes under their heading, if there are any. -/
def causesText : List String → String
  | [] => ""
  | [cause] => "\nCaused by:\n    " ++ cause ++ "\n"
  | causes => "\nCaused by:\n" ++ numbered 0 causes

/-- A report in full. -/
def text (report : Report) : String :=
  "Error: " ++ report.message ++ "\n" ++ causesText report.causes

end Report

end OperatorKit.CommandLine
