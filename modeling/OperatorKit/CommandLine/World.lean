import OperatorKit.CommandLine.FileTree

/-!
# What a command can see

Files by their paths, and variables by their names. A command sees nothing else, so its outcome is a
function of its arguments and of these two.
-/

namespace OperatorKit.CommandLine

open OperatorKit.Text

/-- The surroundings of a command. -/
structure World where
  readFile : String → Except FileFault Bytes
  valueOf : String → Option String

/-- The surroundings in a directory that holds these files and no others. A variable whose bytes are
no text counts as not set. -/
def World.ofDirectory (files environment : List (String × Bytes)) : World where
  readFile := FileTree.read (files.map fun (path, content) => (pathNames path, content))
  valueOf name := (environment.lookup name).bind Utf8.text?

end OperatorKit.CommandLine
