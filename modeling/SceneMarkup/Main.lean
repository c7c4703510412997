import SceneMarkup.Command.Run

namespace SceneMarkup
namespace Command

/-!
# The command line

The outermost layer: it lends the commands the real file system and prints what
they leave behind.
-/

/-- The file system of the machine. -/
def machineFiles : FileAccess IO where
  read path := do
    try
      return some (← IO.FS.readFile path)
    catch _ => return none
  makeDirectory path := do
    try
      IO.FS.createDirAll path
      return true
    catch _ => return false
  write path content := do
    try
      IO.FS.writeFile path content
      return true
    catch _ => return false

end Command
end SceneMarkup

/-- Run a command line: the log and failures go to the error stream, so that the
output holds nothing else. -/
def main (arguments : List String) : IO UInt32 := do
  let result ← SceneMarkup.Command.run SceneMarkup.Command.machineFiles arguments
  for line in result.log do
    IO.eprintln line.text
  match result.failure with
  | some failure => IO.eprintln ("Error: " ++ failure.message)
  | none => IO.print result.output
  return (SceneMarkup.Command.exitStatus result.failure).toUInt32
