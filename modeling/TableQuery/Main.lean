import TableQuery.Session

/-!
# Main — a session at the terminal

The file named by the first argument is opened, and lines are read until the input ends or a line
stops the session.
-/

namespace TableQuery

open Session

/-- The number, with either sign, of the error that a path leads through something that is no
directory. -/
def leadsNowhere (code : UInt32) : Bool := code == 20 || -code == 20

/-- What is found at a path.  A path that leads nowhere is a missing file. -/
def openFile (path : String) : IO Resource.File := do
  try
    return .ofBytes (← IO.FS.readBinFile path)
  catch
    | .noFileOrDirectory .. => return .missing
    | .inappropriateType _ code details
    | .permissionDenied _ code details =>
      if leadsNowhere code then return .missing
      else return .unreadable s!"{details} (os error {code})"
    | e => return .unreadable (toString e)

/-- Reads lines and prints what they bring about. -/
partial def interact (resource : Resource) (query : Query) : IO Unit := do
  let line ← (← IO.getStdin).getLine
  if line.isEmpty then return ()
  let effect := handleTyped resource query line
  for text in effect.output do
    IO.println text
  if effect.verdict = .stop then return ()
  interact resource effect.query

end TableQuery

open TableQuery in
/-- Opens a resource and runs a session on it. -/
def main (args : List String) : IO Unit := do
  let path := args.headD Session.defaultPath
  let (resource, greeting) := Session.openResource path (← openFile path)
  IO.println greeting
  IO.println Session.help
  interact resource {}
