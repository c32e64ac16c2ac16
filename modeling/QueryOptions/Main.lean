import QueryOptions.Command

set_option autoImplicit false

namespace QueryOptions

def usage : String :=
  "usage: qopt (filter|search|orderby|compute|select|expand|apply) [TEXT]\n" ++
  "            [--json] [-p|--pretty] [-c|--config FILE] [--max-depth N]\n" ++
  "            [--case-insensitive] [--no-dollar-prefix]\n" ++
  "       qopt tokens [TEXT] [--search] [--json]\n" ++
  "       qopt docs\n" ++
  "       qopt doc CATEGORY\n"

-- The number of a fault, which may arrive as a negative word of 32 bits.
def codeOf (code : UInt32) : Nat := min code.toNat (-code).toNat

def faultOf : IO.Error → FileFault
  | .noFileOrDirectory .. => .missing
  | .inappropriateType _ code description =>
      if codeOf code = 20 then .notDirectory
      else if codeOf code = 21 then .isDirectory
      else .other (FileFault.numbered description (codeOf code))
  | .invalidArgument _ code description =>
      if codeOf code = 36 then .nameTooLong
      else .other (FileFault.numbered description (codeOf code))
  | .permissionDenied _ code _ => .other (FileFault.numbered "Permission denied" (codeOf code))
  | .userError _ => .notText
  | error => .other (toString error)

def readText (read : IO String) : IO (Except FileFault String) := do
  try return .ok (← read)
  catch error => return .error (faultOf error)

def readInput : IO (Option (Except FileFault String)) := do
  let input ← IO.getStdin
  if ← input.isTty then return none
  else return some (← readText input.readToEnd)

end QueryOptions

def main (arguments : List String) : IO UInt32 := do
  match QueryOptions.Command.ofArguments? arguments with
  | none =>
      IO.eprint QueryOptions.usage
      return 2
  | some command =>
      let settingsFile ← match command.settingsFile? with
        | some file => QueryOptions.readText (IO.FS.readFile file)
        | none => pure (.ok "")
      let text ← if command.readsInput then QueryOptions.readInput else pure none
      match command.run ⟨settingsFile, text⟩ with
      | .ok printed =>
          IO.print printed
          return 0
      | .error error =>
          IO.eprintln error.message
          return 1
