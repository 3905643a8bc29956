import LogLens.CommandLine.Run

/-!
# The program

The program reads its arguments, its environment and the one file that it is
asked to show, and leaves everything else to `CommandLine.run`.
-/

namespace LogLens

namespace Program

def look (path : FilePath) : IO Found := do
  try
    return .file (← IO.FS.readBinFile (String.ofList path.toText)).toList
  catch _ =>
    return if path.isLong || path.parts.any FilePath.isLongName then .tooLong
      else .nothing

/-- The files that a request needs: at most the one that it names. -/
def filesFor (arguments : List Text) : IO FileStore := do
  match CommandLine.read arguments with
  | .ok (.run invocation) =>
      let found ← look (FilePath.ofText invocation.path)
      return { look := fun _ => found }
  | _ => return { look := fun _ => .nothing }

end Program

end LogLens

open LogLens in
def main (arguments : List String) : IO UInt32 := do
  let override ← IO.getEnv (String.ofList parseCapVariable)
  let arguments := arguments.map String.toList
  let files ← Program.filesFor arguments
  match CommandLine.run files (override.map String.toList) arguments with
  | .ok outcome =>
      IO.print (String.ofList outcome.output)
      IO.eprint (String.ofList outcome.complaint)
      return UInt32.ofNat outcome.exit
  | .error failure => throw (IO.userError (String.ofList failure.message))
