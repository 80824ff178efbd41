import KMeansSeeding.CommandLine.Program

/-!
# The executable

The effects around the program: the files a command needs are read, the program is run on them, and
what it leaves behind is written. The time of a query is measured here, since it is no part of the
program.
-/

namespace KMeansSeeding

/-- The text of a file, or why there is none. -/
def readText (name : String) : IO (Except FileFault String) := do
  try
    match String.fromUTF8? (← IO.FS.readBinFile name) with
    | some text => return .ok text
    | none => return .error .notText
  catch
    | .inappropriateType none .. => return .error .directory
    | .inappropriateType .. => return .error .notDirectory
    | .invalidArgument _ 22 _ => return .error .zeroInName
    | .invalidArgument .. => return .error .nameTooLong
    | _ => return .error .missing

/-- The texts of the files that a command line names. -/
def gather (arguments : List String) : IO CommandLine.Files := do
  match CommandLine.parse arguments with
  | .error _ => return fun _ => .error .missing
  | .ok invocation =>
    let input ← readText invocation.settings.input
    let configuration ← invocation.settings.configuration.mapM readText
    return fun name =>
      if name = invocation.settings.input then input
      else configuration.getD (.error .missing)

end KMeansSeeding

/-- Runs the program on the arguments. -/
def main (arguments : List String) : IO UInt32 := do
  let start ← IO.monoMsNow
  let files ← KMeansSeeding.gather arguments
  let finish := KMeansSeeding.CommandLine.run files arguments
  IO.print finish.output
  let elapsed := (← IO.monoMsNow) - start
  for piece in finish.diagnostics do
    if piece.endsWith " in TIME\n" then
      IO.eprint ((piece.dropEnd 5).toString ++ s!"{elapsed}ms\n")
    else
      IO.eprint piece
  return finish.code.toUInt32
