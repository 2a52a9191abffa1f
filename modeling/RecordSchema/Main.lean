import RecordSchema.CommandLine

/-!
# The program

Hands the arguments to `CommandLine.run`, writes its two texts and exits with its code. In its usage
text the program goes by the path it was started from, which is not among its arguments.
-/

open RecordSchema

/-- Entry point of the program. -/
def main (args : List String) : IO UInt32 := do
  let program ← IO.appPath
  let outcome := CommandLine.run program.toString args
  (← IO.getStdout).putStr outcome.stdout
  (← IO.getStderr).putStr outcome.stderr
  return outcome.code.toUInt32
