import RecordSchema.Decimal.Digits
import RecordSchema.Json.Encode
import RecordSchema.Load

/-!
# The command line

`CommandLine.run` is the whole program as a function of its arguments: the exit code and what is
written to the two output streams. The program reads one declaration, checks that it is accepted
unless it is told not to, and writes the schema as JSON and as a canonical declaration.

The exit code is 0 for success, 1 for a declaration that cannot be read or is not accepted, and 2 for
arguments that make no sense.
-/

namespace RecordSchema.CommandLine

open RecordSchema.Declaration

/-! ### Arguments -/

/-- What the arguments ask for. -/
structure Options where
  limit : Nat := defaultLimit
  checked : Bool := true
  text : Option String := none   -- the declaration, once it was met
deriving DecidableEq, Repr

/-- Why arguments make no sense. -/
inductive UsageFault where
  | missingLimit
  | badLimit (value : String)
  | unknownOption (option : String)
  | secondText
  | missingText
deriving DecidableEq, Repr

/-- The wording of a usage fault. -/
def UsageFault.message : UsageFault → String
  | missingLimit => "--max-depth requires a value"
  | badLimit value => "invalid --max-depth value: " ++ value
  | unknownOption option => "unknown option: " ++ option
  | secondText => "expected a single DSL argument"
  | missingText => "missing DSL argument"

/-- The largest limit: one word of 64 bits. -/
def maxLimit : Nat := 0xFFFFFFFFFFFFFFFF

/-- Read a limit: decimal digits, after a plus sign or without one, that spell a number up to
`maxLimit`. -/
def readLimit? (value : String) : Option Nat :=
  let digits := match value.toList with
    | '+' :: rest => rest
    | cs => cs
  if digits.isEmpty || !digits.all Char.isDigit then none
  else
    let limit := Decimal.digitsValue digits
    if limit ≤ maxLimit then some limit else none

/-- Does the argument look like an option? -/
def isOption (arg : String) : Bool := arg.toList.take 2 == ['-', '-']

/-- Read arguments from left to right, up to the first that makes no sense. -/
def readArgs (options : Options) : List String → Except UsageFault Options
  | [] => .ok options
  | ["--max-depth"] => .error .missingLimit
  | "--max-depth" :: value :: args =>
    match readLimit? value with
    | some limit => readArgs { options with limit } args
    | none => .error (.badLimit value)
  | "--no-validate" :: args => readArgs { options with checked := false } args
  | arg :: args =>
    if isOption arg then .error (.unknownOption arg)
    else
      match options.text with
      | some _ => .error .secondText
      | none => readArgs { options with text := some arg } args

/-! ### Output -/

/-- What the program leaves behind. -/
structure Outcome where
  code : Nat
  stdout : String := ""
  stderr : String := ""
deriving DecidableEq, Repr

/-- How the program is to be called. -/
def usage (program : String) : String :=
  "\nUsage: " ++ program ++ " [--max-depth N] [--no-validate] <dsl>\n" ++
  "\nExamples:\n" ++
  "  " ++ program ++ " \"name s,age *l,tags a(s)\"\n" ++
  "  " ++ program ++ " \"meta map\x7bx l,y b\x7d\"\n"

/-- The outcome for arguments that make no sense. -/
def misused (program : String) (fault : UsageFault) : Outcome :=
  { code := 2, stderr := "Error: " ++ fault.message ++ "\n" ++ usage program }

/-- The outcome for a declaration that cannot be read. -/
def unreadable (fault : Fault) : Outcome :=
  { code := 1, stderr := "❌ Schema parse failed: " ++ fault.message ++ "\n" }

/-- The outcome for a schema that is not accepted. -/
def refused (rejection : Rejection) : Outcome :=
  { code := 1, stderr := "❌ Schema validation failed: " ++ rejection.message ++ "\n" }

/-- The outcome for a schema that is fine. -/
def shown (checked : Bool) (schema : Schema) : Outcome :=
  { code := 0
    stdout :=
      (if checked then "✓ Schema is valid!\n" else "") ++ schema.toIndentedJson ++
        "\n\nCanonical DSL: " ++ schema.render ++ "\n" }

/-- Read a declaration, check its schema if asked to, and show it. -/
def process (limit : Nat) (checked : Bool) (text : String) : Outcome :=
  match parse limit text with
  | .error fault => unreadable fault
  | .ok schema =>
    if checked then
      match schema.accept with
      | .error rejection => refused rejection
      | .ok _ => shown true schema
    else shown false schema

/-- The program, called by some name with some arguments. -/
def run (program : String) (args : List String) : Outcome :=
  match readArgs {} args with
  | .error fault => misused program fault
  | .ok options =>
    match options.text with
    | none => misused program .missingText
    | some text => process options.limit options.checked text

end RecordSchema.CommandLine
