import PortableSql.CommandLine

/-!
# The command

Reads the file that is asked for, and prints what there is to print.
-/
namespace PortableSql.CommandLine

/-- The bytes of a file that can be read. -/
def fileContents (path : String) : IO (Option Bytes) := do
  try
    let bytes ← IO.FS.readBinFile path
    pure (some bytes.toList)
  catch _ => pure none

/-- Runs the command. -/
def run (arguments : List String) : IO UInt32 := do
  let outcome ← answer fileContents arguments
  IO.print outcome.output
  IO.eprint outcome.complaint
  pure outcome.code.toUInt32

end PortableSql.CommandLine

/-- Runs the command. -/
def main (arguments : List String) : IO UInt32 :=
  PortableSql.CommandLine.run arguments
