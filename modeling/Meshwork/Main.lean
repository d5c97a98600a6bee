import Meshwork.CommandLine
import Meshwork.Draws.Stream

/-! # The program

Reads the configuration file, draws a seed and prints what the command line
has to say. -/

namespace Meshwork.CommandLine
set_option autoImplicit false

def readFile? (path : Option String) : IO (Option Bytes) :=
  match path with
  | none => return none
  | some path => do
    try
      return some (← IO.FS.readBinFile path).toList
    catch _ => return none

def randomSeed : IO UInt64 := do
  let bytes ← IO.getRandomBytes 8
  return UInt64.ofNat (Bytes.ofLittleEndian bytes.toList)

end Meshwork.CommandLine

def main (args : List String) : IO UInt32 := do
  let file ← Meshwork.CommandLine.readFile? (Meshwork.CommandLine.configPath? args)
  let seed ← Meshwork.CommandLine.randomSeed
  let result := Meshwork.CommandLine.outcome args file (Meshwork.Draws.ofSeed seed)
  for line in result.lines do
    IO.println line
  if let some complaint := result.complaint then
    IO.eprintln complaint
  return result.code
