import Meshwork.CommandLine.Values

/-! # Transcripts

What a command prints: lines, and what it failed for if it did. The lines
printed before a failure stand. -/

namespace Meshwork
set_option autoImplicit false

structure Transcript where
  lines : List String := []
  failure : Option CommandError := none

namespace Transcript

def ofError (e : CommandError) : Transcript := { failure := some e }

def after (t : Transcript) (lines : List String) : Transcript :=
  { t with lines := lines ++ t.lines }

/-- A name that is filled up with blanks behind it. -/
def column (width : Nat) (text : String) : String :=
  text ++ String.ofList (List.replicate (width - text.length) ' ')

/-- A number with blanks in front of it. -/
def columnRight (width n : Nat) : String :=
  let digits := toString n
  String.ofList (List.replicate (width - digits.length) ' ') ++ digits

end Transcript
end Meshwork
