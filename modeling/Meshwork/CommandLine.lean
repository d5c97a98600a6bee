import Meshwork.CommandLine.Frames
import Meshwork.CommandLine.Joining
import Meshwork.CommandLine.Traffic
import Meshwork.Config.Text

/-! # The command line

From arguments, the content of a configuration file and a source of draws to
what is printed and the code that is left with. The configuration is read
before anything is printed. -/

namespace Meshwork
set_option autoImplicit false

/-- The configuration that devices are made from. The file is none if it could
not be read. -/
def Invocation.template (i : Invocation) (file : Option Bytes) : Except CommandError Config :=
  match i.config, file with
  | none, _ => .ok .initial
  | some path, none => .error (.unreadableConfig path)
  | some path, some content =>
    if content.text?.isNone then .error (.unreadableConfig path)
    else
      match Config.parse? content with
      | some c => .ok c
      | none => .error (.invalidConfig path)

def Command.run (template : Config) (draws : Draws) : Command → Transcript
  | decode frame => CommandLine.decodeFrame frame
  | encode plan => CommandLine.encodeFrame plan draws
  | simulate plan => CommandLine.simulate template plan draws
  | join plan => CommandLine.join template plan draws
  | info => { lines := CommandLine.infoLines }

def Invocation.run (i : Invocation) (file : Option Bytes) (draws : Draws) : Transcript :=
  match i.template file with
  | .error e => .ofError e
  | .ok template => i.command.run template draws

structure Outcome where
  code : UInt32 := 0
  lines : List String := []
  /-- What is printed apart from the lines. -/
  complaint : Option String := none

def Outcome.ofTranscript (t : Transcript) : Outcome :=
  match t.failure with
  | none => { lines := t.lines }
  | some e => { code := 1, lines := t.lines, complaint := some ("Error: " ++ e.message) }

namespace CommandLine

def version : String := "radiomesh 0.1.0"

def usage : String :=
  "Usage: radiomesh [-v] [-c FILE] [--version] decode | encode | simulate | include | info"

/-- The configuration file that arguments name. -/
def configPath? (args : List String) : Option String :=
  match Invocation.ofArguments args with
  | .ok i => i.config
  | .error _ => none

def outcome (args : List String) (file : Option Bytes) (draws : Draws) : Outcome :=
  match Invocation.ofArguments args with
  | .ok i => Outcome.ofTranscript (i.run file draws)
  | .error .usage => { code := 2, complaint := some usage }
  | .error .help => { lines := [usage] }
  | .error .version => { lines := [version] }

end CommandLine
end Meshwork
