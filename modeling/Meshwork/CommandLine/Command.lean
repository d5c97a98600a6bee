import Meshwork.CommandLine.Arguments

/-! # Commands

What the command line can be asked for: to take a frame apart or make one, to
simulate a mesh or the inclusion of devices, and to tell about frames. -/

namespace Meshwork
set_option autoImplicit false

inductive Layout where
  | line | random
deriving DecidableEq, Repr

def Layout.label : Layout → String
  | line => "Line"
  | random => "Random"

structure FramePlan where
  source : String
  destination : String
  topic : String
  message : String
  hopCount : UInt8

structure TrafficPlan where
  nodes : Nat
  messages : Nat
  layout : Layout
  /-- The distance between neighbours on a line, unless it is left to the medium. -/
  spacing : Option Float
  area : Float
  steps : Nat
  seed : UInt64
  json : Bool

structure JoinPlan where
  devices : Nat
  /-- Whether the hub takes no requests. -/
  closed : Bool
  steps : Nat

inductive Command where
  | decode (frame : String)
  | encode (plan : FramePlan)
  | simulate (plan : TrafficPlan)
  | join (plan : JoinPlan)
  | info

/-- A command, and where the configuration of its devices is to be found. -/
structure Invocation where
  config : Option String
  command : Command

namespace CommandLine

def readNat? (cs : List Char) : Option Nat := Number.below? 10 UInt64.size cs

def readByte? (cs : List Char) : Option Nat := Number.belowSigned? 10 256 cs

def readLayout? (cs : List Char) : Option Layout :=
  match String.ofList cs with
  | "line" => some .line
  | "random" => some .random
  | _ => none

def config : OptionSpec := { long := "config", short := some 'c', accepts := (!·.isEmpty) }

def help : OptionSpec :=
  { long := "help", short := some 'h', takesValue := false, stop := some .help }

def versionOption : OptionSpec :=
  { long := "version", short := some 'V', takesValue := false, stop := some .version }

/-- A number without a fraction. -/
def counted (long : String) (short : Option Char) : OptionSpec :=
  { long := long, short := short, accepts := fun cs => (readNat? cs).isSome }

def measured (long : String) : OptionSpec :=
  { long := long, accepts := fun cs => (Number.float? cs).isSome }

def outerForm : Form where
  options :=
    [{ long := "verbose", short := some 'v', takesValue := false, repeatable := true }, config,
     help, versionOption]

def encodeForm : Form where
  options :=
    [config, help, { long := "source", short := some 's' }, { long := "dest", short := some 'd' },
     { long := "topic", short := some 't' }, { long := "message", short := some 'm' },
     { long := "hop-count", accepts := fun cs => (readByte? cs).isSome }]
  required := ["source"]

def simulateForm : Form where
  options :=
    [config, help, counted "nodes" (some 'n'), counted "messages" (some 'm'),
     { long := "layout", short := some 'l', accepts := fun cs => (readLayout? cs).isSome },
     measured "spacing", measured "area", counted "steps" none, counted "seed" none,
     { long := "json", takesValue := false }]

def joinForm : Form where
  options :=
    [config, help, counted "devices" (some 'd'), { long := "closed", takesValue := false },
     counted "steps" none]

def forms : List (String × Form) :=
  [("decode", { options := [config, help], operands := 1 }), ("encode", encodeForm),
   ("simulate", simulateForm), ("include", joinForm), ("info", { options := [config, help] })]

end CommandLine

namespace Reading

def nat (r : Reading) (name : String) (initial : Nat) : Nat :=
  match r.options.lookup name with
  | some text => (CommandLine.readNat? text.toList).getD initial
  | none => initial

def float? (r : Reading) (name : String) : Option Float :=
  match r.options.lookup name with
  | some text => Number.float? text.toList
  | none => none

def framePlan (r : Reading) : FramePlan where
  source := r.value "source" ""
  destination := r.value "dest" "broadcast"
  topic := r.value "topic" "cmd"
  message := r.value "message" ""
  hopCount := UInt8.ofNat ((CommandLine.readByte? (r.value "hop-count" "0").toList).getD 0)

def trafficPlan (r : Reading) : TrafficPlan where
  nodes := r.nat "nodes" 5
  messages := r.nat "messages" 10
  layout := (CommandLine.readLayout? (r.value "layout" "line").toList).getD .line
  spacing := r.float? "spacing"
  area := (r.float? "area").getD 2000
  steps := r.nat "steps" 20
  seed := UInt64.ofNat (r.nat "seed" 42)
  json := r.isGiven "json"

def joinPlan (r : Reading) : JoinPlan where
  devices := r.nat "devices" 2
  closed := r.isGiven "closed"
  steps := r.nat "steps" 50

def toCommand (r : Reading) : Command :=
  match r.command with
  | some "decode" => .decode (r.operands.headD "")
  | some "encode" => .encode r.framePlan
  | some "simulate" => .simulate r.trafficPlan
  | some "include" => .join r.joinPlan
  | _ => .info

end Reading

def Invocation.ofArguments (args : List String) : Except Stop Invocation :=
  match Reading.readAll CommandLine.forms CommandLine.outerForm args with
  | .error stop => .error stop
  | .ok r => .ok { config := r.either? "config", command := r.toCommand }

end Meshwork
