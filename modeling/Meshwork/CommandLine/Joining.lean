import Meshwork.CommandLine.Command
import Meshwork.CommandLine.Transcript
import Meshwork.Simulation.Step

/-! # Devices that join

A hub and some devices within its reach. The devices ask for inclusion one
after the other, and the transcript tells what came of it. -/

namespace Meshwork.CommandLine
set_option autoImplicit false

/-- What is said about the hub, which is opened unless it is to stay closed. -/
def openHub (closed : Bool) (s : Simulation) : Except MeshError (List String × Simulation) :=
  match s.device? 0 with
  | none => .ok ([], s)
  | some hub =>
    let name := "Hub " ++ hub.nodeId.text
    if closed then .ok ([name ++ ": inclusion mode CLOSED"], s)
    else
      match s.onDevice 0 fun d draws => d.enableInclusion draws with
      | (some (.error e), _) => .error e
      | (_, s) => .ok ([name ++ ": inclusion mode open"], s)

/-- Lets devices ask, with a step after each, and gives the lines printed
until one of them failed. -/
def askAll : List Nat → Simulation → List String × Except MeshError Simulation
  | [], s => ([], .ok s)
  | index :: rest, s =>
    match s.onDevice index fun d draws => d.requestInclusion s.now draws with
    | (some (.error e), _) => ([], .error e)
    | (asked, s) =>
      let line := match asked, s.nodeId? index with
        | some _, some id => ["Device " ++ id.text ++ ": INCLUDE_REQUEST sent"]
        | _, _ => []
      match s.step with
      | (.error e, _) => (line, .error e)
      | (.ok (), s) =>
        let (lines, result) := askAll rest s
        (line ++ lines, result)

/-- Whether no device waits for an answer any more. -/
def isSettled (s : Simulation) : Bool :=
  (s.nodes.drop 1).all fun n => n.device.state != .inclusionPending

def resultLine (s : Simulation) : SimEvent → List String
  | .inclusion index event =>
    let name := "  " ++ ((s.nodeId? index).map NodeId.text).getD ""
    match event with
    | .included peer => [name ++ ": included with " ++ peer.text]
    | .failed peer reason =>
      [name ++ ": FAILED with " ++ peer.text ++ " (" ++ reason.message ++ ")"]
  | _ => []

def stateLine (node state key : String) : String :=
  Transcript.column 10 node ++ " " ++ Transcript.column 18 state ++ " " ++ Transcript.column 8 key

def deviceLine (n : SimNode) : String :=
  stateLine n.device.nodeId.text n.device.state.label (if n.device.keys.hasKey then "yes" else "no")

def joinedLines (s : Simulation) : List String :=
  ["Inclusion results:"] ++ s.events.flatMap (resultLine s)
    ++ ["", stateLine "Node" "State" "Key", String.ofList (List.replicate 36 '-')]
    ++ s.nodes.map deviceLine ++ ["", "Simulated time: " ++ toString s.now.toNat ++ " ms"]

/-- What follows once the hub is there. -/
def joinHub (plan : JoinPlan) (s : Simulation) : Transcript :=
  match openHub plan.closed s with
  | .error e => .ofError (.mesh e)
  | .ok (lines, s) =>
    match askAll (List.range' 1 plan.devices) s with
    | (asked, .error e) => (Transcript.ofError (.mesh e)).after (lines ++ asked)
    | (asked, .ok s) =>
      match Simulation.runUntil isSettled s plan.steps with
      | (.error e, _) => (Transcript.ofError (.mesh e)).after (lines ++ asked ++ [""])
      | (.ok _, s) => { lines := lines ++ asked ++ [""] ++ joinedLines s }

def join (template : Config) (plan : JoinPlan) (draws : Draws) : Transcript :=
  let printed :=
    match Simulation.line { mesh := template } draws (plan.devices + 1) 10 with
    | .error e => Transcript.ofError (.mesh e)
    | .ok s => joinHub plan s
  printed.after ["=== RadioMesh Inclusion Demo ===", ""]

end Meshwork.CommandLine
