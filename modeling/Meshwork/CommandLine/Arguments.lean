import Meshwork.Text.Number

/-! # Arguments

A command line is read from left to right. Options have long names, and some
have short ones that can be run together; a value follows its option or is
attached to it. What comes after a double dash is no option. -/

namespace Meshwork
set_option autoImplicit false

inductive Stop where
  /-- The arguments fit no form. -/
  | usage
  | help
  | version
deriving DecidableEq, Repr

structure OptionSpec where
  long : String
  short : Option Char := none
  takesValue : Bool := true
  repeatable : Bool := false
  accepts : List Char → Bool := fun _ => true
  /-- What the option ends the reading for, if it does. -/
  stop : Option Stop := none

/-- What a command, or the line before its name, can be given. -/
structure Form where
  options : List OptionSpec
  /-- Options that it does not go without. -/
  required : List String := []
  operands : Nat := 0

/-- What has been read of a command line. -/
structure Reading where
  form : Form
  command : Option String := none
  /-- Options given before the name of the command. -/
  outer : List (String × String) := []
  options : List (String × String) := []
  operands : List String := []
  awaiting : Option OptionSpec := none
  /-- Whether a double dash has been read. -/
  literal : Bool := false

namespace Reading

/-- Notes an option; most can be given only once. -/
def put (r : Reading) (spec : OptionSpec) (value : String) : Except Stop Reading :=
  match spec.stop with
  | some stop => .error stop
  | none =>
    if (r.options.lookup spec.long).isSome && !spec.repeatable then .error .usage
    else if !spec.accepts value.toList then .error .usage
    else .ok { r with options := (spec.long, value) :: r.options, awaiting := none }

/-- Reads `--name` or `--name=value`, behind the dashes. -/
def long (r : Reading) (cs : List Char) : Except Stop Reading :=
  let name := String.ofList (cs.takeWhile (· != '='))
  match r.form.options.find? (·.long == name), cs.dropWhile (· != '=') with
  | none, _ => .error .usage
  | some spec, [] =>
    if spec.takesValue then .ok { r with awaiting := some spec } else r.put spec ""
  | some spec, _ :: value =>
    if spec.takesValue then r.put spec (String.ofList value) else .error .usage

/-- The value attached to a short name, with or without a sign between. -/
def attached : List Char → List Char
  | '=' :: value => value
  | value => value

/-- Reads short names run together, behind the dash. -/
def short (r : Reading) : List Char → Except Stop Reading
  | [] => .ok r
  | c :: cs =>
    match r.form.options.find? (·.short == some c) with
    | none => .error .usage
    | some spec =>
      if !spec.takesValue then
        match r.put spec "" with
        | .ok r => r.short cs
        | .error stop => .error stop
      else if cs.isEmpty then .ok { r with awaiting := some spec }
      else r.put spec (String.ofList (attached cs))

def operand (forms : List (String × Form)) (r : Reading) (arg : String) : Except Stop Reading :=
  match r.command, forms.lookup arg with
  | some _, _ =>
    if r.operands.length < r.form.operands then .ok { r with operands := r.operands ++ [arg] }
    else .error .usage
  | none, some form =>
    if r.literal then .error .usage
    else .ok { form := form, command := some arg, outer := r.options }
  | none, none => .error .usage

/-- Reads one argument. A single dash is an operand or a value like any other. -/
def read (r : Reading) (forms : List (String × Form)) (arg : String) : Except Stop Reading :=
  match r.awaiting, r.literal, arg.toList with
  | some spec, _, cs => if cs.head? = some '-' ∧ cs ≠ ['-'] then .error .usage else r.put spec arg
  | none, false, ['-', '-'] => .ok { r with literal := true }
  | none, false, '-' :: '-' :: cs => r.long cs
  | none, false, '-' :: c :: cs => r.short (c :: cs)
  | none, _, _ => r.operand forms arg

/-- Whether nothing is missing. -/
def isComplete (r : Reading) : Bool :=
  r.awaiting.isNone && r.command.isSome && r.operands.length == r.form.operands
    && r.form.required.all fun name => (r.options.lookup name).isSome

/-- Whether an argument asks for help, in the place of a command's name. -/
def asksHelp (r : Reading) (arg : String) : Bool :=
  arg == "help" && r.command.isNone && r.awaiting.isNone && !r.literal

/-- What asking for help ends in. Nothing but the name of one command, or of
help itself, may follow. -/
def helpOn (forms : List (String × Form)) : List String → Stop
  | [] => .help
  | [name] => if name = "help" ∨ (forms.lookup name).isSome then .help else .usage
  | _ => .usage

def readFrom (forms : List (String × Form)) : Reading → List String → Except Stop Reading
  | r, [] => if r.isComplete then .ok r else .error .usage
  | r, arg :: args =>
    if r.asksHelp arg then .error (helpOn forms args)
    else
      match r.read forms arg with
      | .error stop => .error stop
      | .ok r => r.readFrom forms args

def readAll (forms : List (String × Form)) (outer : Form) (args : List String) :
    Except Stop Reading :=
  readFrom forms { form := outer } args

/-- The value of an option, or the text that stands for it. -/
def value (r : Reading) (name initial : String) : String := (r.options.lookup name).getD initial

def isGiven (r : Reading) (name : String) : Bool := (r.options.lookup name).isSome

/-- An option that can be given on either side of the command's name. -/
def either? (r : Reading) (name : String) : Option String :=
  match r.options.lookup name with
  | some value => some value
  | none => r.outer.lookup name

end Reading
end Meshwork
