/-!
Command lines: options with or without a value, and commands with options of their own. Arguments are
taken from left to right. An option that waits for its value gets the next argument that is no option;
it is only looked at when the next option comes or the line ends.
-/

namespace GatewayProvisioning.CommandLine

/-- Why a command line ends without a command to run. -/
inductive UsageFault where
  | help
  | version
  | unknownArgument
  | unknownCommand
  | repeated
  | noValue
  | badValue
  | needlessValue
  | missing
  deriving DecidableEq, Repr

/-- What an option stands for: a value that a check may refuse, a switch, or a question. -/
inductive OptionKind where
  | value (check : String → Option UsageFault)
  | switch
  | question (answer : UsageFault)

/-- An option, with its long name and perhaps a short one. -/
structure OptionRule where
  name : String
  short : Option Char := none
  kind : OptionKind

/-- The options of a command, and the commands below it. -/
structure Grammar where
  options : List OptionRule
  commands : List String := []

/-- The options that have been taken, with their values, and the one that waits for its value or for
the next option. -/
structure Intake where
  taken : List (String × String) := []
  waiting : Option (OptionRule × Option String) := none

namespace Intake

/-- The value of an option. -/
def value? (i : Intake) (name : String) : Option String :=
  i.taken.lookup name

/-- Whether a switch was given. -/
def has (i : Intake) (name : String) : Bool :=
  (i.value? name).isSome

/-- Takes an option with its value, which no option has twice. -/
def take (i : Intake) (rule : OptionRule) (value : String) : Except UsageFault Intake :=
  if i.has rule.name then .error .repeated
  else
    let refusal : Option UsageFault := match rule.kind with
      | .value check => check value
      | _ => none
    match refusal with
    | some fault => .error fault
    | none => .ok { i with taken := (rule.name, value) :: i.taken }

/-- Takes the option that waits. -/
def settle (i : Intake) : Except UsageFault Intake :=
  match i.waiting with
  | none => .ok i
  | some (_, none) => .error .noValue
  | some (rule, some value) => { i with waiting := none }.take rule value

/-- Takes an option that stands on the line, with the value attached to it if there is one. -/
def meet (i : Intake) (rule : OptionRule) (attached : Option String) : Except UsageFault Intake :=
  match rule.kind, attached with
  | .value _, some value => do (← i.settle).take rule value
  | .value _, none => do return { ← i.settle with waiting := some (rule, none) }
  | _, some _ => .error .needlessValue
  | .switch, none => do (← i.settle).take rule ""
  | .question answer, none => do
    let _ ← i.settle
    throw answer

end Intake

namespace Grammar

/-- Takes the options that are written with one dash. The first of them that has a value takes what
is left of the argument. -/
def meetShort (g : Grammar) (i : Intake) : List Char → Except UsageFault Intake
  | [] => .ok i
  | c :: cs =>
    match g.options.find? (·.short == some c) with
    | none => .error .unknownArgument
    | some rule =>
      match rule.kind with
      | .value _ =>
        i.meet rule (match cs with
          | [] => none
          | '=' :: value => some (String.ofList value)
          | value => some (String.ofList value))
      | _ => do g.meetShort (← i.meet rule none) cs

/-- Takes an option that is written with two dashes, after which its value may follow an equals
sign. -/
def meetLong (g : Grammar) (i : Intake) (cs : List Char) : Except UsageFault Intake :=
  let name := cs.takeWhile (· != '=')
  let attached := match cs.drop name.length with
    | [] => none
    | _ :: value => some (String.ofList value)
  match g.options.find? (·.name.toList == name) with
  | none => .error .unknownArgument
  | some rule => i.meet rule attached

/-- The fault of an argument that is neither an option nor the value of one. -/
def unexpected (g : Grammar) (arg : String) (afterDashes : Bool) : UsageFault :=
  if g.commands.isEmpty || (afterDashes && g.commands.contains arg) then .unknownArgument
  else .unknownCommand

/-- Takes arguments up to a command; the answer holds that command and what follows it. -/
def read (g : Grammar) (i : Intake) :
    List String → Except UsageFault (Intake × Option (String × List String))
  | [] => .ok (i, none)
  | arg :: rest =>
    let waits : Bool := match i.waiting with
      | some (_, none) => true
      | _ => false
    if !waits && g.commands.contains arg then .ok (i, some (arg, rest))
    else
      match arg.toList with
      | ['-', '-'] =>
        match rest with
        | [] => .ok (i, none)
        | next :: _ => .error (g.unexpected next true)
      | '-' :: '-' :: cs => do g.read (← g.meetLong i cs) rest
      | '-' :: c :: cs => do g.read (← g.meetShort i (c :: cs)) rest
      | _ =>
        match i.waiting with
        | some (rule, none) => g.read { i with waiting := some (rule, some arg) } rest
        | _ => .error (g.unexpected arg false)

end Grammar

end GatewayProvisioning.CommandLine
