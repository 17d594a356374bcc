/-!
# Arguments of a command

The arguments of a command are options, which may take a value, and at most one operand.  An option
is given by its long name or by a letter; letters may share one argument.  What an option was given
is looked at when the next option or operand begins, or at the end, so that an unknown argument is
reported first.
-/

namespace PipelineScript.CommandLine

/-- The reason why arguments do not ask for a run. -/
inductive Rejection where
  | help
  | version
  /-- No command is given. -/
  | noCommand
  | unknownCommand
  | unknownArgument
  | missingArgument
  | invalidValue
  /-- An option that may be given once is repeated. -/
  | repeatedOption
  /-- An option that takes no value is given one. -/
  | unexpectedValue
  deriving DecidableEq, Repr, Inhabited

/-- The exit code of a rejection; help and version are what was asked for. -/
def Rejection.exitCode : Rejection → Nat
  | help | version => 0
  | _ => 2

/-- What an option does. -/
inductive Role where
  /-- Shows the help. -/
  | help
  /-- May be given once, without a value. -/
  | flag
  /-- May be repeated, without a value. -/
  | count
  /-- May be given once, with a value that `admits` allows. -/
  | value (admits : String → Bool)
  /-- May be repeated, each time with a value. -/
  | values

namespace Role

/-- The option takes a value. -/
def takesValue : Role → Bool
  | value _ | values => true
  | _ => false

/-- The option may be given once only. -/
def isSingle : Role → Bool
  | flag | value _ => true
  | _ => false

/-- The value is allowed. -/
def admitsValue : Role → String → Bool
  | value admits, v => admits v
  | _, _ => true

end Role

/-- An option or an operand. -/
structure Parameter where
  name : String
  letter : Option Char
  role : Role

/-- The options of a command and its operand. -/
structure Grammar where
  options : List Parameter
  operand : Option Parameter

/-- What has been read of the arguments of a command. -/
structure Reading where
  /-- The parameters so far with their values, the last one first. -/
  given : List (String × String)
  /-- The parameter that was begun last, with its value once it is read. -/
  pending : Option (Parameter × Option String)
  /-- The next argument may be the value of the pending option. -/
  awaitsValue : Bool
  /-- The operand has been read. -/
  hasOperand : Bool

namespace Reading

/-- Nothing has been read. -/
def start : Reading := ⟨[], none, false, false⟩

/-- Records a parameter. -/
def record (r : Reading) (p : Parameter) (v : String) : Except Rejection Reading :=
  if p.role.isSingle && (r.given.lookup p.name).isSome then .error .repeatedOption
  else if !p.role.admitsValue v then .error .invalidValue
  else .ok { r with given := (p.name, v) :: r.given }

/-- Records the pending parameter, which must have its value. -/
def settle (r : Reading) : Except Rejection Reading :=
  match r.pending with
  | none => .ok r
  | some (_, none) => .error .invalidValue
  | some (p, some v) => { r with pending := none, awaitsValue := false }.record p v

/-- Reads an option that is given without a value beside it. -/
def option (r : Reading) (p : Parameter) : Except Rejection Reading := do
  let r ← r.settle
  match p.role with
  | .help => throw .help
  | .value _ | .values => return { r with pending := some (p, none), awaitsValue := true }
  | .flag | .count => r.record p ""

/-- Reads an option with a value beside it. -/
def optionWith (r : Reading) (p : Parameter) (v : String) : Except Rejection Reading := do
  if !p.role.takesValue then throw .unexpectedValue
  (← r.settle).record p v

/-- Reads letters of options; behind an option that takes a value, the rest is the value. -/
def letters (g : Grammar) : List Char → Reading → Except Rejection Reading
  | [], r => .ok r
  | c :: cs, r =>
    match g.options.find? (·.letter = some c) with
    | none => .error .unknownArgument
    | some p =>
      if p.role.takesValue && !cs.isEmpty then
        r.optionWith p (String.ofList (if cs.head? = some '=' then cs.drop 1 else cs))
      else do letters g cs (← r.option p)

/-- Reads an option by its long name, with the value behind an equals sign if there is one. -/
def long (g : Grammar) (cs : List Char) (r : Reading) : Except Rejection Reading :=
  let name := String.ofList (cs.takeWhile (· ≠ '='))
  match g.options.find? (·.name = name) with
  | none => .error .unknownArgument
  | some p =>
    match cs.dropWhile (· ≠ '=') with
    | [] => r.option p
    | _ :: v => r.optionWith p (String.ofList v)

/-- Reads an operand. -/
def operand (g : Grammar) (a : String) (r : Reading) : Except Rejection Reading :=
  match g.operand with
  | some p =>
    if r.hasOperand then .error .unknownArgument
    else do return { ← r.settle with pending := some (p, some a), hasOperand := true }
  | none => .error .unknownArgument

/-- Reads an argument. -/
def argument (g : Grammar) (a : String) (r : Reading) : Except Rejection Reading :=
  match a.toList with
  | '-' :: '-' :: cs => r.long g cs
  | '-' :: c :: cs => r.letters g (c :: cs)
  | _ =>
    match r.awaitsValue, r.pending with
    | true, some (p, none) => .ok { r with pending := some (p, some a), awaitsValue := false }
    | _, _ => r.operand g a

/-- Reads arguments; behind a double hyphen every argument is an operand. -/
def arguments (g : Grammar) : List String → Reading → Except Rejection Reading
  | [], r => r.settle
  | a :: as, r =>
    if a = "--" then do
      let r ← as.foldlM (fun r a => operand g a r) r
      r.settle
    else do arguments g as (← r.argument g a)

end Reading

/-- The parameters of a command with their values. -/
structure Matches where
  given : List (String × String)
  deriving Repr

namespace Matches

/-- The value of a parameter. -/
def value? (m : Matches) (name : String) : Option String :=
  m.given.lookup name

/-- The values of a repeated option, in order. -/
def values (m : Matches) (name : String) : List String :=
  (m.given.filter (·.1 = name)).map Prod.snd

/-- The option is given. -/
def has (m : Matches) (name : String) : Bool :=
  (m.value? name).isSome

/-- The value of a parameter that must be given. -/
def required (m : Matches) (name : String) : Except Rejection String :=
  match m.value? name with
  | some v => .ok v
  | none => .error .missingArgument

end Matches

/-- Reads the arguments of a command. -/
def Grammar.read (g : Grammar) (arguments : List String) : Except Rejection Matches := do
  let r ← Reading.start.arguments g arguments
  return ⟨r.given.reverse⟩

end PipelineScript.CommandLine
