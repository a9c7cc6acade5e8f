/-!
# Command-line arguments

A command takes options with values, operands, and perhaps the name of another command with arguments
of its own.  An option has a long name after two dashes and a letter after one; its value is the next
argument, or follows an equals sign, or follows the letter at once.  Every command has `--help` and
`-h`.  Arguments are looked at from left to right, and the first thing that is wrong, or the first call
for help, ends it.
-/

namespace Gatehouse.Command

/-- An option with a value. -/
structure Flag where
  letter : Char
  name : String
  /-- Is there no command without it? -/
  isRequired : Bool
  /-- Which values are taken. -/
  accepts : String → Bool

/-- What a command takes. -/
structure Usage where
  flags : List Flag := []
  /-- How many operands there have to be. -/
  operands : Nat := 0
  /-- The commands that may follow, with what they take. -/
  commands : List String := []

/-- Why arguments do not make a command. -/
inductive Stop
  /-- Help was called for. -/
  | help
  /-- The arguments are wrong. -/
  | misuse
deriving DecidableEq, Repr

/-- The exit code of a program that stops so. -/
def Stop.exitCode : Stop → Nat
  | help => 0
  | misuse => 2

/-- What has been found among the arguments. -/
structure Found where
  /-- The values of options by their long names. -/
  values : List (String × String) := []
  operands : List String := []
  /-- The command that followed, and the arguments after it. -/
  command : Option (String × List String) := none
deriving DecidableEq, Repr

namespace Found

/-- The value of an option. -/
def value? (f : Found) (name : String) : Option String := f.values.lookup name

/-- One more value, if the option has none yet and takes this one. -/
def give (f : Found) (flag : Flag) (value : String) : Except Stop Found :=
  if (f.value? flag.name).isSome || !flag.accepts value then .error .misuse
  else .ok { f with values := f.values ++ [(flag.name, value)] }

/-- One more operand, if there is room for it. -/
def operand (f : Found) (u : Usage) (arg : String) : Except Stop Found :=
  if f.operands.length < u.operands then .ok { f with operands := f.operands ++ [arg] }
  else .error .misuse

end Found

/-- What an argument looks like. -/
inductive Shape
  /-- A name after two dashes, and a value after an equals sign. -/
  | long (name : String) (value : Option String)
  /-- A letter after a dash, and what follows it. -/
  | short (letter : Char) (rest : List Char)
  /-- Two dashes alone. -/
  | dashes
  | plain (text : String)

/-- The shape of an argument. -/
def Shape.of (arg : String) : Shape :=
  match arg.toList with
  | ['-', '-'] => .dashes
  | '-' :: '-' :: rest =>
    let name := rest.takeWhile (· != '=')
    match rest.dropWhile (· != '=') with
    | [] => .long (String.ofList name) none
    | _ :: value => .long (String.ofList name) (some (String.ofList value))
  | '-' :: letter :: rest => .short letter rest
  | _ => .plain arg

/-- Can an argument be the value of the option before it? -/
def Shape.isValue : Shape → Bool
  | plain _ => true
  | _ => false

/-- Go through arguments.  `pending` is an option that waits for its value. -/
def scan (u : Usage) : (pending : Option Flag) → List String → Found → Except Stop Found
  | some _, [], _ => .error .misuse
  | none, [], f => .ok f
  | some flag, arg :: args, f =>
    if (Shape.of arg).isValue then do scan u none args (← f.give flag arg) else .error .misuse
  | none, arg :: args, f =>
    match Shape.of arg with
    -- everything after two dashes is an operand
    | .dashes => args.foldlM (fun f arg => f.operand u arg) f
    | .long name value =>
      if name = "help" then .error (if value.isSome then .misuse else .help)
      else
        match u.flags.find? (·.name = name), value with
        | none, _ => .error .misuse
        | some flag, none => scan u (some flag) args f
        | some flag, some value => do scan u none args (← f.give flag value)
    | .short letter rest =>
      if letter = 'h' then .error .help
      else
        match u.flags.find? (·.letter = letter), rest with
        | none, _ => .error .misuse
        | some flag, [] => scan u (some flag) args f
        | some flag, '=' :: value => do scan u none args (← f.give flag (String.ofList value))
        | some flag, value => do scan u none args (← f.give flag (String.ofList value))
    | .plain text =>
      if u.commands.contains text && f.operands.isEmpty then
        .ok { f with command := some (text, args) }
      else do scan u none args (← f.operand u text)

/-- Read arguments: everything that has to be there is there. -/
def read (u : Usage) (args : List String) : Except Stop Found := do
  let f ← scan u none args {}
  let missing := u.flags.any fun flag => flag.isRequired && (f.value? flag.name).isNone
  if f.command.isNone && (missing || f.operands.length < u.operands) then .error .misuse else .ok f

/-- Any text that is not empty. -/
def nonempty (value : String) : Bool := !value.isEmpty

/-- A number of at most 64 bits, with or without a plus sign. -/
def number? (value : String) : Option UInt64 :=
  let digits := match value.toList with
    | '+' :: rest => rest
    | cs => cs
  if digits.isEmpty || !digits.all (·.isDigit) then none
  else
    let n := digits.foldl (fun n c => n * 10 + (c.toNat - 48)) 0
    if n < UInt64.size then some (UInt64.ofNat n) else none

end Gatehouse.Command
