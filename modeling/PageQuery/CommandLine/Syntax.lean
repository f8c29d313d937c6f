/-!
Command line syntax: options, operands and the values they take.

A `Grammar` lists the options and operands of a command. Arguments are read from left to right; an
option's value is checked when it is complete, which for a value in an argument of its own is when
the next thing begins. A name that is not known is reported even where an earlier value is wrong.

The syntax is that of the argument parser which the program uses (specification §10).
-/

namespace PageQuery.CommandLine

/-! ## 1. Grammars -/

/-- Why arguments are not a command. The first three end in a text for the user. -/
inductive UsageError where
  | help
  | helpForMissing
  | version
  | unknownSubcommand
  | missingSubcommand
  | unknownArgument
  | missingArgument
  | conflict
  | invalidValue
  | tooManyValues
  deriving DecidableEq, Repr

/-- What an option does. -/
inductive Role where
  /-- It is given or not. -/
  | flag
  /-- It counts how often it is given. -/
  | count
  /-- It takes a value of which the test must hold. -/
  | value (accepts : String → Bool)
  | help
  | version

structure Opt where
  name : String
  long : String
  short : Option Char
  role : Role

structure Operand where
  name : String
  /-- It takes all the values that are left. -/
  isMany : Bool
  accepts : String → Bool

structure Grammar where
  options : List Opt
  operands : List Operand

namespace Grammar

def long? (g : Grammar) (name : String) : Option Opt := g.options.find? (·.long == name)

def short? (g : Grammar) (c : Char) : Option Opt := g.options.find? (·.short == some c)

end Grammar

/-! ## 2. Reading -/

/-- A thing whose values are still being gathered. -/
structure Gathering where
  name : String
  values : List String
  accepts : String → Bool
  /-- It may be gathered only once. -/
  isSingle : Bool

structure Reading where
  /-- What is complete, with its values. -/
  found : List (String × List String)
  gathering : Option Gathering
  /-- The next argument is the value of an option. -/
  isAwaiting : Bool
  operands : List Operand
  /-- Options are over. -/
  isPastOptions : Bool

namespace Reading

def start (g : Grammar) : Reading := ⟨[], none, false, g.operands, false⟩

def has (r : Reading) (name : String) : Bool := r.found.any (·.1 == name)

/-- The values found under a name. -/
def values (r : Reading) (name : String) : List String :=
  ((r.found.filter (·.1 == name)).map (·.2)).flatten

def first? (r : Reading) (name : String) : Option String := (r.values name).head?

/-- Take a complete thing: it has a value, is not given before, and its values are accepted. -/
def complete (r : Reading) (x : Gathering) : Except UsageError Reading :=
  if x.values.isEmpty then .error .invalidValue
  else if x.isSingle && r.has x.name then .error .conflict
  else if x.values.all x.accepts then .ok { r with found := r.found ++ [(x.name, x.values)] }
  else .error .invalidValue

/-- Complete what is being gathered. -/
def settle (r : Reading) : Except UsageError Reading :=
  match r.gathering with
  | none => .ok r
  | some x => complete { r with gathering := none, isAwaiting := false } x

/-- Take an option that stands without a value. -/
def mark (r : Reading) (o : Opt) : Except UsageError Reading := do
  let r ← r.settle
  match o.role with
  | .help => throw .help
  | .version => throw .version
  | .count => return { r with found := r.found ++ [(o.name, [""])] }
  | _ => r.complete ⟨o.name, [""], fun _ => true, true⟩

/-- Take an option with its value, or wait for the value. -/
def give (r : Reading) (o : Opt) (accepts : String → Bool) (attached : Option String) :
    Except UsageError Reading := do
  let r ← r.settle
  match attached with
  | some v => r.complete ⟨o.name, [v], accepts, true⟩
  | none => return { r with gathering := some ⟨o.name, [], accepts, true⟩, isAwaiting := true }

/-- Take an option by its long name. -/
def long (g : Grammar) (r : Reading) (name : String) (attached : Option String) :
    Except UsageError Reading :=
  match g.long? name with
  | none => .error .unknownArgument
  | some o =>
    match o.role, attached with
    | .value accepts, attached => r.give o accepts attached
    | _, some _ => .error .tooManyValues
    | _, none => r.mark o

/-- Take options by their letters; the last may have its value right behind it. -/
def shorts (g : Grammar) (r : Reading) : List Char → Except UsageError Reading
  | [] => .ok r
  | c :: rest =>
    match g.short? c with
    | none => .error .unknownArgument
    | some o =>
      match o.role with
      | .value accepts =>
        match rest with
        | [] => r.give o accepts none
        | '=' :: value => r.give o accepts (some (String.ofList value))
        | value => r.give o accepts (some (String.ofList value))
      | _ => do shorts g (← r.mark o) rest

/-- Begin to gather an operand. -/
def gather (r : Reading) (o : Operand) (rest : List Operand) (arg : String) : Reading :=
  { r with
    gathering := some ⟨o.name, [arg], o.accepts, false⟩
    operands := if o.isMany then o :: rest else rest }

/-- Take an operand. -/
def operand (r : Reading) (arg : String) : Except UsageError Reading :=
  match r.operands with
  | [] => .error .unknownArgument
  | o :: rest =>
    match r.gathering with
    | some x =>
      if o.isMany && x.name == o.name then
        .ok { r with gathering := some { x with values := x.values ++ [arg] } }
      else do
        let r ← r.settle
        return r.gather o rest arg
    | none => .ok (r.gather o rest arg)

/-- Take one argument. -/
def step (g : Grammar) (r : Reading) (arg : String) : Except UsageError Reading :=
  if r.isPastOptions then r.operand arg
  else
    match arg.toList with
    | ['-', '-'] => .ok { r with isPastOptions := true }
    | '-' :: '-' :: rest =>
      let name := String.ofList (rest.takeWhile (· != '='))
      match rest.dropWhile (· != '=') with
      | [] => r.long g name none
      | _ :: value => r.long g name (some (String.ofList value))
    | '-' :: c :: rest => r.shorts g (c :: rest)
    | _ =>
      match r.isAwaiting, r.gathering with
      | true, some x =>
        .ok { r with gathering := some { x with values := [arg] }, isAwaiting := false }
      | _, _ => r.operand arg

end Reading

/-- Read all arguments of a command. -/
def Grammar.read (g : Grammar) (args : List String) : Except UsageError Reading := do
  (← args.foldlM (Reading.step g) (Reading.start g)).settle

end PageQuery.CommandLine
