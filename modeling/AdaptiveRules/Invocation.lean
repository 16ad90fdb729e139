/-!
# Invocations

An invocation names a command among general options in front of it and the options and operands of the
command behind it.  Options have a long name and may have a short one.  A value follows its option as
the next argument or in the same one; short options may share an argument, of which the last may take
a value.  An option is given once unless it collects values.  Two dashes end the options of a command,
and a single dash is an operand.

What cannot be understood, and what asks for help, is no invocation.
-/

namespace AdaptiveRules

inductive OptionKind
  | flag
  | value
  /-- Takes a value each time it is given. -/
  | values
  deriving DecidableEq

structure OptionSpec where
  name : String
  short : Option Char
  kind : OptionKind

/-- Options that were given, in order, each with its value; flags have an empty one. -/
abbrev GivenOptions := List (String × String)

namespace GivenOptions

def has (g : GivenOptions) (name : String) : Bool := g.any fun o => o.1 == name

def value? (g : GivenOptions) (name : String) : Option String := g.lookup name

def values (g : GivenOptions) (name : String) : List String :=
  (g.filter fun o => o.1 == name).map (·.2)

/-- Notes an option, unless it may not be repeated and was given. -/
def add (g : GivenOptions) (o : OptionSpec) (value : String) : Option GivenOptions :=
  if o.kind ≠ .values ∧ g.has o.name then none else some (g ++ [(o.name, value)])

end GivenOptions

/-- What an argument turns out to be. -/
inductive ArgumentReading
  | operand
  | endOfOptions
  | options (given : GivenOptions)
  /-- Options of which the last one takes the next argument as its value. -/
  | pending (given : GivenOptions) (last : OptionSpec)
  | wrong

namespace ArgumentReading

/-- A reading that there is unless something was given too often. -/
def ofGiven? : Option GivenOptions → ArgumentReading
  | some given => options given
  | none => wrong

/-- Reads short options. -/
def ofShorts (specs : List OptionSpec) (given : GivenOptions) : List Char → ArgumentReading
  | [] => options given
  | c :: rest =>
      match specs.find? fun o => o.short = some c with
      | none => wrong
      | some o =>
          if o.kind = .flag then
            match given.add o "" with
            | some given => ofShorts specs given rest
            | none => wrong
          else
            match rest with
            | [] => pending given o
            | '=' :: value => ofGiven? (given.add o (String.ofList value))
            | value => ofGiven? (given.add o (String.ofList value))

/-- Reads a long option, given its name and what follows the equals sign, if there is one. -/
def ofLong (specs : List OptionSpec) (given : GivenOptions) (name : String) (value : Option String) :
    ArgumentReading :=
  match specs.find? fun o => o.name == name with
  | none => wrong
  | some o =>
      match o.kind, value with
      | .flag, some _ => wrong
      | .flag, none => ofGiven? (given.add o "")
      | _, some value => ofGiven? (given.add o value)
      | _, none => pending given o

def read (specs : List OptionSpec) (given : GivenOptions) (argument : String) : ArgumentReading :=
  match argument.toList with
  | ['-', '-'] => endOfOptions
  | '-' :: '-' :: long =>
      ofLong specs given (String.ofList (long.takeWhile (· != '=')))
        (match long.dropWhile (· != '=') with
          | _ :: value => some (String.ofList value)
          | [] => none)
  | ['-'] => operand
  | '-' :: shorts => ofShorts specs given shorts
  | _ => operand

/-- Whether an argument can be the value of the option before it. -/
def isValue (argument : String) : Bool :=
  match argument.toList with
  | ['-'] => true
  | '-' :: _ => false
  | _ => true

end ArgumentReading

/-- Reads the options in front of the first operand; what is left starts with that operand. -/
def readFront (specs : List OptionSpec) (given : GivenOptions) :
    List String → Option (GivenOptions × List String)
  | [] => some (given, [])
  | a :: rest =>
      match ArgumentReading.read specs given a with
      | .operand => some (given, a :: rest)
      | .options given => readFront specs given rest
      | .pending given o =>
          match rest with
          | value :: rest =>
              if ArgumentReading.isValue value then
                (given.add o value).bind fun given => readFront specs given rest
              else none
          | [] => none
      | _ => none

/-- Reads options and operands, which may be mixed. -/
def readMixed (specs : List OptionSpec) (given : GivenOptions) :
    List String → Option (GivenOptions × List String)
  | [] => some (given, [])
  | a :: rest =>
      match ArgumentReading.read specs given a with
      | .operand => (readMixed specs given rest).map fun r => (r.1, a :: r.2)
      | .endOfOptions => some (given, rest)
      | .options given => readMixed specs given rest
      | .pending given o =>
          match rest with
          | value :: rest =>
              if ArgumentReading.isValue value then
                (given.add o value).bind fun given => readMixed specs given rest
              else none
          | [] => none
      | .wrong => none

inductive Command
  | setUp (directory : Option String)
  | learn (directory : String) (project : Option String)
  | improve (patterns : List String) (write : Bool)
  | apply (file : String) (pattern : Option String)
  | insights
  | exportTo (file : String)
  | importFrom (file : String)
  | reset (confirmed : Bool)
  | configure
  | diagnose
  | version

structure Invocation where
  configurationPath : String
  verbose : Bool
  quiet : Bool
  command : Command

namespace Invocation

def standardPath : String := "padrao.toml"

def generalOptions : List OptionSpec :=
  [⟨"config", some 'c', .value⟩, ⟨"verbose", some 'v', .flag⟩, ⟨"quiet", some 'q', .flag⟩]

/-- Operands and paths are not empty. -/
def nonEmpty (s : String) : Option String := if s.isEmpty then none else some s

/-- An optional path: nothing, or one that is not empty. -/
def path? (g : GivenOptions) (name : String) : Option (Option String) :=
  match g.value? name with
  | none => some none
  | some s => (nonEmpty s).map some

/-- The options of a command without operands. -/
def withoutOperand (specs : List OptionSpec) (arguments : List String) : Option GivenOptions :=
  match readMixed specs [] arguments with
  | some (given, []) => some given
  | _ => none

/-- The options of a command with one operand, and the operand. -/
def withOperand (specs : List OptionSpec) (arguments : List String) :
    Option (GivenOptions × String) :=
  match readMixed specs [] arguments with
  | some (given, [operand]) => (nonEmpty operand).map (given, ·)
  | _ => none

def command? (name : String) (arguments : List String) : Option Command :=
  match name with
  | "init" => do
      let g ← withoutOperand [⟨"path", some 'p', .value⟩] arguments
      return .setUp (← path? g "path")
  | "learn" => do
      let (g, directory) ← withOperand [⟨"project-id", none, .value⟩] arguments
      return .learn directory (g.value? "project-id")
  | "improve" => do
      let g ← withoutOperand [⟨"pattern", some 'p', .values⟩, ⟨"write", none, .flag⟩] arguments
      return .improve (g.values "pattern") (g.has "write")
  | "match" => do
      let (g, file) ← withOperand [⟨"pattern", some 'p', .value⟩] arguments
      return .apply file (g.value? "pattern")
  | "insights" => (withoutOperand [] arguments).map fun _ => .insights
  | "export" => (withOperand [] arguments).map fun r => .exportTo r.2
  | "import" => (withOperand [] arguments).map fun r => .importFrom r.2
  | "reset" => (withoutOperand [⟨"yes", some 'y', .flag⟩] arguments).map fun g => .reset (g.has "yes")
  | "config" => (withoutOperand [] arguments).map fun _ => .configure
  | "doctor" => (withoutOperand [] arguments).map fun _ => .diagnose
  | "version" => (withoutOperand [] arguments).map fun _ => .version
  | _ => none

def ofArguments? (arguments : List String) : Option Invocation := do
  let (g, rest) ← readFront generalOptions [] arguments
  let path ← path? g "config"
  match rest with
  | [] => none
  | name :: rest =>
      let command ← command? name rest
      return ⟨path.getD standardPath, g.has "verbose", g.has "quiet", command⟩

end Invocation
end AdaptiveRules
