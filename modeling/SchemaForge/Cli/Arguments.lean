/-! Reading command lines: which options there are, what they take, and what is wrong with a line
that does not fit. Options and operands are read from left to right; what follows `--` are
operands. -/

namespace SchemaForge.Cli

inductive Setting where
  | verbose
  | help
  | version
  | outdir
  | language
  | languageConfig
  | templates
  | extension
  | namespaceStem
  | dryRun
  | listOutputs
  | listInputs
  | noOverwrite
  | fileMode
  | namespaceTypes
  | noNamespaceTypes
  | omitSupport
  | maxEmptyLines
  | trimTrailing
  | runProgram
  | runProgramArg
  | audit
deriving Repr, DecidableEq

/-- How often an option may be given, and whether it takes a value. -/
inductive Intake where
  | flag
  | count
  | one
  /-- One value each time; `hyphens` says whether it may look like an option. -/
  | many (hyphens : Bool)
deriving Repr, DecidableEq

structure OptionSpec where
  setting : Setting
  long : String
  short : Option Char := none
  intake : Intake := .flag
deriving Repr, DecidableEq

def OptionSpec.takesValue (spec : OptionSpec) : Bool :=
  match spec.intake with
  | .flag | .count => false
  | .one | .many _ => true

def sharedOptions : List OptionSpec := [
  { setting := .verbose, long := "verbose", short := some 'v', intake := .count },
  { setting := .help, long := "help", short := some 'h' }]

def topOptions : List OptionSpec :=
  sharedOptions ++ [{ setting := .version, long := "version", short := some 'V' }]

def generateOptions : List OptionSpec :=
  sharedOptions ++ [
    { setting := .outdir, long := "outdir", short := some 'O', intake := .one },
    { setting := .language, long := "language", short := some 'l', intake := .one },
    { setting := .languageConfig, long := "language-config", intake := .many false },
    { setting := .templates, long := "templates", intake := .many false },
    { setting := .extension, long := "output-extension", short := some 'e', intake := .one },
    { setting := .namespaceStem, long := "namespace-output-stem", intake := .one },
    { setting := .dryRun, long := "dry-run" },
    { setting := .listOutputs, long := "list-outputs" },
    { setting := .listInputs, long := "list-inputs" },
    { setting := .noOverwrite, long := "no-overwrite" },
    { setting := .fileMode, long := "file-mode", intake := .one },
    { setting := .namespaceTypes, long := "namespace-types" },
    { setting := .noNamespaceTypes, long := "no-namespace-types" },
    { setting := .omitSupport, long := "omit-serialization-support" },
    { setting := .maxEmptyLines, long := "pp-max-emptylines", intake := .one },
    { setting := .trimTrailing, long := "pp-trim-trailing-whitespace" },
    { setting := .runProgram, long := "pp-run-program", intake := .one },
    { setting := .runProgramArg, long := "pp-run-program-arg", intake := .many true },
    { setting := .audit, long := "embed-auditing-info" }]

inductive ArgumentError where
  | unknownOption (arg : String)
  | missingValue (option : String)
  | unexpectedValue (option : String)
  | repeated (option : String)
  | badValue (option value : String)
  | unexpectedOperand (arg : String)
  | missingOperands
  | missingCommand
  | unknownCommand (name : String)
  | conflict (first second : String)
  | requires (option needed : String)
deriving Repr, DecidableEq

def ArgumentError.message : ArgumentError → String
  | unknownOption arg => "unexpected argument '" ++ arg ++ "'"
  | missingValue option => "a value is required for '--" ++ option ++ "'"
  | unexpectedValue option => "no value is expected for '--" ++ option ++ "'"
  | repeated option => "'--" ++ option ++ "' cannot be used multiple times"
  | badValue option value => "invalid value '" ++ value ++ "' for '" ++ option ++ "'"
  | unexpectedOperand arg => "unexpected argument '" ++ arg ++ "'"
  | missingOperands => "the type list and the root namespace are required"
  | missingCommand => "a command is required"
  | unknownCommand name => "unknown command '" ++ name ++ "'"
  | conflict first second => "'--" ++ first ++ "' cannot be used with '--" ++ second ++ "'"
  | requires option needed => "'--" ++ option ++ "' needs '--" ++ needed ++ "'"

/-- Why reading stops early: because of a mistake, or because only information is wanted. -/
inductive Stop where
  | mistake (error : ArgumentError)
  | help
  | version
deriving Repr, DecidableEq

section Values

def digitsValue? (base : Nat) (cs : List Char) : Option Nat :=
  let cs := match cs with
    | '+' :: rest => rest
    | _ => cs
  if cs.isEmpty || cs.any (fun c => !c.isDigit || base ≤ c.toNat - 48) then none
  else some (cs.foldl (fun n c => base * n + (c.toNat - 48)) 0)

def fileMode? (s : String) : Option Nat :=
  let digits := match s.toList with
    | '0' :: 'o' :: rest => rest
    | cs => cs
  (digitsValue? 8 digits).filter (· ≤ 0o7777)

def count? (s : String) : Option Nat :=
  (digitsValue? 10 s.toList).filter (· < Nat.pow 2 64)

def accepts (setting : Setting) (value : String) : Bool :=
  match setting with
  | .outdir | .languageConfig | .templates => !value.isEmpty
  | .fileMode => (fileMode? value).isSome
  | .maxEmptyLines => (count? value).isSome
  | _ => true

end Values

structure Scan where
  given : List (Setting × String) := []
  operands : List String := []
deriving Repr, DecidableEq

namespace Scan

def has (s : Scan) (setting : Setting) : Bool :=
  s.given.any (·.1 = setting)

def value? (s : Scan) (setting : Setting) : Option String :=
  s.given.lookup setting

def values (s : Scan) (setting : Setting) : List String :=
  (s.given.filter (·.1 = setting)).map (·.2)

def add (s : Scan) (spec : OptionSpec) (value : String) : Except Stop Scan :=
  match spec.setting with
  | .help => .error .help
  | .version => .error .version
  | setting =>
    let single := spec.intake = .flag || spec.intake = .one
    if single && s.has setting then .error (.mistake (.repeated spec.long))
    else if accepts setting value then .ok { s with given := s.given ++ [(setting, value)] }
    else .error (.mistake (.badValue spec.long value))

end Scan

def looksLikeOption (arg : String) : Bool :=
  arg.toList.head? = some '-' && arg ≠ "-"

def isValueFor (spec : OptionSpec) (arg : String) : Bool :=
  spec.intake = .many true || !looksLikeOption arg

/-- What reading one argument leads to; an option may still need its value. -/
abbrev Step := Except Stop (Scan × Option OptionSpec)

def splitLong (cs : List Char) : String × Option String :=
  match cs.dropWhile (· ≠ '=') with
  | [] => (String.ofList cs, none)
  | _ :: value => (String.ofList (cs.takeWhile (· ≠ '=')), some (String.ofList value))

def readLong (specs : List OptionSpec) (s : Scan) (cs : List Char) : Step :=
  let (name, value) := splitLong cs
  match specs.find? (·.long = name) with
  | none => .error (.mistake (.unknownOption (String.ofList ('-' :: '-' :: cs))))
  | some spec =>
    match spec.takesValue, value with
    | true, some v => (s.add spec v).map fun s => (s, none)
    | true, none => .ok (s, some spec)
    | false, none => (s.add spec "").map fun s => (s, none)
    | false, some _ => .error (.mistake (.unexpectedValue name))

/-- Reads letters after one dash; the first that takes a value takes the rest. -/
def readShort (specs : List OptionSpec) (s : Scan) : List Char → Step
  | [] => .ok (s, none)
  | c :: rest =>
    match specs.find? (·.short = some c) with
    | none => .error (.mistake (.unknownOption (String.ofList ['-', c])))
    | some spec =>
      if spec.takesValue then
        match rest with
        | [] => .ok (s, some spec)
        | '=' :: value => (s.add spec (String.ofList value)).map fun s => (s, none)
        | value => (s.add spec (String.ofList value)).map fun s => (s, none)
      else
        match s.add spec "" with
        | .ok s => readShort specs s rest
        | .error stop => .error stop

def readOption (specs : List OptionSpec) (s : Scan) (arg : String) : Step :=
  match arg.toList with
  | '-' :: '-' :: cs => readLong specs s cs
  | '-' :: cs => readShort specs s cs
  | _ => .ok (s, none)

def addOperand (limit : Nat) (s : Scan) (arg : String) : Except Stop Scan :=
  if limit ≤ s.operands.length then .error (.mistake (.unexpectedOperand arg))
  else if arg.isEmpty then .error (.mistake (.badValue "operand" arg))
  else .ok { s with operands := s.operands ++ [arg] }

def scan (specs : List OptionSpec) (limit : Nat) (s : Scan) (pending : Option OptionSpec) :
    List String → Except Stop Scan
  | [] =>
    match pending with
    | some spec => .error (.mistake (.missingValue spec.long))
    | none => .ok s
  | arg :: rest =>
    match pending with
    | some spec =>
      if isValueFor spec arg then do scan specs limit (← s.add spec arg) none rest
      else .error (.mistake (.missingValue spec.long))
    | none =>
      if arg = "--" then rest.foldlM (addOperand limit) s
      else if looksLikeOption arg then do
        let (s, pending) ← readOption specs s arg
        scan specs limit s pending rest
      else do scan specs limit (← addOperand limit s arg) none rest

def conflicts : List (Setting × String × Setting × String) := [
  (.listOutputs, "list-outputs", .listInputs, "list-inputs"),
  (.namespaceTypes, "namespace-types", .noNamespaceTypes, "no-namespace-types")]

def mistake? (s : Scan) : Option ArgumentError :=
  match conflicts.find? fun (a, _, b, _) => s.has a && s.has b with
  | some (_, first, _, second) => some (.conflict first second)
  | none =>
    if s.has .runProgramArg && !s.has .runProgram then
      some (.requires "pp-run-program-arg" "pp-run-program")
    else none

inductive Command where
  | generate (types root : String) (scan : Scan)
  | languages
deriving Repr, DecidableEq

def generateCommand (args : List String) : Except Stop Command := do
  let s ← scan generateOptions 2 {} none args
  match s.operands, mistake? s with
  | [types, root], none => .ok (.generate types root s)
  | _, some error => .error (.mistake error)
  | _, none => .error (.mistake .missingOperands)

def languagesCommand (args : List String) : Except Stop Command := do
  let _ ← scan sharedOptions 0 {} none args
  .ok .languages

def commandNames : List String := ["generate", "languages", "help"]

/-- Help is given on the program or on one command; commands have no commands of their own. -/
def helpStop : List String → Stop
  | [] => .help
  | name :: rest =>
    if !commandNames.contains name then .mistake (.unknownCommand name)
    else match rest with
      | [] => .help
      | inner :: _ => .mistake (.unknownCommand inner)

def parse : List String → Except Stop Command
  | [] => .error (.mistake .missingCommand)
  | arg :: rest =>
    if arg = "--" then .error (.mistake .missingCommand)
    else if looksLikeOption arg then do
      let _ ← readOption topOptions {} arg
      parse rest
    else match arg with
      | "generate" => generateCommand rest
      | "languages" => languagesCommand rest
      | "help" => .error (helpStop rest)
      | name => .error (.mistake (.unknownCommand name))

end SchemaForge.Cli
