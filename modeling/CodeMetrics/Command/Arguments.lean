import CodeMetrics.Decimal.Read
import CodeMetrics.Settings

/-!
The arguments of the command line. Options are written `--name value`, `--name=value`, `-n value`,
`-nvalue` or `-n=value`, each at most once; what follows `--` is no option.
-/

namespace CodeMetrics

inductive ReportFormat where
  | text
  | json
  deriving DecidableEq, Repr

structure ScanOptions where
  path : String := "."
  format : ReportFormat := .text
  failFast : Bool := false
  threshold? : Option Float := none
  noProgress : Bool := false
  top : Nat := 5
  deriving Repr

structure ClassifyOptions where
  /-- The file; the standard input if there is none. -/
  file? : Option String := none
  /-- The file extension of the language. -/
  language? : Option String := none
  threshold : Float := defaultThreshold
  codeOnly : Bool := false
  deriving Repr

inductive Command where
  | scan (options : ScanOptions)
  | classify (options : ClassifyOptions)
  deriving Repr

namespace Arguments

structure Schema where
  /-- The names of options with a value, with their letters. -/
  valued : List (String × Option Char)
  flags : List String := []
  /-- Whether the first argument that is no option ends the options. -/
  stopsAtName : Bool := false

structure Given where
  values : List (String × String) := []
  flags : List String := []
  operands : List String := []
  rest : List String := []

namespace Given

def addValue? (given : Given) (name : String) (value : List Char) : Option Given :=
  if (given.values.lookup name).isSome then none
  else some { given with values := given.values ++ [(name, String.ofList value)] }

def addFlag? (given : Given) (name : String) : Option Given :=
  if given.flags.contains name then none
  else some { given with flags := given.flags ++ [name] }

def addOperand (given : Given) (operand : List Char) : Given :=
  { given with operands := given.operands ++ [String.ofList operand] }

def read? (given : Given) (name : String) (missing : α) (read : String → Option α) : Option α :=
  match given.values.lookup name with
  | none => some missing
  | some value => read value

end Given

inductive Form where
  | operand
  | endMark
  | long (name : String) (value? : Option (List Char))
  | short (letter : Char) (value? : Option (List Char))

/-- The form of an argument. A single dash is no option. -/
def formOf : List Char → Form
  | ['-', '-'] => .endMark
  | '-' :: '-' :: body =>
    let name := String.ofList (body.takeWhile (· != '='))
    match body.dropWhile (· != '=') with
    | [] => .long name none
    | _ :: value => .long name (some value)
  | ['-'] => .operand
  | '-' :: letter :: tail =>
    match tail with
    | [] => .short letter none
    | '=' :: value => .short letter (some value)
    | value => .short letter (some value)
  | _ => .operand

def isValue (argument : List Char) : Bool :=
  match formOf argument with
  | .operand => true
  | _ => false

namespace Schema

def takesValue (schema : Schema) (name : String) : Bool :=
  (schema.valued.lookup name).isSome

def nameOf? (schema : Schema) (letter : Char) : Option String :=
  (schema.valued.find? fun (_, other?) => other? = some letter).map Prod.fst

def read? (schema : Schema) : List (List Char) → Given → Option Given
  | [], given => some given
  | argument :: others, given =>
    match formOf argument with
    | .operand =>
      if schema.stopsAtName then
        some { given with rest := (argument :: others).map String.ofList }
      else read? schema others (given.addOperand argument)
    | .endMark =>
      if schema.stopsAtName then none else some (others.foldl Given.addOperand given)
    | .long name (some value) =>
      if schema.takesValue name then
        match given.addValue? name value with
        | some given => read? schema others given
        | none => none
      else none
    | .short letter (some value) =>
      match (schema.nameOf? letter).bind fun name => given.addValue? name value with
      | some given => read? schema others given
      | none => none
    | .long name none =>
      if schema.flags.contains name then
        match given.addFlag? name with
        | some given => read? schema others given
        | none => none
      else if schema.takesValue name then
        match others with
        | [] => none
        | value :: others =>
          if isValue value then
            match given.addValue? name value with
            | some given => read? schema others given
            | none => none
          else none
      else none
    | .short letter none =>
      match others with
      | [] => none
      | value :: others =>
        match (schema.nameOf? letter).bind fun name => given.addValue? name value with
        | some given => if isValue value then read? schema others given else none
        | none => none

end Schema

def logLevel : String × Option Char := ("log-level", none)

def common : Schema where
  valued := [logLevel]
  stopsAtName := true

def ofScan : Schema where
  valued := [logLevel, ("format", some 'f'), ("threshold", none), ("top", none)]
  flags := ["fail-fast", "no-progress"]

def ofClassify : Schema where
  valued := [logLevel, ("language", some 'l'), ("threshold", none)]
  flags := ["code-only"]

def threshold? (text : String) : Option Float :=
  (Decimal.read? text.toList).filter isProbability

def maxCount : Nat := 0xffffffffffffffff

/-- A count: digits, before which a plus sign may stand. -/
def count? (text : String) : Option Nat := do
  let digits := match text.toList with
    | '+' :: digits => digits
    | digits => digits
  guard (!digits.isEmpty && digits.all Char.isDigit)
  let value := Decimal.digitsValue digits
  guard (value ≤ maxCount)
  return value

def format? : String → Option ReportFormat
  | "text" => some .text
  | "json" => some .json
  | _ => none

def hasLogLevel (given : Given) : Bool :=
  match given.values.lookup logLevel.1 with
  | none => true
  | some level => ["error", "warn", "info", "debug", "trace"].contains level

/-- The one file or directory that is given, which may be missing but not empty. -/
def operand? (given : Given) : Option (Option String) :=
  match given.operands with
  | [] => some none
  | [operand] => if operand = "" then none else some (some operand)
  | _ => none

def scanOptions? (given : Given) : Option ScanOptions := do
  let operand ← operand? given
  return {
    path := operand.getD "."
    format := ← given.read? "format" .text format?
    failFast := given.flags.contains "fail-fast"
    threshold? := ← given.read? "threshold" none fun text => (threshold? text).map some
    noProgress := given.flags.contains "no-progress"
    top := ← given.read? "top" 5 count? }

def classifyOptions? (given : Given) : Option ClassifyOptions := do
  return {
    file? := ← operand? given
    language? := given.values.lookup "language"
    threshold := ← given.read? "threshold" defaultThreshold threshold?
    codeOnly := given.flags.contains "code-only" }

def readCommand? (schema : Schema) (options? : Given → Option α) (arguments : List String) :
    Option α := do
  let given ← schema.read? (arguments.map String.toList) {}
  guard (hasLogLevel given)
  options? given

end Arguments

def Command.ofArguments? (arguments : List String) : Option Command := do
  let given ← Arguments.common.read? (arguments.map String.toList) {}
  guard (Arguments.hasLogLevel given)
  match given.rest with
  | "scan" :: rest =>
    Command.scan <$> Arguments.readCommand? Arguments.ofScan Arguments.scanOptions? rest
  | "classify" :: rest =>
    Command.classify <$> Arguments.readCommand? Arguments.ofClassify Arguments.classifyOptions? rest
  | _ => none

end CodeMetrics
