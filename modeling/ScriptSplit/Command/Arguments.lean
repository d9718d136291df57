import ScriptSplit.OutputFormat

namespace ScriptSplit.Command

inductive OptionValue where
  | nothing
  | text
  | path
  | format
  deriving DecidableEq, Repr

def OptionValue.accepts : OptionValue → Text → Bool
  | nothing, _ | text, _ => true
  | path, value => !value.isEmpty
  | format, value => (OutputFormat.ofWord? value).isSome

structure OptionForm where
  long : Text
  short : Option Char := none
  value : OptionValue := .nothing
  repeatable : Bool := false
  final : Bool := false
  deriving DecidableEq, Repr

structure Given where
  option : Text
  value : Text := []
  deriving DecidableEq, Repr

structure Arguments where
  options : List Given := []
  operands : List Text := []
  dashed : Bool := false
  deriving DecidableEq, Repr

namespace Arguments

def give (arguments : Arguments) (given : Given) : Arguments :=
  { arguments with options := given :: arguments.options }

def values (arguments : Arguments) (option : Text) : List Text :=
  (arguments.options.filter (·.option = option)).map Given.value

def value? (arguments : Arguments) (option : Text) : Option Text := (arguments.values option).head?

def has (arguments : Arguments) (option : Text) : Bool := !(arguments.values option).isEmpty

inductive Next where
  | free
  | valueOf (option : Text)
  | stop
  deriving DecidableEq, Repr

def readShort (forms : List OptionForm) : Text → Option (List Given × Next)
  | [] => some ([], .free)
  | c :: rest => do
    let form ← forms.find? (·.short = some c)
    if form.final then return ([{ option := form.long }], .stop)
    else if form.value = .nothing then
      let (later, next) ← readShort forms rest
      return ({ option := form.long } :: later, next)
    else
      match rest with
      | [] => return ([], .valueOf form.long)
      | '=' :: value => return ([⟨form.long, value⟩], .free)
      | value => return ([⟨form.long, value⟩], .free)

def readLong (forms : List OptionForm) (word : Text) : Option (List Given × Next) := do
  let (name, value) := match word.cut "=" with
    | some (name, value) => (name, some value)
    | none => (word, none)
  let form ← forms.find? (·.long = name)
  match form.value, value with
  | .nothing, none => return ([{ option := name }], if form.final then .stop else .free)
  | .nothing, some _ => none
  | _, some value => return ([⟨name, value⟩], .free)
  | _, none => return ([], .valueOf name)

def isOption : Text → Bool
  | '-' :: _ :: _ => true
  | _ => false

def readFrom (forms : List OptionForm) (operandEnds : Bool) (pending : Option Text) :
    List Text → Option Arguments
  | [] => if pending.isSome then none else some {}
  | word :: rest =>
    match pending with
    | some option =>
      if isOption word then none
      else (readFrom forms operandEnds none rest).map (·.give ⟨option, word⟩)
    | none =>
      if word = ['-', '-'] then some { operands := rest, dashed := true }
      else if isOption word then do
        let (given, next) ← match word with
          | '-' :: '-' :: long => readLong forms long
          | word => readShort forms (word.drop 1)
        let arguments ← match next with
          | .stop => some {}
          | .free => readFrom forms operandEnds none rest
          | .valueOf option => readFrom forms operandEnds (some option) rest
        return given.foldr (fun given arguments => arguments.give given) arguments
      else if operandEnds then some { operands := word :: rest }
      else (readFrom forms operandEnds none rest).map fun arguments =>
        { arguments with operands := word :: arguments.operands }

def fits (arguments : Arguments) (forms : List OptionForm) : Bool :=
  forms.all fun form =>
    let values := arguments.values form.long
    values.all form.value.accepts && (form.repeatable || values.length ≤ 1)

def read? (forms : List OptionForm) (operandEnds : Bool) (words : List Text) : Option Arguments :=
  (readFrom forms operandEnds none words).filter (·.fits forms)

end Arguments

/-! ## Commands -/

structure SplitRequest where
  source : Option Text := none
  destinations : List Text := []
  assignments : List Text := []
  plan : Option Text := none
  outputDir : Option Text := none
  dryRun : Bool := false
  format : OutputFormat := .summary
  deriving DecidableEq, Repr

inductive Task where
  | version
  | interactive (outputDir : Option Text)
  | list (file : Text) (format : OutputFormat)
  | split (request : SplitRequest)
  deriving DecidableEq, Repr

structure Invocation where
  task : Task
  baseDir : Text := "."
  verbose : Bool := false
  noColour : Bool := false
  deriving DecidableEq, Repr

def sharedForms : List OptionForm :=
  [{ long := "base-dir", value := .path }, { long := "verbose", short := some 'v' }, { long := "no-color" }]

def versionForm : OptionForm := { long := "version", short := some 'V', final := true }

def outputDirForm : OptionForm := { long := "output-dir", short := some 'o', value := .path }

def formatForm : OptionForm := { long := "format", short := some 'f', value := .format }

def splitForms : List OptionForm :=
  [{ long := "dest", short := some 'd', value := .text, repeatable := true },
    { long := "assign", short := some 'a', value := .text, repeatable := true },
    { long := "plan", value := .path }, { long := "dry-run" }, outputDirForm, formatForm]

def formatOf (arguments : Arguments) : OutputFormat :=
  ((arguments.value? "format").bind OutputFormat.ofWord?).getD .summary

def file? (operand : Text) : Option Text := if operand.isEmpty then none else some operand

def interactiveTask? (arguments : Arguments) : Option Task :=
  if arguments.operands.isEmpty then some (.interactive (arguments.value? "output-dir")) else none

def listTask? (arguments : Arguments) : Option Task :=
  match arguments.operands with
  | [operand] => (file? operand).map fun file => .list file (formatOf arguments)
  | _ => none

def splitTask? (arguments : Arguments) : Option Task := do
  let source ← match arguments.operands with
    | [] => if arguments.has "plan" then some none else none
    | [operand] => (file? operand).map some
    | _ => none
  if arguments.has "plan" && (arguments.has "dest" || arguments.has "assign") then none
  return .split {
    source
    destinations := arguments.values "dest"
    assignments := arguments.values "assign"
    plan := arguments.value? "plan"
    outputDir := arguments.value? "output-dir"
    dryRun := arguments.has "dry-run"
    format := formatOf arguments }

def task? (name : Text) (words : List Text) : Option (Task × Arguments) := do
  let (forms, task?) ←
    if name = "interactive".toList then some ([outputDirForm], interactiveTask?)
    else if name = "list".toList then some ([formatForm], listTask?)
    else if name = "split".toList then some (splitForms, splitTask?)
    else none
  let arguments ← Arguments.read? (sharedForms ++ forms) false words
  return (← task? arguments, arguments)

def Invocation.parse? (words : List Text) : Option Invocation := do
  let outer ← Arguments.read? (versionForm :: sharedForms) true words
  let (task, inner) ←
    if outer.has "version" then some (.version, {})
    else
      match outer.operands with
      | [] => some (.interactive none, {})
      | name :: rest => if outer.dashed then none else task? name rest
  return {
    task
    baseDir := (inner.value? "base-dir" <|> outer.value? "base-dir").getD ['.']
    verbose := outer.has "verbose" || inner.has "verbose"
    noColour := outer.has "no-color" || inner.has "no-color" }

end ScriptSplit.Command
