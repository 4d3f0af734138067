import BoardLint.Settings.Basic

set_option autoImplicit false

/-! # Command lines

The options of the command and how they are read. Options and paths can be mixed; two hyphens end
the options. An option with a value takes it after an equals sign or as the next argument, a short
one also directly. Everything can be given once, except for lists of rules and paths. -/

namespace BoardLint

/-- What a command line asks for. -/
structure Arguments where
  paths : List String
  config : Option String
  strict : Bool
  verbose : Bool
  fix : Bool
  diff : Bool
  dryRun : Bool
  byDashboard : Bool
  format : Option ReportForm
  noColor : Bool
  jobs : Option UInt64
  disable : Option (List String)
  select : Option (List String)
  preview : Bool
  listRules : Bool
  explain : Option String
deriving DecidableEq, Repr

namespace Arguments

/-- The command line without arguments. -/
def none : Arguments where
  paths := []
  config := .none
  strict := false
  verbose := false
  fix := false
  diff := false
  dryRun := false
  byDashboard := false
  format := .none
  noColor := false
  jobs := .none
  disable := .none
  select := .none
  preview := false
  listRules := false
  explain := .none

/-- What a command line comes to. -/
inductive Outcome where
  | run (arguments : Arguments)
  /-- The version is asked for. -/
  | version
  /-- The options are asked for. -/
  | help
  /-- The command line is wrong. -/
  | usage
deriving DecidableEq, Repr

/-! ## Options -/

/-- The options that switch something on. -/
inductive Flag where
  | strict | verbose | fix | diff | dryRun | byDashboard | noColor | preview | listRules
deriving DecidableEq, Repr

/-- The options with a value. -/
inductive Setting where
  | config | format | jobs | disable | select | explain
deriving DecidableEq, Repr

/-- An option. -/
inductive Choice where
  | flag (flag : Flag)
  | setting (setting : Setting)
  | version
  | help
deriving DecidableEq, Repr

/-- The option with a long name. -/
def ofLong? (name : String) : Option Choice :=
  match name with
  | "config" => some (.setting .config)
  | "strict" => some (.flag .strict)
  | "verbose" => some (.flag .verbose)
  | "fix" => some (.flag .fix)
  | "diff" => some (.flag .diff)
  | "dry-run" => some (.flag .dryRun)
  | "by-dashboard" => some (.flag .byDashboard)
  | "format" => some (.setting .format)
  | "no-color" => some (.flag .noColor)
  | "jobs" => some (.setting .jobs)
  | "disable" => some (.setting .disable)
  | "select" => some (.setting .select)
  | "preview" => some (.flag .preview)
  | "list-rules" => some (.flag .listRules)
  | "explain" => some (.setting .explain)
  | "version" => some .version
  | "help" => some .help
  | _ => .none

/-- The option with a short name. -/
def ofShort? (c : Char) : Option Choice :=
  match c with
  | 'c' => some (.setting .config)
  | 'v' => some (.flag .verbose)
  | 'f' => some (.setting .format)
  | 'j' => some (.setting .jobs)
  | 'V' => some .version
  | 'h' => some .help
  | _ => .none

/-- Switches a flag on, which can be done once. -/
def switch? (a : Arguments) : Flag → Option Arguments
  | .strict => if a.strict then .none else some { a with strict := true }
  | .verbose => if a.verbose then .none else some { a with verbose := true }
  | .fix => if a.fix then .none else some { a with fix := true }
  | .diff => if a.diff then .none else some { a with diff := true }
  | .dryRun => if a.dryRun then .none else some { a with dryRun := true }
  | .byDashboard => if a.byDashboard then .none else some { a with byDashboard := true }
  | .noColor => if a.noColor then .none else some { a with noColor := true }
  | .preview => if a.preview then .none else some { a with preview := true }
  | .listRules => if a.listRules then .none else some { a with listRules := true }

/-- The items of a list with commas. -/
def listItems (value : String) : List String :=
  (value.toList.splitOn ',').map String.ofList

/-- Gives a setting its value. Lists of rules can be given several times. -/
def assign? (a : Arguments) (value : String) : Setting → Option Arguments
  | .config =>
    if a.config.isSome || value.isEmpty then .none else some { a with config := some value }
  | .format =>
    if a.format.isSome then .none
    else (ReportForm.ofName? value).map fun form => { a with format := some form }
  | .jobs =>
    if a.jobs.isSome then .none
    else (Text.uint64? value.toList).map fun n => { a with jobs := some n }
  | .disable => some { a with disable := some (a.disable.getD [] ++ listItems value) }
  | .select => some { a with select := some (a.select.getD [] ++ listItems value) }
  | .explain => if a.explain.isSome then .none else some { a with explain := some value }

/-- Adds a path, which is not empty. -/
def addPath? (a : Arguments) (path : String) : Option Arguments :=
  if path.isEmpty then .none else some { a with paths := a.paths ++ [path] }

/-! ## Reading -/

/-- What an argument leads to. -/
inductive Step where
  /-- Reading goes on. -/
  | next (arguments : Arguments)
  /-- The next argument is the value of a setting. -/
  | await (arguments : Arguments) (setting : Setting)
  | stop (outcome : Outcome)

/-- The step of an optional result, which is wrong when there is none. -/
def Step.of : Option Arguments → Step
  | some a => .next a
  | .none => .stop .usage

/-- Reads a long option without its hyphens. -/
def readLong (a : Arguments) (text : List Char) : Step :=
  let (name, value) := Text.cutAt '=' text
  match ofLong? (String.ofList name), value with
  | some (.flag f), .none => .of (a.switch? f)
  | some (.setting s), .none => .await a s
  | some (.setting s), some value => .of (a.assign? (String.ofList value) s)
  | some .version, .none => .stop .version
  | some .help, .none => .stop .help
  | _, _ => .stop .usage

/-- Reads short options without their hyphen. -/
def readShort (a : Arguments) : List Char → Step
  | [] => .next a
  | c :: rest =>
    match ofShort? c with
    | some (.flag f) =>
      match a.switch? f with
      | some a => readShort a rest
      | .none => .stop .usage
    | some (.setting s) =>
      match rest with
      | [] => .await a s
      | '=' :: value => .of (a.assign? (String.ofList value) s)
      | value => .of (a.assign? (String.ofList value) s)
    | some .version => .stop .version
    | some .help => .stop .help
    | .none => .stop .usage

/-- The outcome at the end. A diff cannot be had from a dry run. -/
def finish (a : Arguments) : Outcome := if a.diff && a.dryRun then .usage else .run a

/-- Reads paths only. -/
def readPaths (a : Arguments) : List String → Outcome
  | [] => a.finish
  | path :: rest =>
    match a.addPath? path with
    | some a => readPaths a rest
    | .none => .usage

/-- Whether an argument can be the value of an option: it does not look like an option. -/
def isValue (arg : String) : Bool := arg == "-" || arg.toList.head? != some '-'

/-- Reads arguments; `waiting` is the setting whose value comes next. -/
def readFrom (a : Arguments) (waiting : Option Setting) : List String → Outcome
  | [] => if waiting.isSome then .usage else a.finish
  | arg :: rest =>
    let step : Step :=
      match waiting, arg.toList with
      | some s, _ => if isValue arg then .of (a.assign? arg s) else .stop .usage
      | .none, '-' :: '-' :: name => a.readLong name
      | .none, '-' :: c :: more => a.readShort (c :: more)
      | .none, _ => .of (a.addPath? arg)
    if waiting.isNone && arg == "--" then a.readPaths rest
    else
      match step with
      | .next a => readFrom a .none rest
      | .await a s => readFrom a (some s) rest
      | .stop outcome => outcome

/-- The outcome of a command line. -/
def read (args : List String) : Outcome := readFrom .none .none args

end Arguments

end BoardLint
