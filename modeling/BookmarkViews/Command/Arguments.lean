import BookmarkViews.Param.Template
import BookmarkViews.Result.Format
import BookmarkViews.Text.Blank

/-!
The command line: what its words ask for.

Words are read in two steps: as options and names (`readWords?`), then as a command
(`Invocation.read?`). A word that starts with a dash is an option, unless it is a
single dash or stands after a double one, and an option that takes a value takes the
rest of its word or the next word.
-/

namespace BookmarkViews

/-- Where views and records come from, and how a view is run. -/
structure SourceOptions where
  /-- The view documents. -/
  files : List String := []
  snapshot : Option String := none
  sqlite : Option String := none
  params : Params := []
  /-- The instant that relative dates are told from. -/
  now : Option String := none
  noPushdown : Bool := false
deriving DecidableEq

inductive Command where
  | init (path : String)
  | validate (files : List String)
  | list (files : List String)
  | run (view : String) (source : SourceOptions) (format : Option OutputFormat)
  | explain (view : String) (source : SourceOptions)
  | schema
deriving DecidableEq

/-- A command and the configuration file it names. -/
structure Invocation where
  config : Option String
  command : Command
deriving DecidableEq

namespace CommandLine

/-! ### Options and names -/

inductive Flag where
  | verbose
  | config
  | file
  | snapshot
  | sqlite
  | param
  | now
  | format
  | noPushdown
deriving DecidableEq, Repr

namespace Flag

def long : Flag → String
  | .verbose => "verbose"
  | .config => "config"
  | .file => "file"
  | .snapshot => "snapshot"
  | .sqlite => "sqlite"
  | .param => "param"
  | .now => "now"
  | .format => "format"
  | .noPushdown => "no-pushdown"

def short? : Flag → Option Char
  | .verbose => some 'v'
  | .file => some 'f'
  | .param => some 'p'
  | .config | .snapshot | .sqlite | .now | .format | .noPushdown => none

def takesValue : Flag → Bool
  | .verbose | .noPushdown => false
  | .config | .file | .snapshot | .sqlite | .param | .now | .format => true

/-- Whether the value is a path, which is never empty. -/
def isPath : Flag → Bool
  | .config | .file | .snapshot | .sqlite => true
  | .verbose | .param | .now | .format | .noPushdown => false

end Flag

inductive Argument where
  | flag (f : Flag)
  | value (f : Flag) (s : String)
  | name (s : String)
deriving DecidableEq, Repr

def isOption (word : String) : Bool :=
  word.startsWith "-" && word != "-"

/-- Read the letters after a single dash: the options among `known` that they give,
and one that waits for its value. -/
def readLetters? (known : List Flag) : List Char → Option (List Argument × Option Flag)
  | [] => some ([], none)
  | c :: cs => do
    let f ← known.find? (·.short? == some c)
    if !f.takesValue then
      let (more, waiting) ← readLetters? known cs
      return (.flag f :: more, waiting)
    else match cs with
      | [] => return ([], some f)
      | '=' :: value => return ([.value f (String.ofList value)], none)
      | value => return ([.value f (String.ofList value)], none)

/-- Read the name of an option after a double dash, with the value after an equals
sign. -/
def readLong? (known : List Flag) (cs : List Char) : Option (List Argument × Option Flag) := do
  let (name, value) := Text.breakAt (· = '=') cs
  let f ← known.find? (·.long.toList == name)
  match value with
  | [] => if f.takesValue then return ([], some f) else return ([.flag f], none)
  | _ :: value => if f.takesValue then return ([.value f (String.ofList value)], none) else none

/-- Read an option. -/
def readOption? (known : List Flag) (word : String) : Option (List Argument × Option Flag) :=
  match word.toList with
  | '-' :: '-' :: cs => readLong? known cs
  | '-' :: cs => readLetters? known cs
  | _ => none

/-- Read words, up to the first name if `first` holds; `waiting` is the option before
them that waits for its value. The answer has the words that are left. -/
def readWords? (known : List Flag) (first : Bool) (waiting : Option Flag) :
    List String → Option (List Argument × List String)
  | [] => if waiting.isSome then none else some ([], [])
  | word :: rest =>
    match waiting with
    | some f =>
      if isOption word then none
      else (readWords? known first none rest).map fun (args, left) => (.value f word :: args, left)
    | none =>
      if word = "--" then
        if first then none else some (rest.map .name, [])
      else if isOption word then do
        let (args, waiting) ← readOption? known word
        let (more, left) ← readWords? known first waiting rest
        return (args ++ more, left)
      else if first then some ([], word :: rest)
      else (readWords? known first none rest).map fun (args, left) => (.name word :: args, left)

/-! ### Values -/

/-- All values of an option. -/
def values (f : Flag) (args : List Argument) : List String :=
  args.filterMap fun
    | .value g s => if g = f then some s else none
    | _ => none

def names (args : List Argument) : List String :=
  args.filterMap fun
    | .name s => some s
    | _ => none

/-- The value of an option that may be given once. -/
def single? (f : Flag) (args : List Argument) : Option (Option String) :=
  match values f args with
  | [] => some none
  | [s] => some (some s)
  | _ => none

/-- Whether an option without a value is given; it may be given once. -/
def once? (f : Flag) (args : List Argument) : Option Bool :=
  match args.filter (· == .flag f) with
  | [] => some false
  | [_] => some true
  | _ => none

/-- Read the name and the value of a parameter. -/
def readParam? (s : String) : Option (String × Value) :=
  match Text.breakAt (· = '=') s.toList with
  | (_, []) => none
  | (name, _ :: value) =>
    let name := Text.trim name
    if name.isEmpty then none else some (String.ofList name, .text (String.ofList value))

/-- Read the options of a run. -/
def readSource? (args : List Argument) : Option SourceOptions := do
  let snapshot ← single? .snapshot args
  let sqlite ← single? .sqlite args
  guard (snapshot.isNone || sqlite.isNone)
  let params ← (values .param args).mapM readParam?
  return {
    files := values .file args
    snapshot
    sqlite
    params := Keyed.ofEntries params
    now := ← single? .now args
    noPushdown := ← once? .noPushdown args }

/-- Read the format of a run. -/
def readFormat? (args : List Argument) : Option (Option OutputFormat) := do
  match ← single? .format args with
  | some s => (OutputFormat.ofName? s).map some
  | none => return none

/-- The options of every command. -/
def commonFlags : List Flag :=
  [.verbose, .config]

def sourceFlags : List Flag :=
  [.file, .snapshot, .sqlite, .param, .now, .noPushdown]

/-- The options of a command besides the common ones. -/
def flagsOf? : String → Option (List Flag)
  | "init" | "schema" => some []
  | "validate" | "list" => some [.file]
  | "run" => some (.format :: sourceFlags)
  | "explain" => some sourceFlags
  | _ => none

/-- The command of a name and its arguments. -/
def readCommand? (name : String) (args : List Argument) : Option Command :=
  match name, names args with
  | "init", [] => some (.init ".")
  | "init", [path] => if path.isEmpty then none else some (.init path)
  | "validate", [] => some (.validate (values .file args))
  | "list", [] => some (.list (values .file args))
  | "run", [view] => do return .run view (← readSource? args) (← readFormat? args)
  | "explain", [view] => do return .explain view (← readSource? args)
  | "schema", [] => some .schema
  | _, _ => none

/-- Whether no path is empty. -/
def pathsGiven (args : List Argument) : Bool :=
  args.all fun
    | .value f s => !f.isPath || !s.isEmpty
    | _ => true

end CommandLine

open CommandLine in
/-- What the words of a command line ask for; none if they make no sense. An option
of the configuration file after the command outdoes one before it. -/
def Invocation.read? (words : List String) : Option Invocation := do
  let (front, rest) ← readWords? commonFlags true none words
  match rest with
  | [] => none
  | name :: rest =>
    let (args, _) ← readWords? (commonFlags ++ (← flagsOf? name)) false none rest
    guard (pathsGiven (front ++ args))
    let before ← single? .config front
    let after ← single? .config args
    return { config := after.or before, command := ← readCommand? name args }

end BookmarkViews
