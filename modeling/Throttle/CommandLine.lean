import Throttle.Management.Lines
import Throttle.Reloader
import Throttle.Settings.Layers

/-!
# The command line

The program checks a policy file, or serves the management protocol. Options may come in any order, each at most once;
the settings file may be named before or after the command, and the later one counts.
-/

namespace Throttle

inductive Command where
  /-- Check a policy file and list what is in it. -/
  | validate (policies : String)
  /-- Serve the management protocol. A policy file given here goes before the one in the settings. -/
  | serve (policies : Option String)
  deriving DecidableEq, Repr

/-- A command, and the file that the settings are read from. -/
structure Invocation where
  command : Command
  settings : Option String := none
  deriving DecidableEq, Repr

inductive Usage where
  | run (i : Invocation)
  | version
  | help
  | wrong
  deriving DecidableEq, Repr

namespace CommandLine

/-! ## Arguments -/

/-- An option that takes a value, by its letter and its name. -/
inductive Setting where
  | config
  | policies
  deriving DecidableEq, Repr

inductive Switch where
  | setting (s : Setting)
  | help
  | version

/-- The options that a position in the command line knows. The version is known before the command, and the policies
after it. -/
def switches (inCommand : Bool) : List (Char × String × Switch) :=
  [('c', "config", .setting .config), ('h', "help", .help)] ++
    if inCommand then [('p', "policies", .setting .policies)] else [('V', "version", .version)]

abbrev Values := List (Setting × String)

inductive Parsed where
  | usage (u : Usage)
  /-- The values of options, and the arguments from the first that is none. -/
  | values (vs : Values) (rest : List String)

/-- Values with one more, which may not be empty or given twice. -/
def addValue (vs : Values) (s : Setting) (value : String) : Option Values :=
  if value = "" || (vs.lookup s).isSome then none else some ((s, value) :: vs)

/-- Whether an argument cannot be the value of the option before it. -/
def looksLikeOption (arg : String) : Bool :=
  match arg.toList with
  | '-' :: _ :: _ => true
  | _ => false

inductive Found where
  | usage (u : Usage)
  | value (s : Setting) (value : String)
  /-- An option whose value is the next argument. -/
  | awaits (s : Setting)

/-- An option by its letter, with what follows in the same argument. -/
def ofLetters (inCommand : Bool) (letters : List Char) : Found :=
  match letters with
  | [] => .usage .wrong
  | c :: rest =>
    match (switches inCommand).lookup c with
    | some (_, .help) => .usage .help
    | some (_, .version) => .usage .version
    | some (_, .setting s) =>
      match rest with
      | [] => .awaits s
      | '=' :: value => .value s (String.ofList value)
      | value => .value s (String.ofList value)
    | none => .usage .wrong

/-- An option by its name, with its value if it follows an equals sign. -/
def ofName (inCommand : Bool) (text : List Char) : Found :=
  let name := String.ofList (text.takeWhile (· ≠ '='))
  let value : Option String := match text.dropWhile (· ≠ '=') with
    | _ :: v => some (String.ofList v)
    | [] => none
  match ((switches inCommand).map Prod.snd).lookup name, value with
  | some .help, none => .usage .help
  | some .version, none => .usage .version
  | some (.setting s), none => .awaits s
  | some (.setting s), some v => .value s v
  | _, _ => .usage .wrong

def readOptions (inCommand : Bool) (vs : Values) : List String → Parsed
  | [] => .values vs []
  | arg :: rest =>
    let found : Option Found := match arg.toList with
      | '-' :: '-' :: [] => none
      | '-' :: '-' :: text => some (ofName inCommand text)
      | '-' :: c :: letters => some (ofLetters inCommand (c :: letters))
      | _ => none
    match found with
    | none => .values vs (arg :: rest)
    | some (.usage u) => .usage u
    | some (.value s v) =>
      match addValue vs s v with
      | some vs => readOptions inCommand vs rest
      | none => .usage .wrong
    | some (.awaits s) =>
      match rest with
      | [] => .usage .wrong
      | v :: rest =>
        if looksLikeOption v then .usage .wrong
        else match addValue vs s v with
          | some vs => readOptions inCommand vs rest
          | none => .usage .wrong

/-- The options of a command, after which there is nothing but perhaps the mark that ends options. -/
def readCommand (outer : Values) (make : Option String → Option Command) (args : List String) : Usage :=
  match readOptions true [] args with
  | .usage u => u
  | .values vs rest =>
    if rest ≠ [] ∧ rest ≠ ["--"] then .wrong
    else match make (vs.lookup .policies) with
      | some command => .run { command, settings := (vs.lookup .config) <|> outer.lookup .config }
      | none => .wrong

def readArguments (args : List String) : Usage :=
  match readOptions false [] args with
  | .usage u => u
  | .values vs ("validate" :: rest) => readCommand vs (fun p => p.map .validate) rest
  | .values vs ("serve" :: rest) => readCommand vs (fun p => some (.serve p)) rest
  | .values _ ["help"] => .help
  | .values _ ["help", topic] => if ["validate", "serve", "help"].contains topic then .help else .wrong
  | .values _ _ => .wrong

/-! ## Running -/

/-- What the program finds around it, by actions of some kind. -/
structure Surroundings (m : Type → Type) where
  environment : m (List (String × String))
  /-- What a file holds, if there is one of the name. -/
  file : String → m PolicyFile

/-- A service that is ready to serve, and the file that its policies come from. -/
structure Serving where
  service : Management.Service Float
  policies : Option String
  /-- The seconds after which the policies are read again, or zero if they are not. -/
  reloadInterval : UInt64

inductive Plan where
  | print (lines : List String)
  | printHelp
  | refuse
  | fail (message : String)
  | serve (s : Serving)

def fileName (path : List Char) : List Char := (path.reverse.takeWhile (· ≠ '/')).reverse

/-- What comes after the last point in the name of a file, unless the name begins with that point. -/
def extension? (path : String) : Option String :=
  let reversed := (fileName path.toList).reverse
  match reversed.dropWhile (· ≠ '.') with
  | '.' :: _ :: _ => some (String.ofList (reversed.takeWhile (· ≠ '.')).reverse)
  | _ => none

def formatOf (ext : String) : Option (String → Settings.File) :=
  if ext = "yaml" ∨ ext = "yml" then some .yaml else if ext = "json" then some .json else none

variable {m : Type → Type} [Monad m]

/-- The first of some paths at which there is a file, with what it holds. -/
def firstFile (around : Surroundings m) : List String → m (Option (String × List UInt8))
  | [] => return none
  | path :: rest => do
    match ← around.file path with
    | some bytes => return some (path, bytes)
    | none => firstFile around rest

/-- A settings file. The ending of its name says its format, and may be left out of the path. -/
def settingsFile (around : Surroundings m) (path : String) : m Settings.File := do
  match ← firstFile around [path, path ++ ".yaml", path ++ ".yml", path ++ ".json"] with
  | none => return .unreadable
  | some (found, bytes) =>
    match (extension? found).bind formatOf, Text.decode bytes with
    | some make, .ok text => return make text
    | _, _ => return .unreadable

/-- The line that describes a policy. The name fills a column of 24 characters. -/
def describe (p : Policy) : String :=
  let name := p.name ++ String.ofList (List.replicate (24 - p.name.length) ' ')
  s!"  {name} {p.algorithm.name} rate={p.limit.rate.toNat}/{p.limit.period.toNat}s burst={p.limit.burst.toNat} " ++
    s!"scope={p.scope.name} path={p.pattern.text}"

def catalogAt (around : Surroundings m) (path : String) : ExceptT String m Catalog := do
  let file ← around.file path
  match Catalog.ofFile file with
  | .ok c => return c
  | .error _ => throw s!"Invalid policy file {path}"

def validate (around : Surroundings m) (path : String) : ExceptT String m Plan := do
  let c ← catalogAt around path
  return .print (s!"{path}: {c.size} policies" :: c.policies.map describe)

def prepare (around : Surroundings m) (settings : Settings) (policies : Option String) :
    ExceptT String m Serving := do
  let path := policies <|> settings.policies.path
  let catalog ← match path with
    | some path => catalogAt around path
    | none => pure .empty
  let store : Store Float := match settings.store.maxEntries with
    | some n => .bounded n.toNat
    | none => {}
  let boundary ← match Admission.ofTexts settings.engine.skipPaths settings.engine.storeFailure with
    | .ok boundary => pure boundary
    | .error e => throw e.message
  return {
    service := {
      engine := {
        catalog, store
        unmatched := settings.engine.unmatched
        closedRetryAfter := settings.engine.closedRetryAfter }
      boundary }
    policies := path
    reloadInterval := settings.policies.reloadInterval }

/-- Carry out an invocation. The settings are read first, whatever the command. -/
def carryOut (around : Surroundings m) (i : Invocation) : ExceptT String m Plan := do
  let file ← match i.settings with
    | some path => some <$> ExceptT.lift (settingsFile around path)
    | none => pure none
  match Settings.load file (← around.environment) with
  | .error _ => throw "Failed to load configuration"
  | .ok settings =>
    match i.command with
    | .validate path => validate around path
    | .serve policies => return .serve (← prepare around settings policies)

def plan (around : Surroundings m) (args : List String) : m Plan :=
  match readArguments args with
  | .version => return .print ["tollgate 0.1.0"]
  | .help => return .printHelp
  | .wrong => return .refuse
  | .run i => do
    match ← carryOut around i with
    | .ok p => return p
    | .error message => return .fail message

end CommandLine

end Throttle
