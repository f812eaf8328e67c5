import Bulletin.Placeholder

namespace Bulletin.Command

inductive Setting
  | root
  | commitHash
  | repoName
  | contributorsSince
  | whatsChangedUrl
  | artifact
  | output
  deriving DecidableEq, Repr

namespace Setting

def long : Setting → String
  | root => "root"
  | commitHash => "commit_hash"
  | repoName => "repo_name"
  | contributorsSince => "contributors_since"
  | whatsChangedUrl => "whats_changed_url"
  | artifact => "artifact"
  | output => "output"

def short? : Setting → Option Char
  | root => some 'r'
  | artifact => some 'a'
  | output => some 'o'
  | _ => none

def isPath : Setting → Bool
  | root | artifact | output => true
  | _ => false

end Setting

inductive Stop
  | usage
  | help
  | version
  deriving DecidableEq, Repr

/-- The part of a command line that is read: what stands before the name of a command, or the
arguments of a command. -/
inductive Scope
  | program
  | compose
  | emit
  deriving DecidableEq, Repr

namespace Scope

def settings : Scope → List Setting
  | program => [.root]
  | compose => [.root, .commitHash, .repoName, .contributorsSince, .whatsChangedUrl]
  | emit => [.root, .artifact, .output]

def switches : Scope → List (String × Char × Stop)
  | program => [("help", 'h', .help), ("version", 'V', .version)]
  | compose | emit => [("help", 'h', .help)]

inductive Use
  | value (setting : Setting)
  | stop (stop : Stop)

def long? (scope : Scope) (name : String) : Option Use :=
  match scope.switches.find? (·.1 = name) with
  | some (_, _, stop) => some (.stop stop)
  | none => (scope.settings.find? (·.long = name)).map .value

def short? (scope : Scope) (letter : Char) : Option Use :=
  match scope.switches.find? (·.2.1 = letter) with
  | some (_, _, stop) => some (.stop stop)
  | none => (scope.settings.find? (·.short? = some letter)).map .value

end Scope

inductive Argument
  /-- Two dashes alone. -/
  | escape
  | long (name : String) (value : Option String)
  | short (letter : Char) (rest : List Char)
  /-- Anything else, a lone dash included. -/
  | word (text : String)
  deriving DecidableEq, Repr

def Argument.ofString (s : String) : Argument :=
  match s.toList with
  | ['-', '-'] => .escape
  | '-' :: '-' :: rest =>
    let name := rest.takeWhile (· ≠ '=')
    match rest.drop name.length with
    | [] => .long (String.ofList name) none
    | _ :: value => .long (String.ofList name) (some (String.ofList value))
  | '-' :: letter :: rest => .short letter rest
  | _ => .word s

/-- The value that is attached to a short option, without an equals sign in front. -/
def attached? : List Char → Option String
  | [] => none
  | '=' :: value => some (String.ofList value)
  | value => some (String.ofList value)

/-- The settings that have been made, the latest first. -/
abbrev Given := List (Setting × String)

/-- An option that has been seen last, with its value as soon as that has been seen, too. -/
abbrev Pending := Option (Setting × Option String)

namespace Given

def make (given : Given) (setting : Setting) (value : String) : Except Stop Given :=
  if (given.lookup setting).isSome || (setting.isPath && value.isEmpty) then .error .usage
  else .ok ((setting, value) :: given)

def settle (given : Given) : Pending → Except Stop Given
  | none => .ok given
  | some (_, none) => .error .usage
  | some (setting, some value) => given.make setting value

def need (given : Given) (setting : Setting) : Except Stop String :=
  match given.lookup setting with
  | some value => .ok value
  | none => .error .usage

end Given

/-- Applies an option, with the value attached to it if there is one. Without one, the value is the
next argument. -/
def applyOption (given : Given) (pending : Pending) (setting : Setting) (attached : Option String) :
    Except Stop (Given × Pending) := do
  let given ← given.settle pending
  match attached with
  | some value => return (← given.make setting value, none)
  | none => return (given, some (setting, none))

/-- Reads options up to the first argument that is neither an option nor its value; it is left with
what follows it. Behind two dashes nothing may follow. -/
def readOptions (scope : Scope) (given : Given) (pending : Pending) :
    List String → Except Stop (Given × Pending × List String)
  | [] => .ok (given, pending, [])
  | argument :: arguments =>
    match Argument.ofString argument with
    | .word text =>
      match pending with
      | some (setting, none) => readOptions scope given (some (setting, some text)) arguments
      | _ => .ok (given, pending, argument :: arguments)
    | .escape => if arguments.isEmpty then .ok (given, pending, []) else .error .usage
    | .long name attached =>
      match scope.long? name with
      | none => .error .usage
      | some (.stop stop) =>
        if attached.isSome then .error .usage
        else do
          let _ ← given.settle pending
          .error stop
      | some (.value setting) => do
        let (given, pending) ← applyOption given pending setting attached
        readOptions scope given pending arguments
    | .short letter rest =>
      match scope.short? letter with
      | none => .error .usage
      | some (.stop stop) => do
        let _ ← given.settle pending
        .error stop
      | some (.value setting) => do
        let (given, pending) ← applyOption given pending setting (attached? rest)
        readOptions scope given pending arguments

inductive Request
  | compose (root : String) (context : Context)
  | emit (root : String) (artifact : Option String) (sink : String)
  deriving DecidableEq, Repr

def readCommand (scope : Scope) (arguments : List String) : Except Stop Given := do
  let (given, pending, rest) ← readOptions scope [] none arguments
  if rest.isEmpty then given.settle pending else .error .usage

def readContext (given : Given) : Except Stop Context := do
  let commitHash ← given.need .commitHash
  let repoName ← given.need .repoName
  let contributorsSince ← given.need .contributorsSince
  let whatsChangedUrl ← given.need .whatsChangedUrl
  return { commitHash, repoName, contributorsSince, whatsChangedUrl }

def readSink (given : Given) (environment : Option String) : Except Stop String :=
  match given.lookup .output, environment with
  | some sink, _ => .ok sink
  | none, some sink => if sink.isEmpty then .error .usage else .ok sink
  | none, none => .error .usage

def rootOf (inner outer : Given) : String :=
  ((inner.lookup .root).or (outer.lookup .root)).getD "."

def readHelp : List String → Stop
  | [] => .help
  | [topic] => if topic ∈ ["compose", "emit", "help"] then .help else .usage
  | _ => .usage

/-- The request that a command line makes, in an environment that may name a file for the outputs.
What is wrong after the command's name comes before what is wrong right in front of it. -/
def Request.read (arguments : List String) (environment : Option String) :
    Except Stop Request := do
  let (outer, pending, rest) ← readOptions .program [] none arguments
  match rest with
  | "compose" :: arguments =>
    let given ← readCommand .compose arguments
    let context ← readContext given
    let outer ← outer.settle pending
    return .compose (rootOf given outer) context
  | "emit" :: arguments =>
    let given ← readCommand .emit arguments
    let sink ← readSink given environment
    let outer ← outer.settle pending
    return .emit (rootOf given outer) (given.lookup .artifact) sink
  | "help" :: topics => .error (readHelp topics)
  | _ => .error .usage

end Bulletin.Command
