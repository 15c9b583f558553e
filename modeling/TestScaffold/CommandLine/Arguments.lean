import TestScaffold.Path.Basic

/-!
The arguments of the command line. Flags stand before the name of a command and among its own
arguments, each at most once in either place; letters may share a dash.
-/

namespace TestScaffold

inductive Flag
  | verbose
  | quiet
  | help
  | force
  | dryRun
  | json
  | openTests
  deriving DecidableEq, Repr

namespace Flag

def word : Flag → Text
  | verbose => "verbose".toList
  | quiet => "quiet".toList
  | help => "help".toList
  | force => "force".toList
  | dryRun => "dry-run".toList
  | json => "json".toList
  | openTests => "open".toList

def letter? : Flag → Option Char
  | verbose => some 'v'
  | quiet => some 'q'
  | help => some 'h'
  | force => some 'f'
  | dryRun | json | openTests => none

/-- The flags that go with every command and stand before it too. -/
def common : List Flag :=
  [verbose, quiet, help]

def forTests : List Flag :=
  common ++ [force, dryRun, json, openTests]

def forSettings : List Flag :=
  common ++ [force]

end Flag

structure TestOptions where
  /-- A source, or a directory of sources. -/
  path : Path
  /-- The root of the workspace, when it is not to be looked for. -/
  root : Option Path := none
  flags : List Flag := []
  deriving DecidableEq, Repr

inductive Command
  | createTests (options : TestOptions)
  | writeSettings (flags : List Flag)
  deriving DecidableEq, Repr

def Command.isForced : Command → Bool
  | createTests options => options.flags.contains .force
  | writeSettings flags => flags.contains .force

/-- Why arguments are no command. -/
inductive Refusal
  | usage
  /-- They ask for help, which comes instead. -/
  | help
  deriving DecidableEq, Repr

def isDashed (argument : Text) : Bool :=
  argument.head? == some '-' && argument != ['-']

def addFlag (flags : List Flag) : Option Flag → Except Refusal (List Flag)
  | none => .error .usage
  | some .help => .error .help
  | some flag => if flag ∈ flags then .error .usage else .ok (flag :: flags)

/-- The flags with those that a dashed argument gives, out of the known ones. -/
def addDashed (known flags : List Flag) (argument : Text) : Except Refusal (List Flag) :=
  match argument with
  | '-' :: '-' :: word => addFlag flags (known.find? (·.word = word))
  | _ :: letters =>
    letters.foldlM (fun flags c => addFlag flags (known.find? (·.letter? = some c))) flags
  | [] => .ok flags

def agreeing (flags : List Flag) : Except Refusal (List Flag) :=
  if .verbose ∈ flags ∧ .quiet ∈ flags then .error .usage else .ok flags

structure GivenOptions where
  path : Option Path := none
  root : Option Path := none
  flags : List Flag := []
  deriving DecidableEq, Repr

namespace GivenOptions

def addPath (g : GivenOptions) (argument : Text) : Except Refusal GivenOptions :=
  if argument = [] ∨ g.path.isSome then .error .usage else .ok { g with path := some ⟨argument⟩ }

def addRoot (g : GivenOptions) (argument : Text) : Except Refusal GivenOptions :=
  if argument = [] ∨ g.root.isSome then .error .usage else .ok { g with root := some ⟨argument⟩ }

/-- The options that arguments give. After two dashes alone every argument is a path. -/
def read (g : GivenOptions) : List Text → Except Refusal GivenOptions
  | [] => .ok g
  | argument :: rest =>
    if argument = "--".toList then rest.foldlM addPath g
    else if argument = "--root".toList then
      match rest with
      | [] => .error .usage
      | root :: rest =>
        -- A root with a dash at its start has to be joined by an equals sign.
        if isDashed root then .error .usage
        else do
          let g ← g.addRoot root
          read g rest
    else
      match Text.after? "--root=".toList argument with
      | some root => do
        let g ← g.addRoot root
        read g rest
      | none =>
        if isDashed argument then do
          let flags ← addDashed Flag.forTests g.flags argument
          read { g with flags } rest
        else do
          let g ← g.addPath argument
          read g rest

end GivenOptions

/-- The options of the command that creates tests. There has to be a path. -/
def TestOptions.read (arguments : List Text) : Except Refusal TestOptions := do
  let g ← GivenOptions.read {} arguments
  let flags ← agreeing g.flags
  match g.path with
  | none => .error .usage
  | some path => .ok { path, root := g.root, flags }

def readFlags (flags : List Flag) : List Text → Except Refusal (List Flag)
  | [] => .ok flags
  | argument :: rest =>
    if argument = "--".toList ∧ rest = [] then .ok flags
    else if isDashed argument then do
      let flags ← addDashed Flag.forSettings flags argument
      readFlags flags rest
    else .error .usage

namespace Command

def createTestsName : Text := "create-test-file".toList

def writeSettingsName : Text := "init".toList

def helpName : Text := "help".toList

def named (name : Text) (arguments : List Text) : Except Refusal Command :=
  if name = createTestsName then do
    let options ← TestOptions.read arguments
    .ok (.createTests options)
  else if name = writeSettingsName then do
    let flags ← readFlags [] arguments
    let flags ← agreeing flags
    .ok (.writeSettings flags)
  else if name = helpName ∧ (arguments = [] ∨
      arguments.tail = [] ∧ arguments.all [createTestsName, writeSettingsName, helpName].contains)
  then .error .help
  else .error .usage

/-- The command that arguments ask for, after the flags that stand before its name. -/
def readAfter (flags : List Flag) : List Text → Except Refusal Command
  | [] => .error .usage
  | argument :: rest =>
    if isDashed argument then do
      let flags ← addDashed Flag.common flags argument
      readAfter flags rest
    else do
      let command ← named argument rest
      let _ ← agreeing flags
      .ok command

def read (arguments : List Text) : Except Refusal Command :=
  readAfter [] arguments

end Command

end TestScaffold
