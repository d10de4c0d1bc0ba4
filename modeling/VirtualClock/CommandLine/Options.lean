import VirtualClock.CommandLine.Stop
import VirtualClock.Text.Likeness

/-!
# Options

The options of the command line and how they are read off its arguments.  An
option takes the next argument as its value, whatever that looks like, or the
text after an equals sign; of several uses of one option the last counts.  The
options end at the first other argument or after two hyphens.  Whoever writes an
option that there is not is shown those that look like it.

What the help looks like, and what completion does in the shell around the program, is not
decided here: the reading of the arguments is given the answers to both.

The program has no commands, so any argument after the options is one that it
does not know.  Such arguments are first read as options all the same, and what
is wrong with them as options comes first.
-/

namespace VirtualClock.CommandLine

inductive OptionName where
  | version
  | target
  | offset
  | zone
  | json
  | logLevel
  | logFormat
  | envFile
  | installCompletion
  | showCompletion
  | help
  deriving DecidableEq, Repr

namespace OptionName

def text : OptionName → String
  | .version => "--version"
  | .target => "--at"
  | .offset => "--offset"
  | .zone => "--tz"
  | .json => "--json"
  | .logLevel => "--log-level"
  | .logFormat => "--log-format"
  | .envFile => "--env-file"
  | .installCompletion => "--install-completion"
  | .showCompletion => "--show-completion"
  | .help => "--help"

def purpose : OptionName → String
  | .version => "Show version and exit."
  | .target => "Travel to this ISO 8601 instant."
  | .offset => "Travel by this many seconds."
  | .zone => "IANA zone for --at and the output."
  | .json => "Emit a JSON object."
  | .logLevel => "Override log level."
  | .logFormat => "Override log format."
  | .envFile => "Path to .env file."
  | .installCompletion => "Install completion for the current shell."
  | .showCompletion => "Show completion for the current shell."
  | .help => "Show this message and exit."

def all : List OptionName :=
  [.version, .target, .offset, .zone, .json, .logLevel, .logFormat, .envFile,
    .installCompletion, .showCompletion, .help]

/-- The option that is written in a certain way. -/
def find? (written : String) : Option OptionName := all.find? fun name => name.text == written

/-- The option has a value; the others are only there or not. -/
def takesValue : OptionName → Bool
  | .version | .json | .installCompletion | .showCompletion | .help => false
  | _ => true

/-- The most options that are shown to whoever misspelt one. -/
def mostAlike : Nat := 3

/-- The options that look like a written one. -/
def alike (written : String) : List String :=
  Text.closeWords mostAlike (all.map text) written

end OptionName

/-- What a shell can be given for completion. -/
inductive CompletionTask where
  | install
  | display
  deriving DecidableEq, Repr

/-- The option that asks for a completion. -/
def CompletionTask.optionName : CompletionTask → OptionName
  | .install => .installCompletion
  | .display => .showCompletion

/-- The answers that the reading of the arguments gives by itself. -/
structure Pages where
  help : String
  completion : CompletionTask → Completion

/-- The values of the options, as they were written. -/
structure Options where
  showsVersion : Bool
  target : Option String
  offset : Option String
  zone : Option String
  asJson : Bool
  logLevel : Option String
  logFormat : Option String
  envFile : String
  showsHelp : Bool
  /-- The completion that is asked for first, and whether an offset was given before it. -/
  completion : Option (CompletionTask × Bool)
  deriving DecidableEq, Repr

namespace Options

def standard : Options := 
  ⟨false, none, none, none, false, none, none, ".env", false, none⟩

/-- Notes a completion, unless another one is asked for already. -/
def askCompletion (options : Options) (task : CompletionTask) : Options :=
  { options with completion := options.completion <|> some (task, options.offset.isSome) }

/-- Sets the value of an option; one without a value is only noted. -/
def put (options : Options) (name : OptionName) (value : String) : Options :=
  match name with
  | .version => { options with showsVersion := true }
  | .target => { options with target := some value }
  | .offset => { options with offset := some value }
  | .zone => { options with zone := some value }
  | .json => { options with asJson := true }
  | .logLevel => { options with logLevel := some value }
  | .logFormat => { options with logFormat := some value }
  | .envFile => { options with envFile := value }
  | .installCompletion => options.askCompletion .install
  | .showCompletion => options.askCompletion .display
  | .help => { options with showsHelp := true }

/-! ## Arguments -/

/-- An argument that looks like an option: a hyphen with something after it. -/
def isOption (argument : String) : Bool :=
  match argument.toList with
  | '-' :: _ :: _ => true
  | _ => false

/-- The part of an option before an equals sign, and the value after it if there is one. -/
def splitValue (argument : String) : String × Option String :=
  let characters := argument.toList
  let name := characters.takeWhile (· != '=')
  match characters.drop name.length with
  | [] => (argument, none)
  | _ :: value => (String.ofList name, some (String.ofList value))

/-- The problem of an argument that is no option.  After a single hyphen the first
letter alone counts, and nothing looks like it. -/
def unknownOption (argument : String) : UsageProblem :=
  match argument.toList with
  | '-' :: '-' :: _ =>
    let written := (splitValue argument).1
    .unknownOption written (OptionName.alike written)
  | characters => .unknownOption (String.ofList (characters.take 2)) []

/-- Reads options off the front of the arguments and gives what follows them. -/
def takeOptions (options : Options) : List String → Except UsageProblem (Options × List String)
  | [] => .ok (options, [])
  | argument :: rest =>
    if argument == "--" then .ok (options, rest)
    else if !isOption argument then .ok (options, argument :: rest)
    else
      let (written, attached) := splitValue argument
      match OptionName.find? written with
      | none => .error (unknownOption argument)
      | some name =>
        if name.takesValue then
          match attached, rest with
          | some value, rest => takeOptions (options.put name value) rest
          | none, value :: rest => takeOptions (options.put name value) rest
          | none, [] => .error (.missingValue written)
        else
          match attached with
          | some _ => .error (.unwantedValue written)
          | none => takeOptions (options.put name "") rest

/-- The offset in seconds, when one is given. -/
def offsetSeconds (options : Options) : Except UsageProblem (Option Binary64) :=
  match options.offset with
  | none => .ok none
  | some written =>
    match FloatText.readGrouped? written with
    | some seconds => .ok (some seconds)
    | none => .error .unreadableOffset

/-- Ends a run that asks for help or completion, or whose offset cannot be read.
Help comes before everything else, and of the other two what was given first. -/
def settle (pages : Pages) (options : Options) : Except Stop Unit :=
  if options.showsHelp then .error (.showsHelp pages.help)
  else
    match options.completion with
    | some (task, false) => .error (.completes (pages.completion task))
    | some (task, true) => do
      let _ ← Stop.misused options.offsetSeconds
      .error (.completes (pages.completion task))
    | none => do
      let _ ← Stop.misused options.offsetSeconds

/-- The options that arguments give, with an offset that can be read. -/
def ofArguments (pages : Pages) (arguments : List String) : Except Stop Options := do
  let (options, rest) ← Stop.misused (takeOptions standard arguments)
  options.settle pages
  match rest with
  | [] => pure options
  | command :: _ =>
    let (further, _) ← Stop.misused (takeOptions standard rest)
    further.settle pages
    .error (.misuse (.unknownCommand command))

end Options

end VirtualClock.CommandLine
