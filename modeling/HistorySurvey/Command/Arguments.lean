import HistorySurvey.Binary64.Reading
import HistorySurvey.Command.Rules
import HistorySurvey.Concern.Scale
import HistorySurvey.Report.Options

/-! The command line: switches, settings with a value, and one path. A value that stands apart from
its setting is taken up only when the next switch, setting or path comes, or at the end. Until
then a mistake in it waits, and an unknown word in between is complained about first. -/
namespace HistorySurvey.Command

inductive UsageError
  | unknownArgument
  | invalidValue
  | rejectedValue (message : String)
  | conflict
  | tooManyValues
  | helpWanted
  | versionWanted
  deriving DecidableEq

inductive Switch
  | verbose
  | critical
  | json
  | progress
  | noProgress
  | showReferences
  | help
  | version
  /-- The references of a group are included or excluded. -/
  | group (polarity : References.Polarity) (group : Group)
  deriving DecidableEq

inductive Setting
  | threshold
  | names
  | jsonVersion
  | severityBase
  | rule (polarity : References.Polarity) (regex : Bool)
  deriving DecidableEq

def switches : List (String × Switch) :=
  [("verbose", .verbose), ("critical", .critical), ("json", .json), ("progress", .progress),
    ("no-progress", .noProgress), ("show-refs", .showReferences), ("help", .help),
    ("version", .version),
    ("branches", .group .include .branches), ("no-branches", .group .exclude .branches),
    ("tags", .group .include .tags), ("no-tags", .group .exclude .tags),
    ("remotes", .group .include .remotes), ("no-remotes", .group .exclude .remotes),
    ("notes", .group .include .notes), ("no-notes", .group .exclude .notes),
    ("stash", .group .include .stash), ("no-stash", .group .exclude .stash)]

def letters : List (Char × Switch) :=
  [('v', .verbose), ('j', .json), ('h', .help), ('V', .version)]

def settings : List (String × Setting) :=
  [("threshold", .threshold), ("names", .names), ("json-version", .jsonVersion),
    ("severity-base", .severityBase),
    ("include", .rule .include false), ("include-regexp", .rule .include true),
    ("exclude", .rule .exclude false), ("exclude-regexp", .rule .exclude true)]

structure Arguments where
  path : Option String
  switches : List Switch
  threshold : Option Threshold
  names : Option NameStyle
  jsonVersion : Option JsonVersion
  severityBase : Option Binary64
  /-- The flags that add rules, from left to right. -/
  mentions : List Mention
  /-- The next index: every switch, setting, value and path takes one. -/
  index : Nat

namespace Arguments

def none : Arguments :=
  { path := .none, switches := [], threshold := .none, names := .none, jsonVersion := .none
    severityBase := .none, mentions := [], index := 0 }

def has (a : Arguments) (switch : Switch) : Bool := a.switches.contains switch

/-- The repository where the command is run, if no other is named. -/
def repositoryPath (a : Arguments) : String := a.path.getD "."

def effectiveThreshold (a : Arguments) : Threshold :=
  if a.has .verbose then .verbose
  else if a.has .critical then .critical
  else a.threshold.getD .standard

def nameStyle (a : Arguments) : NameStyle := a.names.getD .full

def jsonForm (a : Arguments) : JsonVersion := a.jsonVersion.getD .figures

def base (a : Arguments) : Binary64 := a.severityBase.getD Scale.standardBase

def wantsProgress? (a : Arguments) : Option Bool :=
  if a.has .noProgress then some false else if a.has .progress then some true else .none

def filter (a : Arguments) : Except References.InvalidRegex References.Filter :=
  (Matches.ofMentions a.mentions).filter

def opposite? : Switch → Option Switch
  | .progress => some .noProgress
  | .noProgress => some .progress
  | _ => .none

/-- Turns a switch on, which can be done once. -/
def turnOn (a : Arguments) (switch : Switch) : Except UsageError Arguments :=
  match switch with
  | .help => .error .helpWanted
  | .version => .error .versionWanted
  | _ =>
    if a.has switch then .error .conflict
    else
      let kept := a.switches.filter fun other => some other ≠ opposite? switch
      let mentions := match switch with
        | .group polarity group => a.mentions ++ [⟨.group polarity group, a.index, ""⟩]
        | _ => a.mentions
      .ok { a with switches := switch :: kept, mentions := mentions, index := a.index + 1 }

def once {α : Type} (before : Option α) (value : Except String α) :
    Except UsageError (Option α) :=
  if before.isSome then .error .conflict
  else (value.mapError .rejectedValue).map some

/-- Takes a value. Its index comes after that of its setting. -/
def apply (a : Arguments) (setting : Setting) (text : String) : Except UsageError Arguments :=
  let after := { a with index := a.index + 2 }
  match setting with
  | .threshold => do
    let value ← once a.threshold ((Threshold.read text).mapError OptionError.message)
    .ok { after with threshold := value }
  | .names => do
    let value ← once a.names ((NameStyle.read text).mapError OptionError.message)
    .ok { after with names := value }
  | .jsonVersion => do
    let value ← once a.jsonVersion ((JsonVersion.read text).mapError OptionError.message)
    .ok { after with jsonVersion := value }
  | .severityBase => do
    let value ← once a.severityBase
      ((Binary64.read text).mapError Binary64.ReadError.message)
    .ok { after with severityBase := value }
  | .rule polarity regex =>
    .ok { after with mentions := a.mentions ++ [⟨.setting polarity regex, a.index + 1, text⟩] }

/-- Switches and settings that exclude one another. -/
def isContradictory (a : Arguments) : Bool :=
  (a.has .verbose && (a.threshold.isSome || a.has .critical))
    || (a.has .critical && a.threshold.isSome)

end Arguments

inductive Pending
  | setting (setting : Setting) (value : Option String)
  | path (text : String)

def Pending.resolve (a : Arguments) : Pending → Except UsageError Arguments
  | .setting _ none => .error .invalidValue
  | .setting wanted (some text) => a.apply wanted text
  | .path text =>
    if text.isEmpty then .error .invalidValue
    else .ok { a with path := text, index := a.index + 1 }

structure Parser where
  arguments : Arguments
  pending : Option Pending
  hasPath : Bool
  pathsOnly : Bool

namespace Parser

def start : Parser := ⟨.none, none, false, false⟩

def resolve (p : Parser) : Except UsageError Parser :=
  match p.pending with
  | some pending => do
    let arguments ← pending.resolve p.arguments
    .ok { p with arguments := arguments, pending := none }
  | none => .ok p

def turnOn (p : Parser) (switch : Switch) : Except UsageError Parser := do
  let p ← p.resolve
  let arguments ← p.arguments.turnOn switch
  .ok { p with arguments := arguments }

def long (p : Parser) (name : String) (value : Option String) : Except UsageError Parser :=
  match switches.lookup name, settings.lookup name, value with
  | some switch, _, none => p.turnOn switch
  | some _, _, some _ => .error .tooManyValues
  | none, some setting, some text => do
    let p ← p.resolve
    let arguments ← p.arguments.apply setting text
    .ok { p with arguments := arguments }
  | none, some setting, none => do
    let p ← p.resolve
    .ok { p with pending := some (.setting setting none) }
  | none, none, _ => .error .unknownArgument

def short (p : Parser) : List Char → Except UsageError Parser
  | [] => .ok p
  | letter :: rest =>
    match letters.lookup letter with
    | some switch => do (← p.turnOn switch).short rest
    | none => .error .unknownArgument

/-- A word that is no switch: the value that a setting waits for, or the path. -/
def word (p : Parser) (text : String) : Except UsageError Parser :=
  match p.pending, p.pathsOnly with
  | some (.setting setting none), false =>
    .ok { p with pending := some (.setting setting (some text)) }
  | _, _ =>
    if p.hasPath then .error .unknownArgument
    else do
      let p ← p.resolve
      .ok { p with pending := some (.path text), hasPath := true }

def splitValue (text : List Char) : String × Option String :=
  let name := String.ofList (text.takeWhile (· ≠ '='))
  match text.dropWhile (· ≠ '=') with
  | _ :: value => (name, some (String.ofList value))
  | [] => (name, none)

def next (p : Parser) (text : String) : Except UsageError Parser :=
  if p.pathsOnly then p.word text
  else match text.toList with
    | ['-', '-'] => .ok { p with pathsOnly := true }
    | '-' :: '-' :: long =>
      let (name, value) := splitValue long
      p.long name value
    | '-' :: letter :: more => p.short (letter :: more)
    | _ => p.word text

end Parser

def Arguments.read (words : List String) : Except UsageError Arguments := do
  let p ← words.foldlM Parser.next .start
  let p ← p.resolve
  if p.arguments.isContradictory then .error .conflict else .ok p.arguments

end HistorySurvey.Command
