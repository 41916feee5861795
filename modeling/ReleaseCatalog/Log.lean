import ReleaseCatalog.FileName
import ReleaseCatalog.Path
import ReleaseCatalog.Request

/-!
# The log

Operations report what they do as events. An event has a level, a topic, which
is the part of the tool it comes from, and a message. A filter lets events
through by level and topic.

* `Event.level`, `Event.topic` and `Event.message`: what is logged of an event;
* `Filter.ofText?`: the filter of a text such as
  `info,tarball_registry::config=debug`;
* `Filter.passes`: the directive with the longest topic decides.
-/

namespace ReleaseCatalog

open Text

/-- How important an event is, the most important level first. -/
inductive Level where
  | error
  | warn
  | info
  | debug
  | trace
deriving DecidableEq

/-- The level's rank, the most important level lowest. -/
def Level.rank : Level → Nat
  | error => 1
  | warn => 2
  | info => 3
  | debug => 4
  | trace => 5

/-- The level's name in the log. -/
def Level.label : Level → String
  | error => "ERROR"
  | warn => "WARN"
  | info => "INFO"
  | debug => "DEBUG"
  | trace => "TRACE"

/-- The part of the tool that an event comes from. -/
inductive Topic where
  | config
  | store
  | registry
  | resolver
  | guess
  | checksum
  | identify
  | fetcher
deriving DecidableEq

/-- The topic's name in the log, which filters are matched against. -/
def Topic.label : Topic → String
  | config => "tarball_registry::config"
  | store => "tarball_registry::tarball::store"
  | registry => "tarball_registry::tarball::registry"
  | resolver => "tarball_registry::tarball::resolver"
  | guess => "tarball_registry::tarball::guess"
  | checksum => "tarball_registry::tarball::checksum"
  | identify => "tarball_registry::tarball::identify"
  | fetcher => "tarball_registry::tarball::fetcher"

/-- Something that an operation did or found. -/
inductive Event where
  | noSettings (path : Path)
  | noDocument (path : Path)
  | documentLoaded (count : Nat) (path : Path)
  | documentWritten (count : Nat) (path : Path)
  | directoryMissing (path : Path)
  | merged (count : Nat)
  | startedEmpty
  | catalogLoaded (count : Nat)
  | added (name : String)
  | removed (name : String)
  | candidates (count : Nat) (request : Request)
  | fieldsShadowed (os : OperatingSystem) (fields : List String)
  | guessed (name url : String)
  | nothingToVerify (name : String)
  | verified (algorithm : String) (path : Path)
  | described (name : String) (size : Int)
  | identified (name : String) (details : FileName.Details)
  | downloading (url : String)

def OperatingSystem.shown : OperatingSystem → String
  | linux => "Linux"
  | darwin => "Darwin"
  | other name => "Other(" ++ quoted name ++ ")"

def Architecture.shown : Architecture → String
  | amd64 => "Amd64"
  | arm64 => "Arm64"
  | other name => "Other(" ++ quoted name ++ ")"

/-- What a file name says as the log shows it. -/
def FileName.Details.shown (d : FileName.Details) : String :=
  String.join ["FilenameDetails \x7b flavor: ", quoted d.flavor, ", os: ", d.os.shown, ", arch: ",
    d.arch.shown, ", version: ", quoted d.version, ", short_version: ", quoted d.shortVersion,
    ", minimal: ", if d.minimal then "true" else "false", " \x7d"]

namespace Event

def level : Event → Level
  | fieldsShadowed .. => .warn
  | documentWritten .. | catalogLoaded .. | downloading .. => .info
  | _ => .debug

/-- Where the event comes from. -/
def topic : Event → Topic
  | noSettings .. => .config
  | noDocument .. | documentLoaded .. | documentWritten .. | directoryMissing .. | merged .. =>
    .store
  | startedEmpty | catalogLoaded .. | added .. | removed .. => .registry
  | candidates .. => .resolver
  | fieldsShadowed .. | guessed .. => .guess
  | nothingToVerify .. | verified .. => .checksum
  | described .. => .identify
  | identified .. | downloading .. => .fetcher

def message : Event → String
  | noSettings path => "No configuration at " ++ path.quoted ++ ", using defaults"
  | noDocument path => "No registry document at " ++ path.quoted
  | documentLoaded count path =>
    "Loaded " ++ toString count ++ " tarballs from " ++ path.quoted
  | documentWritten count path => "Wrote " ++ toString count ++ " tarballs to " ++ path.quoted
  | directoryMissing path => "Creating configuration directory " ++ path.quoted
  | merged count => "Merged " ++ toString count ++ " new tarballs"
  | startedEmpty => "Starting with an empty registry"
  | catalogLoaded count => "Registry loaded with " ++ toString count ++ " tarballs"
  | added name => "Added " ++ name
  | removed name => "Removed " ++ name
  | candidates count request => toString count ++ " candidate(s) for " ++ request.text
  | fieldsShadowed os fields =>
    "Guess template data for " ++ os.name ++ " overrides computed fields: [" ++ quotedList fields
      ++ "]"
  | guessed name url => "Guessed " ++ name ++ " at " ++ url
  | nothingToVerify name => "No checksum recorded for " ++ name ++ ", skipping verification"
  | verified algorithm path => "Checksum " ++ algorithm ++ " matched for " ++ path.quoted
  | described name size =>
    "Described local tarball " ++ name ++ " (" ++ toString size ++ " bytes)"
  | identified name details => "Identified " ++ name ++ ": " ++ details.shown
  | downloading url => "Downloading " ++ url ++ " to compute its checksum"

end Event

/-- A rule of a filter: events whose topic starts with `topic` pass up to a rank
of level. -/
structure Directive where
  topic : List Char := []
  /-- Zero lets nothing pass. -/
  rank : Nat

abbrev Filter := List Directive

namespace Filter

/-- The ranks by the names and numbers that filters use for levels. -/
def rankNames : List (String × Nat) :=
  [("off", 0), ("error", 1), ("warn", 2), ("info", 3), ("debug", 4), ("trace", 5), ("0", 0),
   ("1", 1), ("2", 2), ("3", 3), ("4", 4), ("5", 5)]

/-- The rank of a level's name, in any mixture of upper and lower case. -/
def rank? (s : List Char) : Option Nat := rankNames.lookup (String.ofList (s.map Char.toLower))

/-- A character that a topic may start with. Beyond ASCII every character is
taken for one. -/
def isTopicStart (c : Char) : Bool :=
  c.isAlphanum || c = '_' || c = ':' || c = '-' || 0x80 ≤ c.toNat

/-- The directive of a text: a level for every topic, a topic with a level, or a
topic alone, which lets all of its events pass. -/
def directive? (s : List Char) : Option Directive :=
  match rank? s with
  | some rank => some { rank }
  | none =>
    let topic := s.takeWhile (· ≠ '=')
    if (topic.head?.map isTopicStart).getD false && !topic.contains '[' then
      match s.dropWhile (· ≠ '=') with
      | [] | ['='] => some ⟨topic, Level.trace.rank⟩
      | _ :: level => (rank? level).map (⟨topic, ·⟩)
    else none

/-- The filter of a text: directives with commas between, of which those without
any character do not count. An empty text lets errors alone pass. -/
def ofText? (s : String) : Option Filter :=
  if s = "" then some [{ rank := Level.error.rank }]
  else do
    match ← ((pieces ',' s.toList).filter (· ≠ [])).mapM directive? with
    | [] => some [{ rank := Level.error.rank }]
    | directives => some directives

/-- The filter where none was set, or where the text of one cannot be read. -/
def default : Filter := [{ rank := Level.info.rank }]

/-- The filter that a setting asks for. -/
def ofSetting (setting : Option String) : Filter := ((setting >>= ofText?).getD default)

/-- The directive that decides about a topic: the one that names most of it, of
several such the last one. -/
def directiveFor? (filter : Filter) (topic : List Char) : Option Directive :=
  (filter.filter fun d => d.topic.isPrefixOf topic).foldl
    (fun best d =>
      match best with
      | some b => if d.topic.length < b.topic.length then some b else some d
      | none => some d)
    none

/-- The filter lets the event through. -/
def passes (filter : Filter) (e : Event) : Bool :=
  match filter.directiveFor? e.topic.label.toList with
  | some d => e.level.rank ≤ d.rank
  | none => false

end Filter

end ReleaseCatalog
