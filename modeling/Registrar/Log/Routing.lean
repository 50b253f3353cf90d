import Registrar.Files.Disk
import Registrar.Log.Level
import Registrar.Log.Settings

/-!
Where log events go. A file belongs to the events of its section's target and the targets below it;
the filters look at plain beginnings of targets.
-/

namespace Registrar.Log

def isWithin (target name : String) : Bool :=
  match Text.dropLead name.toList target.toList with
  | some rest => rest.isEmpty || (Text.dropLead [':', ':'] rest).isSome
  | none => false

structure LogFile where
  ofSection : String
  path : String
deriving DecidableEq, Repr

structure Router where
  default : Option LogFile
  others : List LogFile
deriving DecidableEq, Repr

namespace Router

def empty : Router :=
  ⟨none, []⟩

def isEmpty (router : Router) : Bool :=
  router.default.isNone && router.others.isEmpty

/-- The file with the longer section name, the later one of two that are equally long. -/
def longer (best : Option LogFile) (file : LogFile) : Option LogFile :=
  match best with
  | none => some file
  | some other =>
    if other.ofSection.utf8ByteSize ≤ file.ofSection.utf8ByteSize then some file else some other

/-- The file for events of a target: that of the most specific section it is within, else the default one. -/
def route (router : Router) (target : String) : Option LogFile :=
  let owned := (router.others.filter fun file => isWithin target file.ofSection).foldl longer none
  owned <|> router.default

def add (router : Router) (file : LogFile) : Router :=
  if file.ofSection = Settings.defaultName then { router with default := some file }
  else { router with others := router.others ++ [file] }

end Router

def Section.path (settings : Section) (base : String) : String :=
  Path.join base settings.file

/-- The router of the sections with files, in whatever order they come; `opens` tells which files can be opened. -/
def Router.ofSections (opens : LogFile → Bool) (base : String)
    (sections : List (String × Section)) : Router :=
  (((sections.filter fun entry => entry.2.hasFile).map fun entry =>
    (⟨entry.1, entry.2.path base⟩ : LogFile)).filter opens).foldl Router.add .empty

/-- Opens a log file and makes the directories above it; none if they cannot be made. -/
def openFile? (disk : Disk) (path : String) : Option Disk :=
  (disk.makeAbove? path).map fun disk => (disk.makeFile? (disk.place path)).getD disk

def openFiles (settings : Settings) (base : String) (disk : Disk) : Disk :=
  (settings.sections.filter fun entry => entry.2.hasFile).foldl
    (fun disk entry => (openFile? disk (entry.2.path base)).getD disk) disk

def router (settings : Settings) (base : String) (disk : Disk) : Router :=
  Router.ofSections (fun file => (openFile? disk file.path).isSome) base settings.sections

structure Filter where
  default : Threshold
  directives : List (String × Threshold)
deriving DecidableEq, Repr

namespace Filter

def longer (best : Option (String × Threshold)) (directive : String × Threshold) :
    Option (String × Threshold) :=
  match best with
  | none => some directive
  | some other =>
    if other.1.utf8ByteSize ≤ directive.1.utf8ByteSize then some directive else some other

/-- The threshold for a target: that of the longest directive it begins with, else the default one. -/
def threshold (filter : Filter) (target : String) : Threshold :=
  match (filter.directives.filter fun entry => Text.leads entry.1 target).foldl longer none with
  | some directive => directive.2
  | none => filter.default

def admits (filter : Filter) (target : String) (level : Level) : Bool :=
  (filter.threshold target).admits level

end Filter

def consoleFilter (settings : Settings) : Filter where
  default := (settings.get? Settings.defaultName).elim (.upTo .info) fun entry =>
    .parse entry.consoleLevel
  directives := settings.named.map fun entry => (entry.1, .parse entry.2.consoleLevel)

def defaultFileThreshold (settings : Settings) : Threshold :=
  match settings.get? Settings.defaultName with
  | some entry => if entry.hasFile then .parse entry.fileLevel else .off
  | none => .off

/-- What is written to files. A section without a file of its own writes to the default file at its threshold. -/
def fileFilter (settings : Settings) : Filter where
  default := defaultFileThreshold settings
  directives := settings.named.map fun entry =>
    (entry.1,
      if entry.2.hasFile then .parse entry.2.fileLevel else defaultFileThreshold settings)

def receiver (settings : Settings) (base : String) (disk : Disk) (target : String)
    (level : Level) : Option LogFile :=
  let files := router settings base disk
  if !files.isEmpty && (fileFilter settings).admits target level then files.route target else none

end Registrar.Log
