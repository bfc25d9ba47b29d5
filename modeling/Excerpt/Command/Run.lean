import Excerpt.Command.Note
import Excerpt.Command.Request
import Excerpt.Document.Locate
import Excerpt.Document.Write
import Excerpt.Selection.Json
import Excerpt.Settings.Limit
import Excerpt.Settings.Search

/-!
A run of the command: from arguments and a disk to what is printed and written.
-/

namespace Excerpt.Command

/-- What a run finds around it. -/
structure World where
  disk : Disk
  current : Place
  /-- The size limit in the environment. -/
  limit : Option Text := none
  failures : Document.Failures := Document.noFailures

/-- Why a run comes to no good end. -/
inductive Fault where
  | argument (cause : ArgumentFault)
  | request (cause : RequestFault)
  | location (cause : Document.LocateFault)
  | settings (cause : Settings.SearchFault)
  | longSelector (limit : Nat)
  | limit (cause : Limit.Fault)
  | access (cause : Document.AccessFault)
  | read (cause : Document.ReadFault)
  | selector (cause : SelectorFault)
  | wideIndent
  | hugeIndent
  deriving Repr

/-- How a fault is told: with a reminder of the usage, without one, or not at all. -/
inductive Manner where
  | short
  | usage
  | plain
  | silent
  deriving DecidableEq, Repr

namespace Fault

def manner : Fault → Manner
  | argument (.unknown ..) => .usage
  | argument _ => .short
  | request .nullByte => .silent
  | request _ | longSelector _ => .usage
  | location cause => if cause.isReported then .usage else .silent
  | settings cause => if cause.isReported then .usage else .silent
  | limit _ | access _ | read _ => .plain
  | selector cause => if cause.isMalformed then .usage else .silent
  | wideIndent | hugeIndent => .silent

/-- The cause in words. -/
def reason : Fault → Text
  | argument cause => cause.message
  | request cause => cause.message
  | location cause => cause.message
  | settings cause => cause.message
  | longSelector n =>
    s!"Selector exceeds the maximum allowed length of {n} characters.".toList
  | limit cause => cause.message.toList
  | access cause => cause.message
  | read cause => cause.message
  | selector cause => cause.message.toList
  | wideIndent => "cannot fit 'int' into an index-sized integer".toList
  | hugeIndent => []

/-- Whether a value is to blame that was given in itself correctly. -/
def blamesValue : Fault → Bool
  | location _ | settings _ | longSelector _ | selector _ => true
  | _ => false

def message (f : Fault) : Text :=
  if f.blamesValue then "Invalid value: ".toList ++ f.reason else f.reason

def usageLine : Text := "Usage: md-query [OPTIONS] FILEPATH SELECTOR\n".toList

/-- What the user reads of a fault. -/
def report (f : Fault) : Text :=
  let told := "Error: ".toList ++ f.message ++ ['\n']
  match f.manner with
  | .usage => usageLine ++ "Try 'md-query --help' for help.\n\n".toList ++ told
  | .short | .plain => told
  | .silent => []

def exitCode (f : Fault) : Nat :=
  match f.manner with
  | .usage | .short => 2
  | .plain | .silent => 1

end Fault

/-- How a run ends. -/
structure Outcome where
  exit : Nat := 0
  out : Text := []
  err : Text := []
  /-- The fault of a run that breaks off. -/
  crash : Option Fault := none
  disk : Disk

def Outcome.ofFault (d : Disk) (log : Text) (f : Fault) : Outcome where
  exit := f.exitCode
  err := log ++ f.report
  crash := if f.manner = .silent then some f else none
  disk := d

/-- A document that is read, and how to treat it. -/
structure Task where
  place : Place
  options : Options
  stat : Stat
  content : Text

/-- Finds the document and the options. -/
def prepare (w : World) (r : Request) : Except Fault (Place × Options) :=
  match Document.locate w.disk w.current (.ofPlace w.current) (.ofText r.path) with
  | .error f => .error (.location f)
  | .ok p =>
    match Settings.build w.disk w.current (.ofPlace p.dropLast) r.overrides with
    | .error f => .error (.settings f)
    | .ok (_, options) => .ok (p, options)

/-- Reads the document, inside the limits. -/
def load (w : World) (r : Request) (p : Place) (options : Options) : Except Fault Task := do
  if options.maxSelectorLength < r.selector.length then
    .error (.longSelector options.maxSelectorLength)
  else
    let limit ← (Limit.ofEnvironment w.limit options.maxFileSize).mapError .limit
    let route := Route.ofPlace p
    let stat ← (Document.inspect w.disk w.current route).mapError .access
    (Document.ensureSize stat limit route).mapError .access
    let content ← (Document.read w.disk w.current route).mapError .read
    return ⟨p, options, stat, content⟩

/-- An indentation is a number below this. -/
def indentLimit : Nat := 0x8000000000000000

/-- No memory holds an indentation of this width. -/
def indentRoom : Nat := 0x4000000000

/-- What is printed of a selection. -/
def render (options : Options) (each : Bool) (s : Selection) : Except Fault Text :=
  match options.format with
  | .json =>
    if indentLimit ≤ options.indent then .error .wideIndent
    else if indentRoom ≤ options.indent then .error .hugeIndent
    else
      .ok ((if each then Json.groups options.indent (s.each.map Selection.records)
        else Json.records options.indent 0 s.records) ++ ['\n'])
  | .text =>
    .ok (if each then Text.joinWith options.separator (s.each.map Selection.text) else s.text)

/-- The notes on navigating. -/
def navigationNotes (r : Request) (s : Selection) : List Note :=
  let s := if r.first then s.first else s
  let s := if r.last then s.last else s
  (if r.before then Note.ofLookAround s else []) ++
    if r.after then Note.ofLookAround (if r.before then s.before else s) else []

/-- What a step of a run says, what it leaves on the disk, and what it prints. -/
structure Effect where
  notes : List Note := []
  disk : Disk
  result : Except Fault Text

def Effect.after (notes : List Note) (e : Effect) : Effect := { e with notes := notes ++ e.notes }

/-- Gives the document a new text, unless it has it already. -/
def save (w : World) (t : Task) (new : Text) : Effect :=
  if new == t.content then
    { notes := [.untouched t.place.toText], disk := w.disk, result := .ok [] }
  else
    match Document.write w.failures w.disk w.current (.ofPlace t.place) new t.stat with
    | (disk, .ok ()) =>
      { notes := [.wrote new.length t.place.toText], disk, result := .ok [] }
    | (disk, .error f) => { disk, result := .error (.access f) }

/-- Replaces a selection in the document or in what is printed of it. -/
def substitute (w : World) (r : Request) (t : Task) (s : Selection) (content : Text) : Effect :=
  let new := s.replace content
  .after [.replaced s.replaced.length s.count] <|
    if r.inPlace then save w t new else { disk := w.disk, result := .ok new }

/-- What is done with a selection. -/
def finish (w : World) (r : Request) (t : Task) (s : Selection) : Effect :=
  if r.count then { disk := w.disk, result := .ok ((toString s.count).toList ++ ['\n']) }
  else
    match r.replacement with
    | some content => substitute w r t s content
    | none => { disk := w.disk, result := render t.options r.each s }

/-- Runs the selector on the document and deals with what it selects. -/
def answer (w : World) (r : Request) (t : Task) : Effect :=
  let all := Selection.ofText t.content
  .after [.read t.content.length t.place.toText, .ofIndex t.content] <|
    match Text.selector r.selector with
    | .error f => { disk := w.disk, result := .error (.selector f) }
    | .ok segments =>
      let found := all.query segments
      let chosen := r.navigate found
      .after (Note.ofResolution (Passage.expand all.passages) segments ++
          .queried r.selector found.count :: navigationNotes r found ++
          [.selected r.selector chosen.count t.place.toText])
        (finish w r t chosen)

/-- Carries out a request. -/
def perform (w : World) (r : Request) : Outcome :=
  match prepare w r with
  | .error f => .ofFault w.disk [] f
  | .ok (p, options) =>
    match load w r p options with
    | .error f => .ofFault w.disk [] f
    | .ok t =>
      let e := answer w r t
      let log := Note.log options.level e.notes
      match e.result with
      | .ok out => { out, err := log, disk := e.disk }
      | .error f => .ofFault e.disk log f

def versionText : Text := "md-query, version 0.1.0\n".toList

/-- What the command can do. -/
def helpText : Text :=
  let width := Switch.all.foldl (fun n s => max n s.name.length) 0
  let line (s : Switch) : Text :=
    "  ".toList ++ s.name.toList ++ List.replicate (width + 2 - s.name.length) ' ' ++
      s.summary.toList ++ ['\n']
  Fault.usageLine ++ "\nOptions:\n".toList ++ Switch.all.flatMap line

/-- The switch that asks for information instead of a run, if there is one. -/
def information? (a : Arguments) : Option Text :=
  (a.switches.find? fun e => e.1 == .version || e.1 == .help).map fun e =>
    if e.1 == .version then versionText else helpText

def run (w : World) (arguments : List Text) : Outcome :=
  match Arguments.read arguments with
  | .error f => .ofFault w.disk [] (.argument f)
  | .ok a =>
    match information? a with
    | some out => { out, disk := w.disk }
    | none =>
      match Request.ofArguments w.disk w.current a with
      | .error f => .ofFault w.disk [] (.request f)
      | .ok r => perform w r

end Excerpt.Command
