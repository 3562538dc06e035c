import Adventure.CommandLine.Options
import Adventure.Session.Opening

/-!
# Reports: a whole run of the program

* `Premises`: the language, the shelf and the archive that the program finds;
* `Report`: how a run ends, what happened, and the archive it leaves;
* `Report.console`, `Report.notes`, `Report.log`: what a run writes, and where;
* `statusOf`: the status that the program ends with;
* `Premises.run`: the run of a command line over the lines of the player.
-/

namespace Adventure.CommandLine

/-! ## 1. What a run writes -/

/-- How a run ends, what happened, and the archive it leaves. A run that does not come to its
    start writes no notes. -/
structure Report where
  result : Except Fault Unit
  tracing : Tracing := .off
  happenings : List Happening := []
  archive : Archive

/-- What an utterance writes on the console. -/
def written : Utterance → String
  | .line said => said.shown ++ "\n"
  | .mark => "> "

/-- What something writes where everything is written. -/
def loggedAs : Happening → String
  | .said u => written u
  | .note text => text ++ "\n"

namespace Report

/-- **What is said**, as it stands on the console. -/
def console (r : Report) : String :=
  String.join (r.happenings.filterMap fun
    | .said u => some (written u)
    | .note _ => none)

/-- The notes that stand on the console. -/
def notes (r : Report) : List String :=
  if r.tracing = .console then
    r.happenings.filterMap fun
      | .said _ => none
      | .note text => some text
  else []

/-- What stands in the file for the notes. -/
def log (r : Report) : String := String.join (r.happenings.map loggedAs)

end Report

/-- The status that the program ends with. -/
def statusOf : Except Fault Unit → Nat
  | .ok _ => 0
  | .error (.exited status) => status
  | .error (.abandoned _) => 0
  | .error _ => 1

/-! ## 2. Runs -/

/-- What the program finds: one language, its shelf, and an archive. -/
structure Premises where
  language : String
  shelf : Shelf
  archive : Archive

namespace Premises

/-- The files of the language that are there. -/
def files (p : Premises) : List Path :=
  (Kind.all.filter (fun kind => p.shelf.sheet kind ≠ .absent)).map
    (Shelf.path p.archive.folder p.language)

/-- All that is there. -/
def ground (p : Premises) : Ground :=
  let g := p.archive.surroundings
  { g with files := g.files ++ p.files }

/-- The sheet of a language that is not there. -/
def missingSheet (p : Premises) (language : String) (kind : Kind) : Sheet :=
  match p.ground.opening (Shelf.path p.archive.folder language kind).toText with
  | .ok _ => .absent
  | .error .notFound => .absent
  | .error cause => .barred cause

/-- The shelf of a language; only one language is there. -/
def shelfOf (p : Premises) (language : String) : Shelf :=
  if language = p.language then p.shelf else ⟨p.missingSheet language⟩

/-- The archive of a language: it stands two steps above the world, which is the folder itself
    unless the name of the language leads elsewhere. -/
def archiveOf (p : Premises) (language : String) : Archive :=
  { p.archive with
    folder := (Shelf.path p.archive.folder language .world).parent.parent
    ground := { p.archive.ground with files := p.archive.ground.files ++ p.files } }

/-- A run in a language, with options. -/
def play (p : Premises) (language : String) (o : Options) (lines : List String) : Report :=
  let setup : Setup := { language, slot := o.slotContent }
  let archive := p.archiveOf language
  match (Session.enter setup (p.shelfOf language) archive).runOn [] with
  | (.error e, told) =>
    { result := .error e, tracing := o.tracing, archive := p.archive
      happenings := told.reverse.map (fun line => .said (.line (.text line))) }
  | (.ok (session, start), _) =>
    let (result, last) := (session.run (lines.map some)).runOn start
    { result := result.map (fun _ => ()), tracing := o.tracing, happenings := last.transcript
      archive := last.host.archive }

/-- Why the notes cannot be written where the options want them. -/
def tracingFault? (p : Premises) : Tracing → Option Fault
  | .file name =>
    match p.ground.opening name with
    | .ok _ => none
    | .error fault => some fault
  | _ => none

/-- **The run of a command line** over the lines of the player. -/
def run (p : Premises) (args : List String) (lines : List String) : Report :=
  match Options.read args with
  | .error status => { result := .error (.exited status), archive := p.archive }
  | .ok o =>
    match o.language with
    | none => { result := .error .wrongKind, archive := p.archive }
    | some language =>
      match p.tracingFault? o.tracing with
      | some fault => { result := .error fault, archive := p.archive }
      | none => p.play language o lines

end Premises

end Adventure.CommandLine
