import Adventure.CommandLine.Report
import Adventure.Content.Document
import Adventure.Outpost.Shelf

/-!
# The program

* `main`: the adventure at the keyboard.

Everything that is decided is decided in `Session`; here lines are read, what happens is shown,
files are read and written, and the time of the ticker passes.
-/

namespace Adventure.Console

open CommandLine

/-! ## 1. Files -/

/-- The folder that the contents of other languages and the saved games stand in. -/
def folder : Path := Path.read "data"

/-- What stands at a path. -/
def sheetAt (path : String) : IO Sheet := do
  try
    match Content.Document.read? (← IO.FS.readFile path) with
    | some c => return .written c
    | none => return .garbled
  catch
    | .noFileOrDirectory .. => return .absent
    | .inappropriateType .. => return .barred .isDirectory
    | _ => return .garbled

/-- The shelf of a language: one comes with the program, others stand in the folder. -/
def shelfOf (language : String) : IO Shelf := do
  if language = Outpost.language then return Outpost.shelf
  else
    let sheet := fun kind => sheetAt (Shelf.path folder language kind).toText
    let world ← sheet .world
    let messages ← sheet .messages
    let commands ← sheet .commands
    let stopwords ← sheet .stopwords
    return ⟨fun
      | .world => world
      | .messages => messages
      | .commands => commands
      | .stopwords => stopwords⟩

/-- The archive with the saved game of one slot. -/
def archiveOf (slot : Content) : IO Archive := do
  let empty : Archive := { folder := folder }
  return empty.putSlot slot (← sheetAt (empty.path slot))

/-- Writes the saved game of a slot, if it is another one than before. -/
def keep (slot : Content) (before after : Archive) : IO Unit := do
  match after.sheet slot with
  | .written c =>
    if before.sheet slot = .written c then pure ()
    else IO.FS.writeFile (after.path slot) (Content.Document.write c)
  | _ => pure ()

/-! ## 2. Showing -/

/-- Where things are shown. -/
structure Screen where
  tracing : Tracing
  log : Option IO.FS.Handle

namespace Screen

/-- Shows one thing that happened. -/
def present (s : Screen) (h : Happening) : IO Unit := do
  match h with
  | .said u =>
    let out ← IO.getStdout
    out.putStr (written u)
    out.flush
  | .note _ => if s.tracing = .console then IO.eprint (loggedAs h)
  match s.log with
  | some log =>
    log.putStr (loggedAs h)
    log.flush
  | none => pure ()

/-- Takes a step of a play, shows what happens, and keeps what is saved. -/
def perform {α : Type} (s : Screen) (slot : Content) (play : IO.Ref Play) (a : Act Play α) :
    IO (Except Fault α) := do
  let (r, before, after) ← play.modifyGet fun p =>
    let (r, q) := a.runOn p
    ((r, p, q), q)
  (after.transcript.drop before.transcript.length).forM s.present
  keep slot before.host.archive after.host.archive
  return r

end Screen

/-! ## 3. The time of the ticker -/

/-- How often the ticker is looked at, in milliseconds. -/
def beat : Nat := 50

/-- Lets time pass while the session goes on; `waited` milliseconds of the period are over. -/
partial def passTime (s : Screen) (slot : Content) (play : IO.Ref Play) (waited : Nat) :
    IO Unit := do
  let p ← play.get
  if p.host.running then
    IO.sleep beat.toUInt32
    match p.host.ticker with
    | some t =>
      if t.isRunning then
        if t.milliseconds ≤ waited + beat then
          let _ ← s.perform slot play Session.tick
          passTime s slot play 0
        else passTime s slot play (waited + beat)
      else passTime s slot play 0
    | none => passTime s slot play 0

/-! ## 4. The game -/

/-- Reads line after line while the session goes on. -/
partial def converse (s : Screen) (slot : Content) (session : Session) (play : IO.Ref Play) :
    IO (Except Fault Unit) := do
  if (← play.get).host.running then
    let _ ← s.perform slot play (Play.utter .mark)
    let line ← (← IO.getStdin).getLine
    if line.isEmpty then s.perform slot play session.leave
    else
      match ← s.perform slot play (session.handle (line.dropEndWhile (· == '\n')).toString) with
      | .ok _ => converse s slot session play
      | .error e => return .error e
  else return .ok ()

/-- Plays a session to its end. -/
def playThrough (s : Screen) (slot : Content) (session : Session) (start : Play) :
    IO (Except Fault Unit) := do
  start.transcript.forM s.present
  let play ← IO.mkRef start
  match ← s.perform slot play session.opening with
  | .error e => return .error e
  | .ok _ =>
    let _ ← IO.asTask (passTime s slot play 0) Task.Priority.dedicated
    let r ← converse s slot session play
    let _ ← s.perform slot play Session.stop
    return r

/-- A run of the program in a language, with options. -/
def start (language : String) (o : Options) : IO (Except Fault Unit) := do
  let log ← match o.tracing with
    | .file name => some <$> IO.FS.Handle.mk name .write
    | _ => pure none
  let screen : Screen := ⟨o.tracing, log⟩
  let slot := o.slotContent
  let setup : Setup := { language, slot }
  match (Session.enter setup (← shelfOf language) (← archiveOf slot)).runOn [] with
  | (.error e, told) =>
    told.reverse.forM (fun line => screen.present (.said (.line (.text line))))
    return .error e
  | (.ok (session, play), _) => playThrough screen slot session play

end Adventure.Console

/-- The adventure at the keyboard. -/
def main (args : List String) : IO UInt32 := do
  match Adventure.CommandLine.Options.read args with
  | .error status =>
    IO.println Adventure.CommandLine.usage
    return status.toUInt32
  | .ok o =>
    let result ← match o.language with
      | none => pure (.error .wrongKind)
      | some language => Adventure.Console.start language o
    return (Adventure.CommandLine.statusOf result).toUInt32
