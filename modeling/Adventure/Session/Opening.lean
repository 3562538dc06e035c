import Adventure.Session.Basic
import Adventure.Shelf
import Adventure.World.Integrity

/-!
# Opening a session

* `Session.enter`: a session with its play, from a shelf and an archive.

A saved game is read first, then the world, then the sheets of the language. Only a world without
inconsistencies is played, and only a saved game without any is gone on with.
-/

namespace Adventure.Session

/-- The saved game of the slot. -/
def savedOf (archive : Archive) (slot : Content) : Act (List String) Content := do
  match archive.load slot with
  | .ok c => return c
  | .error e => Shelf.giveUp ("ERROR: Failed to load save file: " ++ e.wording) e

/-- All inconsistencies of a world and of a saved game. -/
def allInconsistencies (w : World) (saved : Content) : Except Fault (List String) := do
  let ofWorld ← w.inconsistencies
  let ofSaved ← if saved.isFilled then w.savedInconsistencies saved else pure []
  return ofWorld ++ ofSaved

/-- The inconsistencies are told, and end the matter. -/
def refuse (issues : List String) : Act (List String) Unit := do
  if issues.isEmpty then pure ()
  else
    issues.forM (fun issue => modify (fun lines => ("ERROR: " ++ issue) :: lines))
    throw .inconsistent

/-- The note with which a session begins. -/
def openingNote (language : String) (w : World) : String :=
  "game_init language " ++ language ++ " current " ++ w.current.shown ++ " inventory " ++
    w.carriedNote

/-- The world as a saved game has left it. -/
def restored (w : World) (saved : Content) : Except Fault World :=
  if saved.isFilled then
    match (World.loadSaved saved).runOn w with
    | (.ok (), w) => .ok w
    | (.error e, _) => .error e
  else .ok w

/-- **A session is opened.** The lines that are told on the way are kept last first. -/
def enter (setup : Setup) (shelf : Shelf) (archive : Archive) :
    Act (List String) (Session × Play) := do
  let saved ← savedOf archive setup.slot
  let world ← shelf.world
  let messages ← shelf.messages setup.language
  let catalogue ← shelf.commands setup.language
  let stopwords ← shelf.stopwords setup.language
  refuse (← Act.ofExcept (allInconsistencies world saved))
  let world ← Act.ofExcept (restored world saved)
  return ({ setup, messages, catalogue, stopwords, resumed := saved.isFilled },
    { world := world.noted (openingNote setup.language world), router := {}, host := { archive } })

end Adventure.Session
