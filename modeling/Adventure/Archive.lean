import Adventure.Path
import Adventure.Sheet

/-!
# The archive: saved games in slots

* `Archive`: the sheets of the slots, in a folder;
* `Archive.place`, `Archive.sheet`: where the file of a slot stands, and what stands there;
* `Archive.load`, `Archive.save`, `Archive.clean`: reading, writing and emptying a slot;
* `Archive.obstruct`: a directory in the place of a slot.

A slot is mostly a number, but whatever names a slot can be shown, and the file is named after it.
A name that leads to a folder that is not there, or that is too long, has no file.
-/

namespace Adventure

/-- Saved games in slots. -/
structure Archive where
  /-- The folder that the files of the slots stand in. -/
  folder : Path
  /-- What is there besides the files of the slots. -/
  ground : Ground := { folders := [folder] }
  /-- The sheets, under the texts of the paths where they stand. -/
  sheets : Roster Sheet := Roster.empty

namespace Archive

/-! ## 1. Slots -/

/-- The beginning and the end of the name of a file; the name of the slot is between them. -/
def fileStart : String := "save_"

def fileEnd : String := ".yaml"

/-- The name of the file of a slot. -/
def fileName (slot : Content) : String := fileStart ++ slot.shown ++ fileEnd

/-- The file of a slot. -/
def path (a : Archive) (slot : Content) : String := (a.folder.join (Path.read (fileName slot))).toText

/-- All that is there. -/
def surroundings (a : Archive) : Ground :=
  let (folders, files) := a.sheets.entries.partition (fun e => e.2 = .barred .isDirectory)
  { folders := a.ground.folders ++ folders.map (fun e => Path.read e.1)
    files := a.ground.files ++ files.map (fun e => Path.read e.1) }

/-- Where the file of a slot stands, if it can have one. -/
def place (a : Archive) (slot : Content) : Except Fault Path := a.surroundings.opening (a.path slot)

/-- What stands in a slot. Whoever looks for a file where none can be finds nothing, but a name
    that is too long cannot be looked for. -/
def sheet (a : Archive) (slot : Content) : Sheet :=
  match a.place slot with
  | .ok there => (a.sheets.get? there.toText).getD .absent
  | .error .isDirectory => .barred .isDirectory
  | .error .nameTooLong => .barred .nameTooLong
  | .error _ => .absent

/-- The archive with a sheet in a place. -/
def put (there : Path) (s : Sheet) (a : Archive) : Archive :=
  { a with sheets := a.sheets.insert there.toText s }

/-- The archive with a sheet in a slot, if that can have one. -/
def putSlot (slot : Content) (s : Sheet) (a : Archive) : Archive :=
  match a.place slot with
  | .ok there => a.put there s
  | .error _ => a

/-- The name of the slot whose file stands in a place of the folder. -/
def slotAt? (a : Archive) (there : String) : Option String :=
  let before := (a.folder.join (Path.read fileStart)).toText.toList
  let name := there.toList.drop before.length
  let slot := name.take (name.length - fileEnd.length)
  if before.isPrefixOf there.toList && slot ++ fileEnd.toList = name && !slot.contains '/' then
    some (String.ofList slot)
  else none

/-- The slots of the archive that have a file, with their sheets. -/
def slots (a : Archive) : List (String × Sheet) :=
  a.sheets.entries.filterMap (fun e => (a.slotAt? e.1).map (fun slot => (slot, e.2)))

/-! ## 2. Reading and writing -/

/-- **The saved game of a slot**; an empty mapping if there is none or it says nothing. -/
def load (a : Archive) (slot : Content) : Except Fault Content :=
  match (a.sheet slot).read with
  | .ok c => .ok (if c.isFilled then c else .mapping [])
  | .error .notFound => .ok (.mapping [])
  | .error e => .error e

/-- **A game is saved in a slot.** What cannot be opened cannot be written over; a game that cannot
    be written leaves the file of the slot empty. -/
def save (slot game : Content) : Act Archive Unit := do
  let there ← Act.ofExcept ((← get).place slot)
  if game.isWritable then modify (put there (.written game.asKept))
  else
    modify (put there (.written .null))
    throw .unwritable

/-- A slot is emptied. A directory stays. -/
def clean (slot : Content) : Act Archive Unit := do
  match (← get).sheet slot, (← get).place slot with
  | .barred .nameTooLong, _ => throw .nameTooLong
  | _, .ok there => modify (fun a => { a with sheets := a.sheets.erase there.toText })
  | _, .error _ => pure ()

/-- A directory is put in the place of a slot that was empty. -/
def obstruct (slot : Content) : Act Archive Unit := do
  match (← get).place slot with
  | .error .isDirectory => throw .alreadyExists
  | .error cause => throw cause
  | .ok there =>
    if ((← get).sheets.get? there.toText).isSome then throw .alreadyExists
    else modify (put there (.barred .isDirectory))

/-- What stands in the way of a game that could not be saved in a slot, if it is the file. -/
def obstacle? (a : Archive) (slot : Content) : Fault → Option Obstacle
  | .notFound => some ⟨.notFound, a.path slot⟩
  | .notDirectory => some ⟨.notDirectory, a.path slot⟩
  | .isDirectory => some ⟨.isDirectory, a.path slot⟩
  | .nameTooLong => some ⟨.nameTooLong, a.path slot⟩
  | _ => none

end Archive

end Adventure
