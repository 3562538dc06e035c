import Adventure.World.Basic

/-!
# Changes of the world

* `World.noted`: a note of what happened;
* `moveTo`, `moveItem`, `setFlag`, `setTorch`, `setItemActive`, `refreshObservation`, `unlock`,
  `markInteracted`, `setHealth`: the changes that play consists of, each with its note.

A change that refers to something unknown ends in a fault. What a change refers to is given as
content, for it comes from content.
-/

namespace Adventure.World

/-! ## 1. Changes without a fault -/

/-- The world with one more note. -/
def noted (note : String) (w : World) : World := { w with notes := note :: w.notes }

/-- The world with a changed item. -/
def updateItem (name : String) (f : Item → Item) (w : World) : World :=
  { w with items := w.items.update name f }

/-- The world with a changed room. -/
def updateRoom (name : String) (f : Room → Room) (w : World) : World :=
  { w with rooms := w.rooms.update name f }

/-- The world with a changed character. -/
def updateCharacter (name : String) (f : Character → Character) (w : World) : World :=
  { w with characters := w.characters.update name f }

/-- The world with a changed dialogue. -/
def updateDialogue (name : String) (f : Dialogue → Dialogue) (w : World) : World :=
  { w with dialogues := w.dialogues.update name f }

/-- The names of the carried items, as a note shows them. -/
def carriedNote (w : World) : String := Content.shownNames w.carried.names

/-! ## 2. Steps -/

/-- Notes what happened. -/
def note (text : String) : Act World Unit := modify (noted text)

/-- The name under which an entry is kept, given as content. -/
def known {α : Type} (roster : World → Roster α) (key : Content) : Act World String :=
  Act.reading fun w =>
    match (roster w).demand key, key with
    | .ok _, .text name => .ok name
    | .ok _, _ => .error (.unknownKey key)
    | .error e, _ => .error e

/-- The player goes to a place. -/
def moveTo (place : Content) : Act World Unit := do
  modify (fun w => { w with current := place })
  note ("location " ++ place.shown)

/-- An item goes to a place. -/
def moveItem (item location : Content) : Act World Unit := do
  let name ← known World.items item
  modify (updateItem name (fun i => { i with location := location }))
  note ("item " ++ name ++ " location " ++ location.unmarked.shown)
  if location = .inventory then
    note ("inventory " ++ (← get).carriedNote)

/-- Puts a value under a name of the flags. -/
def assignFlag (name : String) (value : Content) : Act World Unit := do
  let flags ← Act.reading (fun w => w.flags.assign name value)
  modify (fun w => { w with flags })

/-- **A flag is set** to a value that reads as a truth value, or a remark to any value. -/
def setFlag (name : String) (value : Content) : Act World Unit := do
  assignFlag name value
  note ("flag " ++ name ++ " " ++ value.shown)

/-- The torch goes on or off, as a flag and as an item. -/
def setTorch (lit : Bool) : Act World Unit := do
  setFlag Flag.torchLit.word (.bool lit)
  modify (fun w => updateItem (w.scenario.torch.getD "")
    (fun i => { i with active := i.active.map (fun _ => lit) }) w)

/-- An item is switched on or off; for the torch that is `setTorch`. -/
def setItemActive (item : Content) (active : Bool) : Act World Unit := do
  if (Content.ofText? (← get).scenario.torch).same item then setTorch active
  else
    let name ← known World.items item
    match ((← get).items.get? name).bind Item.active with
    | none => pure ()
    | some _ =>
      modify (updateItem name (fun i => { i with active := some active }))
      note ("item " ++ name ++ " active " ++ (Content.bool active).shown)

/-- The updated observation of a room begins to count: by force, or if the room waits for an
    event. -/
def refreshObservation (place : Content) (force : Bool) : Act World Unit := do
  let name ← known World.rooms ((← get).placeOr place)
  match (← get).rooms.get? name with
  | none => pure ()
  | some r =>
    if force ∨ r.reason = .event then
      modify (updateRoom name (fun r => { r with updated := true }))
      note ("room " ++ name ++ " observation updated")

/-- A room is unlocked. -/
def unlock (room : Content) : Act World Unit := do
  let name ← known World.rooms room
  modify (updateRoom name (fun r => { r with locked := false }))
  note ("room " ++ name ++ " unlocked")

/-- A dialogue with a character has come to its end. -/
def markInteracted (character : Content) : Act World Unit := do
  let name ← known World.characters character
  modify (updateCharacter name (fun c => { c with interacted := true }))
  note ("character " ++ name ++ " interaction_occurred")

/-- A character gets a health. -/
def setHealth (character : Content) (health : Figure) : Act World Unit := do
  let name ← known World.characters character
  modify (updateCharacter name (fun c => { c with health := health }))
  note ("character " ++ name ++ " health " ++ health.shown)

end Adventure.World
