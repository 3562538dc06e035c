import Adventure.World.Change

/-!
# What a saved game says of a world

* `World.toSaved`, `World.report`, `World.savedGame`: the differences of a world from its origin, as content;
* `World.loadSaved`: the changes that a saved content asks for, brought about.

A saved content has the place under `current`, and under `items`, `rooms`, `characters`, `flags`
and `used_lines` only what differs.
-/

namespace Adventure

/-! ## 1. States as content -/

def ItemState.toContent (s : ItemState) : Content :=
  .mapping (("location", s.location) ::
    match s.active with
    | some b => [("active", .bool b)]
    | none => [])

def RoomState.toContent (s : RoomState) : Content :=
  .mapping [("locked", .bool s.locked), ("observation_updated", .bool s.updated)]

def CharacterState.toContent (s : CharacterState) : Content :=
  .mapping [("health", s.health.toContent), ("interaction_occurred", .bool s.interacted)]

/-- Two states of an item compare equal. -/
def ItemState.same (s t : ItemState) : Bool := s.location.same t.location && s.active == t.active

namespace World

/-! ## 2. Writing -/

/-- The states that differ from those of the origin, as content. -/
def differences {α : Type} (same : α → α → Bool) (toContent : α → Content)
    (now before : List (String × α)) : List (String × Content) :=
  now.filterMap fun e =>
    if (before.lookup e.1).any (same e.2) then none else some (e.1, toContent e.2)

/-- The flags that differ from those of the origin. -/
def flagDifferences (now before : Flags) : List (String × Content) :=
  now.shown.filter (fun e => !((before.shown.lookup e.1).any e.2.same))

/-- The ids of the lines that have been said, for the dialogues that have such lines. -/
def usedLines (dialogues : List (String × Dialogue)) : List (String × Content) :=
  dialogues.filterMap fun e =>
    match e.2.lines.filter PlayerLine.used with
    | [] => none
    | used => some (e.1, .list (used.map (fun line => line.id.toContent)))

/-- A part of a saved content, left out if it has no entries. -/
def part (key : String) (entries : List (String × Content)) : List (String × Content) :=
  if entries.isEmpty then [] else [(key, .mapping entries)]

/-- **The differences of a world from its origin.** -/
def toSaved (w : World) : List (String × Content) :=
  let now := w.snapshot
  [("current", w.current)] ++
    part "items" (differences ItemState.same ItemState.toContent now.items w.origin.items) ++
    part "rooms" (differences (· == ·) RoomState.toContent now.rooms w.origin.rooms) ++
    part "characters"
      (differences (· == ·) CharacterState.toContent now.characters w.origin.characters) ++
    part "flags" (flagDifferences now.flags w.origin.flags) ++
    part "used_lines" (usedLines w.dialogues.entries)

/-- The differences of a world from its origin, if its flags can be shown. -/
def report (w : World) : Except Fault (List (String × Content)) :=
  match w.flags.showingFault? with
  | some fault => .error fault
  | none => .ok w.toSaved

/-- The saved game of a world that is played in a language. -/
def savedGame (w : World) (language : Content) : Except Fault Content :=
  w.report.map (fun differences => .mapping (differences ++ [("language", language)]))

/-! ## 3. Reading -/

/-- The value under a key of a saved content, a given one if there is none. -/
def savedOr (es : List (String × Content)) (key : String) (default : Content) : Content :=
  (es.lookup key).getD default

/-- A whole number that a saved value stands for: numbers lose their fraction, texts are read. What
    is infinite is too large. -/
def savedWhole : Content → Except Fault Int
  | .bool b => .ok (if b then 1 else 0)
  | .int n => .ok n
  | .float x =>
    match x.truncate? with
    | some n => .ok n
    | none => .error (if x.isNaN then .badValue else .tooLarge)
  | .text s =>
    match Text.readInt? s.toList with
    | some n => .ok n
    | none => .error .badValue
  | _ => .error .wrongKind

/-- Where a saved item lies: the written mark of the inventory is the mark. -/
def savedLocation (location : Content) : Except Fault Content :=
  if location.isAtomic then
    .ok (if location = .text Content.inventoryWord then .inventory else location)
  else .error .wrongKind

/-- Brings the items about. -/
def loadItems : List (String × Content) → Act World Unit
  | [] => pure ()
  | (name, state) :: rest => do
    match (← get).items.get? name with
    | none => pure ()
    | some item =>
      let es ← Act.ofExcept state.entries
      let location ← Act.ofExcept (savedLocation (savedOr es "location" .null))
      modify (updateItem name (fun i => { i with location := location }))
      match item.active, es.lookup "active" with
      | some _, some active =>
        modify (updateItem name (fun i => { i with active := some active.isFilled }))
      | _, _ => pure ()
    loadItems rest

/-- Brings the rooms about. -/
def loadRooms : List (String × Content) → Act World Unit
  | [] => pure ()
  | (name, state) :: rest => do
    match (← get).rooms.get? name with
    | none => pure ()
    | some room =>
      let es ← Act.ofExcept state.entries
      modify (updateRoom name (fun r =>
        { r with
          locked := (savedOr es "locked" (.bool room.locked)).isFilled
          updated := (savedOr es "observation_updated" (.bool room.updated)).isFilled }))
    loadRooms rest

/-- Brings the characters about. -/
def loadCharacters : List (String × Content) → Act World Unit
  | [] => pure ()
  | (name, state) :: rest => do
    match (← get).characters.get? name with
    | none => pure ()
    | some character =>
      let es ← Act.ofExcept state.entries
      let health ← Act.ofExcept (savedWhole (savedOr es "health" character.health.toContent))
      modify (updateCharacter name (fun c =>
        { c with
          health := .number health
          interacted :=
            (savedOr es "interaction_occurred" (.bool character.interacted)).isFilled }))
    loadCharacters rest

/-- Brings the flags about. -/
def loadFlags : List (String × Content) → Act World Unit
  | [] => pure ()
  | (name, value) :: rest => do
    assignFlag name (.bool value.isFilled)
    loadFlags rest

/-- The ids hold the id of a line. Ids are elements of a list, keys of a mapping, or parts of a
    text. -/
def holdsId (ids : Content) (id : Figure) : Except Fault Bool :=
  match ids, id with
  | .list xs, id => .ok (xs.any id.toContent.same)
  | .mapping es, .word => .ok (es.lookup Content.inventoryWord).isSome
  | .mapping _, .number _ => .ok false
  | .text s, .word => .ok (Text.occurs Content.inventoryWord.toList s.toList)
  | _, _ => .error .wrongKind

/-- Lines with the given ids have been said. Ids that hold no id of a line are a fault, and the
    lines up to that one have been said all the same. -/
def useLines (ids : Content) : List PlayerLine → List PlayerLine × Except Fault Unit
  | [] => ([], .ok ())
  | line :: lines =>
    match holdsId ids line.id with
    | .error fault => (line :: lines, .error fault)
    | .ok used =>
      let (rest, outcome) := useLines ids lines
      ((if used then { line with used := true } else line) :: rest, outcome)

/-- Brings the said lines about. -/
def loadUsedLines : List (String × Content) → Act World Unit
  | [] => pure ()
  | (name, ids) :: rest => do
    match (← get).dialogues.get? name with
    | none => pure ()
    | some dialogue =>
      let (lines, outcome) := useLines ids dialogue.lines
      modify (updateDialogue name (fun d => { d with lines := lines }))
      Act.ofExcept outcome
    loadUsedLines rest

/-- The entries of a part of a saved content. -/
def savedEntries (es : List (String × Content)) (key : String) :
    Act World (List (String × Content)) :=
  Act.ofExcept (savedOr es key .null).filledEntries

/-- **What a saved content asks for is brought about**: place, items, rooms, characters, flags,
    said lines. Names that the world does not know are passed over, except those of flags. -/
def loadSaved (data : Content) : Act World Unit := do
  let es ← Act.ofExcept data.entries
  modify (fun w => { w with current := savedOr es "current" w.current })
  savedEntries es "items" >>= loadItems
  savedEntries es "rooms" >>= loadRooms
  savedEntries es "characters" >>= loadCharacters
  savedEntries es "flags" >>= loadFlags
  savedEntries es "used_lines" >>= loadUsedLines
  let w ← get
  note ("state_loaded current " ++ w.current.shown ++ " inventory " ++ w.carriedNote)

end World

end Adventure
