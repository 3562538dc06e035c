import Adventure.Content.Shown
import Adventure.Fault
import Adventure.Story.Character
import Adventure.Story.Dialogue
import Adventure.Story.Flag
import Adventure.Story.Room
import Adventure.Story.Scenario

/-!
# The world of an adventure

* `World`: rooms, items, characters, dialogues, the scenario, and where the player is;
* `Snapshot`: the part of it that play changes, apart from the place and the dialogues;
* `World.ofContent`: the world that a content describes;
* `World.itemsIn`, `World.charactersIn`, `World.carried`: what lies and stands where;
* `World.isDark`, `World.encounterActive`, `World.inLair`, `World.isCornered`,
  `World.description`: how things stand.

The items that the player carries are not kept apart: an item is carried if its location is the
mark of the inventory, so every item is in one place.
-/

namespace Adventure

/-! ## 1. Snapshots -/

/-- What play changes of an item. The location is written out. -/
structure ItemState where
  location : Content
  active : Option Bool
deriving DecidableEq

/-- What play changes of a room. -/
structure RoomState where
  locked : Bool
  updated : Bool
deriving DecidableEq, Repr

/-- What play changes of a character. -/
structure CharacterState where
  health : Figure
  interacted : Bool
deriving DecidableEq, Repr

/-- What play changes of a world. -/
structure Snapshot where
  items : List (String × ItemState)
  rooms : List (String × RoomState)
  characters : List (String × CharacterState)
  flags : Flags
deriving DecidableEq

def Item.state (i : Item) : ItemState := ⟨i.location.unmarked, i.active⟩

def Room.state (r : Room) : RoomState := ⟨r.locked, r.updated⟩

def Character.state (c : Character) : CharacterState := ⟨c.health, c.interacted⟩

/-! ## 2. The world -/

/-- The world of an adventure. -/
structure World where
  rooms : Roster Room
  items : Roster Item
  characters : Roster Character
  dialogues : Roster Dialogue
  actions : List Action
  scenario : Scenario
  flags : Flags
  /-- The place of the player, a room's name if all is well. -/
  current : Content
  intro : Content
  /-- The world as it was when it was built. -/
  origin : Snapshot
  /-- What happened, for whoever follows the play closely; the latest note first. -/
  notes : List String

namespace World

/-- The part of the world that play changes. -/
def snapshot (w : World) : Snapshot where
  items := w.items.entries.map (fun e => (e.1, e.2.state))
  rooms := w.rooms.entries.map (fun e => (e.1, e.2.state))
  characters := w.characters.entries.map (fun e => (e.1, e.2.state))
  flags := w.flags

/-! ## 3. Building a world -/

/-- A record from content that has to be a mapping. -/
def build {α : Type} (model : Model) (read : Reader α) : Content → Except Fault α
  | .mapping es => (read (.mapping es)).orInvalid model
  | _ => .error .wrongKind

/-- The records of a mapping, in order. -/
def buildAll {α : Type} (model : Model) (read : Reader α) :
    List (String × Content) → Except Fault (List (String × α))
  | [] => .ok []
  | (k, c) :: es => do
    let a ← build model read c
    let rest ← buildAll model read es
    return (k, a) :: rest

/-- The records under a key of the adventure, which has to be a mapping if it is there. -/
def buildRoster {α : Type} (model : Model) (read : Reader α) (es : List (String × Content))
    (key : String) : Except Fault (Roster α) := do
  let entries ← match es.lookup key with
    | some c => c.entries
    | none => pure []
  return Roster.ofList (← buildAll model read entries)

/-- The actions of the adventure. -/
def buildActions : List Content → Except Fault (List Action)
  | [] => .ok []
  | c :: cs => do
    let a ← build .action Action.read c
    let rest ← buildActions cs
    return a :: rest

/-- The value under a key of the adventure, an empty mapping in place of one that is not filled. -/
def filledOrEmpty (es : List (String × Content)) (key : String) : Content :=
  let c := (es.lookup key).getD .null
  if c.isFilled then c else .mapping []

/-- The health of the antagonist is that of its character. -/
def withAntagonistHealth (scenario : Scenario) (characters : Roster Character) :
    Roster Character :=
  match scenario.antagonist with
  | some a => characters.update a.character (fun c => { c with health := a.health })
  | none => characters

/-- The world with itself as its origin. -/
def settled (w : World) : World := { w with origin := w.snapshot }

/-- **The world that a content describes.** -/
def ofContent (data : Content) : Except Fault World := do
  let es ← data.marked.entries
  let rooms ← buildRoster .room Room.read es "rooms"
  let items ← buildRoster .item Item.read es "items"
  let characters ← buildRoster .character Character.read es "characters"
  let dialogues ← (filledOrEmpty es "dialogues").entries >>= buildAll .dialogue Dialogue.read
  let actions ← match es.lookup "actions" with
    | some c => c.elements >>= buildActions
    | none => pure []
  let scenario ← build .scenario Scenario.read (filledOrEmpty es "scenario")
  let flags ← build .flags Flags.read (filledOrEmpty es "flags")
  let current ← Content.demand "start" (.mapping es)
  return settled
    { rooms, items, characters := withAntagonistHealth scenario characters
      dialogues := Roster.ofList dialogues, actions, scenario, flags, current
      intro := (es.lookup "intro").getD (.text "")
      origin := ⟨[], [], [], flags⟩, notes := [] }

/-- The world of a file's content: an empty file counts as an empty mapping. -/
def ofFile (data : Content) : Except Fault World :=
  ofContent (if data.isFilled then data else .mapping [])

/-! ## 4. Queries -/

/-- The room the player is in. -/
def room (w : World) : Except Fault Room := w.rooms.demand w.current

/-- A place, the player's one if none is given. -/
def placeOr (w : World) (place : Content) : Content := if place.isFilled then place else w.current

/-- The items that lie in a place. -/
def itemsIn (w : World) (place : Content) : Roster Item :=
  w.items.filter (fun i => i.location.same (w.placeOr place))

/-- The items that lie where the player is. -/
def itemsHere (w : World) : Roster Item := w.itemsIn .null

/-- The items that the player carries. -/
def carried (w : World) : Roster Item := w.items.filter Item.isCarried

/-- The characters that stand in a place. -/
def charactersIn (w : World) (place : Content) : Roster Character :=
  w.characters.filter (fun c => (Content.ofText? c.room).same (w.placeOr place))

/-- The characters that stand where the player is. -/
def charactersHere (w : World) : Roster Character := w.charactersIn .null

/-- The player carries the item. -/
def isCarrying (w : World) (item : Content) : Except Fault Bool :=
  (w.items.find item).map (fun i => i.any Item.isCarried)

/-- The room can only be seen with a torch, and the torch is off. -/
def isDark (w : World) : Except Fault Bool := do
  if (← w.room).visible then return false
  else return !(← w.flags.isSet .torchLit)

/-- How it stands with the encounter: what counts as false unless the antagonist is awake, and then
    whether it is still alive. -/
def encounter (w : World) : Except Fault Content := do
  let awake ← w.flags.look .antagonistActive
  if awake.isFilled then return .bool (!(← w.flags.isSet .antagonistDefeated))
  else return awake

/-- The antagonist is awake and still alive. -/
def encounterActive (w : World) : Except Fault Bool := w.encounter.map Content.isFilled

/-- The player is in the antagonist's room. -/
def inLair (w : World) : Bool :=
  match w.scenario.antagonist with
  | some a => w.current.same (.text a.room)
  | none => false

/-- The player is in the antagonist's room while the encounter goes on. -/
def isCornered (w : World) : Except Fault Bool := if w.inLair then w.encounterActive else .ok false

/-- The antagonist is where the player is, and has been woken. -/
def isExposed (w : World) : Except Fault Bool :=
  if w.inLair then w.flags.isSet .antagonistActive else .ok false

/-- The antagonist sleeps, and is not dead. -/
def isAsleep (w : World) : Except Fault Bool := do
  if ← w.flags.isSet .antagonistActive then return false
  else return !(← w.flags.isSet .antagonistDefeated)

/-- Name and description of the room the player is in. -/
def description (w : World) : Except Fault String := w.room.map Room.presentation

end World

end Adventure
