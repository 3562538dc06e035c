import Adventure.Story.Figure
import Adventure.Story.Named

/-!
# Items

* `Gate`: a condition, what follows from passing it, and what is said when it stays shut;
* `Item`: a thing that lies in a room, is carried, or is nowhere;
* `Gate.read`, `Item.read`: the same from content.
-/

namespace Adventure

/-- A condition with a consequence. Both are mappings, or nothing. -/
structure Gate where
  preconditions : Content := .null
  effect : Content := .null
  message : Option String := none
deriving DecidableEq

namespace Gate

def fields (es : List (String × Content)) : Checked Gate :=
  Gate.mk <$> Reader.optional es "preconditions" Reader.table .null
    <*> Reader.optional es "effect" Reader.table .null
    <*> Reader.optional es "message" (Reader.nullable Reader.text) none

/-- A gate from content. -/
def read : Reader Gate := Reader.record ["preconditions", "effect", "message"] fields

end Gate

/-- A thing of the adventure. -/
structure Item extends Named where
  description : String := ""
  /-- Where the item is: the name of a room, the mark of the inventory, or nothing. -/
  location : Content := .null
  collectible : Bool := false
  /-- Whether the item is switched on, for items that can be. -/
  active : Option Bool := none
  /-- What is written on the item. -/
  writing : Option String := none
  /-- How often the item can still be fired, for weapons. -/
  ammo : Option Figure := none
  /-- What has to hold before the item can be taken. -/
  take : Option Gate := none
deriving DecidableEq

namespace Item

/-- The player carries the item. -/
def isCarried (i : Item) : Bool := i.location = .inventory

/-- A place from content: a text, the mark of the inventory, or nothing. -/
def readLocation : Reader Content
  | .null => .good .null
  | .text s => .good (.text s)
  | .inventory => .good .inventory
  | _ => .bad [⟨["str"], .notText⟩, ⟨["enum[LocationTag]"], .notOneOf⟩]

def fields (es : List (String × Content)) : Checked Item :=
  (fun name aliases description location collectible active writing ammo take =>
      { name, aliases, description, location, collectible, active, writing, ammo, take : Item })
    <$> Reader.required es "name" Reader.text
    <*> Reader.optional es "aliases" (Reader.listOf Reader.text) []
    <*> Reader.optional es "description" Reader.text ""
    <*> Reader.optional es "location" readLocation .null
    <*> Reader.optional es "collectible" Reader.bool false
    <*> Reader.optional es "activation" (Reader.nullable (Reader.record ["active"]
        (fun es => Reader.optional es "active" Reader.bool false))) none
    <*> Reader.optional es "reading" (Reader.nullable (Reader.record ["text"]
        (fun es => Reader.required es "text" Reader.text))) none
    <*> Reader.optional es "weapon" (Reader.nullable (Reader.record ["ammo"]
        (fun es => Reader.optional es "ammo" Figure.read 0))) none
    <*> Reader.optional es "take" (Reader.nullable Gate.read) none

/-- An item from content. -/
def read : Reader Item :=
  Reader.record ["name", "aliases", "description", "location", "collectible", "activation",
    "reading", "weapon", "take"] fields

end Item

end Adventure
