import Adventure.Schema
import Adventure.Story.Item

/-!
# Rooms

* `Direction`: the ways out of a room;
* `Reason`: why what is seen in a room changes;
* `Entry`: what has to hold before a room is entered, and what is said otherwise;
* `Room`: a place of the adventure;
* `Room.neighbour?`, `Room.currentObservation`, `Room.presentation`: where a way leads, what is
  seen, and what is said on entering.
-/

namespace Adventure

/-- A way out of a room. The last one stands for words that name none. -/
inductive Direction where
  | north
  | south
  | east
  | west
  | invalid
deriving DecidableEq, Repr

namespace Direction

def all : List Direction := [.north, .south, .east, .west, .invalid]

/-- The word for a direction in content and in the player's lines. -/
def word : Direction → String
  | .north => "nord"
  | .south => "sud"
  | .east => "est"
  | .west => "ovest"
  | .invalid => "invalid"

/-- The direction with a word. -/
def ofWord? (s : String) : Option Direction := all.find? (fun d => d.word == s)

/-- The direction that a word of the player names; `invalid` for any other word. -/
def ofPlayerWord (s : String) : Direction := (ofWord? s).getD .invalid

end Direction

/-- Why what is seen in a room changes. -/
inductive Reason where
  | none
  | torch
  | event
deriving DecidableEq, Repr

namespace Reason

def word : Reason → String
  | .none => "none"
  | .torch => "torch"
  | .event => "event"

def ofWord? (s : String) : Option Reason := [.none, .torch, .event].find? (fun r => r.word == s)

end Reason

/-- What has to hold before a room is entered, and the refusals otherwise, in order. -/
structure Entry where
  preconditions : Content := .null
  refusals : List Gate := []
deriving DecidableEq

/-- A place of the adventure. -/
structure Room where
  name : String
  description : String
  observation : Option String := none
  updatedObservation : Option String := none
  reason : Reason := .none
  /-- The updated observation is the one that counts. -/
  updated : Bool := false
  /-- The room can be seen without a torch. -/
  visible : Bool := true
  locked : Bool := false
  code : Option String := none
  exits : List (Direction × String) := []
  entry : Option Entry := none
deriving DecidableEq

/-- The target of an exit that leaves the adventure. -/
def exitTarget : String := "EXIT"

namespace Room

/-! ## 1. Reading -/

def entryFields (es : List (String × Content)) : Checked Entry :=
  Entry.mk <$> Reader.optional es "preconditions" Reader.table .null
    <*> Reader.optional es "refusals" (Reader.listOf Gate.read) []

def fields (es : List (String × Content)) : Checked Room :=
  Room.mk <$> Reader.required es "name" Reader.text
    <*> Reader.required es "description" Reader.text
    <*> Reader.optional es "observation" (Reader.nullable Reader.text) none
    <*> Reader.optional es "updated_observation" (Reader.nullable Reader.text) none
    <*> Reader.optional es "reason" (Reader.oneOf Reason.ofWord?) .none
    <*> Reader.optional es "observation_updated" Reader.bool false
    <*> Reader.optional es "visible" Reader.bool true
    <*> Reader.optional es "locked" Reader.bool false
    <*> Reader.optional es "code" (Reader.nullable Reader.text) none
    <*> Reader.optional es "exits"
        (Reader.entries (Reader.oneOf Direction.ofWord?) Reader.text) []
    <*> Reader.optional es "entry" (Reader.nullable
        (Reader.record ["preconditions", "refusals"] entryFields)) none

/-- A room from content. -/
def read : Reader Room :=
  Reader.record ["name", "description", "observation", "updated_observation", "reason",
    "observation_updated", "visible", "locked", "code", "exits", "entry"] fields

/-! ## 2. Looking at a room -/

/-- Where the way in a direction leads. -/
def neighbour? (r : Room) (d : Direction) : Option String := r.exits.lookup d

/-- A text that is there and not empty. -/
def filledText? (s : Option String) : Option String := s.filter (· ≠ "")

/-- What is seen in the room: the updated observation once it counts and says something. -/
def currentObservation (r : Room) : Option String :=
  if r.updated then (filledText? r.updatedObservation).orElse (fun _ => filledText? r.observation)
  else filledText? r.observation

/-- Name and description of the room. -/
def presentation (r : Room) : String := r.name ++ "\n\n" ++ Text.stripEnd r.description

end Room

end Adventure
