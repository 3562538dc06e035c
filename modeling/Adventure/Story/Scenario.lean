import Adventure.Story.Figure

/-!
# Actions and the scenario

* `Action`: what using an item brings about;
* `Antagonist`: the creature, its lair, what wakes it, and what is said about it;
* `Climax`: the dialogue that ends the adventure;
* `Scenario`: torch, antagonist and climax of an adventure.
-/

namespace Adventure

open Number (Binary64)

/-- What a verb brings about with an item. -/
structure Action where
  trigger : String
  item : String
  preconditions : Content := .null
  effect : Content := .null
  message : String := ""
deriving DecidableEq

/-- The creature of the adventure. -/
structure Antagonist where
  character : String
  /-- The room it lives in. -/
  room : String
  /-- The item whose examination wakes it. -/
  triggerItem : String
  /-- The item that is hinted at while it lies in the room. -/
  hintItem : Option String := none
  health : Figure := 4
  /-- The seconds between two warnings. -/
  period : Binary64 := .ofInt 10
  warnings : List String := []
  reveal : String := ""
  hint : String := ""
  exhausted : String := ""
  /-- What is said about a hit, by the health before it. -/
  hits : List (Int × String) := []
  alreadyDead : String := ""
  defeat : String := ""
deriving DecidableEq

/-- The character whose dialogue ends the adventure in a room. -/
structure Climax where
  character : String
  room : String
deriving DecidableEq, Repr

/-- What the rules of the adventure refer to. -/
structure Scenario where
  torch : Option String := none
  antagonist : Option Antagonist := none
  climax : Option Climax := none
deriving DecidableEq

namespace Action

def fields (es : List (String × Content)) : Checked Action :=
  Action.mk <$> Reader.required es "trigger" Reader.text
    <*> Reader.required es "item" Reader.text
    <*> Reader.optional es "preconditions" Reader.table .null
    <*> Reader.optional es "effect" Reader.table .null
    <*> Reader.optional es "message" Reader.text ""

/-- An action from content. -/
def read : Reader Action :=
  Reader.record ["trigger", "item", "preconditions", "effect", "message"] fields

end Action

namespace Scenario

/-- Entries by number in which a repeated number replaces the entry it had. -/
def collectHits (hits : List (Int × String)) : List (Int × String) :=
  hits.foldl
    (fun seen h =>
      if (seen.lookup h.1).isSome then seen.map (fun e => if e.1 = h.1 then h else e)
      else seen ++ [h])
    []

def antagonistFields (es : List (String × Content)) : Checked Antagonist :=
  Antagonist.mk <$> Reader.required es "character" Reader.text
    <*> Reader.required es "room" Reader.text
    <*> Reader.required es "trigger_item" Reader.text
    <*> Reader.optional es "hint_item" (Reader.nullable Reader.text) none
    <*> Reader.optional es "health" Figure.read 4
    <*> Reader.optional es "period" Reader.float (.ofInt 10)
    <*> Reader.optional es "warnings" (Reader.listOf Reader.text) []
    <*> Reader.optional es "reveal" Reader.text ""
    <*> Reader.optional es "hint" Reader.text ""
    <*> Reader.optional es "exhausted" Reader.text ""
    <*> Reader.optional es "hits"
        (fun c => (Reader.entries Reader.whole Reader.text c).map collectHits) []
    <*> Reader.optional es "already_dead" Reader.text ""
    <*> Reader.optional es "defeat" Reader.text ""

def climaxFields (es : List (String × Content)) : Checked Climax :=
  Climax.mk <$> Reader.required es "character" Reader.text
    <*> Reader.required es "room" Reader.text

def fields (es : List (String × Content)) : Checked Scenario :=
  Scenario.mk <$> Reader.optional es "torch" (Reader.nullable Reader.text) none
    <*> Reader.optional es "antagonist" (Reader.nullable (Reader.record
        ["character", "room", "trigger_item", "hint_item", "health", "period", "warnings",
          "reveal", "hint", "exhausted", "hits", "already_dead", "defeat"] antagonistFields)) none
    <*> Reader.optional es "climax"
        (Reader.nullable (Reader.record ["character", "room"] climaxFields)) none

/-- A scenario from content. -/
def read : Reader Scenario := Reader.record ["torch", "antagonist", "climax"] fields

end Scenario

end Adventure
