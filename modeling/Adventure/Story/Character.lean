import Adventure.Story.Figure
import Adventure.Story.Named

/-!
# Characters

* `Character`: someone who stands in a room, can be talked to and can be shot at;
* `Character.read`: the same from content.
-/

namespace Adventure

/-- Someone of the adventure. -/
structure Character extends Named where
  room : Option String := none
  health : Figure := 4
  /-- A dialogue with the character has come to its end. -/
  interacted : Bool := false
  /-- What has to hold before the character can be talked to. -/
  talkPreconditions : Content := .null
deriving DecidableEq

namespace Character

def fields (es : List (String × Content)) : Checked Character :=
  (fun name aliases room health interacted talkPreconditions =>
      { name, aliases, room, health, interacted, talkPreconditions : Character })
    <$> Reader.required es "name" Reader.text
    <*> Reader.optional es "aliases" (Reader.listOf Reader.text) []
    <*> Reader.optional es "room" (Reader.nullable Reader.text) none
    <*> Reader.optional es "health" Figure.read 4
    <*> Reader.optional es "interaction_occurred" Reader.bool false
    <*> Reader.optional es "talk_preconditions" Reader.table .null

/-- A character from content. -/
def read : Reader Character :=
  Reader.record ["name", "aliases", "room", "health", "interaction_occurred",
    "talk_preconditions"] fields

end Character

end Adventure
