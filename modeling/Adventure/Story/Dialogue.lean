import Adventure.Story.Figure

/-!
# Dialogues

* `PlayerLine`: what the player can say at a node of the dialogue, and which reply it gets;
* `Reply`: what the character answers, and the node that comes next;
* `Dialogue`: the lines and replies of one character;
* `Dialogue.reply?`, `Dialogue.openLines`: the first reply with an id; the lines that are left at
  a node.
-/

namespace Adventure

/-- Something the player can say once. -/
structure PlayerLine where
  id : Figure
  node : Figure
  text : String
  reply : Figure
  used : Bool := false
deriving DecidableEq, Repr

/-- An answer. Without a next node it ends the dialogue. -/
structure Reply where
  id : Figure
  text : String
  nextNode : Option Figure := none
  effect : Content := .null
deriving DecidableEq

/-- The lines and replies of one character. -/
structure Dialogue where
  lines : List PlayerLine := []
  replies : List Reply := []
deriving DecidableEq

namespace Dialogue

/-! ## 1. Reading -/

def lineFields (es : List (String × Content)) : Checked PlayerLine :=
  PlayerLine.mk <$> Reader.required es "id" Figure.read
    <*> Reader.required es "node" Figure.read
    <*> Reader.required es "text" Reader.text
    <*> Reader.required es "reply" Figure.read
    <*> Reader.optional es "used" Reader.bool false

def replyFields (es : List (String × Content)) : Checked Reply :=
  Reply.mk <$> Reader.required es "id" Figure.read
    <*> Reader.required es "text" Reader.text
    <*> Reader.optional es "next_node" (Reader.nullable Figure.read) none
    <*> Reader.optional es "effect" Reader.table .null

def fields (es : List (String × Content)) : Checked Dialogue :=
  Dialogue.mk
    <$> Reader.optional es "lines"
        (Reader.listOf (Reader.record ["id", "node", "text", "reply", "used"] lineFields)) []
    <*> Reader.optional es "replies"
        (Reader.listOf (Reader.record ["id", "text", "next_node", "effect"] replyFields)) []

/-- A dialogue from content. -/
def read : Reader Dialogue := Reader.record ["lines", "replies"] fields

/-! ## 2. Walking a dialogue -/

/-- The first reply with an id. -/
def reply? (d : Dialogue) (id : Figure) : Option Reply := d.replies.find? (fun r => r.id == id)

/-- A line that can still be said at a node. -/
def isOpenAt (node : Option Figure) (line : PlayerLine) : Bool :=
  node == some line.node && !line.used

/-- The lines that can still be said at a node, in order. -/
def openLines (d : Dialogue) (node : Option Figure) : List PlayerLine :=
  d.lines.filter (isOpenAt node)

/-- The dialogue after the line at a position among the open ones has been said. -/
def sayOpen (node : Option Figure) : Nat → List PlayerLine → List PlayerLine
  | _, [] => []
  | k, line :: lines =>
    if isOpenAt node line then
      match k with
      | 0 => { line with used := true } :: lines
      | k + 1 => line :: sayOpen node k lines
    else line :: sayOpen node k lines

end Dialogue

end Adventure
