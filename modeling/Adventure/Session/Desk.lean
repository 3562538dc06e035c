import Adventure.Archive
import Adventure.Conversation
import Adventure.Ticker
import Adventure.Turn.Stage

/-!
# The desk: what a session keeps beside the world

* `Utterance`: a line that was said, or the mark at which the player is asked for one;
* `Desk`: the conversation, the ticker, the archive, and what was said and announced;
* `Play`: a stage with a desk;
* `Play.emit`, `Play.tell`: a line is said, many lines are;
* `Play.transcript`: lines and notes in the order in which they came.
-/

namespace Adventure

/-! ## 1. What is said -/

/-- A line that was said, or the mark at which the player is asked for one. -/
inductive Utterance where
  /-- A line, which is a text unless the sentences of the language are not. -/
  | line (said : Content)
  | mark
deriving DecidableEq

/-- What was said in a line. -/
def Utterance.line? : Utterance → Option Content
  | .line said => some said
  | .mark => none

/-- Something that came to the player or to whoever follows the play closely. -/
inductive Happening where
  | said (utterance : Utterance)
  | note (text : String)
deriving DecidableEq

/-! ## 2. The desk -/

/-- What a session keeps beside the world and the router. -/
structure Desk where
  conversation : Conversation := {}
  ticker : Option (Ticker String) := none
  /-- The session goes on. -/
  running : Bool := true
  archive : Archive
  /-- What was said, and how many notes there were before it; the latest first. -/
  spoken : List (Utterance × Nat) := []
  /-- The rooms that were announced; the latest first. -/
  rooms : List Content := []
  /-- The events that were announced; the latest first. -/
  events : List Content := []

/-- A world on its stage, with a desk. -/
abbrev Play := Stage Desk

namespace Play

/-- A change of the desk. -/
def onDesk (f : Desk → Desk) : Act Play Unit := modify (fun p => { p with host := f p.host })

/-- A step on the world and the conversation. -/
def onTalk {α : Type} (a : Act Talk α) : Act Play α :=
  a.zoom (fun p => ⟨p.world, p.host.conversation⟩)
    (fun t p => { p with world := t.world, host := { p.host with conversation := t.conversation } })

/-- A step on the archive. -/
def onArchive {α : Type} (a : Act Archive α) : Act Play α :=
  a.zoom (fun p => p.host.archive) (fun archive p => { p with host := { p.host with archive } })

/-- A step whose fault is an outcome like any other. -/
def trying {α : Type} (a : Act Play α) : Act Play (Except Fault α) := fun p =>
  let (r, q) := a.runOn p
  (.ok r, q)

/-- Notes what happened. -/
def note (text : String) : Act Play Unit := Stage.onWorld (World.note text)

/-- Notes what happened, one thing after the other. -/
def noteAll (texts : List String) : Act Play Unit := texts.forM note

/-- Something is said. -/
def utter (u : Utterance) : Act Play Unit :=
  modify fun p =>
    { p with host := { p.host with spoken := (u, p.world.notes.length) :: p.host.spoken } }

/-- A line is said. -/
def emit (line : Content) : Act Play Unit := utter (.line line)

/-- Lines are said, one after the other. -/
def tell (lines : List Content) : Act Play (List Content) := do
  lines.forM emit
  return lines

/-! ## 3. The transcript -/

/-- Utterances between notes, where `count` notes came before the given ones. -/
def interleave (count : Nat) (notes : List String) : List (Utterance × Nat) → List Happening
  | [] => notes.map .note
  | (u, before) :: rest =>
    (notes.take (before - count)).map .note ++
      .said u :: interleave (max count before) (notes.drop (before - count)) rest

/-- **Everything that was said and noted, in order.** -/
def transcript (p : Play) : List Happening :=
  interleave 0 p.world.notes.reverse p.host.spoken.reverse

end Play

end Adventure
