import Adventure.Line.Intent
import Adventure.Phrase
import Adventure.Router
import Adventure.World.Condition

/-!
# The stage: what the rules of the verbs work on

* `Pending`: what the next line may be asked for;
* `Stage`: the world, the router, and what the host of the rules keeps for itself;
* `Hooks`: what the rules ask of their host;
* `Setting`: messages, commands and hooks, the surroundings in which the rules apply;
* `Rule`: what a verb does with an intent.
-/

namespace Adventure

/-- What the next line is asked for. -/
inductive Pending where
  /-- The code of the locked door to a room. -/
  | doorCode (target : String)
  /-- The number of a line of the dialogue. -/
  | choice
deriving DecidableEq, Repr

/-- The world, the router, and what the host keeps for itself. -/
structure Stage (σ : Type) where
  world : World
  router : Router Pending
  host : σ

namespace Stage

variable {σ α : Type}

/-- A step on the world. -/
def onWorld (a : Act World α) : Act (Stage σ) α :=
  a.zoom Stage.world (fun w s => { s with world := w })

/-- A question to the world. -/
def ask (f : World → Except Fault α) : Act (Stage σ) α := Act.reading (fun s => f s.world)

/-- The next line goes to a continuation. -/
def redirect (p : Pending) : Act (Stage σ) Unit :=
  modify (fun s => { s with router := s.router.redirect p })

end Stage

/-- What the rules of the verbs ask of their host. -/
structure Hooks (σ : Type) where
  /-- A dialogue with a character begins; gives what is said. -/
  beginDialogue : String → Act (Stage σ) Content
  /-- The player has come into another room. -/
  roomChanged : Act (Stage σ) Unit
  startTicker : Act (Stage σ) Unit
  stopTicker : Act (Stage σ) Unit
  /-- The game is saved; gives the slot, or why it could not be. Without it nothing can be
      saved. -/
  save : Option (Act (Stage σ) (Except Obstacle Content))

/-- The surroundings in which the rules apply. -/
structure Setting (σ : Type) where
  messages : Messages
  catalogue : List Command
  hooks : Hooks σ

/-- What a verb does with an intent; gives what is said, mostly a text. -/
abbrev Rule (σ : Type) := Intent → Act (Stage σ) Content

namespace Setting

variable {σ : Type}

/-- A phrase as it stands. -/
def say (s : Setting σ) (p : Phrase) : Act (Stage σ) Content := Act.ofExcept (s.messages.plain p)

/-- A phrase with its fields filled. -/
def sayWith (s : Setting σ) (p : Phrase) (values : List (String × Filling)) :
    Act (Stage σ) Content :=
  Act.ofExcept ((s.messages.filled p values).map .text)

/-- Several sayings as one text, with something between them. -/
def joined (between : String) (sayings : List Content) : Act (Stage σ) Content :=
  Act.ofExcept ((Content.joined between sayings).map .text)

end Setting

namespace Intent

/-- The item that an intent is aimed at: a carried one before one of the room. -/
def item? (i : Intent) : Option String :=
  match givenId? i.carriedItem with
  | some id => some id
  | none => i.roomItem

/-- The intent names a character or a direction. -/
def isMisaimed (i : Intent) : Bool := (givenId? i.character).isSome || i.direction.isSome

end Intent

end Adventure
