import Adventure.Schema
import Adventure.Story.Named

/-!
# Commands: the verbs of the player and the words for them

* `Verb`: what a player can ask for;
* `Command`: a verb under a name and aliases;
* `Command.read`: a command from content.
-/

namespace Adventure

/-- What a player can ask for. -/
inductive Verb where
  | inventory
  | talk
  | take
  | move
  | quit
  | observe
  | use
  | activate
  | deactivate
  | help
  | read
  | examine
  | shoot
  | save
deriving DecidableEq, Repr

namespace Verb

/-- All verbs. -/
def all : List Verb :=
  [.inventory, .talk, .take, .move, .quit, .observe, .use, .activate, .deactivate, .help, .read,
    .examine, .shoot, .save]

/-- The word for a verb in content. -/
def word : Verb → String
  | .inventory => "inventory"
  | .talk => "talk"
  | .take => "take"
  | .move => "move"
  | .quit => "quit"
  | .observe => "observe"
  | .use => "use"
  | .activate => "activate"
  | .deactivate => "deactivate"
  | .help => "help"
  | .read => "read"
  | .examine => "examine"
  | .shoot => "shoot"
  | .save => "save"

/-- The verb with a word. -/
def ofWord? (s : String) : Option Verb := all.find? (fun v => v.word == s)

end Verb

/-- A verb and the words for it. -/
structure Command extends Named where
  verb : Verb
deriving DecidableEq, Repr

namespace Command

/-- The fields of a command. -/
def fields (es : List (String × Content)) : Checked Command :=
  (fun name aliases verb => ⟨⟨name, aliases⟩, verb⟩) <$> Reader.required es "name" Reader.text
    <*> Reader.optional es "aliases" (Reader.listOf Reader.text) []
    <*> Reader.required es "type" (Reader.oneOf Verb.ofWord?)

/-- A command from content. -/
def read : Reader Command := Reader.record ["name", "aliases", "type"] fields

end Command

end Adventure
