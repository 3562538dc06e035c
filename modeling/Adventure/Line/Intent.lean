import Adventure.Line.Token
import Adventure.Roster
import Adventure.Story.Character
import Adventure.Story.Command
import Adventure.Story.Room

/-!
# What a line asks for

* `Pool`: things under their ids, in the order in which they are looked through;
* `Pool.find?`, `commandIndex?`: the first thing, the first command, that answers to a word;
* `Entities`, `Pool.resolve`: the things that the words after the verb name;
* `Intent`, `Intent.ofTokens?`, `Intent.ofLine?`: a command and what it is aimed at.
-/

namespace Adventure

/-! ## 1. Looking through a pool -/

/-- Things under their ids. -/
abbrev Pool := List (String × Named)

namespace Pool

/-- The items of a roster as a pool. -/
def ofItems (r : Roster Item) : Pool := r.entries.map (fun e => (e.1, e.2.toNamed))

/-- The characters of a roster as a pool. -/
def ofCharacters (r : Roster Character) : Pool := r.entries.map (fun e => (e.1, e.2.toNamed))

/-- The id of the first thing that answers to a word. -/
def find? (pool : Pool) (word : String) : Option String :=
  (List.find? (fun e : String × Named => e.2.answersTo word) pool).map Prod.fst

end Pool

/-- The position of the first command that answers to a word. -/
def commandIndex? (catalogue : List Command) (word : String) : Option Nat :=
  catalogue.findIdx? (fun c => c.answersTo word)

/-- An id that is there and not empty. -/
def givenId? (id : Option String) : Option String := id.filter (· ≠ "")

/-! ## 2. Entities -/

/-- The things that a line names. -/
structure Entities where
  roomItem : Option String := none
  carriedItem : Option String := none
  character : Option String := none
deriving DecidableEq, Repr

/-- The id that the second word of a line names, or else the third one. -/
def Pool.findEither? (pool : Pool) (second : String) (third : Option String) : Option String :=
  match pool.find? second with
  | some id => some id
  | none => third.bind pool.find?

/-- **The things that the words after the verb name.** An item of the room that the second word
    names is looked up again by the third word, if there is one; the items of the player, if
    there is no such item, and the characters are looked up by the third word only if the second
    one finds none. -/
def resolve (roomItems carried characters : Pool) (second : String) (third : Option String) :
    Entities :=
  let first := roomItems.find? second
  let roomItem :=
    match givenId? first, third with
    | some _, some word => roomItems.find? word
    | _, _ => first
  { roomItem
    carriedItem := if roomItem.isNone then carried.findEither? second third else none
    character := characters.findEither? second third }

/-! ## 3. Intents -/

/-- What a line asks for. Without a command the verb was not understood. -/
structure Intent where
  command : Option Command
  roomItem : Option String := none
  carriedItem : Option String := none
  direction : Option Direction := none
  character : Option String := none
  tokens : List String := []
deriving DecidableEq, Repr

namespace Intent

/-- The verb of the command. -/
def verb? (i : Intent) : Option Verb := i.command.map Command.verb

/-- There are words after the verb. -/
def hasArguments (i : Intent) : Bool := 1 < i.tokens.length

/-- The first character with an id that one of the words names. -/
def scanCharacters (characters : Pool) : List String → Option String
  | [] => none
  | word :: words =>
    match givenId? (characters.find? word) with
    | some id => some id
    | none => scanCharacters characters words

/-- What a command with the words after it asks for. -/
def ofCommand (roomItems carried characters : Pool) (command : Command) (verb : String)
    (args : List String) : Intent :=
  let plain : Intent := { command := some command, tokens := verb :: args }
  match command.verb, args with
  | .move, [word] =>
    { plain with direction := some (Direction.ofPlayerWord (Text.lowercase word)) }
  | .talk, [] => { plain with direction := some .invalid }
  | .talk, args => { plain with character := scanCharacters characters args }
  | .observe, _ :: _ => { plain with direction := some .invalid }
  | .shoot, args => { plain with character := scanCharacters characters args }
  | _, [] => plain
  | _, second :: rest =>
    let found := resolve roomItems carried characters second rest.head?
    { plain with
      roomItem := found.roomItem, carriedItem := found.carriedItem,
      character := found.character }

/-- What the words of a line ask for; nothing if there are none. -/
def ofTokens? (catalogue : List Command) (roomItems carried characters : Pool) :
    List String → Option Intent
  | [] => none
  | verb :: args =>
    match (commandIndex? catalogue verb).bind (catalogue[·]?) with
    | none => some { command := none, tokens := verb :: args }
    | some command => some (ofCommand roomItems carried characters command verb args)

/-- **What a line asks for**; nothing if no word is left of it. -/
def ofLine? (catalogue : List Command) (stopwords : List String)
    (roomItems carried characters : Pool) (line : String) : Option Intent :=
  ofTokens? catalogue roomItems carried characters (Line.tokens stopwords line)

end Intent

end Adventure
