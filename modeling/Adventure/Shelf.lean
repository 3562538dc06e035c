import Adventure.Path
import Adventure.Phrase
import Adventure.Sheet
import Adventure.Story.Command
import Adventure.Text.Lowercase
import Adventure.World.Basic

/-!
# Shelves: the content of one language

* `Kind`, `Shelf`: the four sheets of a language;
* `Shelf.fileName`, `Shelf.path`: the names of their files and where these stand;
* `Shelf.messages`, `Shelf.commands`, `Shelf.stopwords`: what a session needs of them. What stands
  in the way is told, and ends the matter.
-/

namespace Adventure

/-- What a sheet of a language holds. -/
inductive Kind where
  | world
  | messages
  | commands
  | stopwords
deriving DecidableEq, Repr

def Kind.word : Kind → String
  | .world => "world"
  | .messages => "messages"
  | .commands => "commands"
  | .stopwords => "stopwords"

/-- All kinds. -/
def Kind.all : List Kind := [.world, .messages, .commands, .stopwords]

/-- The sheets of a language. -/
structure Shelf where
  sheet : Kind → Sheet

/-- The commands of a content, which is walked through element by element. -/
def Command.catalogue (c : Content) : Except Fault (List Command) :=
  c.elements >>= readAll
where
  /-- The commands of a list of contents. -/
  readAll : List Content → Except Fault (List Command)
    | [] => .ok []
    | c :: cs => do
      let command ← World.build .command Command.read c
      let rest ← readAll cs
      return command :: rest

namespace Shelf

/-! ## 1. Files -/

/-- The name of a file of a language. -/
def fileName (language : String) (kind : Kind) : String :=
  kind.word ++ "." ++ language ++ ".yaml"

/-- Where a file of a language stands. -/
def path (folder : Path) (language : String) (kind : Kind) : Path :=
  (folder.join (Path.read language)).join (Path.read (fileName language kind))

/-- The last step of a path, which names the file. -/
def shownName (language : String) (kind : Kind) : String :=
  ((Path.read (fileName language kind)).steps.getLast?).getD ""

/-! ## 2. Loading -/

/-- Something is told, and the session is given up. The lines told are kept last first. -/
def giveUp {α : Type} (line : String) (cause : Fault) : Act (List String) α := do
  modify (fun lines => line :: lines)
  throw (.abandoned cause)

/-- The content of a sheet; one that is not filled is replaced. It is told that a file is not
    there or cannot be read; a file that cannot be opened is a fault. -/
def load (s : Shelf) (language : String) (kind : Kind) (default : Content) :
    Act (List String) Content := do
  match (s.sheet kind).read with
  | .ok c => return if c.isFilled then c else default
  | .error .notFound =>
    giveUp ("ERROR: Missing file '" ++ shownName language kind ++ "'") .notFound
  | .error .unreadable =>
    giveUp ("ERROR: Invalid YAML in '" ++ shownName language kind ++ "': " ++
      Fault.unreadable.wording) .unreadable
  | .error e => throw e

/-- The messages of a language. -/
def messages (s : Shelf) (language : String) : Act (List String) Messages := do
  return ⟨← s.load language .messages (.mapping [])⟩

/-- **The commands of a language**, all of them or none. -/
def commands (s : Shelf) (language : String) : Act (List String) (List Command) := do
  match Command.catalogue (← s.load language .commands (.list [])) with
  | .ok commands => return commands
  | .error e =>
    giveUp ("ERROR: Invalid command definition in '" ++ shownName language .commands ++ "': " ++
      e.wording) e

/-- The stopwords of a language, in small letters. -/
def stopwords (s : Shelf) (language : String) : Act (List String) (List String) := do
  let words ← Act.ofExcept (← s.load language .stopwords (.list [])).elements
  return words.map (fun c => Text.lowercase c.shown)

/-- **The world of a language.** -/
def world (s : Shelf) : Act (List String) World := do
  match (s.sheet .world).read with
  | .error .notFound => giveUp ("ERROR: Missing world file: " ++ Fault.notFound.wording) .notFound
  | .error .unreadable =>
    giveUp ("ERROR: Invalid world file: " ++ Fault.unreadable.wording) .unreadable
  | .error e => throw e
  | .ok c =>
    match World.ofFile c with
    | .ok w => return w
    | .error (.unknownKey key) => refuse (.unknownKey key)
    | .error (.invalid model problems) => refuse (.invalid model problems)
    | .error e => throw e
where
  /-- The definition of the world has a fault. -/
  refuse (e : Fault) : Act (List String) World :=
    giveUp ("ERROR: Invalid world definition: " ++ e.wording) e

end Shelf

end Adventure
