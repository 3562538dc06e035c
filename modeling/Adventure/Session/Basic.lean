import Adventure.Session.Desk
import Adventure.Turn.Dispatch
import Adventure.World.Saved

/-!
# Sessions: line after line

* `Setup`, `Session`: what stays the same while a game is played;
* `Session.handle`: one line of the player;
* `Session.startDialogue`, `Session.tick`, `Session.stop`: a dialogue from outside, a period that
  elapses, and the end;
* `Session.run`: a game from the first description to the last line.

A line goes to the continuation that waits for it, if one does, and to the rules of the verbs
otherwise.
-/

namespace Adventure

/-! ## 1. What stays the same -/

/-- How a session is set up. -/
structure Setup where
  language : String
  slot : Content
  /-- The seconds between two warnings, if the scenario is not to decide. -/
  period : Option Content := none
deriving DecidableEq

/-- What stays the same while a game is played. -/
structure Session where
  setup : Setup
  messages : Messages
  catalogue : List Command
  stopwords : List String
  /-- The game goes on from a saved one. -/
  resumed : Bool

namespace Session

variable (s : Session)

/-! ## 2. The ticker and the end -/

/-- The antagonist begins to warn, unless it does already. -/
def startTicker : Act Play Unit := do
  let p ← get
  match p.world.scenario.antagonist with
  | none => pure ()
  | some a =>
    if p.host.ticker.any (fun t => !t.cancelled) then pure ()
    else
      let period := s.setup.period.getD (.float a.period)
      let (ticker, notes) := Ticker.start { warnings := a.warnings, period }
      Play.onDesk (fun d => { d with ticker := some ticker })
      Play.noteAll notes

/-- The antagonist falls silent. -/
def stopTicker : Act Play Unit := do
  match (← get).host.ticker with
  | none => pure ()
  | some t =>
    let (ticker, _, notes) := t.cancel
    Play.onDesk (fun d => { d with ticker := some ticker })
    Play.noteAll notes

/-- **A period elapses**: if the antagonist warns, its next warning is said. -/
def tick : Act Play Unit := do
  match (← get).host.ticker with
  | none => pure ()
  | some t =>
    let (ticker, warning) := t.tick
    Play.onDesk (fun d => { d with ticker := some ticker })
    match warning with
    | some text => Play.emit (.text text)
    | none => pure ()

/-- **The session ends**: nothing waits for a line any longer, and the antagonist falls silent. -/
def stop : Act Play Unit := do
  Play.onDesk (fun d => { d with running := false })
  modify (fun p => { p with router := p.router.clear })
  stopTicker

/-! ## 3. Dialogues -/

/-- An event happens. The one that ends the adventure does so if nothing waits for a line. -/
def trigger (event : Content) : Act Play Unit := do
  Play.note ("event " ++ event.shown)
  Play.onDesk (fun d => { d with events := event :: d.events })
  if event = .text climaxEvent ∧ (← get).router.isPending = false then stop

/-- What follows from a step of a dialogue: the next line is awaited, or an event happens. -/
def follow (r : Reaction) : Act Play (List Content) := do
  match r.outcome, r.event with
  | .goesOn, _ => Stage.redirect .choice
  | .endsWithEvent, some event => trigger event
  | _, _ => pure ()
  return r.lines

/-- A dialogue with a character begins. -/
def beginDialogue (character continuation : Content) : Act Play (List Content) := do
  follow (← Play.onTalk (Talk.start s.messages character continuation))

/-- **A dialogue begins outside of a turn.** -/
def startDialogue (character continuation : Content) : Act Play (List Content) := do
  Play.tell (← s.beginDialogue character continuation)

/-- The player answers the prompt of a dialogue. -/
def choose (line : String) : Act Play (List Content) := do
  follow (← Play.onTalk (Talk.choose s.messages line))

/-! ## 4. Saving -/

/-- The game is saved in the slot of the session. -/
def save : Act Play (Except Obstacle Content) := do
  let p ← get
  let slot := s.setup.slot
  let game ← Act.ofExcept (p.world.savedGame (.text s.setup.language))
  match ← Play.trying (Play.onArchive (Archive.save slot game)) with
  | .ok () =>
    Play.note ("saved slot " ++ slot.shown)
    return .ok slot
  | .error fault =>
    match p.host.archive.obstacle? slot fault with
    | some obstacle => return .error obstacle
    | none => throw fault

/-! ## 5. Turns -/

/-- The player is in another room: it is announced. -/
def announce (place : Content) : Act Play Unit :=
  Play.onDesk (fun d => { d with rooms := place :: d.rooms })

/-- The surroundings in which the rules of the verbs apply. -/
def setting : Setting Desk where
  messages := s.messages
  catalogue := s.catalogue
  hooks :=
    { beginDialogue := fun character => do
        Setting.joined "\n\n" (← s.beginDialogue (.text character) .null)
      roomChanged := Turn.announceRoom announce
      startTicker := s.startTicker
      stopTicker := stopTicker
      save := some s.save }

/-- The line goes to a continuation. -/
def resume (pending : Pending) (line : String) : Act Play (List Content) :=
  match pending with
  | .doorCode target => s.setting.tryCode target line
  | .choice => s.choose line

/-- The player wants to quit. The antagonist does not let the player go. -/
def quit : Act Play (List Content) := do
  if ← Stage.ask World.encounterActive then return [← s.setting.say .quitRefused]
  else
    stop
    return [← s.setting.say .farewell]

/-- What a line asks for in a world. -/
def intent? (w : World) (line : String) : Option Intent :=
  Intent.ofLine? s.catalogue s.stopwords (Pool.ofItems w.itemsHere) (Pool.ofItems w.carried)
    (Pool.ofCharacters w.charactersHere) line

/-- The line is read as a command. -/
def obey (line : String) : Act Play (List Content) := do
  match s.intent? (← get).world line with
  | none => return []
  | some i =>
    if i.verb? = some .quit then Play.tell (← s.quit)
    else Play.tell (← Turn.dispatch s.messages announce s.setting.rules i)

/-- **One line of the player**; gives the lines that are said. -/
def handle (line : String) : Act Play (List Content) := do
  Play.note ("input=" ++ line)
  let (pending, router) := (← get).router.take
  modify (fun p => { p with router := router })
  match pending with
  | some k => Play.tell (← s.resume k line)
  | none => s.obey line

/-! ## 6. A whole game -/

/-- The introduction of a new game. -/
def introduce : Act Play Unit := do
  let intro := (← get).world.intro
  if s.resumed ∨ intro.isFilled = false then pure ()
  else
    match intro with
    | .text text => Play.emit (.text (Text.stripEnd text))
    | _ => throw .noSuchPart

/-- The player goes away in the middle of the game. -/
def leave : Act Play Unit := do
  Play.emit (← s.setting.say .farewell)

/-- The player is asked for the next of the lines, if the session goes on. -/
def ask (lines : List (Option String)) (answer : Act Play (List (Option String))) :
    Act Play (List (Option String)) := do
  if (← get).host.running then
    Play.utter .mark
    answer
  else return lines

/-- Line after line until the session ends; gives the lines that are left. A line that is not
    there is an interruption. -/
def readOn : List (Option String) → Act Play (List (Option String))
  | [] => ask [] do
    s.leave
    return []
  | none :: rest => ask (none :: rest) do
    s.leave
    return rest
  | some line :: rest => ask (some line :: rest) do
    let _ ← s.handle line
    readOn rest

/-- What is told before the first line. -/
def opening : Act Play Unit := do
  s.introduce
  Play.emit (.text (← Stage.ask World.description))

/-- **A game**: the introduction, the room, and line after line; gives the lines that are left. -/
def run (lines : List (Option String)) : Act Play (List (Option String)) := do
  s.opening
  (s.readOn lines).andThen stop

end Session

end Adventure
