import Adventure.Phrase
import Adventure.World.Condition

/-!
# Conversations: one dialogue, one numbered choice at a time

* `Conversation`: whom the player talks to, and at which node;
* `Talk`: a world and the conversation in it;
* `Talk.start`, `Talk.choose`: the ways in which a conversation goes on;
* `Reaction`: what is said, and whether the dialogue goes on, ends, or ends with an event.

The open lines are gathered anew for every prompt, so a number always means a line of the list
that was shown last.
-/

namespace Adventure

/-! ## 1. The state of a conversation -/

inductive ConversationState where
  | inactive
  | awaitingChoice
  | terminated
deriving DecidableEq, Repr

/-- Whom the player talks to, at which node, and what event follows the end. -/
structure Conversation where
  state : ConversationState := .inactive
  /-- Whom the player talks to, a character's name if all is well. -/
  character : Content := .null
  /-- The name under which the dialogue is kept. -/
  subject : Option String := none
  node : Option Figure := none
  continuation : Content := .null
deriving DecidableEq

inductive Outcome where
  | goesOn
  | ends
  | endsWithEvent
deriving DecidableEq, Repr

/-- What comes of a step of a conversation. -/
structure Reaction where
  outcome : Outcome
  lines : List Content := []
  event : Option Content := none
deriving DecidableEq

/-- The dialogue has come to its end. -/
def Reaction.isFinished (r : Reaction) : Bool := r.outcome != .goesOn

/-- The event of the dialogue that ends the adventure. -/
def climaxEvent : String := "climax"

/-- A world and the conversation in it. -/
structure Talk where
  world : World
  conversation : Conversation

namespace Talk

/-- A step on the world of the talk. -/
def onWorld {α : Type} (a : Act World α) : Act Talk α :=
  a.zoom Talk.world (fun w t => { t with world := w })

/-- The dialogue of the conversation; with an unknown character there is nothing to say. -/
def dialogue (t : Talk) : Dialogue :=
  (t.conversation.subject.bind t.world.dialogues.get?).getD {}

/-- The lines that the player can say now. -/
def options (t : Talk) : List PlayerLine := t.dialogue.openLines t.conversation.node

/-! ## 2. What is shown -/

/-- The numbered texts of the open lines. -/
def optionRows (options : List PlayerLine) : List String :=
  options.zipIdx.map fun (line, i) => toString (i + 1) ++ ". " ++ Text.strip line.text

/-- The list of the open lines, with a heading and a prompt. -/
def prompt (m : Messages) (options : List PlayerLine) : Except Fault Content := do
  let heading ← m.plain .dialogueOptions
  let last ← m.plain .dialoguePrompt
  let shown ← Content.joined "\n" (heading :: (optionRows options).map .text ++ [last])
  return .text shown

/-- The player is asked again. -/
def askAgain (m : Messages) (sentence : Content) : Except Fault Reaction := do
  return { outcome := .goesOn, lines := [sentence, ← m.plain .dialoguePrompt] }

/-- The player is told how many lines there are to choose from, and asked again. -/
def askInRange (m : Messages) (count : Nat) : Except Fault Reaction := do
  askAgain m (.text (← m.filled .dialogueOutOfRange [("count", .number count)]))

/-! ## 3. Steps -/

/-- The player is at the climax: the dialogue with its character in its room. -/
def isClimax (w : World) (character : Content) : Bool :=
  match w.scenario.climax with
  | some c => character.same (.text c.character) && w.current.same (.text c.room)
  | none => false

/-- The dialogue with a character ends. The climax comes before the event that was asked for. -/
def terminate (m : Messages) (character : Content) (lines : List Content) :
    Act Talk Reaction := do
  modify (fun t => { t with conversation := { t.conversation with state := .terminated } })
  onWorld (World.markInteracted character)
  let last ← Act.ofExcept (m.plain .dialogueEnd)
  let lines := lines ++ [last]
  let t ← get
  if isClimax t.world character then
    return { outcome := .endsWithEvent, lines, event := some (.text climaxEvent) }
  else if t.conversation.continuation.isFilled then
    return { outcome := .endsWithEvent, lines, event := some t.conversation.continuation }
  else return { outcome := .ends, lines }

/-- **A dialogue begins.** Without anything to say it ends at once. -/
def start (m : Messages) (character continuation : Content) : Act Talk Reaction := do
  modify (fun t => { t with conversation := { t.conversation with character, continuation } })
  let subject ← Act.ofExcept character.asName
  modify (fun t =>
    { t with conversation :=
        { state := .awaitingChoice, character, subject, node := some 1, continuation } })
  onWorld (World.note ("dialogue start " ++ character.shown ++ " node 1"))
  let t ← get
  if t.options.isEmpty then terminate m character []
  else return { outcome := .goesOn, lines := [← Act.ofExcept (prompt m t.options)] }

/-- The open line at a position has been said. -/
def sayLine (subject : String) (node : Option Figure) (position : Nat) (w : World) : World :=
  w.updateDialogue subject
    (fun d => { d with lines := Dialogue.sayOpen node position d.lines })

/-- What the character answers to a line. -/
def answer (m : Messages) (character : Content) (reply : Reply) : Act Talk Content := do
  let c ← Act.reading (fun t => t.world.characters.demand character)
  let said ← Act.ofExcept (m.filled .dialogueReply
    [("name", .text c.name), ("text", .text (Text.strip reply.text))])
  return .text said

/-- The dialogue goes on at the node after a reply, or ends if there is none or nothing is left to
    say. -/
def goOn (m : Messages) (character : Content) (node : Option Figure) (lines : List Content) :
    Act Talk Reaction := do
  match node with
  | none => terminate m character lines
  | some n =>
    modify (fun t => { t with conversation := { t.conversation with node := some n } })
    onWorld (World.note ("dialogue " ++ character.shown ++ " node " ++ n.shown))
    let t ← get
    if t.options.isEmpty then terminate m character lines
    else return { outcome := .goesOn, lines := lines ++ [← Act.ofExcept (prompt m t.options)] }

/-- The player says an open line. -/
def say (m : Messages) (character : Content) (position : Nat) (line : PlayerLine) :
    Act Talk Reaction := do
  let t ← get
  let reply := t.dialogue.reply? line.reply
  onWorld (modify (sayLine (t.conversation.subject.getD "") t.conversation.node position))
  onWorld (World.note ("dialogue " ++ character.shown ++ " line " ++ line.id.shown ++ " used"))
  let lines ← match reply with
    | some r => pure [← answer m character r]
    | none => pure []
  onWorld (World.refreshObservation .null false)
  match reply with
  | some r => onWorld (World.apply r.effect)
  | none => pure ()
  goOn m character (reply.bind Reply.nextNode) lines

/-- **The player answers a prompt.** A number from the list says that line; anything else asks
    again and changes nothing. -/
def choose (m : Messages) (raw : String) : Act Talk Reaction := do
  let t ← get
  let character := t.conversation.character
  if t.conversation.state = .awaitingChoice ∧ character ≠ .null then
    match Text.readInt? (Text.strip raw).toList with
    | none => Act.ofExcept (m.plain .dialogueNotANumber >>= askAgain m)
    | some n =>
      match (if 1 ≤ n then t.options[(n - 1).toNat]? else none) with
      | some line => say m character (n - 1).toNat line
      | none => Act.ofExcept (askInRange m t.options.length)
  else throw .noChoiceAwaited

end Talk

end Adventure
