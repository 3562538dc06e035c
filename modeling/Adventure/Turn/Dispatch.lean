import Adventure.Turn.Handle
import Adventure.Turn.Look
import Adventure.Turn.Meet
import Adventure.Turn.Move

/-!
# Turns: an intent goes to the rules

* `Rule.onlyFor`: a rule that keeps silent about intents of other verbs;
* `Setting.rules`: the rules of all verbs, in the order in which they are asked;
* `Turn.dispatch`: every rule is asked, and the player is told what room it is if it is another;
* `Setting.ruleFor?`, `Setting.route`: the same with the one rule that the verb belongs to.
-/

namespace Adventure

variable {σ : Type}

/-! ## 1. Rules -/

/-- The rule speaks about intents of one verb and is silent about all others. -/
def Rule.onlyFor (verb : Verb) (rule : Rule σ) : Rule σ := fun i =>
  if i.verb? = some verb then rule i else pure (.text "")

namespace Setting

/-- **The rules of all verbs**, in the order in which they are asked. Nobody asks one to quit. -/
def rules (s : Setting σ) : List (Rule σ) :=
  [Rule.onlyFor .talk s.talk, Rule.onlyFor .inventory s.inventory,
    Rule.onlyFor .examine s.examine, Rule.onlyFor .move s.move, Rule.onlyFor .observe s.observe,
    Rule.onlyFor .take s.take, Rule.onlyFor .read s.read, Rule.onlyFor .shoot s.shoot,
    Rule.onlyFor .activate s.activate, Rule.onlyFor .help s.help,
    Rule.onlyFor .deactivate s.deactivate, Rule.onlyFor .use s.use, Rule.onlyFor .save s.save]

/-- The rule that a verb belongs to. -/
def ruleFor? (s : Setting σ) : Verb → Option (Rule σ)
  | .inventory => some s.inventory
  | .talk => some s.talk
  | .take => some s.take
  | .move => some s.move
  | .quit => none
  | .observe => some s.observe
  | .use => some s.use
  | .activate => some s.activate
  | .deactivate => some s.deactivate
  | .help => some s.help
  | .read => some s.read
  | .examine => some s.examine
  | .shoot => some s.shoot
  | .save => some s.save

end Setting

/-! ## 2. Turns -/

namespace Turn

/-- What the rules say, one after the other. -/
def askAll (i : Intent) : List (Rule σ) → Act (Stage σ) (List Content)
  | [] => pure []
  | rule :: rules => do
    let saying ← rule i
    let sayings ← askAll i rules
    return saying :: sayings

/-- The player has come into another room: it is noted, and whoever asked to hear of it does. -/
def announceRoom (onRoomChanged : Content → Act (Stage σ) Unit) : Act (Stage σ) Unit := do
  let place := (← get).world.current
  Stage.onWorld (World.note ("room_changed " ++ place.shown))
  onRoomChanged place

/-- The lines of a turn, with the description of the room if it is another one than before. -/
def withArrival (onRoomChanged : Content → Act (Stage σ) Unit) (before : Content)
    (lines : List Content) : Act (Stage σ) (List Content) := do
  if (← get).world.current.same before then return lines
  else
    let arrival ← Stage.ask World.description
    announceRoom onRoomChanged
    return lines ++ [.text arrival]

/-- **A turn: every rule is asked**, and what they say is gathered in order. -/
def dispatch (messages : Messages) (onRoomChanged : Content → Act (Stage σ) Unit)
    (rules : List (Rule σ)) (i : Intent) : Act (Stage σ) (List Content) := do
  match i.command with
  | none => return [← Act.ofExcept (messages.plain .notUnderstood)]
  | some _ =>
    let before := (← get).world.current
    let sayings ← askAll i rules
    withArrival onRoomChanged before (sayings.filter Content.isFilled)

end Turn

/-- **A turn: the one rule is asked that the verb belongs to.** -/
def Setting.route (s : Setting σ) (onRoomChanged : Content → Act (Stage σ) Unit) (i : Intent) :
    Act (Stage σ) (List Content) := do
  match i.verb? with
  | none => return [← s.say .notUnderstood]
  | some verb =>
    let before := (← get).world.current
    let saying ← match s.ruleFor? verb with
      | some rule => rule i
      | none => pure (.text "")
    Turn.withArrival onRoomChanged before ([saying].filter Content.isFilled)

end Adventure
