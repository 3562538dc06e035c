import Adventure.World.Basic

/-!
# Whether an adventure and a saved game are consistent

* `World.inconsistencies`: what in a world refers to something that is not there;
* `World.savedInconsistencies`: what in a saved content does.

Both give sentences, in the order in which the parts of the world are looked through.
-/

namespace Adventure.World

/-! ## 1. Preconditions and effects -/

/-- Sentences from a list, gathered in order. -/
def gather {α : Type} (f : α → Except Fault (List String)) : List α → Except Fault (List String)
  | [] => .ok []
  | a :: as => do
    let here ← f a
    let rest ← gather f as
    return here ++ rest

/-- A sentence if a place is given and is no room. -/
def placeIssue (w : World) (place : Content) (sentence : String) : Except Fault (List String) := do
  if !place.isFilled then return []
  else return if ← w.rooms.knows place then [] else [sentence]

/-- What one item condition refers to. -/
def itemConditionIssues (w : World) (subject : String) (cond : Content) :
    Except Fault (List String) := do
  let es ← cond.entries
  let item := (es.lookup "item").getD .null
  let unknown := if ← w.items.knows item then [] else
    [subject ++ " references missing item '" ++ item.shown ++ "'"]
  let location := (es.lookup "location").getD .null
  let misplaced ← if location = .inventory then pure [] else
    w.placeIssue location (subject ++ " references missing location '" ++ location.shown ++ "'")
  return unknown ++ misplaced

/-- What one flag of a condition refers to. -/
def flagIssues (subject : String) (name : Content) : Except Fault (List String) := do
  let known := (← name.asName).bind Flag.ofWord?
  return if known.isSome then [] else
    [subject ++ " references unknown flag '" ++ name.shown ++ "'"]

/-- What a precondition or an effect refers to. -/
def conditionIssues (w : World) (subject : String) (c : Content) : Except Fault (List String) := do
  if !c.isFilled then return []
  else
    let es ← c.entries
    let place := (es.lookup "is_location").getD .null
    let misplaced ←
      w.placeIssue place (subject ++ " references missing room '" ++ place.shown ++ "'")
    let conds ← ((es.lookup "item_conditions").getD .null).filledElements
    let items ← gather (w.itemConditionIssues subject) conds
    let names ← ((es.lookup "flags").getD .null).filledElements
    let flags ← gather (flagIssues subject) names
    return misplaced ++ items ++ flags

/-- What a gate refers to. -/
def gateIssues (w : World) (subject : String) (gate : Gate) : Except Fault (List String) := do
  let pre ← w.conditionIssues subject gate.preconditions
  let effect ← w.conditionIssues subject gate.effect
  return pre ++ effect

/-! ## 2. The parts of a world -/

def startIssues (w : World) : Except Fault (List String) := do
  return if ← w.rooms.knows w.current then [] else
    ["Start room '" ++ w.current.shown ++ "' does not exist"]

def exitIssues (w : World) (id : String) (e : Direction × String) : List String :=
  if e.2 = exitTarget ∨ w.rooms.has e.2 then [] else
    ["Room '" ++ id ++ "' has exit " ++ e.1.word ++ " to missing room '" ++ e.2 ++ "'"]

def roomIssues (w : World) (e : String × Room) : Except Fault (List String) := do
  let (id, room) := e
  let exits := room.exits.flatMap (w.exitIssues id)
  let lock := if room.locked ∧ (Room.filledText? room.code).isNone then
    ["Room '" ++ id ++ "' is locked but has no code"] else []
  let entry ← match room.entry with
    | none => pure []
    | some entry => do
      let pre ← w.conditionIssues ("Room '" ++ id ++ "' entry") entry.preconditions
      let refusals ← gather (w.gateIssues ("Room '" ++ id ++ "' entry refusal")) entry.refusals
      pure (pre ++ refusals)
  return exits ++ lock ++ entry

def itemIssues (w : World) (e : String × Item) : Except Fault (List String) := do
  let (id, item) := e
  let place ← if item.location = .null ∨ item.location = .inventory then pure [] else do
    pure (if ← w.rooms.knows item.location then [] else
      ["Item '" ++ id ++ "' is in missing room '" ++ item.location.shown ++ "'"])
  let take ← match item.take with
    | none => pure []
    | some gate => w.gateIssues ("Item '" ++ id ++ "' take") gate
  return place ++ take

def characterIssues (w : World) (e : String × Character) : Except Fault (List String) := do
  let (id, character) := e
  let place := match character.room with
    | none => []
    | some room =>
      if w.rooms.has room then [] else
        ["Character '" ++ id ++ "' is in missing room '" ++ room ++ "'"]
  let talk ← w.conditionIssues ("Character '" ++ id ++ "' talk") character.talkPreconditions
  return place ++ talk

def replyIssues (w : World) (id : String) (nodes : List Figure) (reply : Reply) :
    Except Fault (List String) := do
  let subject := "Dialogue '" ++ id ++ "' reply " ++ reply.id.shown
  let node := match reply.nextNode with
    | none => []
    | some n =>
      if nodes.contains n then [] else [subject ++ " leads to empty node " ++ n.shown]
  let effect ← w.conditionIssues subject reply.effect
  return node ++ effect

def dialogueIssues (w : World) (e : String × Dialogue) : Except Fault (List String) := do
  let (id, dialogue) := e
  let owner := if w.characters.has id then [] else
    ["Dialogue for missing character '" ++ id ++ "'"]
  let lines := dialogue.lines.flatMap fun line =>
    if (dialogue.reply? line.reply).isSome then [] else
      ["Dialogue '" ++ id ++ "' line " ++ line.id.shown ++ " references missing reply " ++
        line.reply.shown]
  let replies ← gather (w.replyIssues id (dialogue.lines.map PlayerLine.node)) dialogue.replies
  return owner ++ lines ++ replies

def actionIssues (w : World) (action : Action) : Except Fault (List String) := do
  let item := if w.items.has action.item then [] else
    ["Action '" ++ action.trigger ++ "' references missing item '" ++ action.item ++ "'"]
  let subject := "Action '" ++ action.trigger ++ " " ++ action.item ++ "'"
  let pre ← w.conditionIssues subject action.preconditions
  let effect ← w.conditionIssues subject action.effect
  return item ++ pre ++ effect

def torchIssues (w : World) : List String :=
  match Room.filledText? w.scenario.torch with
  | none => []
  | some torch =>
    match w.items.get? torch with
    | none => ["Scenario torch '" ++ torch ++ "' does not exist"]
    | some item =>
      if item.active.isSome then [] else ["Scenario torch '" ++ torch ++ "' is not activatable"]

def antagonistIssues (w : World) : List String :=
  match w.scenario.antagonist with
  | none => []
  | some a =>
    (if w.characters.has a.character then [] else
        ["Antagonist references missing character '" ++ a.character ++ "'"]) ++
      (if w.rooms.has a.room then [] else
        ["Antagonist references missing room '" ++ a.room ++ "'"]) ++
      ([some a.triggerItem, a.hintItem].filterMap Room.filledText?).flatMap (fun item =>
        if w.items.has item then [] else ["Antagonist references missing item '" ++ item ++ "'"]) ++
      (if a.period.isAtMostZero then
        ["Antagonist period '" ++ a.period.toText ++ "' must be positive"] else [])

def climaxIssues (w : World) : List String :=
  match w.scenario.climax with
  | none => []
  | some c =>
    (if w.characters.has c.character then [] else
        ["Climax references missing character '" ++ c.character ++ "'"]) ++
      (if w.rooms.has c.room then [] else ["Climax references missing room '" ++ c.room ++ "'"])

/-- **What in a world refers to something that is not there.** -/
def inconsistencies (w : World) : Except Fault (List String) := do
  let start ← w.startIssues
  let rooms ← gather w.roomIssues w.rooms.entries
  let items ← gather w.itemIssues w.items.entries
  let characters ← gather w.characterIssues w.characters.entries
  let dialogues ← gather w.dialogueIssues w.dialogues.entries
  let actions ← gather w.actionIssues w.actions
  return start ++ rooms ++ items ++ characters ++ dialogues ++ actions ++
    w.torchIssues ++ w.antagonistIssues ++ w.climaxIssues

/-! ## 3. Saved games -/

/-- A sentence for a name that is not known. -/
def unknownIssue (known : Bool) (what : String) (name : Content) : List String :=
  if known then [] else ["Save references " ++ what ++ " '" ++ name.shown ++ "'"]

def savedItemIssues (w : World) (e : String × Content) : Except Fault (List String) := do
  let (id, state) := e
  if !w.items.has id then return unknownIssue false "missing item" (.text id)
  else
    let es ← if state.isFilled then state.entries else pure []
    let location := (es.lookup "location").getD .null
    let sentence := "Save places item '" ++ id ++ "' in missing room '" ++ location.shown ++ "'"
    if location = .text Content.inventoryWord then return []
    else w.placeIssue location sentence

/-- Sentences for the names in a part of a saved content that are not known. -/
def nameIssues (known : Content → Except Fault Bool) (what : String) (names : Content) :
    Except Fault (List String) := do
  gather (fun name => do return unknownIssue (← known name) what name) (← names.filledElements)

/-- **What in a saved content refers to something that is not there.** -/
def savedInconsistencies (w : World) (data : Content) : Except Fault (List String) := do
  let es ← data.entries
  let place := (es.lookup "current").getD .null
  let current ← w.placeIssue place ("Save references missing room '" ++ place.shown ++ "'")
  let items ← ((es.lookup "items").getD .null).filledEntries >>= gather w.savedItemIssues
  let rooms ← nameIssues w.rooms.knows "missing room" ((es.lookup "rooms").getD .null)
  let characters ←
    nameIssues w.characters.knows "missing character" ((es.lookup "characters").getD .null)
  let flags ← nameIssues (fun c => c.asName.map (fun n => (n.bind Flag.ofWord?).isSome))
    "unknown flag" ((es.lookup "flags").getD .null)
  return current ++ items ++ rooms ++ characters ++ flags

end Adventure.World
