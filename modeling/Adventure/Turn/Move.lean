import Adventure.Turn.Stage

/-!
# Moving from room to room

* `Setting.move`: the player asks to go in a direction;
* `Setting.entryRefusal`: why a room does not let the player in;
* `Setting.tryCode`: the player answers the question for the code of a door.

A way that leads to a locked room ends in a question: the next line is compared with the code of
the room, and the player is in the room if it is the same.
-/

namespace Adventure.Setting

variable {σ : Type} (s : Setting σ)

/-! ## 1. The gate of a room -/

/-- What a gate says when it stays shut. Its effect is brought about. -/
def refuseBy (gate : Gate) : Act (Stage σ) Content := do
  Stage.onWorld (World.apply gate.effect)
  let text := Text.stripEnd (gate.message.getD "")
  if text = "" then s.say .moveEntryRefused else return .text text

/-- The first refusal whose preconditions hold speaks. -/
def firstRefusal : List Gate → Act (Stage σ) Content
  | [] => s.say .moveEntryRefused
  | gate :: gates => do
    if ← Stage.ask (fun w => w.holds gate.preconditions) then s.refuseBy gate
    else firstRefusal gates

/-- **Why a room does not let the player in**; nothing if it does. -/
def entryRefusal (target : String) : Act (Stage σ) Content := do
  let room ← Stage.ask (fun w => w.rooms.demand (.text target))
  match room.entry with
  | none => return .null
  | some entry =>
    if ← Stage.ask (fun w => w.holds entry.preconditions) then return .null
    else s.firstRefusal entry.refusals

/-! ## 2. The step into a room -/

/-- The torch is switched off before the player sets off. -/
def darken : Act (Stage σ) (List Content) := do
  if ← Stage.ask (fun w => w.flags.isSet .torchLit) then
    Stage.onWorld (World.setTorch false)
    return [← s.say .torchSwitchedOff]
  else return []

/-- The player steps into an open room, or is asked for the code of a locked one. -/
def step (target : String) : Act (Stage σ) Content := do
  let room ← Stage.ask (fun w => w.rooms.demand (.text target))
  if room.locked then
    Stage.redirect (.doorCode target)
    s.say .doorLocked
  else
    Stage.onWorld (World.moveTo (.text target))
    return .text ""

/-- The player sets off towards a room. -/
def setOff (target : String) : Act (Stage σ) Content := do
  let before ← s.darken
  let after ← match ← s.entryRefusal target with
    | .null => s.step target
    | refusal => pure refusal
  joined "\n" (if after.isFilled then before ++ [after] else before)

/-- **The player goes in a direction.** -/
def move (i : Intent) : Act (Stage σ) Content := do
  match i.direction with
  | none => s.say .moveNoDirection
  | some .invalid => s.say .moveInvalidDirection
  | some direction =>
    match (← Stage.ask World.room).neighbour? direction with
    | none => s.say .moveNoRoom
    | some target =>
      if target = exitTarget then s.say .moveExitGame
      else if ← Stage.ask World.isCornered then s.say .moveBlocked
      else s.setOff target

/-! ## 3. The code of a door -/

/-- **The player says a code at the door of a room.** With the right one the player is in. -/
def tryCode (target : String) (line : String) : Act (Stage σ) (List Content) := do
  let room ← Stage.ask (fun w => w.rooms.demand (.text target))
  if Text.strip line ≠ room.code.getD "" then
    Stage.onWorld (World.note ("room " ++ target ++ " wrong code"))
    return [← s.say .doorWrongCode]
  else
    Stage.onWorld (World.unlock (.text target))
    Stage.onWorld (World.moveTo (.text target))
    s.hooks.roomChanged
    let unlocked ← s.say .doorUnlocked
    return [unlocked, .text (← Stage.ask World.description)]

end Adventure.Setting
