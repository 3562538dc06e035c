import Adventure.Turn.Stage

/-!
# Handling things: take, use, activate, deactivate

* `Setting.take`: an item of the room goes to the player;
* `Setting.use`: an item brings about the first action whose preconditions hold;
* `Setting.activate`, `Setting.deactivate`: an item is switched on or off, the torch by rules of
  its own.
-/

namespace Adventure.Setting

variable {σ : Type} (s : Setting σ)

/-! ## 1. Take -/

/-- One of the words after the verb names an item of the world. -/
def namesItem (w : World) (i : Intent) : Bool :=
  (i.tokens.drop 1).any (fun word => (givenId? ((Pool.ofItems w.items).find? word)).isSome)

/-- Nothing of the room is meant. -/
def missTake (i : Intent) : Act (Stage σ) Content := do
  if (givenId? i.carriedItem).isSome || namesItem (← get).world i then s.say .takeNotHere
  else s.say .takeUnknown

/-- An item goes to the player, with what follows from it. -/
def carry (id : String) (item : Item) (effect : Content) : Act (Stage σ) Content := do
  Stage.onWorld (World.moveItem (.text id) .inventory)
  Stage.onWorld (World.apply effect)
  s.sayWith .takeDone [("name", .text item.name)]

/-- **The player takes an item of the room.** -/
def take (i : Intent) : Act (Stage σ) Content := do
  match i.roomItem with
  | none => s.missTake i
  | some id =>
    let item ← Stage.ask (fun w => w.items.demand (.text id))
    if !item.collectible then s.say .takeNotCollectible
    else
      match item.take with
      | none => s.carry id item .null
      | some gate =>
        if ← Stage.ask (fun w => w.holds gate.preconditions) then s.carry id item gate.effect
        else
          match Room.filledText? gate.message with
          | some text => return .text text
          | none => s.say .takeRefused

/-! ## 2. Use -/

/-- The first of the actions whose preconditions hold. -/
def firstAction? : List Action → Act (Stage σ) (Option Action)
  | [] => return none
  | action :: actions => do
    if ← Stage.ask (fun w => w.holds action.preconditions) then return some action
    else firstAction? actions

/-- The actions for using an item, in order. -/
def usesOf (id : String) (actions : List Action) : List Action :=
  actions.filter (fun a => a.trigger == Verb.use.word && a.item == id)

/-- **The player uses a carried item.** -/
def use (i : Intent) : Act (Stage σ) Content := do
  match i.carriedItem with
  | none => s.say .useUnknown
  | some id =>
    match ← firstAction? (usesOf id (← get).world.actions) with
    | none => s.say .useUnusable
    | some action =>
      Stage.onWorld (World.apply action.effect)
      Stage.onWorld (World.note ("action use " ++ id))
      return .text (Text.stripEnd action.message)

/-! ## 3. Activate and deactivate -/

/-- An intent that is aimed at no item. -/
def isPointless (i : Intent) : Bool :=
  i.isMisaimed || ((givenId? i.carriedItem).isNone && (givenId? i.roomItem).isNone)

/-- The carried item of an intent that can be switched on and off. -/
def switch? (i : Intent) : Act (Stage σ) (Option (String × Item × Bool)) := do
  match i.carriedItem with
  | none => return none
  | some id =>
    let item ← Stage.ask (fun w => w.items.demand (.text id))
    return item.active.map (fun active => (id, item, active))

/-- The torch goes on. -/
def lightTorch : Act (Stage σ) Content := do
  if ← Stage.ask (fun w => w.flags.isSet .torchLit) then s.say .torchAlreadyOn
  else
    let room ← Stage.ask World.room
    Stage.onWorld (World.setTorch true)
    if room.visible then s.say .torchOnBright
    else if room.reason = .torch then s.say .torchOnDark
    else s.say .torchOn

/-- The torch goes off, unless the antagonist is awake in a room that needs it. -/
def darkenTorch : Act (Stage σ) Content := do
  if !(← Stage.ask (fun w => w.flags.isSet .torchLit)) then s.say .torchNotOn
  else if (← Stage.ask World.room).reason = .torch then
    if ← Stage.ask World.encounterActive then s.say .torchOffRefused
    else
      Stage.onWorld (World.setTorch false)
      s.say .torchOffDark
  else
    Stage.onWorld (World.setTorch false)
    s.say .torchOff

/-- **The player switches an item on.** -/
def activate (i : Intent) : Act (Stage σ) Content := do
  if isPointless i then s.say .activateUnknown
  else
    match ← switch? i with
    | none => s.say .activateNotActivatable
    | some (id, item, active) =>
      if (← get).world.scenario.torch = some id then s.lightTorch
      else if active then s.sayWith .itemAlreadyActive [("name", .text item.name)]
      else
        Stage.onWorld (World.setItemActive (.text id) true)
        s.sayWith .itemActivated [("name", .text item.name)]

/-- **The player switches an item off.** -/
def deactivate (i : Intent) : Act (Stage σ) Content := do
  if isPointless i then s.say .deactivateUnknown
  else
    match ← switch? i with
    | none => s.say .deactivateNotDeactivatable
    | some (id, item, active) =>
      if (← get).world.scenario.torch = some id then s.darkenTorch
      else if !active then s.sayWith .itemNotActive [("name", .text item.name)]
      else
        Stage.onWorld (World.setItemActive (.text id) false)
        s.sayWith .itemDeactivated [("name", .text item.name)]

end Adventure.Setting
