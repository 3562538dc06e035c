import Adventure.Turn.Stage

/-!
# Meeting characters, and saving: talk, shoot, save

* `Setting.talk`: a dialogue begins, if the character is to be seen and has something to say;
* `Setting.shoot`: the antagonist loses one health a shot, and the last one ends the encounter;
* `Setting.save`: the game is saved, but not while the antagonist is awake.
-/

namespace Adventure.Setting

variable {σ : Type} (s : Setting σ)

/-! ## 1. Talk -/

/-- **The player talks to a character.** -/
def talk (i : Intent) : Act (Stage σ) Content := do
  match i.character with
  | none =>
    if i.direction = some .invalid then s.say .talkMissingTarget else s.say .talkUnknownTarget
  | some id =>
    let character ← Stage.ask (fun w => w.characters.demand (.text id))
    if ← Stage.ask (fun w => w.holds character.talkPreconditions) then
      if character.interacted then s.say .talkExhausted else s.hooks.beginDialogue id
    else s.say .talkHidden

/-! ## 2. Shoot -/

/-- What is said about a hit: the text for the health before it. -/
def hitText (a : Antagonist) (health : Int) : String := (a.hits.lookup health).getD ""

/-- The antagonist is dead: the warnings end, and its room is seen in a new way. -/
def defeat (a : Antagonist) (text : String) : Act (Stage σ) Content := do
  Stage.onWorld (World.setFlag Flag.antagonistDefeated.word (.bool true))
  s.hooks.stopTicker
  Stage.onWorld (World.refreshObservation .null true)
  return .text ("\n\n".intercalate ([text, a.defeat].filter (· ≠ "")))

/-- A shot hits the antagonist, whose health has to be a number. -/
def hit (a : Antagonist) : Figure → Act (Stage σ) Content
  | .word => throw .wrongKind
  | .number health => do
    if health ≤ 0 then return .text a.alreadyDead
    else
      Stage.onWorld (World.setHealth (.text a.character) (.number (health - 1)))
      if 0 < health - 1 then return .text (hitText a health)
      else s.defeat a (hitText a health)

/-- The character stands where the player is. -/
def standsHere (w : World) (c : Character) : Bool := (Content.ofText? c.room).same w.current

/-- A shot at someone who is not to be shot. -/
def spare (character : Character) : Act (Stage σ) Content := do
  if standsHere (← get).world character then
    s.sayWith .shootForbidden [("name", .text character.name)]
  else s.say .shootNotFound

/-- **The player shoots at a character.** -/
def shoot (i : Intent) : Act (Stage σ) Content := do
  match i.character with
  | none => s.say .shootNoTarget
  | some id =>
    let character ← Stage.ask (fun w => w.characters.demand (.text id))
    let w := (← get).world
    match w.scenario.antagonist.filter (fun a => a.character = id) with
    | none => s.spare character
    | some a =>
      if ← Stage.ask World.isExposed then s.hit a character.health
      else s.say .shootUnknownTarget

/-! ## 3. Save -/

/-- **The player saves the game.** -/
def save (i : Intent) : Act (Stage σ) Content := do
  if i.hasArguments then s.say .saveMalformed
  else if ← Stage.ask World.isCornered then s.say .saveRefused
  else
    match s.hooks.save with
    | none => s.say .saveUnavailable
    | some write =>
      match ← write with
      | .ok slot => s.sayWith .saveDone [("slot", .content slot)]
      | .error obstacle => s.sayWith .saveFailed [("error", .obstacle obstacle)]

end Adventure.Setting
