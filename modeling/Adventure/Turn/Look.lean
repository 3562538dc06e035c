import Adventure.Turn.Stage
import Adventure.Text.Letter

/-!
# The rules that only tell: inventory, observe, read, help, examine

* `Setting.inventory`, `Setting.observe`, `Setting.read`, `Setting.help`: they change nothing;
* `Setting.examine`: tells what an item looks like. In the antagonist's room the examination of
  its lair wakes it (`Setting.examineLair`).
-/

namespace Adventure.Setting

variable {σ : Type} (s : Setting σ)

/-! ## 1. Inventory -/

/-- One row of the inventory. -/
def inventoryRow (item : Item) : Act (Stage σ) Content :=
  match item.ammo with
  | some ammo =>
    s.sayWith .inventoryWeapon [("name", .text item.name), ("ammo", .content ammo.toContent)]
  | none => s.sayWith .inventoryItem [("name", .text item.name)]

/-- The rows of the inventory. -/
def inventoryRows : List (String × Item) → Act (Stage σ) (List Content)
  | [] => pure []
  | (_, item) :: items => do
    let row ← s.inventoryRow item
    let rows ← inventoryRows items
    return row :: rows

/-- The list of what the player carries. -/
def inventory (i : Intent) : Act (Stage σ) Content := do
  if i.hasArguments then s.say .inventoryMalformed
  else
    match (← get).world.carried.entries with
    | [] => s.say .inventoryEmpty
    | items => do
      let header ← s.say .inventoryHeader
      let rows ← s.inventoryRows items
      joined "\n" (header :: .text "" :: rows)

/-! ## 2. Observe and read -/

/-- What is seen in the room. -/
def observe (i : Intent) : Act (Stage σ) Content := do
  if i.direction = some .invalid then s.say .observeMalformed
  else if ← Stage.ask World.isDark then s.say .observeDark
  else
    match (← Stage.ask World.room).currentObservation with
    | none => s.say .observeNothing
    | some text => s.sayWith .observeText [("text", .text (Text.stripEnd text))]

/-- What is written on an item. -/
def read (i : Intent) : Act (Stage σ) Content := do
  match i.item? with
  | none => s.say .readUnknown
  | some id =>
    let item ← Stage.ask (fun w => w.items.demand (.text id))
    match item.writing with
    | none => s.say .readNothing
    | some text =>
      s.sayWith .readText [("name", .text item.name), ("text", .text (Text.stripEnd text))]

/-! ## 3. Help -/

/-- A name filled up with blanks. -/
def padded (width : Nat) (name : String) : String :=
  name ++ String.ofList (List.replicate (width - name.length) ' ')

/-- The aliases that help shows: those in small letters, as lines are read in small letters. -/
def shownAliases (c : Command) : List String :=
  c.aliases.filter (fun a => Text.isAllSmall a.toList)

/-- One row of the help: a command and its shown aliases. -/
def helpRow (width : Nat) (c : Command) : String :=
  Text.stripEnd ("  " ++ padded width c.name ++ "  " ++ ", ".intercalate (shownAliases c))

/-- The length of the longest name of a command. -/
def nameWidth (catalogue : List Command) : Nat :=
  catalogue.foldl (fun n c => max n c.name.length) 0

/-- The list of the commands. -/
def help (_ : Intent) : Act (Stage σ) Content := do
  let header ← s.say .helpHeader
  let instructions ← s.say .helpInstructions
  let rows := s.catalogue.map (helpRow (nameWidth s.catalogue))
  match instructions with
  | .text instructions =>
    joined "\n"
      (header :: ("" :: rows ++ ["", Text.stripEnd instructions]).map Content.text)
  | _ => throw .noSuchPart

/-! ## 4. Examine -/

/-- The lair of the antagonist: the first look wakes it, a later one finds what it hides. -/
def examineLair (a : Antagonist) : Act (Stage σ) Content := do
  if ← Stage.ask World.isAsleep then
    Stage.onWorld (World.setFlag Flag.antagonistActive.word (.bool true))
    s.hooks.startTicker
    return .text (Text.stripEnd a.reveal)
  else if (givenId? a.hintItem).any (← get).world.itemsHere.has then
    s.sayWith .examineText [("text", .text a.hint)]
  else s.sayWith .examineText [("text", .text a.exhausted)]

/-- The description of an item. -/
def describeItem (id : String) : Act (Stage σ) Content := do
  let item ← Stage.ask (fun w => w.items.demand (.text id))
  let text := Text.strip item.description
  if text = "" then s.say .examineNothing
  else s.sayWith .examineText [("text", .text text)]

/-- The antagonist, if looking at the item of an intent means looking at its lair. -/
def lairOf? (w : World) (i : Intent) : Option Antagonist :=
  w.scenario.antagonist.filter (fun a => i.roomItem = some a.triggerItem ∧ w.inLair)

/-- What an item looks like. -/
def examine (i : Intent) : Act (Stage σ) Content := do
  match i.isMisaimed, i.item? with
  | false, some id =>
    if ← Stage.ask World.isDark then s.say .examineDark
    else
      match lairOf? (← get).world i with
      | some a => s.examineLair a
      | none => s.describeItem id
  | _, _ => s.say .examineUnknown

end Adventure.Setting
