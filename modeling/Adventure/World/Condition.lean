import Adventure.World.Change

/-!
# Preconditions and effects

Both are mappings with the keys `flags` and `item_conditions`; a precondition may have an
`is_location` too, an effect a `refresh_observation`.

* `World.holds`: a precondition holds in a world;
* `World.apply`: an effect is brought about.
-/

namespace Adventure.World

/-! ## 1. Preconditions -/

/-- An item is where a condition wants it: the item exists, and lies in the named place if one is
    named. -/
def itemConditionHolds (w : World) (cond : Content) : Except Fault Bool := do
  let es ← cond.entries
  let item ← w.items.find ((es.lookup "item").getD (.text ""))
  match item with
  | none => return false
  | some i =>
    let location := (es.lookup "location").getD .null
    return location == .null || i.location.same location

/-- All items are where the conditions want them; the first that is not decides. -/
def itemConditionsHold (w : World) : List Content → Except Fault Bool
  | [] => .ok true
  | cond :: conds => do
    if ← w.itemConditionHolds cond then w.itemConditionsHold conds else return false

/-- What stands under a name of the flags has the value that a condition wants. -/
def flagHolds (w : World) (name : String) (value : Content) : Except Fault Bool :=
  (w.flags.holding name).map (fun holding => holding.same value)

/-- All flags have the values that the conditions want; the first that has not decides. -/
def flagsHold (w : World) : List (String × Content) → Except Fault Bool
  | [] => .ok true
  | (name, value) :: es => do
    if ← w.flagHolds name value then w.flagsHold es else return false

/-- The player is where the condition wants. -/
def placeHolds (w : World) (place : Content) : Bool := !place.isFilled || w.current.same place

/-- **A precondition holds**: place, items and flags are as it wants them, asked in this order. A
    precondition that is not filled holds always. -/
def holds (w : World) (pre : Content) : Except Fault Bool :=
  if !pre.isFilled then .ok true
  else do
    let es ← pre.entries
    if !w.placeHolds ((es.lookup "is_location").getD .null) then return false
    let conds ← ((es.lookup "item_conditions").getD .null).filledElements
    if !(← w.itemConditionsHold conds) then return false
    let flags ← ((es.lookup "flags").getD .null).filledEntries
    w.flagsHold flags

/-! ## 2. Effects -/

/-- Sets flags, one after the other. -/
def setFlags : List (String × Content) → Act World Unit
  | [] => pure ()
  | (name, value) :: es => do
    setFlag name value
    setFlags es

/-- Moves items, one after the other. -/
def moveItems : List Content → Act World Unit
  | [] => pure ()
  | cond :: conds => do
    let item ← Act.ofExcept (cond.demand "item")
    let location ← Act.ofExcept (cond.demand "location")
    moveItem item location
    moveItems conds

/-- **An effect is brought about**: flags, then items, then the observation of the player's
    room. -/
def apply (effect : Content) : Act World Unit :=
  if !effect.isFilled then pure ()
  else do
    let es ← Act.ofExcept effect.entries
    let flags ← Act.ofExcept ((es.lookup "flags").getD .null).filledEntries
    setFlags flags
    let conds ← Act.ofExcept ((es.lookup "item_conditions").getD .null).filledElements
    moveItems conds
    if ((es.lookup "refresh_observation").getD .null).isFilled then
      refreshObservation .null false

end Adventure.World
