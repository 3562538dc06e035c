import Adventure.Proofs.Session.Anew
import Adventure.Proofs.Turn.Runs

/-!
# What a verb is aimed at

* `Setting.look`, `Setting.recite`, `Setting.switchTo`, `Setting.employ`, `Setting.withItem`: what
  is done with an item that is known, verb by verb;
* `withItem_run`: **a verb that is aimed at a carried item does this with it**;
* `turn_aims`: **an item that the player carries is what a line is aimed at**, unless one of the
  room answers to the same word; then nobody looks at what the player carries;
* `lamp_on_the_floor`: two lamps.
-/

namespace Adventure

open Outcome

/-! ## 1. What is done with an item -/

namespace Setting

variable {σ : Type} (s : Setting σ)

/-- What an item looks like. In the dark nothing is seen. -/
def look (item : Item) : Act (Stage σ) Content := do
  if ← Stage.ask World.isDark then s.say .examineDark
  else if Text.strip item.description = "" then s.say .examineNothing
  else s.sayWith .examineText [("text", .text (Text.strip item.description))]

/-- What is written on an item. -/
def recite (item : Item) : Act (Stage σ) Content :=
  match item.writing with
  | none => s.say .readNothing
  | some text =>
    s.sayWith .readText [("name", .text item.name), ("text", .text (Text.stripEnd text))]

/-- An item is used: the first action for it whose preconditions hold. -/
def employ (id : String) : Act (Stage σ) Content := do
  match ← firstAction? (usesOf id (← get).world.actions) with
  | none => s.say .useUnusable
  | some action =>
    Stage.onWorld (World.apply action.effect)
    Stage.onWorld (World.note ("action use " ++ id))
    return .text (Text.stripEnd action.message)

/-- An item is switched on or off, unless it is already. The torch has rules of its own. -/
def switchTo (on : Bool) (id : String) (item : Item) : Act (Stage σ) Content := do
  match item.active with
  | none => s.say (if on then .activateNotActivatable else .deactivateNotDeactivatable)
  | some active =>
    if (← get).world.scenario.torch = some id then
      if on then s.lightTorch else s.darkenTorch
    else if active = on then
      s.sayWith (if on then .itemAlreadyActive else .itemNotActive) [("name", .text item.name)]
    else
      Stage.onWorld (World.setItemActive (.text id) on)
      s.sayWith (if on then .itemActivated else .itemDeactivated) [("name", .text item.name)]

/-- **What the verbs do with an item** that the player carries. -/
def withItem (id : String) (item : Item) : Verb → Act (Stage σ) Content
  | .examine => s.look item
  | .read => s.recite item
  | .activate => s.switchTo true id item
  | .deactivate => s.switchTo false id item
  | .use => s.employ id
  | _ => pure (.text "")

/-- The verbs that do something with an item that the player carries. -/
def handlers : List Verb := [.examine, .read, .activate, .deactivate, .use]

end Setting

/-! ## 2. Verbs that are aimed at a carried item -/

namespace Intent

/-- An intent is aimed at a carried item, and at nothing else. -/
structure IsFor (i : Intent) (id : String) : Prop where
  carriedItem : i.carriedItem = some id
  filled : id ≠ ""
  roomItem : i.roomItem = none
  character : i.character = none
  direction : i.direction = none

variable {i : Intent} {id : String} (aimed : i.IsFor id)

include aimed

theorem IsFor.given : givenId? i.carriedItem = some id := by
  rw [aimed.carriedItem]
  exact Option.filter_some_pos (decide_eq_true aimed.filled)

theorem IsFor.item? : i.item? = some id := by
  unfold Intent.item?
  rw [aimed.given]

theorem IsFor.isMisaimed : i.isMisaimed = false := by
  unfold Intent.isMisaimed
  rw [aimed.character, aimed.direction]
  rfl

theorem IsFor.isPointless : Setting.isPointless i = false := by
  unfold Setting.isPointless
  rw [aimed.isMisaimed, aimed.given]
  rfl

end Intent

namespace Setting

variable {σ : Type} (s : Setting σ) {p : Stage σ} {id : String} {item : Item} {i : Intent}

variable (aimed : i.IsFor id) (there : p.world.items.get? id = some item)

include aimed there

/-- Looking at a carried item, which is not the lair of the antagonist. -/
theorem examine_carried : (s.examine i).runOn p = (s.look item).runOn p := by
  have asked : (Stage.ask World.isDark).runOn p = (p.world.isDark, p) := rfl
  have outside : lairOf? p.world i = none := by
    unfold lairOf?
    rw [aimed.roomItem]
    simp
  unfold examine look
  rw [aimed.isMisaimed, aimed.item?]
  simp only
  rw [Act.runOn_bind, Act.runOn_bind, asked]
  cases p.world.isDark with
  | error e => rfl
  | ok dark =>
      cases dark with
      | true => simp only [if_true]
      | false =>
          simp only [Bool.false_eq_true, if_false]
          rw [Act.runOn_bind_ok (Act.runOn_get p), outside]
          unfold describeItem
          simp only
          rw [Act.runOn_bind_ok (Stage.ask_run (Roster.demand_text there))]

theorem read_carried : (s.read i).runOn p = (s.recite item).runOn p := by
  unfold read
  rw [aimed.item?]
  simp only
  rw [Act.runOn_bind_ok (Stage.ask_run (Roster.demand_text there))]
  rfl

theorem switch?_carried : (switch? i).runOn p =
    (.ok (item.active.map fun active => (id, item, active)), p) := by
  unfold switch?
  rw [aimed.carriedItem]
  simp only
  rw [Act.runOn_bind_ok (Stage.ask_run (Roster.demand_text there))]
  rfl

theorem turnTo_carried (on : Bool) :
    (s.turnTo i on).runOn p = (s.switchTo on id item).runOn p := by
  unfold turnTo switchTo
  rw [aimed.isPointless, if_neg Bool.false_ne_true,
    Act.runOn_bind_ok (switch?_carried aimed there)]
  cases item.active with
  | none => rfl
  | some active => rfl

/-- **A verb that is aimed at a carried item** does with it what verbs do with items. -/
theorem withItem_run {verb : Verb} (handles : verb ∈ handlers) : ∃ rule : Rule σ,
    s.ruleFor? verb = some rule ∧ (rule i).runOn p = (s.withItem id item verb).runOn p := by
  simp only [handlers, List.mem_cons, List.not_mem_nil, or_false] at handles
  rcases handles with rfl | rfl | rfl | rfl | rfl
  · exact ⟨_, rfl, s.examine_carried aimed there⟩
  · exact ⟨_, rfl, s.read_carried aimed there⟩
  · exact ⟨_, rfl, s.activate_eq i ▸ s.turnTo_carried aimed there true⟩
  · exact ⟨_, rfl, s.deactivate_eq i ▸ s.turnTo_carried aimed there false⟩
  · refine ⟨_, rfl, ?_⟩
    show (s.use i).runOn p = (s.employ id).runOn p
    unfold use
    rw [aimed.carriedItem]
    rfl

end Setting

/-! ## 3. Lines of two words -/

namespace Session

variable {s : Session} {p : Play} {line word noun id : String} {c : Command}

/-- The turn in which something is done about a line. -/
def acts (p : Play) (line : String) (deed : Act Play Content) :
    Except Fault (List Content) × Play :=
  (deed >>= fun saying => Turn.withArrival announce p.world.current
    ([saying].filter Content.isFilled) >>= Play.tell).runOn (p.heard line)

/-- **What a line is aimed at** with one word after a verb that does something with items. If the
    word names no item of the room, it is the first of the carried items that it names. Otherwise
    the line is read as if the player carried nothing, or anything else. -/
theorem turn_aims (free : p.router.waiting = none)
    (tokens : Line.tokens s.stopwords line = [word, noun])
    (command : (commandIndex? s.catalogue word).bind (s.catalogue[·]?) = some c)
    (handles : c.verb ∈ Setting.handlers)
    (carried : (Pool.ofItems p.world.carried).find? noun = some id) (filled : id ≠ "")
    (alone : (Pool.ofCharacters p.world.charactersHere).find? noun = none) :
    (¬ p.world.itemsHere.Names noun → ∃ item, p.world.carried.get? id = some item ∧
      item.answersTo noun = true ∧
        s.turn p line = acts p line (s.setting.withItem id item c.verb)) ∧
    (p.world.itemsHere.Names noun → ∀ others, s.intent? p.world line =
      Intent.ofLine? s.catalogue s.stopwords (Pool.ofItems p.world.itemsHere) others
        (Pool.ofCharacters p.world.charactersHere) line) := by
  have aims : c.verb ∉ [Verb.move, .talk, .observe, .shoot] := by
    revert handles
    cases c.verb <;> decide
  have reads := Intent.ofLine?_alone tokens command aims (Pool.ofItems p.world.itemsHere)
  constructor
  · intro absent
    obtain ⟨item, there, answers⟩ := Roster.get?_of_find? carried
    have known : (p.heard line).world.items.get? id = some item :=
      (Roster.get?_filter_iff.mp there).1
    let i : Intent := { command := some c, tokens := [word, noun], carriedItem := some id }
    have read : s.intent? p.world line = some i := by
      unfold intent?
      rw [reads, Roster.find?_eq_none.mpr absent, carried, alone]
      rfl
    have aimed : i.IsFor id := ⟨rfl, filled, rfl, rfl, rfl⟩
    obtain ⟨rule, asked, run⟩ := s.setting.withItem_run aimed known handles
    refine ⟨item, there, answers, ?_⟩
    rw [turn_follows free read rfl asked]
    unfold acts
    rw [Act.runOn_bind, Act.runOn_bind, run]
  · intro present others
    have found : (Pool.ofItems p.world.itemsHere).find? noun ≠ none := fun h =>
      Roster.find?_eq_none.mp h present
    unfold intent?
    rw [reads, reads, Option.isNone_eq_false_iff.mpr (Option.isSome_iff_ne_none.mpr found)]
    rfl

end Session

namespace Cupboard

/-- **A cupboard**: the player carries a bright lamp, and another thing lies on the floor. -/
def content (floor : String) : Content :=
  .mapping
    [("start", .text "hall"), ("rooms", .mapping [("hall", Cellar.room "Hall" [])]),
     ("items", .mapping
       [("dull", .mapping
          [("name", .text floor), ("description", .text "It is dull."), ("location", .text "hall")]),
        ("bright", .mapping
          [("name", .text "lamp"), ("description", .text "It shines."),
           ("location", .text Content.inventoryWord),
           ("activation", .mapping [("active", .bool false)]),
           ("reading", .mapping [("text", .text "Made of brass.")])])]),
     ("actions", .list
       [.mapping [("trigger", .text "use"), ("item", .text "bright"), ("message", .text "Lo!")]])]

/-- What is asked about a carried lamp in it. -/
def Asks (s : Session) (p : Play) (verb : Verb) : Prop :=
  Line.tokens s.stopwords (verb.word ++ " lamp") = [verb.word, "lamp"] ∧
    (commandIndex? s.catalogue verb.word).bind (s.catalogue[·]?) = some ⟨⟨verb.word, []⟩, verb⟩ ∧
      (Pool.ofItems p.world.carried).find? "lamp" = some "bright" ∧
        (Pool.ofCharacters p.world.charactersHere).find? "lamp" = none

instance (s : Session) (p : Play) (verb : Verb) : Decidable (Asks s p verb) := by
  unfold Asks
  infer_instance

end Cupboard

namespace Session

/-- The only lamp is carried. -/
theorem turn_aims_cupboard : ∃ shelf b s p item, Shelf.Holds shelf b ∧ Reached shelf s p ∧
    p.router.waiting = none ∧ (∀ verb ∈ Setting.handlers, Cupboard.Asks s p verb) ∧
      p.world.carried.get? "bright" = some item ∧ ∀ verb ∈ Setting.handlers,
        s.turn p (verb.word ++ " lamp") =
          acts p (verb.word ++ " lamp") (s.setting.withItem "bright" item verb) := by
  let s : Session := Cellar.session (.text "closed")
  obtain ⟨b, holds, sound, asks, absent⟩ :=
    Cellar.exists_holdsOf (Cupboard.content "stone") (.text "closed")
      (fun b => b.inconsistencies = .ok [] ∧
        (∀ verb ∈ Setting.handlers, Cupboard.Asks s (Cellar.first b) verb) ∧
          ¬ (Cellar.first b).world.itemsHere.Names "lamp") (by decide +kernel)
  have aimed (verb : Verb) (h : verb ∈ Setting.handlers) :=
    (turn_aims (s := s) (p := Cellar.first b) rfl (asks verb h).1 (asks verb h).2.1 h
      (asks verb h).2.2.1 (by decide) (asks verb h).2.2.2).1 absent
  obtain ⟨item, there, -, -⟩ := aimed .examine (by decide)
  refine ⟨_, b, s, _, item, holds, .anew (Cellar.opensOf holds sound) rfl, rfl, asks, there,
    fun verb h => ?_⟩
  obtain ⟨item', there', -, turn⟩ := aimed verb h
  rw [there] at there'
  cases there'
  exact turn

/-- **Two lamps**: the one that lies on the floor hides the one that is carried, from every verb. -/
theorem lamp_on_the_floor : ∃ shelf b s p item, Shelf.Holds shelf b ∧ Reached shelf s p ∧
    p.router.waiting = none ∧ (∀ verb ∈ Setting.handlers, Cupboard.Asks s p verb) ∧
      p.world.carried.get? "bright" = some item ∧ ∀ verb ∈ Setting.handlers,
        (s.turn p (verb.word ++ " lamp")).1 ≠
          (acts p (verb.word ++ " lamp") (s.setting.withItem "bright" item verb)).1 := by
  let s : Session := Cellar.session (.text "closed")
  obtain ⟨b, holds, sound, asks, item, there, differs⟩ :=
    Cellar.exists_holdsOf (Cupboard.content "lamp") (.text "closed")
      (fun b => b.inconsistencies = .ok [] ∧
        (∀ verb ∈ Setting.handlers, Cupboard.Asks s (Cellar.first b) verb) ∧
          ∃ item ∈ (Cellar.first b).world.carried.get? "bright", ∀ verb ∈ Setting.handlers,
            (s.turn (Cellar.first b) (verb.word ++ " lamp")).1 ≠
              (acts (Cellar.first b) (verb.word ++ " lamp")
                (s.setting.withItem "bright" item verb)).1) (by decide +kernel)
  exact ⟨_, b, s, _, item, holds, .anew (Cellar.opensOf holds sound) rfl, rfl, asks, there,
    differs⟩

end Session

end Adventure
