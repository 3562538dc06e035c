import Adventure.Conversation
import Adventure.Line.Intent
import Adventure.Proofs.Mishaps
import Adventure.Proofs.Terms
import Adventure.Proofs.World.Documented
import Mathlib.Logic.Relation

/-!
# Deeds: the changes of a world that a line of the player can bring about

* `Cause`: what a line asks for, and the world in which it was said;
* `World.Deed`: one change of a world, with what allows it;
* `World.Sane`, `World.Fine`: a world of an adventure, and one in which no step comes to a fault;
* `plan_deed`, `flags_deed`, `entered_deed`, `location_deed`, `health_deed`: **what a change does to
  each part of the world**;
* `sane_deed`, `fine_deed`: what a change preserves;
* `World.terms`: the terms that steps on a world meet.

A deed is stated with the reasons that its cause gives for it, so that what a line can do to a world
is known without looking at the rules again.
-/

namespace Adventure

open Relation (ReflTransGen)
open Outcome

/-! ## 1. Causes -/

/-- What a line of the player asks for. -/
inductive Cause where
  /-- The line is a command, said in the given world. -/
  | command (messages : Messages) (before : World) (intent : Intent)
  /-- The line is the answer to the question for the code of a door. -/
  | code (target line : String)
  /-- The line answers the prompt of a dialogue. -/
  | choice
  /-- Nothing is left of the line. -/
  | idle

/-- The verb of a command. -/
def Cause.verb? : Cause → Option Verb
  | .command _ _ i => i.verb?
  | _ => none

/-- An intent to go through an exit of the room, to the room it leads to. -/
def Intent.HeadsFor (i : Intent) (w : World) (target : String) : Prop :=
  i.verb? = some .move ∧ ∃ d r, i.direction = some d ∧ d ≠ .invalid ∧ w.room = .ok r ∧
    r.neighbour? d = some target ∧ target ≠ exitTarget

namespace World

/-- The world with the torch on or off, as a flag and as an item. -/
def withTorch (lit : Bool) (w : World) : World :=
  { w with flags := w.flags.set .torchLit lit }.updateItem (w.scenario.torch.getD "")
    (fun i => { i with active := i.active.map (fun _ => lit) })

/-- The world after the torch was put out, as it is before the player sets off. -/
def darkened (w : World) : World := if w.flags.get .torchLit then w.withTorch false else w

/-- The entry of a room lets the player in. -/
def Admits (w : World) (target : String) : Prop :=
  ∃ r, w.rooms.get? target = some r ∧
    ∀ entry, r.entry = some entry → w.holds entry.preconditions = .ok true

end World

/-- **A command brings the player to the door of a room**: through an exit, not while the antagonist
    holds the player back, and past the entry. A refusal without a text refuses nobody. -/
def Cause.Approaches (c : Cause) (w : World) (target : String) : Prop :=
  match c with
  | .command m before i =>
    i.HeadsFor before target ∧ before.isCornered = .ok false ∧
      (m.plain .moveEntryRefused ≠ .ok .null → before.darkened.Alike w ∧ w.Admits target)
  | _ => False

/-- The line is the code of the room at whose door the player stands. -/
def Cause.Unlocks (c : Cause) (w : World) (target : String) : Prop :=
  ∃ line r, c = .code target line ∧ w.rooms.get? target = some r ∧
    Text.strip line = r.code.getD ""

/-- The torch may go out: the player leaves unhindered, or it is not needed against the
    antagonist. -/
def Cause.MayDarken (c : Cause) (w : World) : Prop :=
  (c.verb? = some .move ∧ w.isCornered = .ok false) ∨
    (c.verb? = some .deactivate ∧
      ∃ r, w.room = .ok r ∧ (r.reason = .torch → w.encounterActive = .ok false))

/-! ## 2. Deeds -/

namespace World

/-- **One change of a world of the adventure `b`**, and what allows it. -/
inductive Deed (b : World) (c : Cause) : World → World → Prop where
  | note (w : World) (text : String) : Deed b c w (w.noted text)
  /-- The antagonist wakes, when its lair is looked at. -/
  | wake (w : World) (look : c.verb? = some .examine) (lair : w.inLair = true)
      (light : w.isDark = .ok false) (asleep : w.isAsleep = .ok true) :
      Deed b c w { w with flags := w.flags.set .antagonistActive true }
  | torch (w : World) (lit : Bool) (allowed : lit = false → c.MayDarken w) :
      Deed b c w (w.withTorch lit)
  /-- A flag is set by a consequence. -/
  | flag (w : World) (f : Flag) (v : Bool) (effect : Content) (mem : effect ∈ b.effects)
      (names : effect.namesFlag f = true) : Deed b c w { w with flags := w.flags.set f v }
  /-- An item is moved by a consequence. -/
  | place (w : World) (name : String) (location : Content) (effect : Content)
      (mem : effect ∈ b.effects) (moves : effect.Moves name location) :
      Deed b c w (w.updateItem name (fun i => { i with location }))
  /-- An item of the room is taken. -/
  | pick (w : World) (name : String) (take : c.verb? = some .take)
      (here : w.itemsHere.has name = true) :
      Deed b c w (w.updateItem name (fun i => { i with location := .inventory }))
  /-- An item that is not the torch is switched. -/
  | switch (w : World) (name : String) (item : Item) (active : Bool)
      (there : w.items.get? name = some item) (switchable : item.active.isSome = true)
      (other : w.scenario.torch ≠ some name) :
      Deed b c w (w.updateItem name (fun i => { i with active := some active }))
  | refresh (w : World) (name : String) :
      Deed b c w (w.updateRoom name (fun r => { r with updated := true }))
  /-- The antagonist is hit. -/
  | strike (w : World) (a : Antagonist) (ch : Character) (n : Int)
      (shoot : c.verb? = some .shoot) (antagonist : w.scenario.antagonist = some a)
      (there : w.characters.get? a.character = some ch) (health : ch.health = .number n)
      (alive : 0 < n) :
      Deed b c w (w.updateCharacter a.character (fun c => { c with health := .number (n - 1) }))
  | defeat (w : World) (shoot : c.verb? = some .shoot) :
      Deed b c w { w with flags := w.flags.set .antagonistDefeated true }
  /-- A line of a dialogue is said. -/
  | say (w : World) (subject : String) (node : Option Figure) (position : Nat)
      (chosen : c = .choice) :
      Deed b c w (Talk.sayLine subject node position w)
  /-- A dialogue comes to its end. -/
  | part (w : World) (name : String) :
      Deed b c w (w.updateCharacter name (fun c => { c with interacted := true }))
  /-- The player comes into a room that is not locked. -/
  | enter (w : World) (target : String) (r : Room) (there : w.rooms.get? target = some r)
      (unlocked : r.locked = false) (allowed : c.Approaches w target ∨ c.Unlocks w target) :
      Deed b c w { w with current := .text target }
  | unlock (w : World) (target : String) (allowed : c.Unlocks w target) :
      Deed b c w (w.updateRoom target (fun r => { r with locked := false }))

/-! ## 3. Worlds of an adventure -/

/-- **A world of the adventure `b`.** -/
structure Sane (b w : World) : Prop where
  clean : w.flags.IsClean
  plan : w.plan = b.plan
  sound : b.inconsistencies = .ok []

/-- Only a number counts as the health of the antagonist. -/
def HasWholeAntagonist (w : World) : Prop :=
  ∀ a ch, w.scenario.antagonist = some a → w.characters.get? a.character = some ch →
    ∃ n, ch.health = .number n

theorem wholeAntagonist_iff {w : World} : w.HasWholeAntagonist ↔
    ∀ a ∈ w.scenario.antagonist, ∀ ch ∈ w.characters.get? a.character, ch.health ≠ .word := by
  constructor
  · intro whole a ha ch there
    obtain ⟨n, number⟩ := whole a ch ha there
    rw [number]
    exact nofun
  · intro counted a ch ha there
    cases health : ch.health with
    | number n => exact ⟨n, rfl⟩
    | word => exact absurd health (counted a ha ch there)

instance (w : World) : Decidable w.HasWholeAntagonist := decidable_of_iff _ wholeAntagonist_iff.symm

/-- The player is in a room. -/
def IsPlaced (w : World) : Prop := ∃ name, w.current = .text name ∧ w.rooms.has name = true

/-- No item lies in a list or a mapping. -/
def HasPlainLocations (w : World) : Prop :=
  ∀ name i, w.items.get? name = some i → i.location.isAtomic = true

/-- **A world of the adventure `b` in which no step comes to a fault.** -/
structure Fine (b w : World) : Prop where
  documented : b.IsDocumented
  placed : w.IsPlaced
  whole : w.HasWholeAntagonist
  plain : w.HasPlainLocations

section

variable {b w v : World} {c : Cause}

theorem plan_withTorch (lit : Bool) (w : World) : (w.withTorch lit).plan = w.plan := by
  unfold withTorch
  rw [plan_updateItem fun i _ => by simp [Item.bare], plan_flags]

theorem bare_sayOpen (node : Option Figure) (position : Nat) (lines : List PlayerLine) :
    (Dialogue.sayOpen node position lines).map PlayerLine.bare = lines.map PlayerLine.bare := by
  induction lines generalizing position with
  | nil => rfl
  | cons line lines ih =>
      unfold Dialogue.sayOpen
      split
      · cases position with
        | zero => rfl
        | succ k => rw [List.map_cons, List.map_cons, ih]
      · rw [List.map_cons, List.map_cons, ih]

/-- **No deed changes the plan.** -/
theorem plan_deed (h : Deed b c w v) : v.plan = w.plan := by
  cases h with
  | note => rfl
  | wake => rfl
  | torch lit => exact plan_withTorch lit w
  | flag => rfl
  | place => exact plan_updateItem fun _ _ => rfl
  | pick => exact plan_updateItem fun _ _ => rfl
  | switch name item active there switchable =>
      refine plan_updateItem fun i hi => ?_
      rw [there] at hi
      cases hi
      obtain ⟨x, hx⟩ := Option.isSome_iff_exists.mp switchable
      simp [Item.bare, hx]
  | refresh => exact plan_updateRoom fun _ => rfl
  | strike => exact plan_updateCharacter fun _ => rfl
  | defeat => rfl
  | say subject node position =>
      refine plan_updateDialogue fun d => ?_
      simp only [Dialogue.bare, bare_sayOpen]
  | part => exact plan_updateCharacter fun _ => rfl
  | enter => rfl
  | unlock => exact plan_updateRoom fun _ => rfl

/-- **Which flag a deed sets**, if any, and why. -/
theorem flags_deed (h : Deed b c w v) : v.flags = w.flags ∨
    ∃ f value, v.flags = w.flags.set f value ∧
      ((f = .antagonistActive ∧ value = true ∧ c.verb? = some .examine) ∨
        (f = .antagonistDefeated ∧ value = true ∧ c.verb? = some .shoot) ∨
        f = .torchLit ∨ ∃ effect ∈ b.effects, effect.namesFlag f = true) := by
  cases h with
  | wake look => exact .inr ⟨_, _, rfl, .inl ⟨rfl, rfl, look⟩⟩
  | defeat shoot => exact .inr ⟨_, _, rfl, .inr (.inl ⟨rfl, rfl, shoot⟩)⟩
  | torch lit => exact .inr ⟨.torchLit, lit, rfl, .inr (.inr (.inl rfl))⟩
  | flag f value effect mem names =>
      exact .inr ⟨f, value, rfl, .inr (.inr (.inr ⟨effect, mem, names⟩))⟩
  | note | place | pick | switch | refresh | strike | say | part | enter | unlock =>
      exact .inl rfl

/-- **How a deed moves the player**: not at all, or into a room that is not locked. -/
theorem entered_deed (h : Deed b c w v) : v.current = w.current ∨
    ∃ target r, v.current = .text target ∧ v.rooms.get? target = some r ∧ r.locked = false ∧
      (c.Approaches w target ∨ c.Unlocks w target) := by
  cases h with
  | enter target r there unlocked allowed =>
      exact .inr ⟨target, r, rfl, there, unlocked, allowed⟩
  | note | wake | torch | flag | place | pick | switch | refresh | strike | defeat | say | part
  | unlock => exact .inl rfl

/-- **Where an item lies after a deed**: where it lay, with the player who takes it, or where a
    consequence moves it. -/
theorem location_deed (h : Deed b c w v) {name : String} {i : Item}
    (there : v.items.get? name = some i) :
    (∃ i', w.items.get? name = some i' ∧ i.location = i'.location) ∨
      (c.verb? = some .take ∧ i.location = .inventory) ∨
      ∃ effect ∈ b.effects, effect.Moves name i.location := by
  cases h with
  | torch | switch =>
      rcases Roster.get?_update_cases there with ⟨-, i', there', rfl⟩ | ⟨-, there⟩
      · exact .inl ⟨i', there', rfl⟩
      · exact .inl ⟨i, there, rfl⟩
  | place other location effect mem moves =>
      rcases Roster.get?_update_cases there with ⟨rfl, i', -, rfl⟩ | ⟨-, there⟩
      · exact .inr (.inr ⟨effect, mem, moves⟩)
      · exact .inl ⟨i, there, rfl⟩
  | pick other take =>
      rcases Roster.get?_update_cases there with ⟨-, i', -, rfl⟩ | ⟨-, there⟩
      · exact .inr (.inl ⟨take, rfl⟩)
      · exact .inl ⟨i, there, rfl⟩
  | note | wake | flag | refresh | strike | defeat | say | part | enter | unlock =>
      exact .inl ⟨i, there, rfl⟩

/-- **Whose health a deed changes**: nobody's, or that of the antagonist, which is shot. -/
theorem health_deed (h : Deed b c w v) :
    v.characters.map Character.health = w.characters.map Character.health ∨
      ∃ a ch n, c.verb? = some .shoot ∧ w.scenario.antagonist = some a ∧
        w.characters.get? a.character = some ch ∧ ch.health = .number n ∧ 0 < n ∧
        v.characters = w.characters.update a.character
          (fun c => { c with health := .number (n - 1) }) := by
  cases h with
  | strike a ch n shoot antagonist there health alive =>
      exact .inr ⟨a, ch, n, shoot, antagonist, there, health, alive, rfl⟩
  | part name => exact .inl (Roster.map_update_of fun _ _ => rfl)
  | note | wake | torch | flag | place | pick | switch | refresh | defeat | say | enter
  | unlock => exact .inl rfl

/-- No deed puts anything but truth values under flags. -/
theorem clean_deed (clean : w.flags.IsClean) (h : Deed b c w v) : v.flags.IsClean := by
  rcases flags_deed h with same | ⟨f, value, set, -⟩
  · rw [same]
    exact clean
  · rw [set]
    exact clean.set _ _

theorem sane_deed (sane : Sane b w) (h : Deed b c w v) : Sane b v :=
  ⟨clean_deed sane.clean h, (plan_deed h).trans sane.plan, sane.sound⟩

theorem isPlaced_deed (placed : w.IsPlaced) (h : Deed b c w v) : v.IsPlaced := by
  obtain ⟨name, current, known⟩ := placed
  rcases entered_deed h with same | ⟨target, r, entered, there, -, -⟩
  · exact ⟨name, same.trans current, (has_room_of_plan (plan_deed h) name).trans known⟩
  · exact ⟨target, entered, Roster.has_of_get? there⟩

theorem wholeAntagonist_deed (whole : w.HasWholeAntagonist) (h : Deed b c w v) :
    v.HasWholeAntagonist := by
  intro a ch antagonist there
  rw [scenario_of_plan (plan_deed h)] at antagonist
  rcases health_deed h with same | ⟨a', ch', n, -, -, -, -, -, struck⟩
  · have health := congrArg (fun healths => healths.get? a.character) same
    simp only [Roster.get?_map, there, Option.map_some] at health
    obtain ⟨ch', there', health⟩ := Option.map_eq_some_iff.mp health.symm
    obtain ⟨n, number⟩ := whole a ch' antagonist there'
    exact ⟨n, health.symm.trans number⟩
  · rw [struck] at there
    rcases Roster.get?_update_cases there with ⟨-, ch'', -, rfl⟩ | ⟨-, there⟩
    · exact ⟨n - 1, rfl⟩
    · exact whole a ch antagonist there

/-- Where a documented consequence moves an item to is a place. -/
theorem isPlace_of_moves (documented : b.IsDocumented) {effect location : Content} {name : String}
    (mem : effect ∈ b.effects) (moves : effect.Moves name location) :
    location.isPlace = true := by
  obtain ⟨es, conds, cond, rfl, hc, hm, -, place⟩ := moves
  have shape := documented.2 _ mem
  simp only [Content.isDocumented, Bool.and_eq_true] at shape
  have item := Content.areItemConditions_elements shape.2 hc cond hm
  unfold Content.isItemCondition at item
  split at item
  · next fs =>
      simp only [Bool.not_true, Bool.false_or, Bool.and_eq_true] at item
      unfold Content.demand at place
      cases hl : fs.lookup "location" with
      | none => simp [hl] at item
      | some x =>
          simp only [hl, Except.ok.injEq] at place
          subst place
          simpa [hl] using item.2
  · cases item

theorem plainLocations_deed (documented : b.IsDocumented) (plain : w.HasPlainLocations)
    (h : Deed b c w v) : v.HasPlainLocations := by
  intro name i there
  rcases location_deed h there with ⟨i', there', same⟩ | ⟨-, taken⟩ | ⟨effect, mem, moves⟩
  · rw [same]
    exact plain name i' there'
  · rw [taken]
    rfl
  · rcases Content.isPlace_iff.mp (isPlace_of_moves documented mem moves) with e | ⟨t, e, -⟩
    · rw [e]
      rfl
    · rw [e]
      rfl

theorem fine_deed (fine : Fine b w) (h : Deed b c w v) : Fine b v :=
  ⟨fine.documented, isPlaced_deed fine.placed h, wholeAntagonist_deed fine.whole h,
    plainLocations_deed fine.documented fine.plain h⟩

/-- Only who chooses a line of a dialogue says one. -/
theorem dialogues_deed (other : c ≠ .choice) (h : Deed b c w v) : v.dialogues = w.dialogues := by
  cases h with
  | say _ _ _ chosen => exact absurd chosen other
  | note => rfl
  | wake => rfl
  | torch => rfl
  | flag => rfl
  | place => rfl
  | pick => rfl
  | switch => rfl
  | refresh => rfl
  | strike => rfl
  | defeat => rfl
  | part => rfl
  | enter => rfl
  | unlock => rfl

end

/-! ## 4. The terms of a world -/

/-- What any number of deeds preserve that one deed preserves. -/
theorem deeds_preserve {b w v : World} {c : Cause} {I : World → Prop}
    (step : ∀ {w v}, I w → Deed b c w v → I v) (h : ReflTransGen (Deed b c) w v) (hw : I w) :
    I v := by
  induction h with
  | refl => exact hw
  | tail _ d ih => exact step ih d

/-- **The terms of the steps on a world of the adventure `b`.** -/
def terms (b : World) (c : Cause) : Terms World where
  Alike := Alike
  Leads := ReflTransGen (Deed b c)
  Sane := Sane b
  Fine := Fine b
  Faults := Fault.IsMishap
  refl _ := .refl
  trans := .trans
  sane_of_leads sane leads := deeds_preserve sane_deed leads sane
  fine_of_leads _ fine leads := deeds_preserve fine_deed leads fine

end World

end Adventure
