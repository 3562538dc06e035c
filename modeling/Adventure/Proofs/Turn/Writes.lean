import Adventure.Proofs.Frame
import Adventure.Proofs.Turn.Runs

/-!
# What the rule of each verb writes

* `World.parted`, `World.switched`, `World.torched`, `World.dimmed`: the worlds that the verbs lead
  to;
* `World.Refuses`, `World.Enacts`: the refusal of a room that speaks, the action that is taken;
* `Intent.Yields`: **all that an intent can make of a world**, verb by verb;
* `Hooks.IsModest`: a host that writes nothing but what a dialogue writes that is over at once;
* `Setting.rule_makes`: the rule of a verb makes of a world what its intent can make of it;
* `yields_change`: other ways to bring consequences about, if they come to the same;
* `yields_granted`: with documented consequences it brings about exactly what they say.

The consequences and the torch are parameters of `Intent.Yields`, as the program brings them about
(`World.brought`, `World.withTorch`) and as they are meant (`World.granted`, `World.torched`).
-/

namespace Adventure

open Outcome

/-! ## 1. Worlds -/

namespace World

/-- The world in which a dialogue with a character is over. -/
def parted (name : String) (w : World) : World :=
  w.updateCharacter name (fun c => { c with interacted := true })

/-- The world in which an item is on or off, if it can be. -/
def switched (name : String) (active : Bool) (w : World) : World :=
  w.updateItem name (fun i => { i with active := i.active.map fun _ => active })

/-- The world with the torch on or off, as a flag and as an item if there is one. -/
def torched (lit : Bool) (w : World) : World :=
  let v := { w with flags := w.flags.set .torchLit lit }
  match w.scenario.torch with
  | some torch => v.switched torch lit
  | none => v

/-- The world after the torch was put out, if it was on. -/
def dimmed (torch : Bool → World → World) (w : World) : World :=
  if w.flags.get .torchLit then torch false w else w

/-- **The refusal of a room that speaks**: the first whose conditions hold, if those for entering do
    not. -/
def Refuses (w : World) (target : String) (gate : Gate) : Prop :=
  ∃ r entry before after, w.rooms.get? target = some r ∧ r.entry = some entry ∧
    w.holds entry.preconditions = .ok false ∧ entry.refusals = before ++ gate :: after ∧
    (∀ other ∈ before, w.holds other.preconditions = .ok false) ∧
    w.holds gate.preconditions = .ok true

/-- **The action that is taken** with an item: the first for using it whose conditions hold. -/
def Enacts (w : World) (item : String) (a : Action) : Prop :=
  ∃ before after, Setting.usesOf item w.actions = before ++ a :: after ∧
    (∀ other ∈ before, w.holds other.preconditions = .ok false) ∧
    w.holds a.preconditions = .ok true

section

variable {b w : World}

theorem dimmed_notes (notes : List String) :
    { w with notes }.dimmed withTorch = { w.dimmed withTorch with notes } := by
  by_cases lit : w.flags.get .torchLit = true
  · simp only [dimmed, if_pos lit]
    rfl
  · simp only [dimmed, if_neg lit]

theorem sane_dimmed (sane : Sane b w) : Sane b (w.dimmed withTorch) := by
  unfold dimmed
  split
  · exact ⟨sane.clean.set _ _, (plan_withTorch false _).trans sane.plan, sane.sound⟩
  · exact sane

theorem placed_dimmed (placed : w.IsPlaced) : (w.dimmed withTorch).IsPlaced := by
  unfold dimmed
  split
  · exact placed
  · exact placed

theorem mem_of_refuses {target : String} {gate : Gate} (sane : Sane b w)
    (h : w.Refuses target gate) : gate.effect ∈ b.effects := by
  obtain ⟨r, entry, first, after, there, gated, -, split, -⟩ := h
  rw [← effects_of_plan sane.plan]
  refine mem_effects_of_refusal there gated ?_
  rw [split]
  exact List.mem_append_right _ (List.mem_cons_self ..)

/-- That an item goes to the player is no change of the plan. -/
theorem sane_picked (sane : Sane b w) (id : String) :
    Sane b (w.updateItem id (fun i => { i with location := .inventory })) :=
  ⟨sane.clean, (plan_updateItem (f := fun i => { i with location := .inventory })
    fun _ _ => rfl).trans sane.plan, sane.sound⟩

theorem mem_of_take {id : String} {item : Item} {gate : Gate} (sane : Sane b w)
    (there : w.items.get? id = some item) (gated : item.take = some gate) :
    gate.effect ∈ b.effects := by
  rw [← effects_of_plan sane.plan]
  exact mem_effects_of_take there gated

theorem mem_of_enacts {id : String} {a : Action} (sane : Sane b w) (h : w.Enacts id a) :
    a.effect ∈ b.effects := by
  obtain ⟨before, after, split, -⟩ := h
  have among : a ∈ Setting.usesOf id w.actions := by
    rw [split]
    exact List.mem_append_right _ (List.mem_cons_self ..)
  rw [← effects_of_plan sane.plan]
  exact mem_effects_of_action (List.mem_of_mem_filter among)

theorem refuses_notes {target : String} {gate : Gate} {notes : List String}
    (h : { w with notes }.Refuses target gate) : w.Refuses target gate := by
  unfold Refuses at h ⊢
  simpa only [holds_notes] using h

theorem enacts_notes {id : String} {a : Action} {notes : List String}
    (h : { w with notes }.Enacts id a) : w.Enacts id a := by
  unfold Enacts at h ⊢
  simpa only [holds_notes] using h

end

end World

/-! ## 2. What an intent can make of a world -/

/-- **All that an intent can make of a world**, but for notes. -/
inductive Intent.Yields (bring : Content → World → World) (torch : Bool → World → World)
    (i : Intent) (w : World) : World → Prop where
  | nothing : Yields bring torch i w w
  /-- A dialogue with the character that is addressed is over. -/
  | talk (id : String) (verb : i.verb? = some .talk) (addressed : i.character = some id) :
      Yields bring torch i w (w.parted id)
  /-- The antagonist wakes. -/
  | examine (verb : i.verb? = some .examine) (asleep : w.flags.get .antagonistActive = false) :
      Yields bring torch i w w.woken
  /-- An item of the room goes to the player, and then what follows from taking it. -/
  | take (id : String) (item : Item) (verb : i.verb? = some .take)
      (aimed : i.roomItem = some id) (here : w.itemsHere.get? id = some item)
      (collectible : item.collectible = true)
      (allowed : ∀ gate ∈ item.take, w.holds gate.preconditions = .ok true) :
      Yields bring torch i w (bring ((item.take.map Gate.effect).getD .null)
        (w.updateItem id (fun i => { i with location := .inventory })))
  /-- The player sets off without getting any further. -/
  | depart (target : String) (heads : i.HeadsFor w target) (free : w.isCornered = .ok false) :
      Yields bring torch i w (w.dimmed torch)
  /-- The player is refused. -/
  | refused (target : String) (gate : Gate) (heads : i.HeadsFor w target)
      (free : w.isCornered = .ok false) (refuses : (w.dimmed torch).Refuses target gate) :
      Yields bring torch i w (bring gate.effect (w.dimmed torch))
  /-- The player comes into the room. -/
  | enter (target : String) (heads : i.HeadsFor w target) (free : w.isCornered = .ok false) :
      Yields bring torch i w { w.dimmed torch with current := .text target }
  /-- The player comes into the room although it refuses the player, but without a text. -/
  | slip (target : String) (gate : Gate) (heads : i.HeadsFor w target)
      (free : w.isCornered = .ok false) (refuses : (w.dimmed torch).Refuses target gate) :
      Yields bring torch i w
        { bring gate.effect (w.dimmed torch) with current := .text target }
  /-- The antagonist loses one health. -/
  | hit (a : Antagonist) (ch : Character) (n : Int) (verb : i.verb? = some .shoot)
      (hits : Setting.Hits i w a ch n) (more : 1 < n) :
      Yields bring torch i w (w.struck a (n - 1))
  /-- The antagonist loses its last health, and the room of the player is seen anew. -/
  | defeat (a : Antagonist) (ch : Character) (verb : i.verb? = some .shoot)
      (hits : Setting.Hits i w a ch 1) :
      Yields bring torch i w ((w.struck a 0).vanquished.refreshed true)
  /-- A carried item that is not the torch is switched. -/
  | switch (id : String) (item : Item) (active : Bool)
      (verb : i.verb? = some (if active then .activate else .deactivate))
      (aimed : i.carriedItem = some id) (carried : w.carried.get? id = some item)
      (switchable : item.active.isSome = true) (other : w.scenario.torch ≠ some id) :
      Yields bring torch i w (w.switched id active)
  /-- The torch is switched, which is carried. -/
  | torch (id : String) (item : Item) (lit : Bool)
      (verb : i.verb? = some (if lit then .activate else .deactivate))
      (aimed : i.carriedItem = some id) (carried : w.carried.get? id = some item)
      (switchable : item.active.isSome = true) (same : w.scenario.torch = some id) :
      Yields bring torch i w (torch lit w)
  /-- A carried item is used. -/
  | use (id : String) (a : Action) (verb : i.verb? = some .use) (aimed : i.carriedItem = some id)
      (enacts : w.Enacts id a) : Yields bring torch i w (bring a.effect w)

/-- The verb of an intent writes nothing, or there is none. -/
def Intent.IsQuiet (i : Intent) : Prop :=
  ∀ verb ∈ i.verb?, verb ∈ [Verb.inventory, .observe, .read, .help, .save, .quit]

/-- **A quiet intent leaves a world as it is.** -/
theorem Intent.yields_quiet {bring : Content → World → World} {torch : Bool → World → World}
    {i : Intent} {w v : World} (quiet : i.IsQuiet) (h : i.Yields bring torch w v) : v = w := by
  have loud {verb : Verb} (e : i.verb? = some verb)
      (other : verb ∉ [Verb.inventory, .observe, .read, .help, .save, .quit]) : v = w :=
    absurd (quiet verb e) other
  cases h with
  | nothing => rfl
  | talk id verb => exact loud verb (by decide)
  | examine verb => exact loud verb (by decide)
  | take id item verb => exact loud verb (by decide)
  | depart target heads => exact loud heads.1 (by decide)
  | refused target gate heads => exact loud heads.1 (by decide)
  | enter target heads => exact loud heads.1 (by decide)
  | slip target gate heads => exact loud heads.1 (by decide)
  | hit a ch n verb => exact loud verb (by decide)
  | defeat a ch verb => exact loud verb (by decide)
  | switch id item active verb => exact loud verb (by cases active <;> decide)
  | torch id item lit verb => exact loud verb (by cases lit <;> decide)
  | use id a verb => exact loud verb (by decide)

/-! ## 3. Hosts -/

namespace Stage

variable {σ α : Type}

/-- The world rests, but for notes. -/
def rests : Frame (Stage σ) where
  Within p q := p.world.Alike q.world
  refl p := .refl p.world
  trans := .trans

theorem rests_note (text : String) : rests.Holds (onWorld (World.note text) : Act (Stage σ) Unit) :=
  fun p => World.alike_noted text p.world

theorem rests_redirect (k : Pending) : rests.Holds (redirect k : Act (Stage σ) Unit) :=
  fun p => .refl p.world

end Stage

/-- **A host that writes nothing**, but that a dialogue may be over as soon as it has begun. -/
structure Hooks.IsModest {σ : Type} (h : Hooks σ) : Prop where
  startTicker : Stage.rests.Holds h.startTicker
  stopTicker : Stage.rests.Holds h.stopTicker
  stops : ∀ p, ∃ q, h.stopTicker.runOn p = (.ok (), q)
  save : ∀ write ∈ h.save, Stage.rests.Holds write
  beginDialogue : ∀ id (p : Stage σ), ∃ v : World, (v = p.world ∨ v = p.world.parted id) ∧
    v.Alike ((h.beginDialogue id).runOn p).2.world

namespace Setting

variable {σ : Type} {s : Setting σ} {i : Intent} {p : Stage σ}

open Stage

/-! ## 4. Rules that write nothing -/

theorem rests_say (ph : Phrase) : rests.Holds (s.say ph) := Frame.holds_ofExcept _

theorem rests_inventory (i : Intent) : rests.Holds (s.inventory i) := by
  have rows (items : List (String × Item)) : rests.Holds (s.inventoryRows items) := by
    induction items with
    | nil => exact Frame.holds_pure _
    | cons e items ih =>
        unfold inventoryRows
        refine Frame.holds_bind ?_ fun _ => Frame.holds_bind ih fun _ => Frame.holds_pure _
        unfold inventoryRow
        split
        · exact Frame.holds_ofExcept _
        · exact Frame.holds_ofExcept _
  unfold inventory
  split
  · exact rests_say _
  · refine Frame.holds_get fun p => ?_
    split
    · exact rests_say _
    · refine Frame.holds_bind (rests_say _) fun _ => Frame.holds_bind (rows _) fun _ => ?_
      exact Frame.holds_ofExcept _

theorem rests_observe (i : Intent) : rests.Holds (s.observe i) := by
  unfold observe
  split
  · exact rests_say _
  · refine Frame.holds_bind (Frame.holds_reading _) fun dark => ?_
    split
    · exact rests_say _
    · refine Frame.holds_bind (Frame.holds_reading _) fun room => ?_
      split
      · exact rests_say _
      · exact Frame.holds_ofExcept _

theorem rests_read (i : Intent) : rests.Holds (s.read i) := by
  unfold read
  split
  · exact rests_say _
  · refine Frame.holds_bind (Frame.holds_reading _) fun item => ?_
    split
    · exact rests_say _
    · exact Frame.holds_ofExcept _

theorem rests_help (i : Intent) : rests.Holds (s.help i) := by
  unfold help
  refine Frame.holds_bind (rests_say _) fun _ => Frame.holds_bind (rests_say _) fun _ => ?_
  split
  · exact Frame.holds_ofExcept _
  · exact Frame.holds_throw _

theorem rests_save (modest : s.hooks.IsModest) (i : Intent) : rests.Holds (s.save i) := by
  unfold save
  split
  · exact rests_say _
  · refine Frame.holds_bind (Frame.holds_reading _) fun cornered => ?_
    split
    · exact rests_say _
    · split
      · exact rests_say _
      · next write e =>
          refine Frame.holds_bind (modest.save write e) fun r => ?_
          split
          · exact Frame.holds_ofExcept _
          · exact Frame.holds_ofExcept _

/-! ## 5. Talk and examine -/

variable {b : World} {bring : Content → World → World} {torch : Bool → World → World}

/-- The state after a rule makes of the world of the state before it what the intent can make of
    it. -/
def Makes (bring : Content → World → World) (torch : Bool → World → World) (i : Intent)
    (p q : Stage σ) : Prop := ∃ v, i.Yields bring torch p.world v ∧ v.Alike q.world

theorem makes_nothing {q : Stage σ} (h : rests.Within p q) : Makes bring torch i p q :=
  ⟨p.world, .nothing, h⟩

theorem Makes.rests {q r : Stage σ} (h : Makes bring torch i p q) (k : rests.Within q r) :
    Makes bring torch i p r := by
  obtain ⟨v, yields, alike⟩ := h
  exact ⟨v, yields, alike.trans k⟩

theorem makes_talk (modest : s.hooks.IsModest) (verb : i.verb? = some .talk) :
    Makes bring torch i p ((s.talk i).runOn p).2 := by
  have same : Makes bring torch i p p := makes_nothing (rests.refl p)
  unfold talk
  split
  · split
    · exact same
    · exact same
  · next id addressed =>
      refine ask_elim same fun character _ => ask_elim same fun holds _ => ?_
      split
      · split
        · exact same
        · obtain ⟨v, rfl | rfl, alike⟩ := modest.beginDialogue id p
          · exact makes_nothing alike
          · exact ⟨_, .talk id verb addressed, alike⟩
      · exact same

theorem makes_examine (modest : s.hooks.IsModest) (clean : p.world.flags.IsClean)
    (verb : i.verb? = some .examine) : Makes bring torch i p ((s.examine i).runOn p).2 := by
  rcases s.examine_run i clean with e | ⟨-, sleeps, e⟩
  · rw [e]
    exact makes_nothing (rests.refl p)
  · rw [e]
    refine ⟨_, .examine verb ?_, modest.startTicker { p with world := p.world.woken }⟩
    rw [World.isAsleep_eq clean] at sleeps
    simpa using (Bool.and_eq_true_iff.mp (Except.ok.inj sleeps)).1

/-! ## 6. Shoot -/

theorem makes_shoot (modest : s.hooks.IsModest) (clean : p.world.flags.IsClean)
    (verb : i.verb? = some .shoot) : Makes bring torch i p ((s.shoot i).runOn p).2 := by
  rcases s.shoot_misses i p with e | ⟨a, ch, n, hits⟩
  · rw [e]
    exact makes_nothing (rests.refl p)
  · rcases s.shoot_hits i clean.1 modest.stops hits with
      ⟨more, e⟩ | ⟨rfl, q, r, notes, stopped, e, -⟩
    · rw [e]
      exact ⟨_, .hit a ch n verb hits more, .refl _⟩
    · rw [e]
      refine ⟨_, .defeat a ch verb hits, ?_⟩
      have silent := modest.stopTicker { p with world := (p.world.struck a 0).vanquished }
      rw [stopped] at silent
      obtain ⟨notes', e'⟩ := silent
      simp only at e'
      rw [e']
      exact ⟨notes, rfl⟩

/-! ## 7. Take and use -/

/-- What a consequence is brought about with: the notes do not count. -/
theorem brought_notes {w : World} (sane : World.Sane b w) {effect : Content}
    (mem : effect = .null ∨ effect ∈ b.effects) (notes : List String) :
    (w.brought effect).Alike ({ w with notes }.brought effect) := by
  rcases mem with rfl | mem
  · exact ⟨notes, rfl⟩
  · exact (World.meets_apply (c := .idle) (P := fun _ => True) mem ⟨notes, rfl⟩ sane trivial).alike

/-- A consequence is brought about, and then nothing is written. -/
theorem brought_then {α : Type} {r : Act (Stage σ) α} (effect : Content) (h : rests.Holds r)
    (p : Stage σ) : (p.world.brought effect).Alike
      ((Stage.onWorld (World.apply effect) >>= fun _ => r).runOn p).2.world := by
  have run : (Stage.onWorld (World.apply effect)).runOn p =
      (((World.apply effect).runOn p.world).1, { p with world := p.world.brought effect }) := rfl
  rw [Act.runOn_bind, run]
  cases ((World.apply effect).runOn p.world).1 with
  | error e => exact .refl _
  | ok => exact h _

/-- **An item goes to the player**, with what follows from it. -/
theorem carry_run (s : Setting σ) (sane : World.Sane b p.world) {id : String} {item : Item}
    (there : p.world.items.get? id = some item) {effect : Content}
    (mem : effect = .null ∨ effect ∈ b.effects) :
    ((p.world.updateItem id (fun i => { i with location := .inventory })).brought effect).Alike
      ((s.carry id item effect).runOn p).2.world := by
  obtain ⟨notes, moved⟩ := World.moveItem_run there .inventory
  unfold carry
  rw [Act.runOn_bind_ok (Stage.onWorld_run moved)]
  exact (brought_notes (World.sane_picked sane id) mem notes).trans (brought_then effect (Frame.holds_ofExcept _) _)

theorem rests_missTake (i : Intent) : rests.Holds (s.missTake i) := by
  refine Frame.holds_get fun p => ?_
  split
  · exact rests_say _
  · exact rests_say _

theorem makes_take (sane : World.Sane b p.world) (fits : i.FitsIn p.world)
    (verb : i.verb? = some .take) :
    Makes World.brought torch i p ((s.take i).runOn p).2 := by
  have same : Makes World.brought torch i p p := makes_nothing (rests.refl p)
  unfold take
  split
  · exact makes_nothing (rests_missTake i p)
  · next id aimed =>
      refine ask_elim same fun item found => ?_
      obtain ⟨_, e, there⟩ := Roster.demand_eq_ok found
      cases e
      have here : p.world.itemsHere.get? id = some item :=
        World.get?_itemsHere (fits.roomItem id aimed) there
      split
      · exact same
      · next collectible =>
          have collectible : item.collectible = true := by simpa using collectible
          split
          · next none =>
              refine ⟨_, .take id item verb aimed here collectible ?_, ?_⟩
              · rw [none]
                exact nofun
              · rw [none]
                exact carry_run s sane there (.inl rfl)
          · next gate gated =>
              refine ask_elim same fun holds told => ?_
              split
              · next passes =>
                  subst passes
                  refine ⟨_, .take id item verb aimed here collectible ?_, ?_⟩
                  · rw [gated]
                    rintro _ ⟨⟩
                    exact told
                  · rw [gated]
                    exact carry_run s sane there (.inr (World.mem_of_take sane there gated))
              · split
                · exact same
                · exact same

/-- **The first action whose conditions hold** is looked for, and nothing changes. -/
theorem firstAction?_run (actions : List Action) (p : Stage σ) :
    ∃ r, (firstAction? actions).runOn p = (r, p) ∧ ∀ a, r = .ok (some a) →
      ∃ before after, actions = before ++ a :: after ∧
        (∀ other ∈ before, p.world.holds other.preconditions = .ok false) ∧
        p.world.holds a.preconditions = .ok true := by
  induction actions with
  | nil => exact ⟨.ok none, rfl, fun a e => by cases e⟩
  | cons action actions ih =>
      have asked : (Stage.ask fun w => w.holds action.preconditions).runOn p =
          (p.world.holds action.preconditions, p) := rfl
      unfold firstAction?
      cases told : p.world.holds action.preconditions with
      | error e =>
          refine ⟨.error e, Act.runOn_bind_error (asked.trans (by rw [told])), fun a found => ?_⟩
          cases found
      | ok holds =>
          rw [Act.runOn_bind_ok (asked.trans (by rw [told]))]
          cases holds with
          | true =>
              refine ⟨.ok (some action), rfl, fun a e => ?_⟩
              cases e
              exact ⟨[], actions, rfl, fun _ mem => absurd mem List.not_mem_nil, told⟩
          | false =>
              obtain ⟨r, run, first⟩ := ih
              refine ⟨r, run, fun a e => ?_⟩
              obtain ⟨before, after, rfl, fail, holds⟩ := first a e
              refine ⟨action :: before, after, rfl, fun other mem => ?_, holds⟩
              rcases List.mem_cons.mp mem with rfl | mem
              · exact told
              · exact fail other mem

theorem makes_use (verb : i.verb? = some .use) :
    Makes World.brought torch i p ((s.use i).runOn p).2 := by
  have same : Makes World.brought torch i p p := makes_nothing (rests.refl p)
  unfold use
  split
  · exact same
  · next id aimed =>
      rw [Act.runOn_bind_ok (Act.runOn_get p)]
      obtain ⟨r, run, first⟩ := firstAction?_run (usesOf id p.world.actions) p
      rw [Act.runOn_bind, run]
      cases r with
      | error e => exact same
      | ok found =>
          cases found with
          | none => exact same
          | some a =>
              refine ⟨_, .use id a verb aimed (first a rfl), brought_then a.effect ?_ p⟩
              exact Frame.holds_bind (rests_note _) fun _ => Frame.holds_pure _

/-! ## 8. Move -/

/-- The torch is out when the player sets off. -/
theorem darken_run (s : Setting σ) (plain : p.world.flags.IsPlain) : ∃ r notes,
    s.darken.runOn p =
      (r, { p with world := { p.world.dimmed World.withTorch with notes } }) := by
  have asked : (Stage.ask fun w => w.flags.isSet .torchLit).runOn p =
      (.ok (p.world.flags.get .torchLit), p) := by
    show (p.world.flags.isSet .torchLit, p) = _
    rw [Flags.isSet_eq plain.1]
  unfold darken World.dimmed
  rw [Act.runOn_bind_ok asked]
  by_cases lit : p.world.flags.get .torchLit = true
  · rw [if_pos lit, if_pos lit, Act.runOn_bind_ok (Stage.onWorld_run (World.setTorch_run plain false))]
    cases said : s.messages.plain .torchSwitchedOff with
    | error e =>
        rw [Act.runOn_bind_error (e := e) (by show (s.messages.plain _, _) = _; rw [said])]
        exact ⟨_, _, rfl⟩
    | ok x =>
        rw [Act.runOn_bind_ok (x := x) (by show (s.messages.plain _, _) = _; rw [said])]
        exact ⟨_, _, rfl⟩
  · rw [if_neg lit, if_neg lit]
    exact ⟨_, p.world.notes, rfl⟩

theorem refuseBy_run (s : Setting σ) (gate : Gate) (p : Stage σ) :
    ((s.refuseBy gate).runOn p).2 = { p with world := p.world.brought gate.effect } := by
  unfold refuseBy
  refine Act.runOn_bind_snd fun _ q => ?_
  simp only
  split
  · rfl
  · rfl

/-- **The first refusal whose conditions hold** is brought about, if there is one. -/
theorem firstRefusal_run (s : Setting σ) (gates : List Gate) (p : Stage σ) :
    ((s.firstRefusal gates).runOn p).2 = p ∨ ∃ before gate after, gates = before ++ gate :: after ∧
      (∀ other ∈ before, p.world.holds other.preconditions = .ok false) ∧
      p.world.holds gate.preconditions = .ok true ∧
      ((s.firstRefusal gates).runOn p).2 = { p with world := p.world.brought gate.effect } := by
  induction gates with
  | nil => exact .inl rfl
  | cons gate gates ih =>
      have asked : (Stage.ask fun w => w.holds gate.preconditions).runOn p =
          (p.world.holds gate.preconditions, p) := rfl
      unfold firstRefusal
      cases told : p.world.holds gate.preconditions with
      | error e =>
          rw [Act.runOn_bind_error (asked.trans (by rw [told]))]
          exact .inl rfl
      | ok holds =>
          rw [Act.runOn_bind_ok (asked.trans (by rw [told]))]
          cases holds with
          | true =>
              exact .inr ⟨[], gate, gates, rfl, fun _ mem => absurd mem List.not_mem_nil, told,
                refuseBy_run s gate p⟩
          | false =>
              rcases ih with same | ⟨before, first, after, rfl, fail, holds, run⟩
              · exact .inl same
              · refine .inr ⟨gate :: before, first, after, rfl, fun other mem => ?_, holds, run⟩
                rcases List.mem_cons.mp mem with rfl | mem
                · exact told
                · exact fail other mem

/-- **What comes of the entry of a room**: nothing, or what follows from being refused. -/
theorem entryRefusal_run (s : Setting σ) (target : String) (p : Stage σ) :
    ((s.entryRefusal target).runOn p).2 = p ∨ ∃ gate, p.world.Refuses target gate ∧
      ((s.entryRefusal target).runOn p).2 = { p with world := p.world.brought gate.effect } := by
  let C (q : Stage σ) : Prop := q = p ∨ ∃ gate, p.world.Refuses target gate ∧
    q = { p with world := p.world.brought gate.effect }
  show C _
  have same : C p := .inl rfl
  unfold entryRefusal
  refine ask_elim same fun room found => ?_
  obtain ⟨_, e, there⟩ := Roster.demand_eq_ok found
  cases e
  split
  · exact same
  · next entry gated =>
      refine ask_elim same fun holds told => ?_
      split
      · exact same
      · next fails =>
          have fails : holds = false := by simpa using fails
          subst fails
          rcases s.firstRefusal_run entry.refusals p with e | ⟨before, gate, after, split, fail, holds, e⟩
          · exact .inl e
          · exact .inr ⟨gate, ⟨room, entry, before, after, there, gated, told, split, fail, holds⟩, e⟩

/-- The player is in the room, or at its door. -/
theorem step_run (s : Setting σ) (target : String) (p : Stage σ) :
    ∃ v : World, (v = p.world ∨ v = { p.world with current := .text target }) ∧
      v.Alike ((s.step target).runOn p).2.world := by
  let C (q : Stage σ) : Prop := ∃ v : World,
    (v = p.world ∨ v = { p.world with current := .text target }) ∧ v.Alike q.world
  show C _
  have same : C p := ⟨_, .inl rfl, .refl _⟩
  unfold step
  refine ask_elim same fun room _ => ?_
  split
  · exact ⟨_, .inl rfl, Frame.holds_bind (rests_redirect _) (fun _ => rests_say _) p⟩
  · exact ⟨_, .inr rfl, _, rfl⟩

/-- **What becomes of a world when the player sets off**: the torch is out, the refusal that speaks
    is brought about, and the player is in the room or not. -/
theorem setOff_run (s : Setting σ) (sane : World.Sane b p.world) (target : String) :
    ∃ u v : World, (u = p.world.dimmed World.withTorch ∨
        ∃ gate, (p.world.dimmed World.withTorch).Refuses target gate ∧
          u = (p.world.dimmed World.withTorch).brought gate.effect) ∧
      (v = u ∨ v = { u with current := .text target }) ∧
      v.Alike ((s.setOff target).runOn p).2.world := by
  have dim := World.sane_dimmed sane
  obtain ⟨r, notes, darkened⟩ := s.darken_run sane.clean.1
  unfold setOff
  cases r with
  | error e =>
      rw [Act.runOn_bind_error darkened]
      exact ⟨_, _, .inl rfl, .inl rfl, notes, rfl⟩
  | ok before =>
      rw [Act.runOn_bind_ok darkened]
      generalize hq : ({ p with world := { p.world.dimmed World.withTorch with notes } } : Stage σ) =
        q
      have passed : ∃ u : World, (u = p.world.dimmed World.withTorch ∨
          ∃ gate, (p.world.dimmed World.withTorch).Refuses target gate ∧
            u = (p.world.dimmed World.withTorch).brought gate.effect) ∧
          u.Alike ((s.entryRefusal target).runOn q).2.world := by
        rcases s.entryRefusal_run target q with e | ⟨gate, refuses, e⟩
        · rw [e, ← hq]
          exact ⟨_, .inl rfl, notes, rfl⟩
        · rw [e]
          rw [← hq] at refuses ⊢
          have refuses := World.refuses_notes refuses
          exact ⟨_, .inr ⟨gate, refuses, rfl⟩,
            brought_notes dim (.inr (World.mem_of_refuses dim refuses)) notes⟩
      obtain ⟨u, how, alike⟩ := passed
      revert alike
      rw [Act.runOn_bind]
      rcases (s.entryRefusal target).runOn q with ⟨r, q'⟩
      intro alike
      cases r with
      | error e' => exact ⟨u, u, how, .inl rfl, alike⟩
      | ok refusal =>
          simp only
          split
          · obtain ⟨v, into, stepped⟩ := s.step_run target q'
            obtain ⟨notes', e⟩ := alike
            have e : q'.world = { u with notes := notes' } := e
            have joins (v : World) (k : v.Alike ((s.step target).runOn q').2.world) := k.trans
              (Frame.within_after (F := rests) (f := fun after =>
                joined "\n" (if after.isFilled then before ++ [after] else before))
                (fun _ => Frame.holds_ofExcept _) q')
            rcases into with rfl | rfl
            · exact ⟨u, u, how, .inl rfl, joins u (.trans ⟨notes', e⟩ stepped)⟩
            · refine ⟨u, _, how, .inr rfl, joins _ (.trans ⟨notes', ?_⟩ stepped)⟩
              rw [e]
          · exact ⟨u, u, how, .inl rfl, alike⟩

theorem makes_move (sane : World.Sane b p.world) (verb : i.verb? = some .move) :
    Makes World.brought World.withTorch i p ((s.move i).runOn p).2 := by
  have same : Makes World.brought World.withTorch i p p := makes_nothing (rests.refl p)
  unfold move
  split
  · exact same
  · exact same
  · next d valid direction =>
      refine ask_elim same fun room found => ?_
      split
      · exact same
      · next target exit =>
          split
          · exact same
          · next stays =>
              refine ask_elim same fun cornered told => ?_
              split
              · exact same
              · next free =>
                  have free : cornered = false := by simpa using free
                  subst free
                  have heads : i.HeadsFor p.world target :=
                    ⟨verb, d, room, direction, valid, found, exit, stays⟩
                  obtain ⟨u, v, how, into, alike⟩ := s.setOff_run sane target
                  refine ⟨v, ?_, alike⟩
                  rcases how with rfl | ⟨gate, refuses, rfl⟩
                  · rcases into with rfl | rfl
                    · exact .depart target heads told
                    · exact .enter target heads told
                  · rcases into with rfl | rfl
                    · exact .refused target gate heads told refuses
                    · exact .slip target gate heads told refuses

/-! ## 9. Activate and deactivate -/

/-- The torch is switched, and then nothing is written. -/
theorem setTorch_then {α : Type} {r : Act (Stage σ) α} (clean : p.world.flags.IsClean)
    (lit : Bool) (h : rests.Holds r) : (p.world.withTorch lit).Alike
      ((Stage.onWorld (World.setTorch lit) >>= fun _ => r).runOn p).2.world := by
  rw [Act.runOn_bind_ok (Stage.onWorld_run (World.setTorch_run clean.1 lit))]
  exact (World.alike_noted _ _).trans (h _)

/-- **The torch goes on**, or is on. -/
theorem lightTorch_run (s : Setting σ) (clean : p.world.flags.IsClean) :
    ∃ v : World, (v = p.world ∨ v = p.world.withTorch true) ∧
      v.Alike (s.lightTorch.runOn p).2.world := by
  let C (q : Stage σ) : Prop :=
    ∃ v : World, (v = p.world ∨ v = p.world.withTorch true) ∧ v.Alike q.world
  show C _
  have same : C p := ⟨_, .inl rfl, .refl _⟩
  unfold lightTorch
  refine ask_elim same fun lit _ => ?_
  split
  · exact same
  · refine ask_elim same fun room _ => ⟨_, .inr rfl, setTorch_then clean true ?_⟩
    split
    · exact rests_say _
    · split
      · exact rests_say _
      · exact rests_say _

/-- **The torch goes off**, or is off, or has to stay on. -/
theorem darkenTorch_run (s : Setting σ) (clean : p.world.flags.IsClean) :
    ∃ v : World, (v = p.world ∨ v = p.world.withTorch false) ∧
      v.Alike (s.darkenTorch.runOn p).2.world := by
  let C (q : Stage σ) : Prop :=
    ∃ v : World, (v = p.world ∨ v = p.world.withTorch false) ∧ v.Alike q.world
  show C _
  have same : C p := ⟨_, .inl rfl, .refl _⟩
  unfold darkenTorch
  refine ask_elim same fun lit _ => ?_
  split
  · exact same
  · refine ask_elim same fun room _ => ?_
    split
    · refine ask_elim same fun active _ => ?_
      split
      · exact same
      · exact ⟨_, .inr rfl, setTorch_then clean false (rests_say _)⟩
    · exact ⟨_, .inr rfl, setTorch_then clean false (rests_say _)⟩

/-- **An item that is not the torch is switched**, and then nothing is written. -/
theorem setItemActive_then {α : Type} {r : Act (Stage σ) α} {id : String} {item : Item}
    (active : Bool) (there : p.world.items.get? id = some item)
    (switchable : item.active.isSome = true) (other : p.world.scenario.torch ≠ some id)
    (h : rests.Holds r) : (p.world.switched id active).Alike
      ((Stage.onWorld (World.setItemActive (.text id) active) >>= fun _ => r).runOn p).2.world := by
  obtain ⟨was, activity⟩ := Option.isSome_iff_exists.mp switchable
  have distinct : (Content.ofText? p.world.scenario.torch).same (.text id) = false := by
    cases torch : p.world.scenario.torch with
    | none => rfl
    | some torch' =>
        rw [torch] at other
        simpa [Content.ofText?, Content.same] using fun e => other (by rw [e])
  have set : p.world.switched id active =
      p.world.updateItem id (fun i => { i with active := some active }) := by
    unfold World.switched World.updateItem
    congr 1
    refine Roster.update_congr fun item' there' => ?_
    rw [there] at there'
    cases there'
    rw [activity]
    rfl
  have run : ∃ notes, (World.setItemActive (.text id) active).runOn p.world =
      (.ok (), { p.world.switched id active with notes }) := by
    unfold World.setItemActive
    rw [Act.runOn_bind_ok (Act.runOn_get _), if_neg (by simp [distinct]),
      Act.runOn_bind_ok (World.known_run there), Act.runOn_bind_ok (Act.runOn_get _), there, set]
    simp only [Option.bind_some, activity]
    exact ⟨_, rfl⟩
  obtain ⟨notes, run⟩ := run
  rw [Act.runOn_bind_ok (Stage.onWorld_run run)]
  exact .trans ⟨notes, rfl⟩ (h _)

/-- **What switching on and switching off have in common**: they find a carried item that can be
    switched, or end. -/
theorem makes_switch (fits : i.FitsIn p.world)
    {k : Option (String × Item × Bool) → Act (Stage σ) Content} (unfit : rests.Holds (k none))
    (goesOn : ∀ id item was, i.carriedItem = some id → p.world.carried.get? id = some item →
      p.world.items.get? id = some item → item.active = some was →
      Makes bring torch i p ((k (some (id, item, was))).runOn p).2) :
    Makes bring torch i p ((switch? i >>= k).runOn p).2 := by
  unfold switch?
  split
  · exact makes_nothing (unfit p)
  · next id aimed =>
      rw [bind_assoc]
      refine ask_elim (makes_nothing (rests.refl p)) fun item found => ?_
      obtain ⟨_, e, there⟩ := Roster.demand_eq_ok found
      cases e
      have carried := World.get?_carried (fits.carriedItem id aimed) there
      rw [pure_bind]
      cases activity : item.active with
      | none => exact makes_nothing (unfit p)
      | some was => exact goesOn id item was aimed carried there activity

/-- **The torch goes on or off**, or stays as it is. -/
theorem turnTorch_run (s : Setting σ) (clean : p.world.flags.IsClean) (on : Bool) :
    ∃ v : World, (v = p.world ∨ v = p.world.withTorch on) ∧
      v.Alike ((if on then s.lightTorch else s.darkenTorch).runOn p).2.world := by
  cases on with
  | true => exact s.lightTorch_run clean
  | false => exact s.darkenTorch_run clean

theorem makes_turnTo (clean : p.world.flags.IsClean) (fits : i.FitsIn p.world) (on : Bool)
    (verb : i.verb? = some (if on then .activate else .deactivate)) :
    Makes bring World.withTorch i p ((s.turnTo i on).runOn p).2 := by
  unfold turnTo
  split
  · exact makes_nothing (rests.refl p)
  · refine makes_switch fits (rests_say _) fun id item was aimed carried there activity => ?_
    have switchable : item.active.isSome = true := by rw [activity]; rfl
    simp only
    rw [Act.runOn_bind_ok (Act.runOn_get p)]
    split
    · next same =>
        obtain ⟨v, rfl | rfl, alike⟩ := s.turnTorch_run clean on
        · exact makes_nothing alike
        · exact ⟨_, .torch id item on verb aimed carried switchable same, alike⟩
    · next other =>
        split
        · exact makes_nothing (rests.refl p)
        · exact ⟨_, .switch id item on verb aimed carried switchable other,
            setItemActive_then on there switchable other (Frame.holds_ofExcept _)⟩

/-! ## 10. All rules -/

/-- **The rule of a verb makes of a world what the intent can make of it.** -/
theorem rule_makes (modest : s.hooks.IsModest) (sane : World.Sane b p.world)
    (fits : i.FitsIn p.world) {verb : Verb} {rule : Rule σ} (hv : i.verb? = some verb)
    (hr : s.ruleFor? verb = some rule) :
    Makes World.brought World.withTorch i p ((rule i).runOn p).2 := by
  cases verb
  case quit => cases hr
  all_goals
    simp only [ruleFor?, Option.some.injEq] at hr
    subst hr
  case inventory => exact makes_nothing (rests_inventory i p)
  case talk => exact makes_talk modest hv
  case take => exact makes_take sane fits hv
  case move => exact makes_move sane hv
  case observe => exact makes_nothing (rests_observe i p)
  case use => exact makes_use hv
  case activate => exact s.activate_eq i ▸ makes_turnTo sane.clean fits true hv
  case deactivate => exact s.deactivate_eq i ▸ makes_turnTo sane.clean fits false hv
  case help => exact makes_nothing (rests_help i p)
  case read => exact makes_nothing (rests_read i p)
  case examine => exact makes_examine modest sane.clean hv
  case shoot => exact makes_shoot modest sane.clean hv
  case save => exact makes_nothing (rests_save modest i p)

end Setting

/-! ## 11. Documented consequences -/

namespace World

variable {b w : World}

/-- If no item is without a name, the torch is switched as it is meant. -/
theorem withTorch_eq (named : w.items.has "" = false) (lit : Bool) :
    w.withTorch lit = w.torched lit := by
  unfold withTorch torched
  cases w.scenario.torch with
  | some torch => rfl
  | none =>
      have missing (i : Item) : w.items.get? "" ≠ some i := fun there =>
        absurd (Roster.has_of_get? there) (by rw [named]; exact nofun)
      simp only [Option.getD_none, updateItem]
      rw [Roster.update_congr (g := id) fun i there => absurd there (missing i), Roster.update_id]

end World

namespace Intent

variable {b w v : World} {i : Intent}

/-- **What an intent makes of a world is made as well with other ways to bring consequences about**,
    if these come to the same. The notes do not count. -/
theorem yields_change {bring : Content → World → World} {torch : Bool → World → World}
    (sane : World.Sane b w) {notes : List String} (torch_eq : ∀ lit, w.withTorch lit = torch lit w)
    (grants : ∀ {u : World} {effect : Content}, World.Sane b u → (w.IsPlaced → u.IsPlaced) →
      effect = .null ∨ effect ∈ b.effects →
        (bring effect u).Alike ({ u with notes }.brought effect))
    (h : i.Yields World.brought World.withTorch { w with notes } v) :
    ∃ u, i.Yields bring torch w u ∧ u.Alike v := by
  have dim := World.sane_dimmed sane
  have same : w.dimmed World.withTorch = w.dimmed torch := by
    unfold World.dimmed
    rw [torch_eq]
  cases h with
  | nothing => exact ⟨_, .nothing, notes, rfl⟩
  | talk id verb addressed => exact ⟨_, .talk id verb addressed, notes, rfl⟩
  | examine verb asleep => exact ⟨_, .examine verb asleep, _, rfl⟩
  | take id item verb aimed here collectible allowed =>
      have there : w.items.get? id = some item := (Roster.get?_filter_iff.mp here).1
      refine ⟨_, .take id item verb aimed here collectible fun gate gated => ?_, ?_⟩
      · rw [← World.holds_notes w notes]
        exact allowed gate gated
      · refine grants (World.sane_picked sane id) (fun placed => placed) ?_
        cases gated : item.take with
        | none => exact .inl rfl
        | some gate => exact .inr (World.mem_of_take sane there gated)
  | depart target heads free =>
      rw [World.dimmed_notes, same]
      exact ⟨_, .depart target heads free, notes, rfl⟩
  | refused target gate heads free refuses =>
      rw [World.dimmed_notes] at refuses ⊢
      have refuses := World.refuses_notes refuses
      have alike := grants dim World.placed_dimmed (.inr (World.mem_of_refuses dim refuses))
      rw [same] at refuses alike ⊢
      exact ⟨_, .refused target gate heads free refuses, alike⟩
  | enter target heads free =>
      rw [World.dimmed_notes, same]
      exact ⟨_, .enter target heads free, notes, rfl⟩
  | slip target gate heads free refuses =>
      rw [World.dimmed_notes] at refuses ⊢
      have refuses := World.refuses_notes refuses
      obtain ⟨notes', e⟩ := grants dim World.placed_dimmed
        (.inr (World.mem_of_refuses dim refuses))
      rw [e]
      rw [same] at refuses ⊢
      exact ⟨_, .slip target gate heads free refuses, notes', rfl⟩
  | hit a ch n verb hits more =>
      exact ⟨_, .hit a ch n verb ⟨hits.antagonist, hits.aimed, hits.there, hits.exposed,
        hits.health, hits.alive⟩ more, _, rfl⟩
  | defeat a ch verb hits =>
      exact ⟨_, .defeat a ch verb ⟨hits.antagonist, hits.aimed, hits.there, hits.exposed,
        hits.health, hits.alive⟩, _, rfl⟩
  | switch id item active verb aimed carried switchable other =>
      exact ⟨_, .switch id item active verb aimed carried switchable other, notes, rfl⟩
  | torch id item lit verb aimed carried switchable isTorch =>
      refine ⟨_, .torch id item lit verb aimed carried switchable isTorch, notes, ?_⟩
      rw [← torch_eq]
      rfl
  | use id a verb aimed enacts =>
      have enacts := World.enacts_notes enacts
      exact ⟨_, .use id a verb aimed enacts,
        grants sane (fun placed => placed) (.inr (World.mem_of_enacts sane enacts))⟩

/-- The notes do not count for what an intent makes of a world. -/
theorem yields_noted (sane : World.Sane b w) {notes : List String}
    (h : i.Yields World.brought World.withTorch { w with notes } v) :
    ∃ u, i.Yields World.brought World.withTorch w u ∧ u.Alike v :=
  yields_change sane (fun _ => rfl) (fun sane _ mem => Setting.brought_notes sane mem notes) h

/-- **With documented consequences an intent makes of a world exactly what they say**, and the torch
    is the only item that goes with its flag. -/
theorem yields_granted (documented : ∀ effect ∈ b.effects, effect.isDocumented true = true)
    (named : w.items.has "" = false) (sane : World.Sane b w) (placed : w.IsPlaced)
    {notes : List String} (h : i.Yields World.brought World.withTorch { w with notes } v) :
    ∃ u, i.Yields World.granted World.torched w u ∧ u.Alike v := by
  refine yields_change sane (World.withTorch_eq named) (fun {u effect} sane placed' mem => ?_) h
  refine .trans ?_ (Setting.brought_notes sane mem notes)
  rcases mem with rfl | mem
  · exact .refl u
  · exact World.brought_granted sane.clean sane.plan (World.grasps_effect sane.sound mem)
      (documented effect mem) (placed' placed)

end Intent

end Adventure
