import Adventure.Proofs.Turn.Ground
import Adventure.Turn.Handle

/-!
# Handling things meets the terms

* `Setting.turnTo`: what `activate` and `deactivate` have in common;
* `meets_take`, `meets_use`, `meets_turnTo`: from a beginning turn each of these rules keeps to the
  terms of its stage. What a consequence brings about is a consequence of the adventure, and the
  torch is put out only where it is not needed.
-/

namespace Adventure.Setting

/-! ## 1. Switching on and off -/

section

variable {σ : Type} (s : Setting σ) (i : Intent)

/-- **Switching on and switching off** are one rule, but for what is said and what becomes of the
    torch. -/
def turnTo (on : Bool) : Act (Stage σ) Content := do
  if isPointless i then s.say (if on then .activateUnknown else .deactivateUnknown)
  else
    match ← switch? i with
    | none => s.say (if on then .activateNotActivatable else .deactivateNotDeactivatable)
    | some (id, item, active) =>
      if (← get).world.scenario.torch = some id then
        if on then s.lightTorch else s.darkenTorch
      else if active = on then
        s.sayWith (if on then .itemAlreadyActive else .itemNotActive) [("name", .text item.name)]
      else
        Stage.onWorld (World.setItemActive (.text id) on)
        s.sayWith (if on then .itemActivated else .itemDeactivated) [("name", .text item.name)]

theorem activate_eq : s.activate i = s.turnTo i true := rfl

theorem deactivate_eq : s.deactivate i = s.turnTo i false := by
  unfold deactivate turnTo
  congr 1
  refine congrArg (switch? i >>= ·) (funext fun found => ?_)
  cases found with
  | none => rfl
  | some found =>
      obtain ⟨id, item, active⟩ := found
      cases active with
      | false => rfl
      | true => rfl

end

end Adventure.Setting

namespace Adventure.Setting.Suits

open Outcome Terms

variable {σ : Type} {s : Setting σ} {b before : World} {i : Intent} {T : Terms (Stage σ)}
variable (S : s.Suits b (.command s.messages before i) T)

include S

/-! ## 2. Take -/

/-- Nothing of the room is meant. -/
theorem meets_missTake :
    T.Meets (Stage.Begins before i) (s.missTake i) (fun _ _ => True) := by
  unfold missTake
  refine S.meets_look (fun p q notes e => ?_) fun p _ _ => ?_
  · simp only [e]
    rfl
  · split
    · exact S.meets_saying _
    · exact S.meets_saying _

/-- **An item goes to the player**, with what follows from it. -/
theorem meets_carry (verb : i.verb? = some .take) (id : String) (item : Item) (effect : Content)
    (mem : effect = .null ∨ effect ∈ b.effects) :
    T.Meets (fun p => p.world.itemsHere.has id = true) (s.carry id item effect)
      (fun _ _ => True) := by
  unfold carry
  refine meets_bind (S.meets_world (I := fun w => w.itemsHere.has id = true)
    (World.meets_moveItem (.text id) .inventory (fun w name _ here e => ?_) fun w _ here _ => ?_)
    fun _ _ pre => pre) fun _ => ?_
  · cases e
    exact .pick w id verb here
  · obtain ⟨i, hi⟩ := World.get?_of_itemsHere here
    exact ⟨id, rfl, Roster.has_of_get? hi⟩
  · refine meets_bind (Q := fun _ _ => True) ?_ fun _ =>
      S.meets_sayingWith rfl (by simp [Phrase.fields])
    rcases mem with rfl | mem
    · exact S.meets_world (I := fun _ => True) (meets_return ()) fun _ _ _ => trivial
    · exact S.meets_world (World.meets_apply (P := fun _ => True) mem) fun _ _ _ => trivial

/-- **The player takes an item of the room.** -/
theorem meets_take (verb : i.verb? = some .take) :
    T.Meets (Stage.Begins before i) (s.take i) (fun _ _ => True) := by
  unfold take
  split
  · exact S.meets_missTake
  · next id aimed =>
      refine meets_bind (S.meets_demand id (fun _ _ => rfl) fun p _ begins => ?_) fun item => ?_
      · obtain ⟨i, hi⟩ := World.get?_of_itemsHere (begins.fits.roomItem _ aimed)
        exact Roster.has_of_get? hi
      · split
        · exact S.meets_saying _
        · split
          · refine (S.meets_carry verb id item .null (.inl rfl)).pre fun p _ pre => ?_
            exact pre.1.fits.roomItem _ aimed
          · next gate gated =>
              refine meets_bind (S.meets_ask (fun w notes => World.holds_notes w notes _)
                (fun p sane pre fine => ?_) fun w => w.mishaps_holds _) fun holds => ?_
              · exact World.holds_comes_of_fine sane fine
                  (World.mem_preconditions_of_take pre.2 gated)
              · split
                · refine meets_of_state fun p sane pre => ?_
                  have effect : gate.effect ∈ b.effects := by
                    rw [← World.effects_of_plan (S.sane sane).plan]
                    exact World.mem_effects_of_take pre.1.2 gated
                  refine (S.meets_carry verb id item gate.effect (.inr effect)).pre fun q _ e => ?_
                  rw [e]
                  exact pre.1.1.fits.roomItem _ aimed
                · split
                  · exact meets_return _
                  · exact S.meets_saying _

/-! ## 3. Use -/

/-- The first of the actions whose preconditions hold is one of them. -/
theorem meets_firstAction? {P : Stage σ → Prop} (actions : List Action)
    (known : ∀ a ∈ actions, a ∈ b.actions) :
    T.Meets P (firstAction? actions) (fun x _ => ∀ a, x = some a → a ∈ b.actions) := by
  induction actions generalizing P with
  | nil => exact Meets.pre (meets_pure _) fun _ _ _ => nofun
  | cons action actions ih =>
      have mem := known action (List.mem_cons_self ..)
      unfold firstAction?
      refine meets_bind (S.meets_ask (fun w notes => World.holds_notes w notes _)
        (fun p sane _ fine => ?_) fun w => w.mishaps_holds _) fun holds => ?_
      · exact World.holds_comes_of_fine sane fine
          (World.mem_preconditions_of_action ((World.actions_of_plan sane.plan).symm ▸ mem))
      · split
        · refine Meets.pre (meets_pure _) fun _ _ _ a e => ?_
          cases e
          exact mem
        · exact ih fun a ha => known a (List.mem_cons_of_mem _ ha)

/-- **The player uses a carried item.** -/
theorem meets_use : T.Meets (Stage.Begins before i) (s.use i) (fun _ _ => True) := by
  unfold use
  split
  · exact S.meets_saying _
  · next id aimed =>
      refine S.meets_look (fun p q notes e => ?_) fun p sane _ => ?_
      · simp only [e]
      · refine meets_bind (S.meets_firstAction? _ fun a ha => ?_) fun found => ?_
        · rw [← World.actions_of_plan sane.plan]
          exact (List.mem_filter.mp ha).1
        · cases found with
          | none => exact S.meets_saying _
          | some action =>
              refine meets_of_state fun q _ mem => ?_
              have effect := World.mem_effects_of_action (mem action rfl)
              refine meets_bind (S.meets_world (World.meets_apply (P := fun _ => True) effect)
                fun _ _ _ => trivial) fun _ => ?_
              refine meets_bind (S.meets_world (World.meets_note (P := fun _ => True) _
                fun _ _ => trivial) fun _ _ _ => trivial) fun _ => meets_return _

/-! ## 4. Activate and deactivate -/

/-- The carried item that can be switched is an item of the world. -/
theorem meets_switch? :
    T.Meets (Stage.Begins before i) (switch? i) (fun x p => Stage.Begins before i p ∧
      ∀ id item active, x = some (id, item, active) → p.world.items.has id = true) := by
  unfold switch?
  split
  · exact Meets.pre (meets_pure _) fun _ _ begins => ⟨begins, nofun⟩
  · next id aimed =>
      refine meets_bind (S.meets_demand id (fun _ _ => rfl) fun p _ begins => ?_) fun item => ?_
      · obtain ⟨i, hi⟩ := World.get?_of_carried (begins.fits.carriedItem _ aimed)
        exact Roster.has_of_get? hi
      · refine Meets.pre (meets_pure _) fun p _ pre => ⟨pre.1, fun id' item' active e => ?_⟩
        obtain ⟨_, _, e⟩ := Option.map_eq_some_iff.mp e
        cases e
        exact Roster.has_of_get? pre.2

/-- **The torch goes on.** -/
theorem meets_lightTorch : T.Meets (Stage.Begins before i) s.lightTorch (fun _ _ => True) := by
  unfold lightTorch
  refine meets_bind (S.meets_ask (fun _ _ => rfl)
    (fun p sane _ _ => ⟨_, sane.clean.isSet _⟩) fun w => w.flags.mishaps_isSet _) fun lit => ?_
  split
  · exact S.meets_saying _
  · refine meets_bind (S.meets_ask (fun _ _ => rfl)
      (fun p _ _ fine => World.room_comes fine.placed) fun w => w.mishaps_room) fun room => ?_
    refine meets_bind (S.meets_world (World.meets_setTorch (P := fun _ => True)
      (Q := fun _ _ => True) true fun _ _ _ => ⟨nofun, fun _ => trivial⟩) fun _ _ _ => trivial)
      fun _ => ?_
    split
    · exact S.meets_saying _
    · split
      · exact S.meets_saying _
      · exact S.meets_saying _

/-- The torch is put out where it is not needed against the antagonist. -/
theorem meets_putOut (verb : i.verb? = some .deactivate) :
    T.Meets (fun p => ∃ r, p.world.room = .ok r ∧
        (r.reason = .torch → p.world.encounterActive = .ok false))
      (Stage.onWorld (World.setTorch false)) (fun _ _ => True) :=
  S.meets_world (World.meets_setTorch (Q := fun _ _ => True) false
    fun _ _ pre => ⟨fun _ => .inr ⟨verb, pre⟩, fun _ => trivial⟩) fun _ _ pre => pre

/-- **The torch goes off**, unless the antagonist is awake in a room that needs it. -/
theorem meets_darkenTorch (verb : i.verb? = some .deactivate) :
    T.Meets (Stage.Begins before i) s.darkenTorch (fun _ _ => True) := by
  unfold darkenTorch
  refine meets_bind (S.meets_ask (fun _ _ => rfl)
    (fun p sane _ _ => ⟨_, sane.clean.isSet _⟩) fun w => w.flags.mishaps_isSet _) fun lit => ?_
  split
  · exact S.meets_saying _
  · refine meets_bind (S.meets_ask (fun _ _ => rfl)
      (fun p _ _ fine => World.room_comes fine.placed) fun w => w.mishaps_room) fun room => ?_
    split
    · refine meets_bind (S.meets_ask (fun _ _ => rfl)
        (fun p sane _ _ => ⟨_, World.encounterActive_eq sane.clean⟩)
        fun w => w.mishaps_encounterActive) fun active => ?_
      split
      · exact S.meets_saying _
      · next calm =>
          refine meets_bind ((S.meets_putOut verb).pre fun p _ pre => ⟨room, pre.1.2, fun _ => ?_⟩)
            fun _ => S.meets_saying _
          rw [pre.2]
          simpa using calm
    · next other =>
        exact meets_bind ((S.meets_putOut verb).pre
          fun p _ pre => ⟨room, pre.2, fun e => absurd e other⟩) fun _ => S.meets_saying _

/-- An item that is not the torch is switched. -/
theorem meets_switch (id : String) (active : Bool) :
    T.Meets (fun p => p.world.scenario.torch ≠ some id ∧ p.world.items.has id = true)
      (Stage.onWorld (World.setItemActive (.text id) active)) (fun _ _ => True) :=
  S.meets_world (World.meets_setItemActive id active fun _ _ pre => pre) fun _ _ pre => pre

/-- **The player switches an item on or off.** -/
theorem meets_turnTo (on : Bool) (verb : i.verb? = some (if on then .activate else .deactivate)) :
    T.Meets (Stage.Begins before i) (s.turnTo i on) (fun _ _ => True) := by
  unfold turnTo
  split
  · exact S.meets_saying _
  · refine meets_bind S.meets_switch? fun found => ?_
    cases found with
    | none => exact S.meets_saying _
    | some found =>
        obtain ⟨id, item, active⟩ := found
        refine S.meets_look (fun p q notes e => ?_) fun p _ pre => ?_
        · simp only [e]
        · split
          · refine Meets.pre ?_ fun q _ e => e ▸ pre.1
            cases on with
            | true => exact S.meets_lightTorch
            | false => exact S.meets_darkenTorch verb
          · next other =>
              split
              · refine S.meets_sayingWith ?_ ?_
                · cases on <;> rfl
                · cases on <;> simp [Phrase.fields]
              · refine meets_bind ((S.meets_switch id on).pre fun q _ e => ?_) fun _ =>
                  S.meets_sayingWith ?_ ?_
                · rw [e]
                  exact ⟨other, pre.2 id item active rfl⟩
                · cases on <;> rfl
                · cases on <;> simp [Phrase.fields]

end Adventure.Setting.Suits
