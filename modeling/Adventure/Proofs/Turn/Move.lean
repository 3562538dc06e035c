import Adventure.Proofs.Turn.Ground
import Adventure.Turn.Move

/-!
# Moving from room to room meets the terms

* `meets_entryRefusal`: a room without a refusal lets the player in;
* `meets_step`, `meets_setOff`, `meets_move`: **the player goes in a direction**, into a room that
  lets the player in or to the question at its door;
* `meets_tryCode`: **the player says a code** at the door.
-/

namespace Adventure.Setting.Suits

open Outcome Terms

variable {σ : Type} {s : Setting σ} {b before : World} {i : Intent} {T : Terms (Stage σ)}

section Command

variable (S : s.Suits b (.command s.messages before i) T)

include S

/-! ## 1. The gate of a room -/

/-- A refusal says something, unless the messages have nothing to say. -/
theorem meets_refuseBy {P : Stage σ → Prop} (gate : Gate) (effect : gate.effect ∈ b.effects) :
    T.Meets P (s.refuseBy gate) (fun x _ =>
      (x = .null → s.messages.plain .moveEntryRefused = .ok .null) ∧ s.Says x) := by
  unfold refuseBy
  refine meets_bind (S.meets_world (World.meets_apply (P := fun _ => True) effect)
    fun _ _ _ => trivial) fun _ => ?_
  simp only
  split
  · refine (S.meets_say .moveEntryRefused).post fun x p post => ⟨fun e => ?_, says_plain post.2⟩
    rw [post.2, e]
  · refine Meets.pre (meets_pure _) fun p _ _ => ⟨fun e => ?_, says_text _⟩
    cases e

theorem meets_firstRefusal {P : Stage σ → Prop} (gates : List Gate)
    (known : ∀ gate ∈ gates, gate.preconditions ∈ b.preconditions ∧ gate.effect ∈ b.effects) :
    T.Meets P (s.firstRefusal gates) (fun x _ =>
      (x = .null → s.messages.plain .moveEntryRefused = .ok .null) ∧ s.Says x) := by
  induction gates generalizing P with
  | nil =>
      refine (S.meets_say .moveEntryRefused).post fun x p post => ⟨fun e => ?_, says_plain post.2⟩
      rw [post.2, e]
  | cons gate gates ih =>
      obtain ⟨pre, effect⟩ := known gate (List.mem_cons_self ..)
      unfold firstRefusal
      refine meets_bind (S.meets_ask (fun w notes => World.holds_notes w notes _)
        (fun p sane _ fine => ?_) fun w => w.mishaps_holds _) fun holds => ?_
      · exact World.holds_comes_of_fine sane fine
          ((World.preconditions_of_plan sane.plan).symm ▸ pre)
      · split
        · exact S.meets_refuseBy gate effect
        · exact ih fun gate hm => known gate (List.mem_cons_of_mem _ hm)

/-- **A room without a refusal lets the player in**, if the messages have something to say. -/
theorem meets_entryRefusal (target : String) (there : b.rooms.has target = true) :
    T.Meets (fun p => before.darkened.Alike p.world) (s.entryRefusal target) (fun x p =>
      (x = .null → s.messages.plain .moveEntryRefused ≠ .ok .null →
        before.darkened.Alike p.world ∧ p.world.Admits target) ∧ (x ≠ .null → s.Says x)) := by
  unfold entryRefusal
  refine meets_bind (S.meets_demand target (fun _ _ => rfl)
    fun p sane _ => (World.has_room_of_plan sane.plan target).trans there) fun room => ?_
  split
  · next none =>
      refine Meets.pre (meets_pure _) fun p _ pre => ⟨fun _ _ => ⟨pre.1, room, pre.2, ?_⟩, ?_⟩
      · intro entry he
        rw [none] at he
        cases he
      · exact fun ne => absurd rfl ne
  · next entry some =>
      refine meets_of_state fun p₀ sane₀ pre₀ => ?_
      have sane₀ := S.sane sane₀
      refine meets_bind (S.meets_ask (fun w notes => World.holds_notes w notes _)
        (fun p sane e fine => ?_) fun w => w.mishaps_holds _) fun holds => ?_
      · rw [e] at fine ⊢
        exact World.holds_comes_of_fine sane₀ fine
          (World.mem_preconditions_of_entry pre₀.2 some)
      · split
        · next passes =>
            refine Meets.pre (meets_pure _) fun p _ pre => ⟨fun _ _ => ?_, fun ne => absurd rfl ne⟩
            obtain ⟨rfl, gate⟩ := pre
            refine ⟨pre₀.1, room, pre₀.2, fun entry' he => ?_⟩
            rw [some] at he
            cases he
            rw [gate, passes]
        · refine (S.meets_firstRefusal entry.refusals fun gate hm => ?_).post fun x p post => ?_
          · rw [← World.preconditions_of_plan sane₀.plan, ← World.effects_of_plan sane₀.plan]
            exact ⟨World.mem_preconditions_of_refusal pre₀.2 some hm,
              World.mem_effects_of_refusal pre₀.2 some hm⟩
          · exact ⟨fun e speaks => absurd (post.1 e) speaks, fun _ => post.2⟩

/-! ## 2. The step into a room -/

/-- The torch is out when the player sets off. -/
theorem meets_darken (verb : i.verb? = some .move) (free : before.isCornered = .ok false) :
    T.Meets (fun p => before.Alike p.world) s.darken (fun sayings p =>
      (∀ x ∈ sayings, s.Says x) ∧ before.darkened.Alike p.world) := by
  unfold darken
  refine meets_bind (S.meets_ask (fun _ _ => rfl)
    (fun p sane _ _ => ⟨_, sane.clean.isSet _⟩) fun w => w.flags.mishaps_isSet _) fun lit => ?_
  cases lit with
  | true =>
      refine meets_bind (Q := fun _ p => before.darkened.Alike p.world) ?_ fun _ => ?_
      · refine Meets.pre (S.world (World.meets_setTorch (P := fun w => w.flags.get .torchLit = true ∧
          before.Alike w) (Q := fun _ w => before.darkened.Alike w) false
          fun w sane pre => ⟨fun _ => ?_, fun note => ?_⟩)) fun p sane pre => ?_
        · obtain ⟨-, notes, rfl⟩ := pre
          exact .inl ⟨verb, free⟩
        · obtain ⟨lit, notes, rfl⟩ := pre
          have lit : before.flags.get .torchLit = true := lit
          unfold World.darkened
          rw [if_pos lit]
          exact ⟨_, rfl⟩
        · have lit := pre.2
          rw [(S.sane sane).clean.isSet] at lit
          exact ⟨Except.ok.inj lit, pre.1⟩
      · refine meets_bind (S.meets_say .torchSwitchedOff) fun x => ?_
        refine Meets.pre (meets_pure _) fun p _ pre => ⟨fun y hm => ?_, pre.1⟩
        rw [List.mem_singleton] at hm
        rw [hm]
        exact says_plain pre.2
  | false =>
      refine Meets.pre (meets_pure _) fun p sane pre =>
        ⟨fun _ hm => absurd hm List.not_mem_nil, ?_⟩
      obtain ⟨⟨notes, e⟩, lit⟩ := pre
      rw [(S.sane sane).clean.isSet, e] at lit
      have lit : before.flags.get .torchLit = false := Except.ok.inj lit
      unfold World.darkened
      rw [if_neg (by simp [lit])]
      exact ⟨notes, e⟩

/-- **The player steps into an open room**, or is asked for the code of a locked one. -/
theorem meets_step (target : String) (there : b.rooms.has target = true) :
    T.Meets (fun p => (Cause.command s.messages before i).Approaches p.world target) (s.step target)
      (fun x _ => s.Says x) := by
  unfold step
  refine meets_bind (S.meets_demand target (fun _ _ => rfl)
    fun p sane _ => (World.has_room_of_plan sane.plan target).trans there) fun room => ?_
  cases locked : room.locked with
  | true =>
      rw [if_pos rfl]
      refine meets_bind ((S.knock target).pre fun p _ pre => ⟨pre.1, room, pre.2, locked⟩)
        fun _ => ?_
      exact (S.meets_say .doorLocked).post fun x p post => says_plain post.2
  | false =>
      rw [if_neg Bool.false_ne_true]
      refine meets_bind (S.meets_world (I := fun w =>
        (Cause.command s.messages before i).Approaches w target ∧
          w.rooms.get? target = some room)
        (World.meets_moveTo target fun w _ pre => ⟨room, pre.2, locked, .inl pre.1⟩)
        fun p _ pre => pre) fun _ => ?_
      exact Meets.pre (meets_pure _) fun _ _ _ => says_text ""

/-- **The player sets off towards a room.** -/
theorem meets_setOff (target : String) (there : b.rooms.has target = true)
    (heads : i.HeadsFor before target) (free : before.isCornered = .ok false) :
    T.Meets (fun p => before.Alike p.world) (s.setOff target) (fun _ _ => True) := by
  unfold setOff
  refine meets_bind (S.meets_darken heads.1 free) fun sayings => ?_
  refine meets_of_state fun p₀ _ pre₀ => ?_
  refine meets_bind ((S.meets_entryRefusal target there).pre fun p _ e => e ▸ pre₀.2)
    fun refusal => ?_
  have finish (x : Content) (said : s.Says x) (P : Stage σ → Prop) :
      T.Meets P (joined "\n" (if x.isFilled then sayings ++ [x] else sayings)) (fun _ _ => True) := by
    refine S.meets_joined _ _ fun y hm => ?_
    split at hm
    · rcases List.mem_append.mp hm with hm | hm
      · exact pre₀.1 y hm
      · rw [List.mem_singleton.mp hm]
        exact said
    · exact pre₀.1 y hm
  split
  · refine meets_bind ((S.meets_step target there).pre fun p _ pre =>
      ⟨heads, free, fun speaks => pre.1 rfl speaks⟩) fun x => ?_
    exact meets_of_state fun _ _ said => finish x said _
  · next x speaks =>
      refine meets_bind (Q := fun y _ => s.Says y)
        (Meets.pre (meets_pure _) fun p _ pre => pre.2 speaks) fun y => ?_
      exact meets_of_state fun _ _ said => finish y said _

/-- **The player goes in a direction.** -/
theorem meets_move (verb : i.verb? = some .move) :
    T.Meets (Stage.Begins before i) (s.move i) (fun _ _ => True) := by
  unfold move
  split
  · exact S.meets_saying _
  · exact S.meets_saying _
  · next d valid direction =>
      refine meets_bind (S.meets_ask (fun _ _ => rfl)
        (fun p _ _ fine => World.room_comes fine.placed) fun w => w.mishaps_room) fun room => ?_
      split
      · exact S.meets_saying _
      · next target exit =>
          split
          · exact S.meets_saying _
          · next stays =>
              refine meets_bind (S.meets_ask (fun _ _ => rfl)
                (fun p sane _ _ => ⟨_, World.isCornered_eq sane.clean⟩)
                fun w => w.mishaps_isCornered) fun cornered => ?_
              split
              · exact S.meets_saying _
              · next free =>
                  refine meets_of_state fun p sane pre => ?_
                  obtain ⟨⟨begins, hr⟩, hc⟩ := pre
                  obtain ⟨notes, e⟩ := begins.same
                  have plan := (S.sane sane).plan
                  have there : b.rooms.has target = true := by
                    obtain ⟨name, -, at_name⟩ := World.room_eq_ok hr
                    obtain ⟨room', hb, bare⟩ := World.room_of_plan plan at_name
                    have exit' : room'.neighbour? d = some target := by
                      show room'.bare.neighbour? d = some target
                      rw [bare]
                      exact exit
                    exact (World.exit_known (S.sane sane).sound hb exit').resolve_left stays
                  have heads : i.HeadsFor before target := by
                    refine ⟨verb, d, room, direction, valid, ?_, exit, stays⟩
                    rw [e] at hr
                    exact hr
                  have free : before.isCornered = .ok false := by
                    rw [e, (by simpa using free : cornered = false)] at hc
                    exact hc
                  refine (S.meets_setOff target there heads free).pre fun q _ eq => ?_
                  rw [eq]
                  exact ⟨notes, e⟩

end Command

/-! ## 3. The code of a door -/

/-- **The player says a code at the door of a room.** -/
theorem meets_tryCode {target line : String} (S : s.Suits b (.code target line) T) :
    T.Meets (fun p => p.world.rooms.has target = true) (s.tryCode target line)
      (fun _ _ => True) := by
  unfold tryCode
  refine meets_bind (S.meets_demand target (fun _ _ => rfl) fun _ _ has => has) fun room => ?_
  by_cases wrong : Text.strip line ≠ room.code.getD ""
  · rw [if_pos wrong]
    refine meets_bind (S.meets_world (World.meets_note (P := fun _ => True) _ fun _ _ => trivial)
      fun _ _ _ => trivial) fun _ => ?_
    exact meets_bind (S.meets_saying .doorWrongCode) fun _ => meets_return _
  · rw [if_neg wrong]
    refine meets_bind (S.world (World.meets_unlock (P := fun w => w.rooms.get? target = some room)
      target fun w _ there => ?_) |>.pre fun p _ pre => pre.2) fun _ => ?_
    · exact ⟨line, room, rfl, there, by simpa using wrong⟩
    · refine meets_bind (S.meets_world (I := fun w =>
        (∃ r, w.rooms.get? target = some r ∧ r.locked = false) ∧
          (Cause.code target line).Unlocks w target)
        (World.meets_moveTo target fun w _ pre => ?_) fun _ _ pre => pre) fun _ => ?_
      · obtain ⟨⟨r, there, unlocked⟩, unlocks⟩ := pre
        exact ⟨r, there, unlocked, .inr unlocks⟩
      · refine meets_bind S.roomChanged fun _ => ?_
        refine meets_bind (S.meets_saying .doorUnlocked) fun _ => ?_
        refine meets_bind (S.meets_ask (fun _ _ => rfl)
          (fun p _ _ fine => World.description_comes fine.placed)
          fun w => w.mishaps_description) fun _ => ?_
        exact meets_return _

end Adventure.Setting.Suits
