import Adventure.Proofs.Session.Containment
import Adventure.Proofs.Session.Course
import Adventure.Proofs.Session.Interleaving
import Adventure.Proofs.Session.Walk

/-!
# The encounter in a session in which periods elapse

* `World.LeavesAntagonist`: no consequence of the adventure wakes the antagonist or kills it;
* `flag_deed`, `turn_flag`: **only a look wakes it and only a shot kills it**;
* `Session.Confined`: whoever is beset is in the lair, and not at a door;
* `begins_confined`, `played_confined`: it holds of every play.
-/

namespace Adventure

/-! ## 1. The flags of the antagonist -/

/-- **What sets the flags of the antagonist**: the look at its lair, and a shot. -/
def Cause.Sets (c : Cause) (f : Flag) : Prop :=
  (f = .antagonistActive ∧ c.verb? = some .examine) ∨
    (f = .antagonistDefeated ∧ c.verb? = some .shoot)

namespace World

/-- The flags that tell how it stands with the antagonist. -/
def antagonistFlags : List Flag := [.antagonistActive, .antagonistDefeated]

/-- No consequence of the adventure has to do with the antagonist. -/
def LeavesAntagonist (b : World) : Prop :=
  ∀ effect ∈ b.effects, ∀ f ∈ antagonistFlags, effect.namesFlag f = false

instance (b : World) : Decidable b.LeavesAntagonist := by
  unfold LeavesAntagonist
  infer_instance

/-- The antagonist sleeps, and is not dead. -/
def IsCalm (w : World) : Prop :=
  w.flags.get .antagonistActive = false ∧ w.flags.get .antagonistDefeated = false

instance (w : World) : Decidable w.IsCalm := by
  unfold IsCalm
  infer_instance

theorem IsCalm.not_beset {w : World} (h : w.IsCalm) : ¬ w.IsBeset := by
  rintro ⟨active, -⟩
  rw [h.1] at active
  cases active

/-- **Only a look wakes the antagonist and only a shot kills it.** -/
theorem flag_deed {b w v : World} {c : Cause} (leaves : b.LeavesAntagonist) {f : Flag}
    (hf : f ∈ antagonistFlags) (d : Deed b c w v) :
    v.flags.get f = w.flags.get f ∨ (v.flags.get f = true ∧ c.Sets f) := by
  rcases flags_deed d with same | ⟨g, value, set, why⟩
  · exact .inl (by rw [same])
  by_cases other : f ≠ g
  · exact .inl (by rw [set, Flags.get_set, if_neg other])
  obtain rfl : f = g := not_not.mp other
  refine .inr ?_
  rw [set, Flags.get_set, if_pos rfl]
  rcases why with ⟨e, lit, look⟩ | ⟨e, lit, shoot⟩ | rfl | ⟨effect, mem, names⟩
  · exact ⟨lit, .inl ⟨e, look⟩⟩
  · exact ⟨lit, .inr ⟨e, shoot⟩⟩
  · simp [antagonistFlags] at hf
  · rw [leaves effect mem f hf] at names
    cases names

/-- What the lair depends on. -/
theorem inLair_of_plan {w v : World} (plan : v.plan = w.plan) (current : v.current = w.current) :
    v.inLair = w.inLair := by
  unfold inLair
  rw [scenario_of_plan plan, current]

end World

/-- The antagonist is the one of the adventure. -/
theorem Play.Sane.antagonist {b : World} {p : Play} {a : Antagonist} (sane : Play.Sane b p)
    (antagonist : b.scenario.antagonist = some a) : p.world.scenario.antagonist = some a := by
  rw [World.scenario_of_plan sane.world.plan]
  exact antagonist

namespace Session

open World

variable {shelf : Shelf} {b : World} {s : Session} {p : Play} {line : String}

/-! ## 2. One line of the player -/

/-- **Whoever is beset stays so** when the antagonist is hit, unless that was its last health. -/
theorem Wounded.beset_iff {a : Antagonist} {n : Int} {q : Play} (h : Wounded a n p q) :
    q.world.IsBeset ↔ n ≠ 1 ∧ p.world.IsBeset := by
  unfold IsBeset
  rw [h.flags]
  by_cases last : n = 1
  · rw [if_pos last]
    constructor
    · rintro ⟨-, alive⟩
      rw [Flags.get_set] at alive
      cases alive
    · exact fun left => absurd last left.1
  · rw [if_neg last]
    exact ⟨fun beset => ⟨last, beset⟩, fun left => left.2⟩

/-- **Only a look wakes the antagonist and only a shot kills it.** -/
theorem turn_flag (leaves : b.LeavesAntagonist) (sane : Play.Sane b p) {f : Flag}
    (hf : f ∈ antagonistFlags) (line : String) :
    (s.turn p line).2.world.flags.get f = p.world.flags.get f ∨
      ((s.turn p line).2.world.flags.get f = true ∧ (s.cause p line).Sets f) := by
  refine turn_preserves (I := fun v => v.flags.get f = p.world.flags.get f ∨
    (v.flags.get f = true ∧ (s.cause p line).Sets f)) sane (fun {w v} before deed => ?_) (.inl rfl)
  rcases flag_deed leaves hf deed with e | set
  · rw [e]
    exact before
  · exact .inr set

/-- No line but a look wakes the antagonist. -/
theorem turn_active (leaves : b.LeavesAntagonist) (sane : Play.Sane b p)
    (other : (s.cause p line).verb? ≠ some .examine) :
    (s.turn p line).2.world.flags.get .antagonistActive = p.world.flags.get .antagonistActive := by
  rcases turn_flag leaves sane (by decide : Flag.antagonistActive ∈ _) line with
    e | ⟨-, ⟨-, look⟩ | ⟨e, -⟩⟩
  · exact e
  · exact absurd look other
  · cases e

/-- No line but a shot kills the antagonist. -/
theorem turn_defeated (leaves : b.LeavesAntagonist) (sane : Play.Sane b p)
    (other : (s.cause p line).verb? ≠ some .shoot) :
    (s.turn p line).2.world.flags.get .antagonistDefeated =
      p.world.flags.get .antagonistDefeated := by
  rcases turn_flag leaves sane (by decide : Flag.antagonistDefeated ∈ _) line with
    e | ⟨-, ⟨e, -⟩ | ⟨-, shot⟩⟩
  · exact e
  · cases e
  · exact absurd shot other

/-- **Whoever is beset is in the lair**, and not at a door. -/
structure Confined (p : Play) : Prop where
  lair : p.world.IsBeset → p.world.inLair = true
  closed : ∀ target, p.router.waiting = some (.doorCode target) → ¬ p.world.IsBeset

/-- **Whoever is beset goes nowhere.** -/
theorem turn_stays (sane : Play.Sane b p) (confined : Confined p) (beset : p.world.IsBeset)
    (line : String) : (s.turn p line).2.world.current = p.world.current := by
  rcases (strides_turn (s := s) sane line).moved with e | ⟨v, target, -, -, -, allowed⟩
  · exact e
  · exact absurd beset (not_beset_of_door sane confined.lair confined.closed v target allowed)

/-- Whoever looks at something goes nowhere. -/
theorem turn_looks (sane : Play.Sane b p) (look : (s.cause p line).verb? = some .examine) :
    (s.turn p line).2.world.current = p.world.current := by
  rcases (strides_turn (s := s) sane line).moved with e | ⟨v, target, -, -, -, allowed⟩
  · exact e
  · exact absurd look (not_examine allowed)

/-- **Whoever is beset has been so before, or has looked at the lair.** -/
theorem beset_turn (leaves : b.LeavesAntagonist) (sane : Play.Sane b p)
    (beset : (s.turn p line).2.world.IsBeset) :
    p.world.IsBeset ∨ ((s.cause p line).verb? = some .examine ∧ p.world.inLair = true) := by
  obtain ⟨active, alive⟩ := beset
  by_cases look : (s.cause p line).verb? = some .examine
  · have shot : (s.cause p line).verb? ≠ some .shoot := by
      rw [look]
      exact nofun
    rw [turn_defeated leaves sane shot] at alive
    rcases turn_examine sane look with ⟨⟨⟨more, world⟩, -⟩, -⟩ | ⟨lair, -⟩
    · rw [world] at active
      exact .inl ⟨active, alive⟩
    · exact .inr ⟨look, lair⟩
  · rw [turn_active leaves sane look] at active
    refine .inl ⟨active, ?_⟩
    rcases turn_flag leaves sane (by decide : Flag.antagonistDefeated ∈ _) line with e | ⟨e, -⟩
    · exact e.symm.trans alive
    · rw [alive] at e
      cases e

/-- **After a line whoever is beset is in the lair**, and not at a door. -/
theorem confined_turn (leaves : b.LeavesAntagonist) (sane : Play.Sane b p)
    (confined : Confined p) (line : String) : Confined (s.turn p line).2 := by
  have strides := strides_turn (s := s) sane line
  refine ⟨fun beset => ?_, fun target waits beset => ?_⟩
  · rcases beset_turn leaves sane beset with before | ⟨look, lair⟩
    · rw [inLair_of_plan strides.plan (turn_stays sane confined before line)]
      exact confined.lair before
    · rw [inLair_of_plan strides.plan (turn_looks sane look)]
      exact lair
  · obtain ⟨⟨v, approaches⟩, -⟩ := strides.asked target waits
    rcases beset_turn leaves sane beset with before | ⟨look, -⟩
    · exact not_beset_of_door sane confined.lair confined.closed v target (.inl approaches) before
    · exact not_examine (.inl approaches) look

theorem confined_tick (confined : Confined p) : Confined (tick.runOn p).2 := by
  obtain ⟨lair, closed⟩ := confined
  constructor
  · rw [tick_world]
    exact lair
  · rw [tick_world, (tick_murmurs p).router]
    exact closed

/-! ## 3. Every play -/

theorem played_confined (leaves : b.LeavesAntagonist) (sane : Play.Sane b p)
    (confined : Confined p) (events : List Event) : Confined (s.played p events) :=
  played_keeps sane confined (fun text sane confined => confined_turn leaves sane confined text)
    fun _ confined => confined_tick confined

/-- **No session begins in the middle of the encounter.** -/
theorem begins_calm (holds : shelf.Holds b) (calm : b.IsCalm) (leaves : b.LeavesAntagonist)
    (h : Begins shelf s p) : ¬ p.world.IsBeset ∧ p.router.waiting = none := by
  have built : b.IsBuilt := holds.built
  induction h with
  | anew opens new =>
      obtain ⟨-, -, rfl⟩ := opens_anew holds opens new
      exact ⟨calm.not_beset, rfl⟩
  | @resumed s s' p p' events line setup archive begins saves kept opens ih =>
      obtain ⟨sane₀, placed₀⟩ := begins_sane holds begins
      have sane := played_sane s sane₀ events
      have placed := played_placed s sane₀ placed₀ events
      have confined : Confined p := ⟨fun beset => absurd beset ih.1, fun _ _ => ih.1⟩
      have confined := played_confined (s := s) leaves sane₀ confined events
      obtain ⟨-, uncornered, -⟩ := saves_turn sane placed saves
      have free := not_beset_of_free sane.world.clean confined.lair uncornered
      obtain ⟨-, -, w, restores, rfl⟩ := opens_saved holds sane placed saves kept opens
      refine ⟨fun beset => free ?_, rfl⟩
      have beset : w.IsBeset := beset
      unfold IsBeset at beset ⊢
      rw [flags_restored sane.world.plan built sane.world.clean restores] at beset
      exact beset

theorem begins_confined (holds : shelf.Holds b) (calm : b.IsCalm) (leaves : b.LeavesAntagonist)
    (h : Begins shelf s p) : Confined p := by
  obtain ⟨calm', -⟩ := begins_calm holds calm leaves h
  exact ⟨fun beset => absurd beset calm', fun _ _ => calm'⟩

end Session

end Adventure
