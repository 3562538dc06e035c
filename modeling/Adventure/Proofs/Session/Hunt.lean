import Adventure.Proofs.Session.Encounter

/-!
# The antagonist can be defeated

* `World.healthOf`, `healthOf_deed`: **only a shot takes health from anyone**;
* `Session.Toll`, `turn_toll`: what a line takes from the antagonist;
* `World.IsHale`: as long as the antagonist is not dead, it has some health left;
* `begins_hale`, `played_hale`: it is so in every play;
* `Session.shots`, `beset_iff_shots`: **the encounter lasts until there have been as many shots as
  the antagonist had healths**;
* `antagonist_defeated`: an antagonist that stands in its lair with some health traps nobody;
* `antagonist_absent`: one that stands elsewhere does.
-/

namespace Adventure

/-! ## 1. Health -/

/-- **An antagonist that can be fought**: it stands in its lair, and has some health. -/
structure Antagonist.IsFair (a : Antagonist) (b : World) : Prop where
  stands : ∃ ch ∈ b.characters.get? a.character, ch.room = some a.room
  alive : ∃ n, a.health = .number n ∧ 0 < n

namespace World

variable {b w v : World} {c : Cause} {a : Antagonist}

/-- The health of a character. -/
def healthOf (id : String) (w : World) : Option Figure := (w.characters.get? id).map Character.health

/-- **Only a shot takes health from anyone.** -/
theorem healthOf_deed (id : String) (other : c.verb? ≠ some .shoot) (d : Deed b c w v) :
    v.healthOf id = w.healthOf id := by
  rcases health_deed d with same | ⟨a, ch, n, shoot, -⟩
  · have found := congrArg (fun healths => healths.get? id) same
    simp only [Roster.get?_map] at found
    exact found
  · exact absurd shoot other

/-- **As long as the antagonist is not dead, it has some health left.** -/
def IsHale (a : Antagonist) (w : World) : Prop :=
  w.flags.get .antagonistDefeated = false →
    ∃ n, w.healthOf a.character = some (.number n) ∧ 0 < n

/-- The antagonist has the health that the adventure gives it. -/
theorem hale_built (built : b.IsBuilt) (antagonist : b.scenario.antagonist = some a)
    (fair : a.IsFair b) : b.IsHale a := by
  intro _
  obtain ⟨⟨ch, there, -⟩, n, health, alive⟩ := fair
  refine ⟨n, ?_, alive⟩
  unfold healthOf
  rw [there, Option.map_some, built.health a ch antagonist there, health]

/-- An antagonist that stands in its lair is met there. -/
theorem meets_in_lair (plan : w.plan = b.plan) (placed : w.IsPlaced)
    (antagonist : b.scenario.antagonist = some a) (fair : a.IsFair b) (lair : w.inLair = true)
    {n : Int} (health : w.healthOf a.character = some (.number n)) :
    ∃ ch ∈ w.charactersHere.get? a.character, ch.health = .number n := by
  obtain ⟨ch, there, health⟩ := Option.map_eq_some_iff.mp health
  obtain ⟨ch₀, there₀, bare⟩ := character_of_plan plan there
  obtain ⟨⟨ch₁, there₁, stands⟩, -⟩ := fair
  cases there₀.symm.trans there₁
  have room : ch.room = some a.room := (congrArg Character.room bare).symm.trans stands
  obtain ⟨name, current, -⟩ := placed
  unfold inLair at lair
  rw [scenario_of_plan plan, antagonist] at lair
  simp only [current, Content.same_text, Content.text.injEq] at lair
  refine ⟨ch, ?_, health⟩
  show w.charactersHere.get? a.character = some ch
  rw [charactersHere, charactersIn, Roster.get?_filter, there, Option.filter_some, if_pos]
  show (Content.ofText? ch.room).same w.current = true
  rw [room, current, lair]
  exact (Content.same_text _ _).mpr rfl

/-- Whoever is beset stays so, unless the antagonist is shot. -/
theorem beset_deed (leaves : b.LeavesAntagonist) (other : c.verb? ≠ some .shoot)
    (beset : w.IsBeset) (d : Deed b c w v) : v.IsBeset := by
  refine ⟨?_, ?_⟩
  · rcases flag_deed leaves (by decide : Flag.antagonistActive ∈ _) d with e | ⟨e, -⟩
    · exact e.trans beset.1
    · exact e
  · rcases flag_deed leaves (by decide : Flag.antagonistDefeated ∈ _) d with e | ⟨-, ⟨e, -⟩ | ⟨-, k⟩⟩
    · exact e.trans beset.2
    · cases e
    · exact absurd k other

end World

namespace Session

open World Play

variable {shelf : Shelf} {b : World} {s : Session} {p q : Play} {a : Antagonist} {line : String}

/-! ## 2. One line of the player -/

/-- **What a line takes from the antagonist.** -/
inductive Toll (a : Antagonist) (s : Session) (p : Play) (line : String) (q : Play) : Prop where
  | spares (health : q.world.healthOf a.character = p.world.healthOf a.character)
      (defeated : q.world.flags.get .antagonistDefeated = p.world.flags.get .antagonistDefeated)
  | takes (n : Int) (shot : s.ShootsAt a.character p line)
      (health : p.world.healthOf a.character = some (.number n)) (alive : 0 < n)
      (wounded : Wounded a n p q)

/-- A line that is no shot takes nothing. -/
theorem turn_spares (leaves : b.LeavesAntagonist) (sane : Play.Sane b p)
    (other : (s.cause p line).verb? ≠ some .shoot) : Toll a s p line (s.turn p line).2 :=
  .spares (turn_preserves (I := fun v => v.healthOf a.character = p.world.healthOf a.character)
    sane (fun e d => (healthOf_deed _ other d).trans e) rfl) (turn_defeated leaves sane other)

theorem turn_toll (leaves : b.LeavesAntagonist) (sane : Play.Sane b p)
    (antagonist : p.world.scenario.antagonist = some a) (line : String) :
    Toll a s p line (s.turn p line).2 := by
  by_cases verb : (s.cause p line).verb? = some .shoot
  · rcases turn_shoot sane verb with ⟨⟨⟨more, world⟩, -⟩, -⟩ |
      ⟨a', ch, n, antagonist', shot, there, health, alive, wounded⟩
    · refine .spares ?_ ?_
      · rw [world]
        rfl
      · rw [world]
        rfl
    · cases antagonist.symm.trans antagonist'
      refine .takes n shot ?_ alive wounded
      unfold healthOf
      rw [there, Option.map_some, health]
  · exact turn_spares leaves sane verb

/-- What is left to whoever has been hit. -/
theorem Wounded.healthOf {n : Int} {x : Figure} (h : Wounded a n p q)
    (before : p.world.healthOf a.character = some x) :
    q.world.healthOf a.character = some (.number (n - 1)) := by
  obtain ⟨ch, there, -⟩ := Option.map_eq_some_iff.mp before
  unfold World.healthOf
  rw [h.characters, Roster.get?_update_self there]
  rfl

theorem hale_toll (hale : p.world.IsHale a) (toll : Toll a s p line q) : q.world.IsHale a := by
  intro alive
  cases toll with
  | spares health defeated =>
      rw [health]
      exact hale (defeated.symm.trans alive)
  | takes n shot health some wounded =>
      refine ⟨n - 1, wounded.healthOf health, ?_⟩
      rw [wounded.flags] at alive
      by_cases last : n = 1
      · rw [if_pos last, Flags.get_set] at alive
        cases alive
      · omega

/-! ## 3. Every play -/

theorem played_hale (leaves : b.LeavesAntagonist) (antagonist : b.scenario.antagonist = some a)
    (sane : Play.Sane b p) (hale : p.world.IsHale a) (events : List Event) :
    (s.played p events).world.IsHale a :=
  played_world sane hale fun text sane hale =>
    hale_toll hale (turn_toll (s := s) leaves sane (sane.antagonist antagonist) text)

/-- **Every session begins with an antagonist that is dead or has some health**, if it has some in
    the adventure. -/
theorem begins_hale (holds : shelf.Holds b) (leaves : b.LeavesAntagonist)
    (antagonist : b.scenario.antagonist = some a) (fair : a.IsFair b) (h : Begins shelf s p)
    (keeps : s.resumed = true → b.KeepsNames) : p.world.IsHale a := by
  have built : b.IsBuilt := holds.built
  have fresh {setup : Setup} {archive : Archive} {s : Session} {p : Play}
      (opens : Opens setup shelf archive s p) (new : s.resumed = false) : p.world.IsHale a := by
    obtain ⟨-, -, rfl⟩ := opens_anew holds opens new
    have hale : b.IsHale a := hale_built built antagonist fair
    exact hale
  induction h with
  | anew opens new => exact fresh opens new
  | @resumed s s' p p' events line setup archive begins saves kept opens ih =>
      cases resumed : s'.resumed with
      | false => exact fresh opens resumed
      | true =>
          have keeps : b.KeepsNames := keeps resumed
          obtain ⟨sane₀, placed₀⟩ := begins_sane holds begins
          have sane := played_sane s sane₀ events
          have placed := played_placed s sane₀ placed₀ events
          have hale := played_hale (s := s) leaves antagonist sane₀ (ih fun _ => keeps) events
          obtain ⟨accepts, -, w, restores, rfl⟩ := opens_saved holds sane placed saves kept opens
          have characters := characters_restored keeps sane.world.plan built accepts restores
          have flags := flags_restored sane.world.plan built sane.world.clean restores
          show w.IsHale a
          unfold IsHale World.healthOf
          rw [characters, flags]
          exact hale

/-! ## 4. The encounter -/

/-- **How many of the lines among some events are shots** at a character. -/
def shots (s : Session) (id : String) : Play → List Event → Nat
  | _, [] => 0
  | p, .line text :: events =>
      (if s.ShootsAt id p text then 1 else 0) + s.shots id (s.turn p text).2 events
  | p, .period :: events => s.shots id (tick.runOn p).2 events

/-- Whoever has killed the antagonist is not beset again. -/
theorem played_free (leaves : b.LeavesAntagonist) (sane : Play.Sane b p)
    (dead : p.world.flags.get .antagonistDefeated = true) (events : List Event) :
    ¬ (s.played p events).world.IsBeset := by
  have dead : (s.played p events).world.flags.get .antagonistDefeated = true := by
    refine played_world (I := fun w => w.flags.get .antagonistDefeated = true) sane dead
      fun text sane dead => ?_
    rcases turn_flag (s := s) leaves sane (by decide : Flag.antagonistDefeated ∈ _) text with
      e | ⟨e, -⟩
    · exact e.trans dead
    · exact e
  rintro ⟨-, alive⟩
  rw [dead] at alive
  cases alive

/-- **A shot at the antagonist takes one health from it** as long as the encounter goes on. -/
theorem shot_takes (sane : Play.Sane b p) (confined : Confined p) (beset : p.world.IsBeset)
    (antagonist : p.world.scenario.antagonist = some a) {n : Int}
    (health : p.world.healthOf a.character = some (.number n)) (alive : 0 < n)
    (shot : s.ShootsAt a.character p line) : Wounded a n p (s.turn p line).2 := by
  obtain ⟨free, i, read, verb, aimed⟩ := shot
  obtain ⟨ch, there, health⟩ := Option.map_eq_some_iff.mp health
  have exposed : p.world.isExposed = .ok true := by
    rw [isExposed_eq sane.world.clean, confined.lair beset, beset.1]
    rfl
  exact turn_hits free read verb sane.world.clean ⟨antagonist, aimed, there, exposed, health, alive⟩

/-- **The encounter lasts until there have been as many shots** as the antagonist had healths. -/
theorem beset_iff_shots (leaves : b.LeavesAntagonist) (antagonist : b.scenario.antagonist = some a)
    (sane : Play.Sane b p) (confined : Confined p) (beset : p.world.IsBeset) {n : Int}
    (health : p.world.healthOf a.character = some (.number n)) (alive : 0 < n)
    (events : List Event) :
    (s.played p events).world.IsBeset ↔ (s.shots a.character p events : Int) < n := by
  induction events generalizing p n with
  | nil => exact ⟨fun _ => alive, fun _ => beset⟩
  | cons event events ih =>
      cases event with
      | period =>
          have world : (tick.runOn p).2.world = p.world := tick_world p
          exact ih (tick_sane s sane) (confined_tick confined) (by rw [world]; exact beset)
            (by rw [world]; exact health) alive
      | line text =>
          have sane' : Play.Sane b (s.turn p text).2 := turn_sane sane text
          have confined' : Confined (s.turn p text).2 := confined_turn leaves sane confined text
          have here := sane.antagonist antagonist
          show (s.played (s.turn p text).2 events).world.IsBeset ↔
            ((if s.ShootsAt a.character p text then 1 else 0) +
              s.shots a.character (s.turn p text).2 events : Nat) < n
          by_cases shot : s.ShootsAt a.character p text
          · have wounded := shot_takes sane confined beset here health alive shot
            have left := wounded.healthOf health
            rw [if_pos shot]
            by_cases last : n = 1
            · have dead : (s.turn p text).2.world.flags.get .antagonistDefeated = true := by
                rw [wounded.flags, if_pos last, Flags.get_set]
                rfl
              have free := played_free (s := s) leaves sane' dead events
              exact ⟨fun k => absurd k free, fun k => by omega⟩
            · rw [ih sane' confined' (wounded.beset_iff.mpr ⟨last, beset⟩) left (by omega)]
              omega
          · rw [if_neg shot]
            cases turn_toll (s := s) leaves sane here text with
            | takes n shot' => exact absurd shot' shot
            | spares health' defeated =>
                have beset' : (s.turn p text).2.world.IsBeset := by
                  refine ⟨?_, defeated.trans beset.2⟩
                  rcases turn_flag (s := s) leaves sane (by decide : Flag.antagonistActive ∈ _) text
                    with e | ⟨e, -⟩
                  · exact e.trans beset.1
                  · exact e
                rw [ih sane' confined' beset' (health'.trans health) alive]
                omega

/-- **While the encounter goes on nothing else does**: no line takes the player away or changes a
    file, and none with which the player wants to quit stops the session. -/
theorem turn_held (leaves : b.LeavesAntagonist) (sane : Play.Sane b p) (placed : p.world.IsPlaced)
    (confined : Confined p) (beset : p.world.IsBeset) (line : String) :
    (s.turn p line).2.world.current = p.world.current ∧
      (s.turn p line).2.host.archive = p.host.archive ∧
      ((s.cause p line).verb? = some .quit → (s.turn p line).2.host.running = p.host.running) := by
  refine ⟨turn_stays sane confined beset line, ?_, fun quit => ?_⟩
  · by_cases verb : (s.cause p line).verb? = some .save
    · rcases archive_saved sane placed verb with same | ⟨uncornered, -⟩
      · exact same
      · exact absurd beset (not_beset_of_free sane.world.clean confined.lair uncornered)
    · exact archive_turn sane verb
  · have other : (s.cause p line).verb? ≠ some .shoot := by
      rw [quit]
      exact nofun
    have held : (s.turn p line).2.world.IsBeset ∧ (s.turn p line).2.world.flags.IsClean ∧
        (s.turn p line).2.host.running = p.host.running := by
      refine deeds_preserve (I := fun q => q.world.IsBeset ∧ q.world.flags.IsClean ∧
        q.host.running = p.host.running) (fun i d => ?_) (turn_leads (s := s) sane line)
        ⟨beset, sane.world.clean, rfl⟩
      obtain ⟨beset, clean, running⟩ := i
      cases d with
      | world v deed => exact ⟨beset_deed leaves other beset deed, clean_deed clean deed, running⟩
      | desk desk conversation running' => exact ⟨beset, clean, running'.trans running⟩
      | halt allowed =>
          exact absurd beset ((encounterActive_false_iff clean).mp (allowed quit))
      | converse => exact ⟨beset, clean, running⟩
      | hush => exact ⟨beset, clean, running⟩
      | knock => exact ⟨beset, clean, running⟩
      | listen => exact ⟨beset, clean, running⟩
      | keep => exact ⟨beset, clean, running⟩
    exact held.2.2

/-- **An antagonist that can be fought traps nobody.** While the encounter goes on, it stands where
    the player is and has some health; no line leads away, saves or quits, but as many shots as it
    has healths end the encounter, whatever lines and periods come between them. -/
theorem antagonist_defeated (holds : shelf.Holds b) (calm : b.IsCalm)
    (leaves : b.LeavesAntagonist) (fair : ∀ a ∈ b.scenario.antagonist, a.IsFair b)
    (h : Begins shelf s p) (keeps : s.resumed = true → b.KeepsNames) (events : List Event) :
    let q := s.played p events
    q.world.encounterActive = .ok true → ∃ a, b.scenario.antagonist = some a ∧ ∃ n : Nat, 0 < n ∧
      (∃ ch ∈ q.world.charactersHere.get? a.character, ch.health = .number n) ∧
      (∀ more, (s.played q more).world.encounterActive =
        .ok (decide (s.shots a.character q more < n))) ∧
      ∀ line, (s.turn q line).2.world.current = q.world.current ∧
        (s.turn q line).2.host.archive = q.host.archive ∧
        ((s.cause q line).verb? = some .quit →
          (s.turn q line).2.host.running = q.host.running) := by
  intro q active
  obtain ⟨sane₀, placed₀⟩ := begins_sane holds h
  have sane : Play.Sane b q := played_sane s sane₀ events
  have placed : q.world.IsPlaced := played_placed s sane₀ placed₀ events
  have confined : Confined q :=
    played_confined leaves sane₀ (begins_confined holds calm leaves h) events
  have beset : q.world.IsBeset := (encounterActive_iff sane.world.clean).mp active
  have lair := confined.lair beset
  obtain ⟨a, antagonist⟩ : ∃ a, b.scenario.antagonist = some a := by
    unfold inLair at lair
    rw [scenario_of_plan sane.world.plan] at lair
    cases antagonist : b.scenario.antagonist with
    | none =>
        rw [antagonist] at lair
        cases lair
    | some a => exact ⟨a, rfl⟩
  have fair := fair a antagonist
  have hale : q.world.IsHale a := played_hale leaves antagonist sane₀
    (begins_hale holds leaves antagonist fair h keeps) events
  obtain ⟨n, health, alive⟩ := hale beset.2
  obtain ⟨n, rfl⟩ := Int.eq_ofNat_of_zero_le (Int.le_of_lt alive)
  refine ⟨a, antagonist, n, Int.natCast_pos.mp alive,
    meets_in_lair sane.world.plan placed antagonist fair lair health, fun more => ?_,
    turn_held leaves sane placed confined beset⟩
  have lasts := beset_iff_shots (s := s) leaves antagonist sane confined beset health alive more
  have clean := (played_sane s sane more).world.clean
  by_cases few : s.shots a.character q more < n
  · rw [decide_eq_true few, encounterActive_iff clean, lasts]
    exact Int.ofNat_lt.mpr few
  · rw [decide_eq_false few, encounterActive_false_iff clean, lasts]
    exact fun k => few (Int.ofNat_lt.mp k)

/-- Two shots end the encounter in the den. -/
theorem antagonist_defeated_den : ∃ shelf b s p, Shelf.Holds shelf b ∧ b.IsCalm ∧
    b.LeavesAntagonist ∧ (∀ a ∈ b.scenario.antagonist, a.IsFair b) ∧ Begins shelf s p ∧
      s.resumed = false ∧
      let q := s.played p [.line "examine bones"]
      q.world.encounterActive = .ok true ∧ ∃ a, b.scenario.antagonist = some a ∧
        ∃ n : Nat, 0 < n ∧ ∀ more, (s.played q more).world.encounterActive =
          .ok (decide (s.shots a.character q more < n)) := by
  let s : Session := Cellar.session (.text "closed")
  obtain ⟨b, holds, sound, calm, leaves, fair, active⟩ :=
    Cellar.exists_holdsOf (Den.content "hall") (.text "closed")
      (fun b => b.inconsistencies = .ok [] ∧ b.IsCalm ∧ b.LeavesAntagonist ∧
        (∀ a ∈ b.scenario.antagonist, a.health = .number 2 ∧
          ∃ ch ∈ b.characters.get? a.character, ch.room = some a.room) ∧
        (s.played (Cellar.first b) [.line "examine bones"]).world.encounterActive = .ok true)
      (by decide +kernel)
  have fair : ∀ a ∈ b.scenario.antagonist, a.IsFair b :=
    fun a ha => ⟨(fair a ha).2, 2, (fair a ha).1, by decide⟩
  have begins : Begins _ s (Cellar.first b) := .anew (Cellar.opensOf holds sound) rfl
  obtain ⟨a, antagonist, n, some, -, ends, -⟩ := antagonist_defeated holds calm leaves fair begins
    nofun [.line "examine bones"] active
  exact ⟨_, b, s, _, holds, calm, leaves, fair, begins, rfl, active, a, antagonist, n, some, ends⟩

/-- **An antagonist that stands elsewhere is not met**: the encounter goes on without it. -/
theorem antagonist_absent : ∃ shelf b s p, Shelf.Holds shelf b ∧ b.inconsistencies = .ok [] ∧
    b.IsCalm ∧ b.LeavesAntagonist ∧ Begins shelf s p ∧
      let q := s.played p [.line "examine bones"]
      q.world.encounterActive = .ok true ∧ ∃ a, b.scenario.antagonist = some a ∧
        q.world.charactersHere.has a.character = false := by
  let s : Session := Cellar.session (.text "closed")
  obtain ⟨b, holds, sound, calm, leaves, active, a, antagonist, absent⟩ :=
    Cellar.exists_holdsOf (Den.content "yard") (.text "closed")
      (fun b =>
        let q := s.played (Cellar.first b) [.line "examine bones"]
        b.inconsistencies = .ok [] ∧ b.IsCalm ∧ b.LeavesAntagonist ∧
          q.world.encounterActive = .ok true ∧ ∃ a ∈ b.scenario.antagonist,
            q.world.charactersHere.has a.character = false)
      (by decide +kernel)
  exact ⟨_, b, s, _, holds, sound, calm, leaves, .anew (Cellar.opensOf holds sound) rfl, active, a,
    antagonist, absent⟩

end Session

end Adventure
