import Adventure.Proofs.Session.Dialogues
import Adventure.Proofs.Turn.Writes

/-!
# What each line of the player writes

* `Talk.terminate_parts`: the end of a dialogue writes that it is over, and nothing else;
* `Session.hooks_modest`: a session writes nothing of its own into the world;
* `turn_makes`: a line makes of the world what its intent can make of it;
* `writes_own`: **every verb writes only its own part of the world**.
-/

namespace Adventure

open Outcome

/-! ## 1. Dialogues that end -/

namespace Talk

/-- The world rests, but for notes. -/
def rests : Frame Talk where
  Within t u := t.world.Alike u.world
  refl t := .refl t.world
  trans := .trans

/-- **The end of a dialogue** writes that it is over, and nothing else. -/
theorem terminate_parts (m : Messages) (character : Content) (lines : List Content) (t : Talk) :
    ∃ v : World, (v = t.world ∨ ∃ name, character = .text name ∧ v = t.world.parted name) ∧
      v.Alike ((terminate m character lines).runOn t).2.world := by
  have marked : ∃ v : World,
      (v = t.world ∨ ∃ name, character = .text name ∧ v = t.world.parted name) ∧
        v.Alike ((World.markInteracted character).runOn t.world).2 := by
    unfold World.markInteracted
    cases found : t.world.characters.demand character with
    | error e =>
        rw [Act.runOn_bind_error (e := e) (t := t.world) (by
          unfold World.known
          rw [Act.runOn_reading, found])]
        exact ⟨_, .inl rfl, .refl _⟩
    | ok c =>
        obtain ⟨name, rfl, there⟩ := Roster.demand_eq_ok found
        rw [Act.runOn_bind_ok (World.known_run there)]
        exact ⟨_, .inr ⟨name, rfl, rfl⟩, _, rfl⟩
  obtain ⟨v, how, alike⟩ := marked
  refine ⟨v, how, alike.trans ?_⟩
  unfold terminate
  rw [Act.runOn_bind_ok (Act.runOn_modify _ _)]
  refine Frame.within_after (F := rests) (a := onWorld (World.markInteracted character))
    (fun _ => ?_) { t with conversation := { t.conversation with state := .terminated } }
  refine Frame.holds_bind (Frame.holds_ofExcept _) fun _ => Frame.holds_get fun u => ?_
  split
  · exact Frame.holds_pure _
  · split
    · exact Frame.holds_pure _
    · exact Frame.holds_pure _

end Talk

namespace Session

variable {s : Session} {b : World} {p : Play} {line : String}

/-! ## 2. The host -/

theorem rests_of_whispers {q : Play} (h : Play.whispers.Within p q) : Stage.rests.Within p q := by
  obtain ⟨more, e⟩ := h.1.notes
  exact ⟨_, e⟩

theorem rests_stop : Stage.rests.Holds stop := by
  intro p
  obtain ⟨q, run, ⟨more, e⟩, -⟩ := stop_run p
  rw [run]
  exact ⟨_, e⟩

theorem rests_follow (r : Reaction) : Stage.rests.Holds (follow r) :=
  holds_follow (Stage.rests_redirect _)
    (holds_trigger Stage.rests_note (fun _ _ => .refl _) rests_stop) r

/-- A dialogue that begins writes nothing, or that it is over. -/
theorem beginDialogue_parts (s : Session) (name : String) (continuation : Content) (p : Play) :
    ∃ v : World, (v = p.world ∨ v = p.world.parted name) ∧
      v.Alike ((s.beginDialogue (.text name) continuation).runOn p).2.world := by
  have begun : ∃ v : World, (v = p.world ∨ v = p.world.parted name) ∧
      v.Alike ((Talk.begun s.messages name).runOn (opened name continuation p).talk).2.world := by
    rw [Talk.begun_run]
    split
    · obtain ⟨v, rfl | ⟨name', e, rfl⟩, alike⟩ := Talk.terminate_parts s.messages (.text name) []
        (Talk.announced name (opened name continuation p).talk)
      · exact ⟨_, .inl rfl, .trans ⟨_, rfl⟩ alike⟩
      · cases e
        exact ⟨_, .inr rfl, .trans ⟨_, rfl⟩ alike⟩
    · exact ⟨_, .inl rfl, .trans ⟨_, rfl⟩ (Frame.holds_bind (F := Talk.rests)
        (Frame.holds_ofExcept _) (fun _ => Frame.holds_pure _)
        (Talk.announced name (opened name continuation p).talk))⟩
  obtain ⟨v, how, alike⟩ := begun
  refine ⟨v, how, alike.trans ?_⟩
  rw [beginDialogue_run]
  exact Frame.within_after (F := Stage.rests)
    (a := Play.onTalk (Talk.begun s.messages name)) rests_follow (opened name continuation p)

theorem hooks_modest (s : Session) : s.setting.hooks.IsModest where
  startTicker := by
    intro p
    obtain ⟨q, run, murmurs⟩ := murmurs_startTicker s p
    obtain ⟨more, e⟩ := murmurs.notes
    show p.world.Alike (s.startTicker.runOn p).2.world
    rw [run]
    exact ⟨_, e⟩
  stopTicker := by
    intro p
    obtain ⟨q, run, murmurs⟩ := murmurs_stopTicker p
    obtain ⟨more, e⟩ := murmurs.notes
    show p.world.Alike (stopTicker.runOn p).2.world
    rw [run]
    exact ⟨_, e⟩
  stops p := by
    obtain ⟨q, run, -⟩ := stopTicker_run p
    exact ⟨q, run⟩
  save := by
    rintro _ ⟨⟩
    exact holds_save Stage.rests_note fun _ _ => .refl _
  beginDialogue id p := by
    obtain ⟨v, how, alike⟩ := s.beginDialogue_parts id .null p
    exact ⟨v, how, alike.trans
      (Frame.within_after (F := Stage.rests) (fun _ => Frame.holds_ofExcept _) p)⟩

/-! ## 3. Turns -/

/-- A line to which no rule belongs writes nothing. -/
theorem turn_unruled {i : Intent} (free : p.router.waiting = none)
    (read : s.intent? p.world line = some i) (unruled : i.verb? = none ∨ i.verb? = some .quit) :
    Stage.rests.Within (p.heard line) (s.turn p line).2 := by
  have tells (lines : List Content) : Stage.rests.Holds (Play.tell lines) :=
    fun p => rests_of_whispers (Play.whispers_tell lines p)
  rcases unruled with unknown | quits
  · have other : i.verb? ≠ some .quit := by
      rw [unknown]
      exact nofun
    rw [turn_routes free read other]
    unfold Setting.route
    simp only [unknown]
    exact Frame.holds_bind (Frame.holds_bind (Setting.rests_say _) fun _ => Frame.holds_pure _)
      tells _
  · rw [turn_reads free read, if_pos quits]
    exact Frame.holds_bind (holds_quit rests_stop) tells _

/-- **A line makes of the world what its intent can make of it**, as far as that comes. -/
theorem turn_makes (sane : Play.Sane b p) {i : Intent} (free : p.router.waiting = none)
    (read : s.intent? p.world line = some i) :
    Setting.Makes World.brought World.withTorch i (p.heard line) (s.turn p line).2 := by
  cases hv : i.verb? with
  | none => exact Setting.makes_nothing (turn_unruled free read (.inl hv))
  | some verb =>
      cases hr : s.setting.ruleFor? verb with
      | none =>
          have quits : verb = .quit := by
            cases verb
            case quit => rfl
            all_goals cases hr
          exact Setting.makes_nothing (turn_unruled free read (.inr (quits ▸ hv)))
      | some rule =>
          have fits : i.FitsIn (p.heard line).world :=
            Intent.fitsIn_of_fits (Intent.fits_of_ofLine? read)
          exact (Setting.rule_makes s.hooks_modest (sane_heard sane line).world fits hv hr).rests
            (rests_of_whispers (turn_rule free read hv hr))

/-- **Every verb writes only its own part of the world**: what a line leaves of it is, but for notes,
    what its intent makes of it with exactly the consequences that are brought about. -/
theorem writes_own {shelf : Shelf} (holds : shelf.Holds b)
    (documented : ∀ effect ∈ b.effects, effect.isDocumented true = true)
    (named : b.items.has "" = false) (reached : Reached shelf s p) {i : Intent}
    (free : p.router.waiting = none) (read : s.intent? p.world line = some i) :
    (∃ v, i.Yields World.granted World.torched p.world v ∧ v.Alike (s.turn p line).2.world) ∧
      (i.IsQuiet → p.world.Alike (s.turn p line).2.world) := by
  obtain ⟨sane, placed⟩ := reached_sane holds reached
  obtain ⟨v, yields, alike⟩ := turn_makes (s := s) sane free read
  have unnamed : p.world.items.has "" = false :=
    (World.has_item_of_plan sane.world.plan "").trans named
  obtain ⟨u, yields, same⟩ := Intent.yields_granted documented unnamed sane.world placed yields
  refine ⟨⟨u, yields, same.trans alike⟩, fun quiet => ?_⟩
  rw [← Intent.yields_quiet quiet yields]
  exact same.trans alike

/-- Who looks at the bones of the den wakes what sleeps there, and does nothing else. -/
theorem writes_own_den : ∃ shelf b s p line i, Shelf.Holds shelf b ∧
    (∀ effect ∈ b.effects, effect.isDocumented true = true) ∧ b.items.has "" = false ∧
    Reached shelf s p ∧ p.router.waiting = none ∧ s.intent? p.world line = some i ∧
    (s.turn p line).2.world.flags.get .antagonistActive = true ∧
    ∃ v, i.Yields World.granted World.torched p.world v ∧ v.Alike (s.turn p line).2.world := by
  let s : Session := Cellar.session (.text "closed")
  let i : Intent :=
    { command := some ⟨⟨"examine", []⟩, .examine⟩, roomItem := some "bones"
      tokens := ["examine", "bones"] }
  obtain ⟨b, holds, sound, documented, named, read, wakes⟩ :=
    Cellar.exists_holdsOf (Den.content "hall") (.text "closed")
      (fun b =>
        let p := Cellar.first b
        b.inconsistencies = .ok [] ∧ (∀ effect ∈ b.effects, effect.isDocumented true = true) ∧
          b.items.has "" = false ∧ s.intent? p.world "examine bones" = some i ∧
          (s.turn p "examine bones").2.world.flags.get .antagonistActive = true)
      (by decide +kernel)
  have reached := Reached.anew (Cellar.opensOf holds sound) rfl
  exact ⟨_, b, s, _, "examine bones", i, holds, documented, named, reached, rfl, read, wakes,
    (writes_own holds documented named reached rfl read).1⟩

end Session

end Adventure
