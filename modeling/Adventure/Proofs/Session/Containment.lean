import Adventure.Proofs.Session.Anew
import Adventure.Proofs.World.Questions
import Adventure.Proofs.World.Resumed

/-!
# The antagonist does not let the player go

* `World.IsBeset`: the antagonist is awake and still alive;
* `World.Contains`: whoever is beset is in the lair, and not in the dark for want of a torch;
* `World.Watches`: what one line of the player has to do with this;
* `reached_guarded`: **it holds of every play that is reached**;
* `encounter_contained`: while the antagonist is awake, nobody leaves, quits or saves the game.
-/

namespace Adventure

open Outcome

/-! ## 1. The encounter -/

namespace World

/-- The antagonist is awake and still alive, as the flags have it. -/
def IsBeset (w : World) : Prop :=
  w.flags.get .antagonistActive = true ∧ w.flags.get .antagonistDefeated = false

theorem encounterActive_iff {w : World} (clean : w.flags.IsClean) :
    w.encounterActive = .ok true ↔ w.IsBeset := by
  rw [encounterActive_eq clean]
  simp [IsBeset]

theorem encounterActive_false_iff {w : World} (clean : w.flags.IsClean) :
    w.encounterActive = .ok false ↔ ¬ w.IsBeset := by
  rw [encounterActive_eq clean]
  unfold IsBeset
  cases w.flags.get .antagonistActive <;> cases w.flags.get .antagonistDefeated <;> simp

/-- **Whoever is beset is in the lair**, and sees, where a torch is what it takes to see. -/
def Contains (w : World) : Prop :=
  w.IsBeset → w.inLair = true ∧
    ∀ r, w.room = .ok r → r.reason = .torch → r.visible = true ∨ w.flags.get .torchLit = true

/-- The flags of which no consequence may speak. -/
def encounterFlags : List Flag := [.antagonistActive, .antagonistDefeated, .torchLit]

/-- No consequence of the adventure has to do with the encounter. -/
def LeavesEncounter (b : World) : Prop :=
  ∀ effect ∈ b.effects, ∀ f ∈ encounterFlags, effect.namesFlag f = false

instance (b : World) : Decidable b.LeavesEncounter := by
  unfold LeavesEncounter
  infer_instance

section

variable {b w v : World} {c : Cause}

/-- Being held back is being beset in the lair. -/
theorem not_beset_of_free (clean : w.flags.IsClean) (lair : w.IsBeset → w.inLair = true)
    (free : w.isCornered = .ok false) : ¬ w.IsBeset := by
  intro beset
  unfold isCornered at free
  rw [if_pos (lair beset), encounterActive_false_iff clean] at free
  exact free beset

/-- What the lair and its light depend on. -/
theorem contains_of_same (contains : w.Contains) (plan : v.plan = w.plan)
    (current : v.current = w.current) (beset : v.IsBeset → w.IsBeset)
    (light : w.flags.get .torchLit = true → v.flags.get .torchLit = true) : v.Contains := by
  intro h
  obtain ⟨lair, lit⟩ := contains (beset h)
  refine ⟨?_, fun r hr reason => ?_⟩
  · unfold inLair
    rw [scenario_of_plan plan, current]
    exact lair
  · obtain ⟨name, at_name, there⟩ := room_eq_ok hr
    obtain ⟨r', there', bare⟩ := room_of_plan plan there
    have visible : r'.visible = r.visible := show r'.bare.visible = r.bare.visible by rw [bare]
    have reason' : r'.reason = .torch := by
      rw [← reason]
      show r'.bare.reason = r.bare.reason
      rw [bare]
    rw [← visible]
    exact (lit r' (room_text (current.symm.trans at_name) there') reason').imp id light

end

/-! ## 2. One line of the player -/

/-- **What a line has to do with the encounter**, seen from the world `w` in which it is heard. -/
structure Watches (c : Cause) (w v : World) : Prop where
  contains : v.Contains
  woken : v.IsBeset → w.IsBeset ∨ c.verb? = some .examine
  lasting : w.IsBeset → c.verb? ≠ some .shoot → v.IsBeset
  stays : w.IsBeset → v.current = w.current

section

variable {b w u v : World} {c : Cause} (leaves : b.LeavesEncounter)
variable (free : ∀ u target, c.Approaches u target ∨ c.Unlocks u target → ¬ w.IsBeset)

/-- Whoever comes to a door does not look around. -/
theorem not_examine {u : World} {target : String}
    (h : c.Approaches u target ∨ c.Unlocks u target) : c.verb? ≠ some .examine := by
  rcases h with approaches | ⟨line, r, rfl, -⟩
  · cases c with
    | command m before i =>
        obtain ⟨⟨verb, -⟩, -⟩ := approaches
        show i.verb? ≠ _
        rw [verb]
        exact nofun
    | code | choice | idle => exact approaches.elim
  · exact nofun

namespace Watches

/-- What has to do with no flag, and leaves the player in the room. -/
theorem of_same (h : Watches c w u) (plan : v.plan = u.plan) (flags : v.flags = u.flags)
    (current : v.current = u.current) : Watches c w v := by
  have beset : v.IsBeset ↔ u.IsBeset := by
    unfold IsBeset
    rw [flags]
  exact ⟨contains_of_same h.contains plan current beset.mp (fun lit => flags ▸ lit),
    fun k => h.woken (beset.mp k), fun k verb => beset.mpr (h.lasting k verb),
    fun k => current.trans (h.stays k)⟩

/-- The antagonist wakes in its lair, and where there is light. -/
theorem wake (h : Watches c w u) (clean : u.flags.IsClean) (look : c.verb? = some .examine)
    (lair : u.inLair = true) (light : u.isDark = .ok false) :
    Watches c w { u with flags := u.flags.set .antagonistActive true } := by
  refine ⟨fun _ => ⟨lair, fun r hr _ => ?_⟩, fun _ => .inr look, fun k verb => ?_, h.stays⟩
  · have hr : u.room = .ok r := hr
    rw [isDark_eq clean hr] at light
    rw [Flags.get_set]
    simpa [or_iff_not_imp_left] using light
  · obtain ⟨-, alive⟩ := h.lasting k verb
    refine ⟨?_, ?_⟩
    · rw [Flags.get_set]
      rfl
    · rw [Flags.get_set]
      exact alive

/-- The torch does not go out where the antagonist is beheld by its light. -/
theorem torch (h : Watches c w u) (clean : u.flags.IsClean) {lit : Bool}
    (allowed : lit = false → c.MayDarken u) : Watches c w (u.withTorch lit) := by
  have plan : (u.withTorch lit).plan = u.plan := plan_withTorch lit u
  have beset : (u.withTorch lit).IsBeset ↔ u.IsBeset := by
    unfold IsBeset
    show (u.flags.set .torchLit lit).get _ = _ ∧ (u.flags.set .torchLit lit).get _ = _ ↔ _
    rw [Flags.get_set, Flags.get_set]
    rfl
  refine ⟨?_, fun k => h.woken (beset.mp k), fun k verb => beset.mpr (h.lasting k verb),
    h.stays⟩
  cases lit with
  | true =>
      refine contains_of_same h.contains plan rfl beset.mp fun _ => ?_
      show (u.flags.set .torchLit true).get .torchLit = true
      rw [Flags.get_set]
      rfl
  | false =>
      intro k
      have k := beset.mp k
      rcases allowed rfl with ⟨-, uncornered⟩ | ⟨-, r, hr, safe⟩
      · exact absurd k (not_beset_of_free clean (fun k => (h.contains k).1) uncornered)
      · refine ⟨(h.contains k).1, fun r' hr' reason => ?_⟩
        have hr' : u.room = .ok r' := hr'
        rw [hr] at hr'
        cases hr'
        exact absurd k ((encounterActive_false_iff clean).mp (safe reason))

/-- A flag is set that is not of the encounter. -/
theorem flag (h : Watches c w u) {f : Flag} (other : f ∉ encounterFlags) (value : Bool) :
    Watches c w { u with flags := u.flags.set f value } := by
  have get (g : Flag) (hg : g ∈ encounterFlags) :
      (u.flags.set f value).get g = u.flags.get g := by
    rw [Flags.get_set, if_neg]
    rintro rfl
    exact other hg
  have beset : IsBeset { u with flags := u.flags.set f value } ↔ u.IsBeset := by
    unfold IsBeset
    rw [get _ (by decide), get _ (by decide)]
  refine ⟨contains_of_same h.contains rfl rfl beset.mp fun lit => ?_,
    fun k => h.woken (beset.mp k), fun k verb => beset.mpr (h.lasting k verb), h.stays⟩
  exact (get _ (by decide)).trans lit

end Watches

include leaves free

/-- **A deed leaves the encounter where it is.** -/
theorem watches_deed (h : Watches c w u) (clean : u.flags.IsClean) (d : Deed b c u v) :
    Watches c w v := by
  have plan : v.plan = u.plan := plan_deed d
  cases d with
  | wake look lair light asleep => exact h.wake clean look lair light
  | torch lit allowed => exact h.torch clean allowed
  | flag f value effect mem names =>
      refine h.flag (fun encounter => ?_) value
      rw [leaves effect mem f encounter] at names
      cases names
  | defeat shoot =>
      have ended : ¬ IsBeset { u with flags := u.flags.set .antagonistDefeated true } := by
        rintro ⟨-, alive⟩
        rw [Flags.get_set] at alive
        cases alive
      exact ⟨fun k => absurd k ended, fun k => absurd k ended, fun _ verb => absurd shoot verb,
        h.stays⟩
  | enter target r there unlocked allowed =>
      have away : ¬ IsBeset { u with current := .text target } := by
        intro k
        rcases h.woken k with before | look
        · exact free _ _ allowed before
        · exact not_examine allowed look
      exact ⟨fun k => absurd k away, fun k => absurd k away,
        fun k => absurd k (free _ _ allowed), fun k => absurd k (free _ _ allowed)⟩
  | note => exact h.of_same plan rfl rfl
  | place => exact h.of_same plan rfl rfl
  | pick => exact h.of_same plan rfl rfl
  | switch => exact h.of_same plan rfl rfl
  | refresh => exact h.of_same plan rfl rfl
  | strike => exact h.of_same plan rfl rfl
  | say => exact h.of_same plan rfl rfl
  | part => exact h.of_same plan rfl rfl
  | unlock => exact h.of_same plan rfl rfl

end

end World

namespace Session

/-- **What a line has to do with the encounter**, seen from the play `p` in which it is heard. -/
structure Contained (c : Cause) (p q : Play) : Prop where
  watches : World.Watches c p.world q.world
  asked : ∀ target, q.router.waiting = some (.doorCode target) →
    ¬ p.world.IsBeset ∧ c.verb? ≠ some .examine
  running : p.world.IsBeset → c.verb? = some .quit → q.host.running = p.host.running
  archive : p.world.IsBeset ∨ c.verb? ≠ some .save → q.host.archive = p.host.archive

/-- **A play in which the encounter is contained**: nobody is beset at a door either. -/
structure Guarded (p : Play) : Prop where
  contains : p.world.Contains
  closed : ∀ target, p.router.waiting = some (.doorCode target) → ¬ p.world.IsBeset

theorem Guarded.lair {p : Play} (h : Guarded p) (beset : p.world.IsBeset) :
    p.world.inLair = true := (h.contains beset).1

section

variable {setup : Setup} {b : World} {c : Cause} {s : Session} {p q r : Play} {line : String}

theorem contained_deed (leaves : b.LeavesEncounter)
    (free : ∀ u target, c.Approaches u target ∨ c.Unlocks u target → ¬ p.world.IsBeset)
    (sane : Play.Sane b q) (h : Contained c p q) (d : Play.Deed setup b c q r) :
    Contained c p r := by
  have clean := sane.world.clean
  cases d with
  | world v deed =>
      exact ⟨World.watches_deed leaves free h.watches clean deed, h.asked, h.running, h.archive⟩
  | desk desk conversation running archive =>
      exact ⟨h.watches, h.asked, fun k verb => running.trans (h.running k verb),
        fun k => archive.trans (h.archive k)⟩
  | knock target allowed locked =>
      refine ⟨h.watches, fun target' waits => ?_, h.running, h.archive⟩
      exact ⟨free _ _ (.inl allowed), World.not_examine (.inl allowed)⟩
  | hush => exact ⟨h.watches, nofun, h.running, h.archive⟩
  | listen => exact ⟨h.watches, nofun, h.running, h.archive⟩
  | converse => exact ⟨h.watches, h.asked, h.running, h.archive⟩
  | keep game save uncornered saved =>
      refine ⟨h.watches, h.asked, h.running, fun k => ?_⟩
      rcases k with beset | other
      · have beset := h.watches.lasting beset (by rw [save]; exact nofun)
        exact absurd beset
          (World.not_beset_of_free clean (fun k => (h.watches.contains k).1) uncornered)
      · exact absurd save other
  | halt allowed =>
      refine ⟨h.watches, h.asked, fun beset quit => ?_, h.archive⟩
      have beset := h.watches.lasting beset (by rw [quit]; exact nofun)
      exact absurd beset ((World.encounterActive_false_iff clean).mp (allowed quit))

/-- Nobody who is beset comes to a door. -/
theorem not_beset_of_door (sane : Play.Sane b p) (lair : p.world.IsBeset → p.world.inLair = true)
    (closed : ∀ target, p.router.waiting = some (.doorCode target) → ¬ p.world.IsBeset)
    (w : World) (target : String)
    (h : (s.cause p line).Approaches w target ∨ (s.cause p line).Unlocks w target) :
    ¬ p.world.IsBeset := by
  rcases h with approaches | ⟨said, r, cause_eq, -, -⟩
  · unfold cause at approaches
    split at approaches
    · exact approaches.elim
    · exact approaches.elim
    · split at approaches
      · obtain ⟨-, uncornered, -⟩ := approaches
        exact World.not_beset_of_free sane.world.clean lair uncornered
      · exact approaches.elim
  · unfold cause at cause_eq
    split at cause_eq
    · next target waits => exact closed target waits
    · cases cause_eq
    · split at cause_eq
      · cases cause_eq
      · cases cause_eq

/-- **One line of a play in which the encounter is contained.** -/
theorem contained_turn (leaves : b.LeavesEncounter) (sane : Play.Sane b p) (guarded : Guarded p)
    (line : String) : Contained (s.cause p line) p (s.turn p line).2 := by
  have start : Contained (s.cause p line) p (p.heard line) :=
    ⟨⟨guarded.contains, fun k => .inl k, fun k _ => k, fun _ => rfl⟩, nofun, fun _ _ => rfl,
      fun _ => rfl⟩
  have both : Contained (s.cause p line) p (s.turn p line).2 ∧ Play.Sane b (s.turn p line).2 :=
    Play.deeds_preserve (I := fun q => Contained (s.cause p line) p q ∧ Play.Sane b q)
      (fun i d => ⟨contained_deed leaves (not_beset_of_door sane guarded.lair guarded.closed) i.2 i.1 d,
        Play.sane_deed i.2 d⟩)
      (turn_leads (s := s) sane line) ⟨start, sane_heard sane line⟩
  exact both.1

theorem guarded_turn (leaves : b.LeavesEncounter) (sane : Play.Sane b p) (guarded : Guarded p)
    (line : String) : Guarded (s.turn p line).2 := by
  have contained := contained_turn (s := s) leaves sane guarded line
  refine ⟨contained.watches.contains, fun target waits => fun beset => ?_⟩
  obtain ⟨away, other⟩ := contained.asked target waits
  exact (contained.watches.woken beset).elim away other

/-- A play with which a session begins in a world in which nobody is beset. -/
theorem guarded_first (setup : Setup) (archive : Archive) {w : World} (calm : ¬ w.IsBeset) :
    Guarded (firstPlay setup archive w) :=
  ⟨fun beset => absurd beset calm, nofun⟩

end

/-! ## 3. Every play -/

section Reached

variable {shelf : Shelf} {b : World} {s : Session} {p : Play} {line : String}

/-- **In every play the encounter is contained.** -/
theorem reached_guarded (holds : shelf.Holds b) (calm : ¬ b.IsBeset) (leaves : b.LeavesEncounter)
    (h : Reached shelf s p) : Guarded p := by
  have built : b.IsBuilt := holds.built
  induction h with
  | anew opens new =>
      obtain ⟨-, -, rfl⟩ := opens_anew holds opens new
      exact guarded_first _ _ calm
  | line reached line ih => exact guarded_turn leaves (reached_sane holds reached).1 ih line
  | resumed reached saves kept opens ih =>
      obtain ⟨sane, placed⟩ := reached_sane holds reached
      obtain ⟨-, -, w, restores, rfl⟩ := opens_saved holds sane placed saves kept opens
      obtain ⟨-, uncornered, -⟩ := saves_turn sane placed saves
      have free := World.not_beset_of_free sane.world.clean ih.lair uncornered
      refine guarded_first _ _ fun beset => free ?_
      unfold World.IsBeset at beset ⊢
      rw [World.flags_restored sane.world.plan built sane.world.clean restores] at beset
      exact beset

/-- What is written into the archive is a saved game of the world in which it was asked for. -/
theorem archive_saved (sane : Play.Sane b p) (placed : p.world.IsPlaced)
    (verb : (s.cause p line).verb? = some .save) :
    (s.turn p line).2.host.archive = p.host.archive ∨ (p.world.isCornered = .ok false ∧
      (s.turn p line).2.host.archive =
        ((Archive.save s.setup.slot (s.gameOf p.world)).runOn p.host.archive).2) := by
  obtain ⟨q, spoken, turn, rfl | ⟨uncornered, rfl⟩⟩ := save_turn sane placed verb
  · rw [turn]
    exact .inl rfl
  · refine .inr ⟨uncornered, ?_⟩
    have saved : (p.heard line).world.savedGame (.text s.setup.language) =
        .ok (s.gameOf p.world) := World.savedGame_eq sane.world.clean _
    rw [turn, save_run s _ saved]
    have archive : (p.heard line).host.archive = p.host.archive := rfl
    rw [archive]
    simp only
    split
    · rfl
    · split
      · rfl
      · rfl

/-- **The encounter is contained.** While it goes on, the player is in the lair and sees it, if a
    torch is what it takes; no line takes the player away or changes a file, and none with which the
    player wants to quit stops the session. What is ever written is the saved game of a world in
    which no encounter goes on. -/
theorem encounter_contained (holds : shelf.Holds b)
    (asleep : b.flags.get .antagonistActive = false ∧ b.flags.get .antagonistDefeated = false)
    (leaves : b.LeavesEncounter) (h : Reached shelf s p) :
    (p.world.encounterActive = .ok true →
      p.world.inLair = true ∧
      (∀ r, p.world.room = .ok r → r.reason = .torch → p.world.isDark = .ok false) ∧
      ∀ line, (s.turn p line).2.world.current = p.world.current ∧
        (s.turn p line).2.host.archive = p.host.archive ∧
        ((s.cause p line).verb? = some .quit →
          (s.turn p line).2.host.running = p.host.running)) ∧
    ∀ line, (s.turn p line).2.host.archive ≠ p.host.archive →
      p.world.encounterActive = .ok false ∧
        (s.turn p line).2.host.archive =
          ((Archive.save s.setup.slot (s.gameOf p.world)).runOn p.host.archive).2 := by
  have calm : ¬ b.IsBeset := by
    rintro ⟨active, -⟩
    rw [asleep.1] at active
    cases active
  have guarded := reached_guarded holds calm leaves h
  obtain ⟨sane, placed⟩ := reached_sane holds h
  have clean := sane.world.clean
  refine ⟨fun active => ?_, fun line written => ?_⟩
  · have beset := (World.encounterActive_iff clean).mp active
    obtain ⟨lair, lit⟩ := guarded.contains beset
    refine ⟨lair, fun r hr reason => ?_, fun line => ?_⟩
    · rw [World.isDark_eq clean hr]
      rcases lit r hr reason with seen | torch
      · rw [seen]
        rfl
      · rw [torch, Bool.not_true, Bool.and_false]
    · have contained := contained_turn (s := s) leaves sane guarded line
      exact ⟨contained.watches.stays beset, contained.archive (.inl beset),
        contained.running beset⟩
  · have contained := contained_turn (s := s) leaves sane guarded line
    by_cases verb : (s.cause p line).verb? = some .save
    · obtain ⟨uncornered, archive⟩ := (archive_saved sane placed verb).resolve_left written
      refine ⟨?_, archive⟩
      rw [World.encounterActive_false_iff clean]
      exact World.not_beset_of_free clean guarded.lair uncornered
    · exact absurd (contained.archive (.inr verb)) written

end Reached

/-- Whoever has looked at the bones stays in the hall. -/
theorem encounter_contained_hall : ∃ shelf b s p, Shelf.Holds shelf b ∧
    (b.flags.get .antagonistActive = false ∧ b.flags.get .antagonistDefeated = false) ∧
    b.LeavesEncounter ∧ Reached shelf s p ∧ p.world.encounterActive = .ok true ∧
      p.world.inLair = true ∧
        ∀ line, (s.turn p line).2.world.current = p.world.current := by
  let s : Session := Cellar.session (.text "closed")
  obtain ⟨b, holds, sound, asleep, leaves, active⟩ := Cellar.exists_holds (.int 2) (.text "closed")
    (fun b => b.inconsistencies = .ok [] ∧
      (b.flags.get .antagonistActive = false ∧ b.flags.get .antagonistDefeated = false) ∧
      b.LeavesEncounter ∧
      (s.after (Cellar.first b) ["examine bones"]).world.encounterActive = .ok true)
    (by decide +kernel)
  have reached := Cellar.reached holds sound ["examine bones"]
  obtain ⟨lair, -, stays⟩ := (encounter_contained holds asleep leaves reached).1 active
  exact ⟨_, b, s, _, holds, asleep, leaves, reached, active, lair, fun line => (stays line).1⟩

end Session

end Adventure
