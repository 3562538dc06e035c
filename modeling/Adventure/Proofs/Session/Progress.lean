import Adventure.Proofs.Session.Ending
import Adventure.Proofs.Session.Resumption
import Adventure.Proofs.Session.Writes
import Adventure.Proofs.World.Regained

/-!
# Progress is not lost

* `World.Keeps`: what the player carries is still carried, and the story's flags are as they were;
* `Session.Applies`, `Session.BringsAbout`: **the effects that a line applies**;
* `yields_keeps`, `turn_keeps`: a line keeps what there was, or it brings an effect about;
* `Session.Goes`: runs, in which sessions go on with what others have saved;
* `progress_lasts`: **what has been reached stays reached**;
* `lamp_lost`: an item whose name files do not keep is lost.
-/

namespace Adventure

open Relation (ReflTransGen)
open Outcome

/-! ## 1. What a line keeps -/

/-- The flag belongs to the story, and neither to the torch nor to the antagonist. -/
def Flag.isStory (f : Flag) : Bool :=
  f ∉ [Flag.torchLit, .antagonistActive, .antagonistDefeated]

namespace World

variable {w v u : World}

/-- **What the player carries is still carried, and the story's flags are as they were.** -/
structure Keeps (w v : World) : Prop where
  carried : ∀ item, w.carried.has item = true → v.carried.has item = true
  flags : ∀ f : Flag, f.isStory = true → v.flags.get f = w.flags.get f

namespace Keeps

theorem refl (w : World) : w.Keeps w := ⟨fun _ => id, fun _ _ => rfl⟩

theorem trans (h : w.Keeps v) (k : v.Keeps u) : w.Keeps u :=
  ⟨fun item carried => k.carried item (h.carried item carried),
    fun f story => (k.flags f story).trans (h.flags f story)⟩

/-- What has to do with no flag and no item. -/
theorem of_same (flags : v.flags = w.flags) (items : v.items = w.items) : w.Keeps v := by
  refine ⟨fun item carried => ?_, fun f _ => by rw [flags]⟩
  unfold World.carried
  rw [items]
  exact carried

/-- Only flags of the torch and of the antagonist are set. -/
theorem of_flag {f : Flag} (other : f.isStory = false) (value : Bool) :
    w.Keeps { w with flags := w.flags.set f value } := by
  refine ⟨fun _ => id, fun g story => ?_⟩
  show (w.flags.set f value).get g = w.flags.get g
  rw [Flags.get_set, if_neg]
  rintro rfl
  rw [other] at story
  cases story

/-- An item that is carried stays so. -/
theorem of_updateItem {name : String} {f : Item → Item}
    (stays : ∀ i, i.location = .inventory → (f i).location = .inventory) :
    w.Keeps (w.updateItem name f) := by
  refine ⟨fun item carried => ?_, fun _ _ => rfl⟩
  obtain ⟨i, there, location⟩ := has_carried_iff.mp carried
  by_cases here : item = name
  · subst here
    exact has_carried_iff.mpr ⟨f i, Roster.get?_update_self there f, stays i location⟩
  · exact has_carried_iff.mpr ⟨i, (Roster.get?_update_ne _ here f).trans there, location⟩

end Keeps

theorem keeps_withTorch (lit : Bool) (w : World) : w.Keeps (w.withTorch lit) :=
  (Keeps.of_flag (f := .torchLit) rfl lit).trans (Keeps.of_updateItem fun _ stays => stays)

theorem keeps_dimmed (w : World) : w.Keeps (w.dimmed withTorch) := by
  unfold dimmed
  split
  · exact keeps_withTorch false w
  · exact .refl w

/-- An effect keeps what it does not name. -/
theorem Bears.keeps {effect : Content} (h : u.Bears effect v) :
    (∀ item, effect.namesItem item = false → u.carried.has item = true →
      v.carried.has item = true) ∧
    ∀ f, effect.namesFlag f = false → v.flags.get f = u.flags.get f := by
  refine ⟨fun item unnamed carried => ?_, h.flags⟩
  obtain ⟨i, there, location⟩ := has_carried_iff.mp carried
  exact has_carried_iff.mpr ⟨i, (h.items item unnamed).trans there, location⟩

/-- Flags and items are as they were. -/
def still : Frame World where
  Within w v := v.flags = w.flags ∧ v.items = w.items
  refl _ := ⟨rfl, rfl⟩
  trans h k := ⟨k.1.trans h.1, k.2.trans h.2⟩

theorem still_unlock (room : Content) : still.Holds (unlock room) := by
  unfold unlock
  refine Frame.holds_bind (Frame.holds_reading _) fun name => ?_
  exact Frame.holds_bind (fun _ => ⟨rfl, rfl⟩) fun _ _ => ⟨rfl, rfl⟩

end World

namespace Session

open Play Adventure.Frame

variable {s s' : Session} {b : World} {p p' : Play} {line : String} {effect : Content} {u v : World}

/-! ## 2. The effects of a line -/

/-- **An effect that a line applies**, and the world that it is applied to: it follows from taking
    an item, it comes with the refusal that a room speaks, it follows from the use of an item, or from
    what is replied to the line that is picked. -/
inductive Applies (s : Session) (p : Play) (line : String) : Content → World → Prop where
  | take {i : Intent} {id : String} {item : Item} {gate : Gate} (free : p.router.waiting = none)
      (read : s.intent? p.world line = some i) (verb : i.verb? = some .take)
      (aimed : i.roomItem = some id) (here : p.world.itemsHere.get? id = some item)
      (collectible : item.collectible = true) (gated : item.take = some gate)
      (allowed : p.world.holds gate.preconditions = .ok true) :
      Applies s p line gate.effect
        (p.world.updateItem id (fun i => { i with location := .inventory }))
  | refused {i : Intent} {target : String} {gate : Gate} (free : p.router.waiting = none)
      (read : s.intent? p.world line = some i) (heads : i.HeadsFor p.world target)
      (uncornered : p.world.isCornered = .ok false)
      (refuses : (p.world.dimmed World.withTorch).Refuses target gate) :
      Applies s p line gate.effect (p.world.dimmed World.withTorch)
  | use {i : Intent} {id : String} {a : Action} (free : p.router.waiting = none)
      (read : s.intent? p.world line = some i) (verb : i.verb? = some .use)
      (aimed : i.carriedItem = some id) (enacts : p.world.Enacts id a) :
      Applies s p line a.effect p.world
  | reply {k : Nat} {l : PlayerLine} {r : Reply} {w : World}
      (waits : p.router.waiting = some .choice) (picks : p.talk.picked line = some (k, l))
      (replied : p.talk.dialogue.reply? l.reply = some r) (unstirred : p.world.Unstirred w) :
      Applies s p line r.effect w

/-- **A line brings an effect about**: it applies the effect, and flags and items are as the effect
    leaves them. -/
def BringsAbout (s : Session) (p : Play) (line : String) (effect : Content) : Prop :=
  ∃ u, s.Applies p line effect u ∧ (s.turn p line).2.world.flags = (u.brought effect).flags ∧
    (s.turn p line).2.world.items = (u.brought effect).items

/-- Before an effect is applied all is kept. -/
theorem Applies.keeps (h : s.Applies p line effect u) : p.world.Keeps u := by
  cases h with
  | take => exact .of_updateItem fun _ _ => rfl
  | refused => exact World.keeps_dimmed p.world
  | use => exact .refl p.world
  | reply waits picks replied unstirred => exact .of_same unstirred.flags unstirred.items

/-- **An effect that is applied touches nothing but what it names.** -/
theorem Applies.bears (sane : World.Sane b p.world) (h : s.Applies p line effect u) :
    u.Bears effect (u.brought effect) := by
  have mem {effect : Content} (known : effect ∈ p.world.effects) : b.Grasps effect :=
    World.grasps_effect sane.sound (World.effects_of_plan sane.plan ▸ known)
  cases h with
  | @take i id item gate free read verb aimed here collectible gated =>
      have there := Roster.get?_filter_iff.mp here
      have picked := World.sane_picked sane id
      exact World.brought_bears picked.clean picked.plan
        (World.grasps_effect sane.sound (World.mem_of_take sane there.1 gated))
  | refused free read heads uncornered refuses =>
      have dimmed := World.sane_dimmed sane
      exact World.brought_bears dimmed.clean dimmed.plan
        (World.grasps_effect sane.sound (World.mem_of_refuses dimmed refuses))
  | @use i id a free read verb aimed enacts =>
      exact World.brought_bears sane.clean sane.plan
        (World.grasps_effect sane.sound (World.mem_of_enacts sane enacts))
  | reply waits picks replied unstirred =>
      refine World.brought_bears ?_ (unstirred.plan.trans sane.plan)
        (mem (Talk.mem_effects_of_reply? replied))
      rw [unstirred.flags]
      exact sane.clean

/-- A line that brings an effect about keeps what the effect does not name. -/
theorem BringsAbout.keeps (sane : World.Sane b p.world) (h : s.BringsAbout p line effect) :
    (∀ item, effect.namesItem item = false → p.world.carried.has item = true →
      (s.turn p line).2.world.carried.has item = true) ∧
    ∀ f : Flag, f.isStory = true → effect.namesFlag f = false →
      (s.turn p line).2.world.flags.get f = p.world.flags.get f := by
  obtain ⟨u, applies, flags, items⟩ := h
  have before := applies.keeps
  obtain ⟨carried, named⟩ := (applies.bears sane).keeps
  refine ⟨fun item unnamed had => ?_, fun f story unnamed => ?_⟩
  · have after := carried item unnamed (before.carried item had)
    unfold World.carried at after ⊢
    rw [items]
    exact after
  · rw [flags, named f unnamed, before.flags f story]

/-! ## 3. Lines -/

/-- **What an intent makes of a world keeps what there was**, or it is what an effect leaves. -/
theorem yields_keeps {i : Intent} (free : p.router.waiting = none)
    (read : s.intent? p.world line = some i)
    (h : i.Yields World.brought World.withTorch p.world v) :
    p.world.Keeps v ∨ ∃ effect u, s.Applies p line effect u ∧
      v.flags = (u.brought effect).flags ∧ v.items = (u.brought effect).items := by
  cases h with
  | nothing => exact .inl (.refl _)
  | talk => exact .inl (.of_same rfl rfl)
  | examine =>
      exact .inl ((World.Keeps.of_flag (f := .antagonistActive) rfl true).trans (.of_same rfl rfl))
  | take id item verb aimed here collectible allowed =>
      cases gated : item.take with
      | none => exact .inl (.of_updateItem fun _ _ => rfl)
      | some gate =>
          exact .inr ⟨gate.effect, _, .take free read verb aimed here collectible gated
            (allowed gate gated), rfl, rfl⟩
  | depart => exact .inl (World.keeps_dimmed p.world)
  | refused target gate heads uncornered refuses =>
      exact .inr ⟨gate.effect, _, .refused free read heads uncornered refuses, rfl, rfl⟩
  | enter => exact .inl ((World.keeps_dimmed p.world).trans (.of_same rfl rfl))
  | slip target gate heads uncornered refuses =>
      exact .inr ⟨gate.effect, _, .refused free read heads uncornered refuses, rfl, rfl⟩
  | hit => exact .inl (.of_same rfl rfl)
  | defeat =>
      have defeated := World.Keeps.of_flag (w := p.world) (f := .antagonistDefeated) rfl true
      exact .inl (defeated.trans (.of_same rfl rfl))
  | switch => exact .inl (.of_updateItem fun _ stays => stays)
  | torch id item lit => exact .inl (World.keeps_withTorch lit p.world)
  | use id a verb aimed enacts =>
      exact .inr ⟨a.effect, _, .use free read verb aimed enacts, rfl, rfl⟩

/-- Flags and items are as they were. -/
def still : Frame Play where
  Within p q := World.still.Within p.world q.world
  refl p := World.still.refl p.world
  trans := World.still.trans

theorem still_of_whispers {α : Type} {a : Act Play α} (h : whispers.Holds a) : still.Holds a := by
  intro q
  obtain ⟨⟨⟨more, e⟩, -⟩, -⟩ := h q
  show World.still.Within q.world (a.runOn q).2.world
  rw [e]
  exact ⟨rfl, rfl⟩

/-- **A code at a door has to do with no flag and no item.** -/
theorem still_tryCode (s : Session) (target line : String) :
    still.Holds (s.setting.tryCode target line) := by
  unfold Setting.tryCode
  refine holds_bind (holds_reading _) fun room => ?_
  split
  · refine holds_bind (fun _ => ⟨rfl, rfl⟩) fun _ => ?_
    exact holds_bind (holds_ofExcept _) fun _ => holds_pure _
  · refine holds_bind (fun q => World.still_unlock _ q.world) fun _ => ?_
    refine holds_bind (fun _ => ⟨rfl, rfl⟩) fun _ => ?_
    refine holds_bind (still_of_whispers whispers_announceRoom) fun _ => ?_
    refine holds_bind (holds_ofExcept _) fun _ => holds_bind (holds_reading _) fun _ => ?_
    exact holds_pure _

theorem code_still (s : Session) (line : String) {target : String}
    (waits : p.router.waiting = some (.doorCode target)) :
    still.Within p (s.turn p line).2 := by
  rw [turn_resumes waits]
  exact holds_bind (still_tryCode s target line)
    (fun lines => still_of_whispers (whispers_tell lines)) (p.heard line)

/-- What is read of a line. -/
theorem reads_keeps (sane : Play.Sane b p) {i : Intent} (free : p.router.waiting = none)
    (read : s.intent? p.world line = some i) :
    p.world.Keeps (s.turn p line).2.world ∨ ∃ effect, s.BringsAbout p line effect := by
  obtain ⟨v, yields, like⟩ := turn_makes (s := s) sane free read
  obtain ⟨w, yields, like'⟩ := Intent.yields_noted sane.world yields
  obtain ⟨notes, e⟩ := like'.trans like
  rcases yields_keeps free read yields with keeps | ⟨effect, u, applies, flags, items⟩
  · rw [e]
    exact .inl (keeps.trans (.of_same rfl rfl))
  · refine .inr ⟨effect, u, applies, ?_, ?_⟩
    · rw [e]
      exact flags
    · rw [e]
      exact items

/-- The end of a dialogue is no matter of flags and items. -/
theorem Converses.still {name : String} {runs : Bool} {t : Talk} {q : Play}
    (h : Converses s.messages name runs t q) : World.still.Within t.world q.world := by
  cases h with
  | on awaits same world =>
      obtain ⟨notes, e⟩ := world
      rw [e]
      exact ⟨rfl, rfl⟩
  | closed isOver same world =>
      obtain ⟨notes, e⟩ := world
      rw [e]
      exact ⟨rfl, rfl⟩

/-- What answers the prompt of a dialogue. -/
theorem choice_keeps (sane : Play.Sane b p) (recalls : Recalls p)
    (waits : p.router.waiting = some .choice) :
    p.world.Keeps (s.turn p line).2.world ∨ ∃ effect, s.BringsAbout p line effect := by
  obtain ⟨name, u, -, -, converses, heeds, unpicked⟩ :=
    turn_choice (s := s) sane waits recalls.plain line
  obtain ⟨flags, items⟩ := converses.still
  cases picks : p.talk.picked line with
  | none =>
      rw [(unpicked picks).1] at flags items
      exact .inl (.of_same flags items)
  | some pick =>
      obtain ⟨k, l⟩ := pick
      rcases (heeds k l picks).world with unstirred | ⟨r, replied, w, unstirred, e⟩
      · exact .inl (.of_same (flags.trans unstirred.flags) (items.trans unstirred.items))
      · rw [e] at flags items
        exact .inr ⟨r.effect, w, .reply waits picks replied unstirred, flags, items⟩

/-- **A line keeps what there was, or it brings an effect about.** -/
theorem turn_keeps (sane : Play.Sane b p) (recalls : Recalls p) (line : String) :
    p.world.Keeps (s.turn p line).2.world ∨ ∃ effect, s.BringsAbout p line effect := by
  rcases waits : p.router.waiting with - | (target | -)
  · cases read : s.intent? p.world line with
    | none =>
        rw [turn_unread waits read]
        exact .inl (.of_same rfl rfl)
    | some i => exact reads_keeps sane waits read
  · obtain ⟨flags, items⟩ := code_still s line waits
    exact .inl (.of_same flags items)
  · exact choice_keeps sane recalls waits

/-! ## 4. Runs -/

variable {shelf : Shelf}

/-- **One step of a run**: a line, or a session that goes on with what a line has saved. -/
inductive Goes (shelf : Shelf) : Session × Play → Session × Play → Prop where
  | line {s : Session} {p : Play} (line : String) : Goes shelf (s, p) (s, (s.turn p line).2)
  | resumed {s s' : Session} {p p' : Play} {setup : Setup} {archive : Archive} {line : String}
      (saves : s.Saves p line)
      (kept : archive.sheet setup.slot = (s.turn p line).2.host.archive.sheet s.setup.slot)
      (opens : Opens setup shelf archive s' p') : Goes shelf (s, p) (s', p')

/-- What a run leads to is reached. -/
theorem reached_goes {x y : Session × Play} (reached : Reached shelf x.1 x.2)
    (h : Goes shelf x y) : Reached shelf y.1 y.2 := by
  cases h with
  | line line => exact reached.line line
  | resumed saves kept opens => exact reached.resumed saves kept opens

section

variable (holds : shelf.Holds b) (keeps : b.KeepsNames)

include holds keeps

/-- **A step of a run is a step ahead.** -/
theorem goes_advances {x y : Session × Play} (reached : Reached shelf x.1 x.2)
    (h : Goes shelf x y) : x.2.world.Advances y.2.world := by
  obtain ⟨sane, placed⟩ := reached_sane holds reached
  cases h with
  | line line => exact turn_advances sane line
  | resumed saves kept opens =>
      obtain ⟨accepts, -, w, restores, rfl⟩ := opens_saved holds sane placed saves kept opens
      exact (World.advances_restored keeps sane.world.plan holds.built accepts restores).trans
        (World.alike_noted _ _).advances

/-- **A step of a run keeps what there was**, or it is a line that brings an effect about. -/
theorem goes_keeps (reached : Reached shelf s p) (h : Goes shelf (s, p) (s', p')) :
    p.world.Keeps p'.world ∨ ∃ line effect, p' = (s.turn p line).2 ∧
      s.BringsAbout p line effect := by
  obtain ⟨sane, placed⟩ := reached_sane holds reached
  cases h with
  | line line =>
      rcases turn_keeps sane (reached_recalls holds reached) line with kept | ⟨effect, brings⟩
      · exact .inl kept
      · exact .inr ⟨line, effect, rfl, brings⟩
  | resumed saves kept opens =>
      obtain ⟨accepts, -, w, restores, rfl⟩ := opens_saved holds sane placed saves kept opens
      have flags : w.flags = p.world.flags :=
        World.flags_restored sane.world.plan holds.built sane.world.clean restores
      refine .inl ⟨fun item carried => ?_, fun f _ => congrArg (fun fs => fs.get f) flags⟩
      exact World.carried_restored keeps sane.world.plan holds.built accepts restores carried

/-- **What has been reached stays reached**, in every run, sessions that go on with saved games
    included. Lines that were said stay said, whoever was talked to stays so, doors stay open, rooms
    that were seen anew stay so, and health only goes down, that of the antagonist only, and not
    below zero. And what the player carries goes, and a flag of the story changes, only with a line
    that brings about an effect that names it. -/
theorem progress_lasts (reached : Reached shelf s p)
    (run : ReflTransGen (Goes shelf) (s, p) (s', p')) :
    p.world.Advances p'.world ∧ ∀ s'' p'', Goes shelf (s', p') (s'', p'') →
      (∀ item, p'.world.carried.has item = true → p''.world.carried.has item = false →
        ∃ line effect, p'' = (s'.turn p' line).2 ∧ s'.BringsAbout p' line effect ∧
          effect.namesItem item = true) ∧
      ∀ f : Flag, f.isStory = true → p''.world.flags.get f ≠ p'.world.flags.get f →
        ∃ line effect, p'' = (s'.turn p' line).2 ∧ s'.BringsAbout p' line effect ∧
          effect.namesFlag f = true := by
  have ahead {y : Session × Play} (run : ReflTransGen (Goes shelf) (s, p) y) :
      Reached shelf y.1 y.2 ∧ p.world.Advances y.2.world := by
    induction run with
    | refl => exact ⟨reached, .refl _⟩
    | tail _ step ih =>
        exact ⟨reached_goes ih.1 step, ih.2.trans (goes_advances holds keeps ih.1 step)⟩
  obtain ⟨reached', advances⟩ := ahead run
  refine ⟨advances, fun s'' p'' step => ?_⟩
  rcases goes_keeps holds keeps reached' step with kept | ⟨line, effect, rfl, brings⟩
  · refine ⟨fun item had lost => ?_, fun f story changed => absurd (kept.flags f story) changed⟩
    rw [kept.carried item had] at lost
    cases lost
  · obtain ⟨sane, -⟩ := reached_sane holds reached'
    obtain ⟨items, flags⟩ := brings.keeps sane.world
    refine ⟨fun item had lost => ⟨line, effect, rfl, brings, ?_⟩,
      fun f story changed => ⟨line, effect, rfl, brings, ?_⟩⟩
    · by_contra unnamed
      rw [items item (Bool.eq_false_iff.mpr unnamed) had] at lost
      cases lost
    · by_contra unnamed
      exact changed (flags f story (Bool.eq_false_iff.mpr unnamed))

end

/-- The cellar that has been unlocked is open in a session that goes on with what was saved. -/
theorem progress_lasts_cellar : ∃ shelf b s p s' p', Shelf.Holds shelf b ∧ b.KeepsNames ∧
    Reached shelf s p ∧ ReflTransGen (Goes shelf) (s, p) (s', p') ∧ s'.resumed = true ∧
      (b.rooms.get? "cellar").map Room.locked = some true ∧
      (p'.world.rooms.get? "cellar").map Room.locked = some false := by
  obtain ⟨b, p, holds, documented, distinct, keeps, reached, saves, counts, locked, opened⟩ :=
    cellar_saved
  obtain ⟨p', opens, -⟩ := opens_again holds documented distinct keeps reached saves counts
  have run := ReflTransGen.single (Goes.resumed saves rfl opens)
  obtain ⟨advances, -⟩ := progress_lasts holds keeps reached run
  obtain ⟨r, there, unlocked⟩ := Option.map_eq_some_iff.mp opened
  obtain ⟨r', there', further⟩ := advances.rooms "cellar" r there
  exact ⟨_, b, _, p, _, p', holds, keeps, reached, run, rfl, locked,
    Option.map_eq_some_iff.mpr ⟨r', there', further.unlocked unlocked⟩⟩

end Session

/-! ## 5. An item whose name files do not keep -/

namespace Crypt

/-- A name that files give back with a blank in the place of its line break. -/
def name : String := "b\u0085c"

/-- **A crypt** with a lamp, and a stone whose name is what files make of the name of the lamp. -/
def content : Content :=
  .mapping
    [("start", .text "crypt"), ("rooms", .mapping [("crypt", Cellar.room "Crypt" [])]),
     ("items", .mapping
       [(name, .mapping
          [("name", .text "lamp"), ("location", .text "crypt"), ("collectible", .bool true)]),
        (Text.kept name, .mapping [("name", .text "stone"), ("location", .text "crypt")])])]

/-- What differs in a game in which the player has taken the lamp. -/
def taken (name : String) : List (String × Content) :=
  [("current", .text "crypt"),
    ("items", .mapping [(name, .mapping [("location", .text Content.inventoryWord)])])]

/-- The game as a file keeps it. -/
def game : List (String × Content) := taken (Text.kept name) ++ [("language", .text "it")]

theorem kept_game : Content.keptEntries (taken name ++ [("language", .text "it")]) = game := by
  rw [Content.keptEntries_of_sorted (by decide +kernel)]
  simp only [taken, game, List.cons_append, List.nil_append, List.map_cons, List.map_nil,
    Content.asKept_single]
  decide +kernel

end Crypt

namespace Session

/-- **The lamp is lost** in a session that goes on with what was saved, which has the stone. -/
theorem lamp_lost : ∃ shelf b s p s' p', Shelf.Holds shelf b ∧ b.inconsistencies = .ok [] ∧
    b.IsDocumented ∧ b.HasDistinctLines ∧ Reached shelf s p ∧ Goes shelf (s, p) (s', p') ∧
      s'.resumed = true ∧ p.world.carried.has Crypt.name = true ∧
      p'.world.carried.has Crypt.name = false := by
  let s : Session := Cellar.session (.text "closed")
  obtain ⟨b, holds, sound, documented, distinct, other, may, carried, saved, accepted, w, restores,
    lost⟩ :=
    Cellar.exists_holdsOf Crypt.content (.text "closed")
      (fun b =>
        let p := (s.turn (Cellar.first b) "take lamp").2
        b.inconsistencies = .ok [] ∧ b.IsDocumented ∧ b.HasDistinctLines ∧
          (s.cause (Cellar.first b) "take lamp").verb? ≠ some .save ∧ s.MaySave p "save" ∧
          p.world.carried.has Crypt.name = true ∧ p.world.toSaved = Crypt.taken Crypt.name ∧
          allInconsistencies b (.mapping Crypt.game) = .ok [] ∧
          ∃ w ∈ (restored b (.mapping Crypt.game)).toOption, w.carried.has Crypt.name = false)
      (by decide +kernel)
  have begun : Reached _ s (Cellar.first b) := .anew (Cellar.opensOf holds sound) rfl
  have reached := begun.line "take lamp"
  obtain ⟨sane, placed⟩ := reached_sane holds reached
  have saves := saves_of_place sane placed may
    (by rw [archive_turn (s := s) (reached_sane holds begun).1 other]; exact Cellar.place)
  have load := load_saved sane placed saves rfl
  have game : (s.turn (Cellar.first b) "take lamp").2.world.keptGame (.text s.setup.language) =
      Crypt.game := by
    unfold World.keptGame
    rw [saved]
    exact Crypt.kept_game
  rw [game] at load
  have offers := reached_offers reached
  have comes : restored b (.mapping Crypt.game) = .ok w := by
    revert restores
    cases restored b (.mapping Crypt.game) with
    | error e => exact nofun
    | ok v => exact fun same => congrArg Except.ok (Option.some.inj same)
  have opens := opens_iff (s := { s with resumed := true }).mpr ⟨b, _, w, holds,
    ⟨offers.messages, offers.commands, offers.stopwords⟩, load, accepted, comes, rfl, rfl, rfl⟩
  exact ⟨_, b, s, _, { s with resumed := true }, _, holds, sound, documented, distinct, reached,
    .resumed saves rfl opens, rfl, carried, lost⟩

end Session

end Adventure
