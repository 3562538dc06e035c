import Adventure.Proofs.Archive
import Adventure.Proofs.Conversation
import Adventure.Proofs.Turn.Dispatch
import Adventure.Session.Basic

/-!
# Deeds of a session: the changes of a play that a line can bring about

* `Play.Deed`: one change of a play: of its world, of who waits for the next line, of the archive;
* `Play.Sane`, `Play.Fine`, `Play.Alike`: a play of an adventure, one in which no line comes to a
  fault, and plays that nobody can tell apart by playing on;
* `Session.terms`: the terms that the steps of a session meet;
* `Play.Murmurs`: changes that only those notice who follow the play closely.

A conversation that waits for no choice does not count for what comes after it, and neither do the
ticker and what was said.
-/

namespace Adventure

open Relation (ReflTransGen)
open Outcome Terms

/-! ## 1. Deeds -/

namespace Play

/-- The world of a play and the conversation in it. -/
abbrev talk (p : Play) : Talk := ⟨p.world, p.host.conversation⟩

/-- **One change of a play of the adventure `b`**, and what allows it. -/
inductive Deed (setup : Setup) (b : World) (c : Cause) : Play → Play → Prop where
  /-- The world changes; nobody says a line of a dialogue before the player has chosen it. -/
  | world (p : Play) (v : World) (deed : World.Deed b c p.world v)
      (still : p.router.waiting = some .choice → v.dialogues = p.world.dialogues) :
      Deed setup b c p { p with world := v }
  /-- What was said or announced, and the ticker. -/
  | desk (p : Play) (desk : Desk) (conversation : desk.conversation = p.host.conversation)
      (running : desk.running = p.host.running) (archive : desk.archive = p.host.archive) :
      Deed setup b c p { p with host := desk }
  /-- The conversation changes, while nothing waits for a line. -/
  | converse (p : Play) (v : Conversation) (free : p.router.waiting = none) :
      Deed setup b c p { p with host := { p.host with conversation := v } }
  | hush (p : Play) : Deed setup b c p { p with router := {} }
  /-- The player is asked for the code of a locked room. -/
  | knock (p : Play) (target : String) (allowed : c.Approaches p.world target)
      (locked : ∃ r, p.world.rooms.get? target = some r ∧ r.locked = true) :
      Deed setup b c p { p with router := ⟨some (.doorCode target)⟩ }
  /-- The player is asked for a line of the dialogue. -/
  | listen (p : Play) (offers : p.talk.Offers b) :
      Deed setup b c p { p with router := ⟨some .choice⟩ }
  /-- The game is saved, or not all of it. -/
  | keep (p : Play) (game : Content) (save : c.verb? = some .save)
      (free : p.world.isCornered = .ok false)
      (saved : p.world.savedGame (.text setup.language) = .ok game) :
      Deed setup b c p { p with host := { p.host with
        archive := ((Archive.save setup.slot game).runOn p.host.archive).2 } }
  /-- The session comes to its end. -/
  | halt (p : Play) (allowed : c.verb? = some .quit → p.world.encounterActive = .ok false) :
      Deed setup b c p { p with host := { p.host with running := false } }

/-! ## 2. Plays of an adventure -/

/-- **A play of the adventure `b`**: what waits for a line is there. -/
structure Sane (b : World) (p : Play) : Prop where
  world : World.Sane b p.world
  offers : p.router.waiting = some .choice → p.talk.Offers b
  known : ∀ target, p.router.waiting = some (.doorCode target) → b.rooms.has target = true

/-- The file of the slot can be looked for. -/
def IsNamed (setup : Setup) (p : Play) : Prop :=
  (p.host.archive.path setup.slot).contains '\x00' = false

/-- **A play in which no line comes to a fault.** -/
structure Fine (setup : Setup) (m : Messages) (b : World) (p : Play) : Prop where
  world : World.Fine b p.world
  complete : m.IsComplete
  named : p.IsNamed setup

/-- **Plays that nobody can tell apart by playing on.** If the alikeness is not strict, the
    conversation counts while a choice is awaited only. -/
structure Alike (strict : Bool) (p q : Play) : Prop where
  world : p.world.Alike q.world
  router : q.router = p.router
  archive : q.host.archive = p.host.archive
  conversation : strict = true ∨ p.router.waiting = some .choice →
    q.host.conversation = p.host.conversation

theorem Alike.loosen {strict : Bool} {p q : Play} (like : Alike true p q) : Alike strict p q :=
  ⟨like.world, like.router, like.archive, fun _ => like.conversation (.inl rfl)⟩

section

variable {setup : Setup} {m : Messages} {b : World} {c : Cause} {p q : Play}

theorem sane_deed (sane : Sane b p) (h : Deed setup b c p q) : Sane b q := by
  cases h with
  | world v deed still =>
      exact ⟨World.sane_deed sane.world deed, fun e => (sane.offers e).congr (still e) rfl,
        sane.known⟩
  | desk desk conversation =>
      exact ⟨sane.world, fun e => (sane.offers e).congr rfl conversation, sane.known⟩
  | converse v free => exact ⟨sane.world, fun e => absurd (free.symm.trans e) nofun, sane.known⟩
  | hush => exact ⟨sane.world, nofun, nofun⟩
  | knock target allowed locked =>
      obtain ⟨r, there, -⟩ := locked
      refine ⟨sane.world, nofun, fun target' e => ?_⟩
      cases e
      rw [← World.has_room_of_plan sane.world.plan]
      exact Roster.has_of_get? there
  | listen offers => exact ⟨sane.world, fun _ => offers, nofun⟩
  | keep => exact ⟨sane.world, sane.offers, sane.known⟩
  | halt => exact ⟨sane.world, sane.offers, sane.known⟩

theorem fine_deed (fine : Fine setup m b p) (h : Deed setup b c p q) : Fine setup m b q := by
  cases h with
  | world v deed => exact ⟨World.fine_deed fine.world deed, fine.complete, fine.named⟩
  | desk desk conversation running archive =>
      refine ⟨fine.world, fine.complete, ?_⟩
      show (desk.archive.path setup.slot).contains '\x00' = false
      rw [archive]
      exact fine.named
  | keep game =>
      refine ⟨fine.world, fine.complete, ?_⟩
      show (Archive.path _ setup.slot).contains '\x00' = false
      rw [Archive.path_save]
      exact fine.named
  | converse => exact ⟨fine.world, fine.complete, fine.named⟩
  | hush => exact ⟨fine.world, fine.complete, fine.named⟩
  | knock => exact ⟨fine.world, fine.complete, fine.named⟩
  | listen => exact ⟨fine.world, fine.complete, fine.named⟩
  | halt => exact ⟨fine.world, fine.complete, fine.named⟩

/-- What any number of deeds preserve that one deed preserves. -/
theorem deeds_preserve {I : Play → Prop}
    (step : ∀ {p q}, I p → Deed setup b c p q → I q) (h : ReflTransGen (Deed setup b c) p q)
    (hp : I p) : I q := by
  induction h with
  | refl => exact hp
  | tail _ d ih => exact step ih d

/-- Deeds of the world are deeds of the play, unless they choose while a choice is awaited. -/
theorem deeds_world {v : World} (still : p.router.waiting = some .choice → c ≠ .choice)
    (h : ReflTransGen (World.Deed b c) p.world v) :
    ReflTransGen (Deed setup b c) p { p with world := v } := by
  induction h with
  | refl => exact .refl
  | tail _ d ih => exact .tail ih (.world _ _ d fun e => World.dialogues_deed (still e) d)

end

end Play

/-- **The terms of the steps of a session** in the adventure `b`. -/
def Session.terms (s : Session) (b : World) (c : Cause) (strict : Bool) : Terms Play where
  Alike := Play.Alike strict
  Leads := ReflTransGen (Play.Deed s.setup b c)
  Sane := Play.Sane b
  Fine := Play.Fine s.setup s.messages b
  Faults := Fault.IsMishap
  refl _ := .refl
  trans := .trans
  sane_of_leads sane leads := Play.deeds_preserve Play.sane_deed leads sane
  fine_of_leads _ fine leads := Play.deeds_preserve Play.fine_deed leads fine

/-! ## 3. Changes that hardly anyone notices -/

namespace Play

/-- **Only notes, the ticker and what was said may have changed.** -/
structure Murmurs (p q : Play) : Prop where
  notes : ∃ more, q.world = { p.world with notes := more ++ p.world.notes }
  router : q.router = p.router
  conversation : q.host.conversation = p.host.conversation
  running : q.host.running = p.host.running
  archive : q.host.archive = p.host.archive

namespace Murmurs

variable {p q r : Play}

theorem refl (p : Play) : p.Murmurs p := ⟨⟨[], rfl⟩, rfl, rfl, rfl, rfl⟩

theorem trans (h : p.Murmurs q) (k : q.Murmurs r) : p.Murmurs r := by
  obtain ⟨more, e⟩ := h.notes
  obtain ⟨more', e'⟩ := k.notes
  refine ⟨⟨more' ++ more, ?_⟩, k.router.trans h.router, k.conversation.trans h.conversation,
    k.running.trans h.running, k.archive.trans h.archive⟩
  rw [e', e, List.append_assoc]

theorem deeds_notes {setup : Setup} {b : World} {c : Cause} (more : List String) :
    ReflTransGen (Deed setup b c) p
      { p with world := { p.world with notes := more ++ p.world.notes } } := by
  induction more with
  | nil => exact .refl
  | cons note more ih => exact .tail ih (.world _ _ (.note _ note) fun _ => rfl)

theorem leads {setup : Setup} {b : World} {c : Cause} (h : p.Murmurs q) :
    ReflTransGen (Deed setup b c) p q := by
  obtain ⟨more, e⟩ := h.notes
  have noted : ReflTransGen (Deed setup b c) p { p with world := q.world } := by
    rw [e]
    exact deeds_notes more
  have told : q = { p with world := q.world, host := q.host } := by
    rw [← h.router]
  rw [told]
  exact .tail noted (.desk _ q.host h.conversation h.running h.archive)

/-- Murmurs do not tell plays apart. -/
theorem alike {strict : Bool} {p' q' : Play} (like : Alike strict p p') (h : p.Murmurs q)
    (h' : p'.Murmurs q') : Alike strict q q' := by
  obtain ⟨notes, e⟩ := like.world
  obtain ⟨more, hw⟩ := h.notes
  obtain ⟨more', hw'⟩ := h'.notes
  refine ⟨⟨more' ++ notes, ?_⟩, ?_, ?_, fun counts => ?_⟩
  · rw [hw', hw, e]
  · rw [h'.router, like.router, h.router]
  · rw [h'.archive, like.archive, h.archive]
  · rw [h'.conversation, h.conversation]
    rw [h.router] at counts
    exact like.conversation counts

end Murmurs

/-- A step that murmurs, and comes to no fault. -/
def IsMurmur (a : Act Play Unit) : Prop := ∀ p, ∃ q, a.runOn p = (.ok (), q) ∧ p.Murmurs q

namespace IsMurmur

theorem pure : IsMurmur (Pure.pure ()) := fun _ => ⟨_, rfl, .refl _⟩

theorem bind {a b : Act Play Unit} (ha : IsMurmur a) (hb : IsMurmur b) :
    IsMurmur (a >>= fun _ => b) := by
  intro p
  obtain ⟨q, e, h⟩ := ha p
  obtain ⟨r, e', h'⟩ := hb q
  exact ⟨r, by rw [Act.runOn_bind_ok e, e'], h.trans h'⟩

theorem get {k : Play → Act Play Unit} (h : ∀ p, IsMurmur (k p)) :
    IsMurmur (MonadState.get >>= k) := by
  intro p
  rw [Act.runOn_bind_ok (Act.runOn_get p)]
  exact h p p

theorem onDesk {f : Desk → Desk} (conversation : ∀ d, (f d).conversation = d.conversation)
    (running : ∀ d, (f d).running = d.running) (archive : ∀ d, (f d).archive = d.archive) :
    IsMurmur (Play.onDesk f) :=
  fun _ => ⟨_, rfl, ⟨[], rfl⟩, rfl, conversation _, running _, archive _⟩

theorem note (text : String) : IsMurmur (Play.note text) :=
  fun _ => ⟨_, rfl, ⟨[text], rfl⟩, rfl, rfl, rfl, rfl⟩

theorem utter (u : Utterance) : IsMurmur (Play.utter u) :=
  fun _ => ⟨_, rfl, ⟨[], rfl⟩, rfl, rfl, rfl, rfl⟩

theorem forM {α : Type} {f : α → Act Play Unit} (h : ∀ x, IsMurmur (f x)) (l : List α) :
    IsMurmur (l.forM f) := by
  induction l with
  | nil => exact pure
  | cons x l ih => exact bind (h x) ih

/-- **A murmur meets the terms**, and leaves what murmurs leave. -/
theorem meets {s : Session} {b : World} {c : Cause} {strict : Bool} {P Q : Play → Prop}
    {a : Act Play Unit} (h : IsMurmur a) (hQ : ∀ p q, P p → p.Murmurs q → Q q) :
    (s.terms b c strict).Meets P a (fun _ q => Q q) := by
  intro p p' like _ pre
  obtain ⟨q, e, k⟩ := h p
  obtain ⟨q', e', k'⟩ := h p'
  rw [e, e']
  exact ⟨rfl, k.alike like k', k.leads, fun _ _ => hQ p q pre k, fun _ => ⟨(), rfl⟩, nofun⟩

end IsMurmur

end Play

end Adventure
