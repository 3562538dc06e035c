import Adventure.Proofs.World.Built
import Adventure.Proofs.World.Mended
import Adventure.Session.Opening

/-!
# What it takes to open a session

* `Shelf.Holds`, `Shelf.Offers`: the adventure of a shelf, and what else a session needs of it;
* `Session.Opens`: a session is opened with a play;
* `opens_iff`: **what it takes to open a session**;
* `allInconsistencies_eq_nil`, `restored_eq_ok`: what it takes of a saved game.
-/

namespace Adventure

open Outcome

/-! ## 1. Shelves -/

namespace Shelf

/-- The shelf holds the adventure `b`. -/
def Holds (shelf : Shelf) (b : World) : Prop :=
  ∃ c, shelf.sheet .world = .written c ∧ World.ofFile c = .ok b

/-- The content of a sheet, with a default for one that is not filled. -/
def Has (shelf : Shelf) (kind : Kind) (default c : Content) : Prop :=
  ∃ x, (shelf.sheet kind).read = .ok x ∧ c = if x.isFilled then x else default

/-- **What a session needs of a shelf besides the adventure.** -/
structure Offers (shelf : Shelf) (s : Session) : Prop where
  messages : ∃ c, shelf.Has .messages (.mapping []) c ∧ s.messages = ⟨c⟩
  commands : ∃ c, shelf.Has .commands (.list []) c ∧ Command.catalogue c = .ok s.catalogue
  stopwords : ∃ c words, shelf.Has .stopwords (.list []) c ∧ c.elements = .ok words ∧
    s.stopwords = words.map (fun c => Text.lowercase c.shown)

theorem Holds.unique {shelf : Shelf} {b b' : World} (h : shelf.Holds b) (h' : shelf.Holds b') :
    b' = b := by
  obtain ⟨c, sheet, built⟩ := h
  obtain ⟨c', sheet', built'⟩ := h'
  rw [sheet] at sheet'
  cases sheet'
  rw [built] at built'
  cases built'
  rfl

/-- The adventure of a shelf has been built. -/
theorem Holds.built {shelf : Shelf} {b : World} (h : shelf.Holds b) : b.IsBuilt := by
  obtain ⟨c, -, built⟩ := h
  exact World.isBuilt_of_ofFile built

variable {shelf : Shelf} {language : String} {lines told : List String}

theorem giveUp_run {α : Type} (line : String) (cause : Fault) :
    (giveUp line cause : Act (List String) α).runOn lines =
      (.error (.abandoned cause), line :: lines) := rfl

theorem load_eq_ok {kind : Kind} {default c : Content} :
    (shelf.load language kind default).runOn lines = (.ok c, told) ↔
      told = lines ∧ shelf.Has kind default c := by
  unfold load Has
  split
  · next x read =>
      simp only [read, Except.ok.injEq, exists_eq_left', Act.runOn_pure, Prod.mk.injEq]
      constructor
      · rintro ⟨e, rfl⟩
        exact ⟨rfl, e.symm⟩
      · rintro ⟨rfl, e⟩
        exact ⟨e.symm, rfl⟩
  · next read => simp [read, giveUp_run]
  · next read => simp [read, giveUp_run]
  · next read => simp [read]

theorem messages_eq_ok {m : Messages} :
    (shelf.messages language).runOn lines = (.ok m, told) ↔
      told = lines ∧ ∃ c, shelf.Has .messages (.mapping []) c ∧ m = ⟨c⟩ := by
  unfold messages
  simp only [Act.runOn_bind_eq_ok, load_eq_ok, Act.runOn_pure, Prod.mk.injEq, Except.ok.injEq]
  constructor
  · rintro ⟨c, _, ⟨rfl, has⟩, rfl, rfl⟩
    exact ⟨rfl, c, has, rfl⟩
  · rintro ⟨rfl, c, has, rfl⟩
    exact ⟨c, _, ⟨rfl, has⟩, rfl, rfl⟩

theorem commands_eq_ok {catalogue : List Command} :
    (shelf.commands language).runOn lines = (.ok catalogue, told) ↔
      told = lines ∧ ∃ c, shelf.Has .commands (.list []) c ∧
        Command.catalogue c = .ok catalogue := by
  unfold commands
  simp only [Act.runOn_bind_eq_ok, load_eq_ok]
  constructor
  · rintro ⟨c, _, ⟨rfl, has⟩, run⟩
    cases read : Command.catalogue c with
    | ok commands =>
        rw [read] at run
        simp only [Act.runOn_pure, Prod.mk.injEq, Except.ok.injEq] at run
        obtain ⟨rfl, rfl⟩ := run
        exact ⟨rfl, c, has, read⟩
    | error e =>
        rw [read] at run
        simp [giveUp_run] at run
  · rintro ⟨rfl, c, has, read⟩
    refine ⟨c, _, ⟨rfl, has⟩, ?_⟩
    rw [read]
    rfl

theorem stopwords_eq_ok {stopwords : List String} :
    (shelf.stopwords language).runOn lines = (.ok stopwords, told) ↔
      told = lines ∧ ∃ c words, shelf.Has .stopwords (.list []) c ∧ c.elements = .ok words ∧
        stopwords = words.map (fun c => Text.lowercase c.shown) := by
  unfold Shelf.stopwords
  simp only [Act.runOn_bind_eq_ok, load_eq_ok, Act.runOn_ofExcept, Act.runOn_pure, Prod.mk.injEq,
    Except.ok.injEq]
  constructor
  · rintro ⟨c, _, ⟨rfl, has⟩, words, _, ⟨elements, rfl⟩, rfl, rfl⟩
    exact ⟨rfl, c, words, has, elements, rfl⟩
  · rintro ⟨rfl, c, words, has, elements, rfl⟩
    exact ⟨c, _, ⟨rfl, has⟩, words, _, ⟨elements, rfl⟩, rfl, rfl⟩

theorem world_eq_ok {b : World} :
    shelf.world.runOn lines = (.ok b, told) ↔ told = lines ∧ shelf.Holds b := by
  unfold world Holds
  split
  · next read =>
      refine ⟨fun h => by simp [giveUp_run] at h, ?_⟩
      rintro ⟨-, c, sheet, -⟩
      simp [sheet, Sheet.read] at read
  · next read =>
      refine ⟨fun h => by simp [giveUp_run] at h, ?_⟩
      rintro ⟨-, c, sheet, -⟩
      simp [sheet, Sheet.read] at read
  · next read =>
      refine ⟨fun h => by simp at h, ?_⟩
      rintro ⟨-, c, sheet, -⟩
      simp [sheet, Sheet.read] at read
  · next c read =>
      rw [Sheet.read_eq_ok_iff] at read
      simp only [read, Sheet.written.injEq, exists_eq_left']
      split
      · next built =>
          simp only [Act.runOn_pure, Prod.mk.injEq, Except.ok.injEq, built]
          constructor
          · rintro ⟨rfl, rfl⟩
            exact ⟨rfl, rfl⟩
          · rintro ⟨rfl, rfl⟩
            exact ⟨rfl, rfl⟩
      all_goals next built => simp [built, world.refuse, giveUp_run]

end Shelf

/-! ## 2. Opening -/

namespace Session

/-- **A session is opened** with a play. -/
def Opens (setup : Setup) (shelf : Shelf) (archive : Archive) (s : Session) (p : Play) : Prop :=
  ((enter setup shelf archive).runOn []).1 = .ok (s, p)

theorem refuse_eq_ok {issues told lines : List String} {done : Unit} :
    (refuse issues).runOn lines = (.ok done, told) ↔ issues = [] ∧ told = lines := by
  unfold refuse
  cases issues with
  | nil =>
      simp only [List.isEmpty_nil, if_true, Act.runOn_pure, Prod.mk.injEq, true_and]
      exact eq_comm
  | cons issue issues =>
      simp only [List.isEmpty_cons, Bool.false_eq_true, if_false, Act.runOn_bind_eq_ok,
        Act.runOn_throw, Prod.mk.injEq, reduceCtorEq, false_and, and_false, exists_false]

theorem savedOf_eq_ok {archive : Archive} {slot saved : Content} {lines told : List String} :
    (savedOf archive slot).runOn lines = (.ok saved, told) ↔
      told = lines ∧ archive.load slot = .ok saved := by
  unfold savedOf
  split
  · next c read =>
      simp only [read, Act.runOn_pure, Prod.mk.injEq, Except.ok.injEq]
      exact ⟨fun ⟨e, e'⟩ => ⟨e'.symm, e⟩, fun ⟨e, e'⟩ => ⟨e', e.symm⟩⟩
  · next read => simp [read, Shelf.giveUp_run]

/-- The play with which a session begins in a world. -/
def firstPlay (setup : Setup) (archive : Archive) (w : World) : Play :=
  { world := w.noted (openingNote setup.language w), router := {}, host := { archive } }

/-- **What it takes to open a session.** -/
theorem opens_iff {setup : Setup} {shelf : Shelf} {archive : Archive} {s : Session} {p : Play} :
    Opens setup shelf archive s p ↔ ∃ b saved w, shelf.Holds b ∧ shelf.Offers s ∧
      archive.load setup.slot = .ok saved ∧ allInconsistencies b saved = .ok [] ∧
      restored b saved = .ok w ∧ s.setup = setup ∧ s.resumed = saved.isFilled ∧
      p = firstPlay setup archive w := by
  have first {α : Type} {a : Act (List String) α} {x : α} :
      (a.runOn []).1 = .ok x ↔ ∃ told, a.runOn [] = (.ok x, told) :=
    ⟨fun h => ⟨_, Prod.ext h rfl⟩, fun ⟨told, h⟩ => congrArg Prod.fst h⟩
  have taken {α : Type} {r : Except Fault α} {x : α} {s t : List String} :
      (Act.ofExcept r).runOn s = (.ok x, t) ↔ r = .ok x ∧ t = s := by
    simp only [Act.runOn_ofExcept, Prod.mk.injEq]
    exact and_congr_right fun _ => eq_comm
  unfold Opens enter
  simp only [first, Act.runOn_bind_eq_ok, savedOf_eq_ok, Shelf.world_eq_ok, Shelf.messages_eq_ok,
    Shelf.commands_eq_ok, Shelf.stopwords_eq_ok, taken, refuse_eq_ok]
  constructor
  · rintro ⟨told, saved, _, ⟨rfl, load⟩, b, _, ⟨rfl, holds⟩, m, _, ⟨rfl, messages⟩, catalogue, _,
      ⟨rfl, commands⟩, stopwords, _, ⟨rfl, words⟩, issues, _, ⟨accepted, rfl⟩, _, _, ⟨rfl, rfl⟩, w,
      _, ⟨rest, rfl⟩, done⟩
    cases done
    exact ⟨b, saved, w, holds, ⟨messages, commands, words⟩, load, accepted, rest, rfl, rfl, rfl⟩
  · rintro ⟨b, saved, w, holds, offers, load, accepted, rest, setup_eq, resumed, rfl⟩
    obtain ⟨messages, commands, stopwords⟩ := offers
    refine ⟨[], saved, _, ⟨rfl, load⟩, b, _, ⟨rfl, holds⟩, _, _, ⟨rfl, messages⟩, _, _,
      ⟨rfl, commands⟩, _, _, ⟨rfl, stopwords⟩, [], _, ⟨accepted, rfl⟩, (), _, ⟨rfl, rfl⟩, w, _,
      ⟨rest, rfl⟩, ?_⟩
    cases s
    simp only at setup_eq resumed
    subst setup_eq resumed
    rfl

/-- The inconsistencies of an adventure and a saved game are told apart. -/
theorem allInconsistencies_eq_nil {b : World} {saved : Content} :
    allInconsistencies b saved = .ok [] ↔ b.inconsistencies = .ok [] ∧
      (saved.isFilled = true → b.savedInconsistencies saved = .ok []) := by
  unfold allInconsistencies
  split
  · next filled =>
      simp only [filled, bind_eq_ok, pure_eq_ok, List.append_eq_nil_iff, forall_const]
      constructor
      · rintro ⟨_, h, _, k, rfl, rfl⟩
        exact ⟨h, k⟩
      · rintro ⟨h, k⟩
        exact ⟨_, h, _, k, rfl, rfl⟩
  · next empty =>
      simp only [bind_eq_ok, pure_eq_ok, List.append_eq_nil_iff]
      constructor
      · rintro ⟨_, h, _, rfl, rfl, -⟩
        exact ⟨h, fun filled => absurd filled empty⟩
      · exact fun h => ⟨_, h.1, _, rfl, rfl, rfl⟩

/-- A world is gone on with as a saved game says, if there is one. -/
theorem restored_eq_ok {b w : World} {saved : Content} :
    restored b saved = .ok w ↔ (saved.isFilled = false ∧ w = b) ∨
      (saved.isFilled = true ∧ ∃ es, saved = .mapping es ∧ World.Restores b es w) := by
  unfold restored
  cases saved.isFilled with
  | false =>
      simp only [Bool.false_eq_true, if_false, Except.ok.injEq, true_and, false_and, or_false]
      exact eq_comm
  | true =>
      simp only [if_true, reduceCtorEq, false_and, true_and, false_or, ← World.loadSaved_eq_ok]
      rcases (World.loadSaved saved).runOn b with ⟨r, v⟩
      cases r with
      | ok => simp
      | error e => simp

end Session

end Adventure
