import Adventure.Proofs.Session.Anew
import Adventure.Proofs.World.Resumed

/-!
# Nobody notices that a game was saved and gone on with

* `alike_after`: plays that are alike stay alike, line after line, and say the same;
* `reached_grown`: in every play that is reached the world has grown out of the adventure;
* `save_transparent`: **a session that goes on with a saved game does what the session would have
  done that saved it**, and when there is one;
* `talk_lost`: a saved game that no session goes on with.
-/

namespace Adventure.Session

open Outcome

variable {shelf : Shelf} {b : World} {s : Session} {p q : Play} {line : String}

/-! ## 1. Plays that are alike -/

/-- What is reported of a world does not depend on its notes. -/
theorem report_alike {w v : World} (like : w.Alike v) : v.report = w.report := by
  obtain ⟨notes, rfl⟩ := like
  rfl

/-- **Plays that are alike stay alike**, line after line. -/
theorem alike_after (sane : Play.Sane b p) (like : Play.Alike false p q) (lines : List String) :
    Play.Alike false (s.after p lines) (s.after q lines) := by
  induction lines using List.reverseRecOn with
  | nil => exact like
  | append_singleton lines line ih =>
      rw [after_append, after_append]
      exact (keeps_handle (s := s) ih (after_sane sane lines) line).alike

/-! ## 2. Worlds that have grown -/

/-- A session has what it needs of its shelf. -/
theorem reached_offers (h : Reached shelf s p) : shelf.Offers s := by
  induction h with
  | anew opens =>
      obtain ⟨_, _, _, -, offers, -⟩ := opens_iff.mp opens
      exact offers
  | line reached line ih => exact ih
  | resumed reached saves kept opens =>
      obtain ⟨_, _, _, -, offers, -⟩ := opens_iff.mp opens
      exact offers

/-- A saved game is gone on with in one way. -/
theorem restores_unique {es : List (String × Content)} {v v' : World}
    (h : World.Restores b es v) (h' : World.Restores b es v') : v' = v := by
  have run := World.loadSaved_eq_ok.mpr ⟨es, rfl, h⟩
  have run' := World.loadSaved_eq_ok.mpr ⟨es, rfl, h'⟩
  rw [run] at run'
  cases run'
  rfl

theorem grown_alike {w v : World} (grown : b.Grown w) (like : w.Alike v) : b.Grown v := by
  obtain ⟨notes, rfl⟩ := like
  exact ⟨grown.housed, grown.follows⟩

section

variable (holds : shelf.Holds b) (documented : b.IsDocumented) (distinct : b.HasDistinctLines)
variable (keeps : b.KeepsNames)

include holds documented distinct keeps

/-- **In every play that is reached the world has grown out of the adventure.** -/
theorem reached_grown (h : Reached shelf s p) : b.Grown p.world := by
  have sound : b.inconsistencies = .ok [] := (reached_sane holds h).1.world.sound
  have built : b.IsBuilt := holds.built
  refine reached_preserves holds (World.grown_self built sound)
    (World.grown_deed built sound documented) (fun sane placed grown _ restores => ?_) h
  have counts := World.counts_of_restores keeps sane.plan built restores
  obtain ⟨v, restores', like⟩ := World.restores_saved keeps sane.plan built sound distinct
    sane.clean placed grown counts _
  cases restores_unique restores restores'
  exact grown_alike grown like

/-- **A game that was saved can be gone on with**, in a play that is like the one that goes on. -/
theorem opens_again (h : Reached shelf s p) (saves : s.Saves p line) (counts : b.Counts p.world) :
    ∃ p', Opens s.setup shelf (s.turn p line).2.host.archive { s with resumed := true } p' ∧
      Play.Alike false (s.turn p line).2 p' := by
  obtain ⟨sane, placed⟩ := reached_sane holds h
  have sound := sane.world.sound
  have built : b.IsBuilt := holds.built
  have grown := reached_grown holds documented distinct keeps h
  have origin : p.world.origin.flags.IsClean := by
    rw [World.origin_of_plan sane.world.plan, built.origin]
    exact built.clean
  have load : (s.turn p line).2.host.archive.load s.setup.slot = _ :=
    load_saved sane placed saves rfl
  obtain ⟨-, -, -, -, -, same, router, -⟩ := saves_turn sane placed saves
  obtain ⟨v, restores, like⟩ := World.restores_saved keeps sane.world.plan built sound distinct
    sane.world.clean placed grown counts (.text s.setup.language)
  have accepted := World.savedInconsistencies_nil keeps sane.world.plan sane.world.clean origin
    placed grown.housed (.text s.setup.language)
  have filled := keptGame_filled placed (.text s.setup.language)
  have offers := reached_offers h
  refine ⟨firstPlay s.setup (s.turn p line).2.host.archive v, opens_iff.mpr ⟨b, _, v, holds,
    ⟨offers.messages, offers.commands, offers.stopwords⟩, load,
    allInconsistencies_eq_nil.mpr ⟨sound, fun _ => accepted⟩,
    restored_eq_ok.mpr (.inr ⟨filled, _, rfl, restores⟩), rfl, filled.symm, rfl⟩, ?_⟩
  refine ⟨(same.symm.trans like).trans (World.alike_noted _ _), router.symm, rfl, fun k => ?_⟩
  rcases k with k | k
  · cases k
  · rw [router] at k
    cases k

/-- **Saving a game and going on with it changes nothing.** If a line saves the game, a session with
    the same files can begin with it, unless play has changed a character who has the word for the
    inventory in the place of a number for health. Whatever lines come next, that session says what
    the first one would have said, and reports the same of the world. -/
theorem save_transparent (h : Reached shelf s p) (saves : s.Saves p line) :
    let q := (s.turn p line).2
    (b.Counts p.world ↔ ∃ s' q', Opens s.setup shelf q.host.archive s' q') ∧
      ∀ s' q', Opens s.setup shelf q.host.archive s' q' → s'.resumed = true ∧ ∀ lines,
        (s'.after q' lines).world.report = (s.after q lines).world.report ∧
          ∀ next, (s'.turn (s'.after q' lines) next).1 = (s.turn (s.after q lines) next).1 := by
  intro q
  obtain ⟨sane, placed⟩ := reached_sane holds h
  have built : b.IsBuilt := holds.built
  have counts {s' : Session} {q' : Play} (opens : Opens s.setup shelf q.host.archive s' q') :
      b.Counts p.world := by
    obtain ⟨-, -, w, restores, -⟩ := opens_saved holds sane placed saves rfl opens
    exact World.counts_of_restores keeps sane.world.plan built restores
  refine ⟨⟨fun counts => ?_, fun ⟨s', q', opens⟩ => counts opens⟩, fun s' q' opens => ?_⟩
  · obtain ⟨q', opens, -⟩ := opens_again holds documented distinct keeps h saves counts
    exact ⟨_, q', opens⟩
  · obtain ⟨q'', opens', like⟩ :=
      opens_again holds documented distinct keeps h saves (counts opens)
    cases Except.ok.inj (opens.symm.trans opens')
    have sane_q : Play.Sane b q := turn_sane sane line
    refine ⟨rfl, fun lines => ?_⟩
    have alike := alike_after (s := s) sane_q like lines
    refine ⟨report_alike alike.world, fun next => ?_⟩
    exact (keeps_handle (s := s) alike (after_sane sane_q lines) next).same

end

/-- In the small adventure the cellar can be opened, and the game be saved then. -/
theorem cellar_saved : ∃ b p, Shelf.Holds (Cellar.shelf (.int 2) (.text "closed")) b ∧
    b.IsDocumented ∧ b.HasDistinctLines ∧ b.KeepsNames ∧
    Reached (Cellar.shelf (.int 2) (.text "closed")) (Cellar.session (.text "closed")) p ∧
    (Cellar.session (.text "closed")).Saves p "save" ∧ b.Counts p.world ∧
      (b.rooms.get? "cellar").map Room.locked = some true ∧
      (p.world.rooms.get? "cellar").map Room.locked = some false := by
  let s : Session := Cellar.session (.text "closed")
  obtain ⟨b, holds, sound, documented, distinct, keeps, locked, other, other', may, same, opened⟩ :=
    Cellar.exists_holds (.int 2) (.text "closed")
      (fun b =>
        let p := (s.turn (Cellar.first b) "move nord").2
        let q := (s.turn p "1234").2
        b.inconsistencies = .ok [] ∧ b.IsDocumented ∧ b.HasDistinctLines ∧ b.KeepsNames ∧
          (b.rooms.get? "cellar").map Room.locked = some true ∧
          (s.cause (Cellar.first b) "move nord").verb? ≠ some .save ∧
          (s.cause p "1234").verb? ≠ some .save ∧ s.MaySave q "save" ∧
          (∀ e ∈ q.world.characters.entries,
            (b.characters.get? e.1).map Character.state = some e.2.state) ∧
          (q.world.rooms.get? "cellar").map Room.locked = some false)
      (by decide +kernel)
  have begun : Reached _ s (Cellar.first b) := Cellar.reached holds sound []
  have first := begun.line "move nord"
  have reached := first.line "1234"
  obtain ⟨sane, placed⟩ := reached_sane holds reached
  have archive := (archive_turn (s := s) (reached_sane holds first).1 other').trans
    (archive_turn (s := s) (reached_sane holds begun).1 other)
  have saves := saves_of_place sane placed may (by rw [archive]; exact Cellar.place)
  exact ⟨b, _, holds, documented, distinct, keeps, reached, saves,
    fun name ch there => .inl (same (name, ch) ((Roster.mem_entries_iff _).mpr there)),
    locked, opened⟩

/-- A game that is saved when the cellar has been opened can be gone on with. -/
theorem save_transparent_cellar : ∃ shelf b s p line, Shelf.Holds shelf b ∧ b.IsDocumented ∧
    b.HasDistinctLines ∧ b.KeepsNames ∧ Reached shelf s p ∧ s.Saves p line ∧
      (b.rooms.get? "cellar").map Room.locked = some true ∧
      (p.world.rooms.get? "cellar").map Room.locked = some false ∧
      ∃ s' q', Opens s.setup shelf (s.turn p line).2.host.archive s' q' ∧ ∀ lines,
        (s'.after q' lines).world.report = (s.after (s.turn p line).2 lines).world.report := by
  obtain ⟨b, p, holds, documented, distinct, keeps, reached, saves, counts, locked, opened⟩ :=
    cellar_saved
  obtain ⟨resumes, same⟩ := save_transparent holds documented distinct keeps reached saves
  obtain ⟨s', q', opens⟩ := resumes.mp counts
  exact ⟨_, b, _, p, "save", holds, documented, distinct, keeps, reached, saves, locked, opened,
    s', q', opens, fun lines => ((same s' q' opens).2 lines).1⟩

/-- **A game in which someone without a number for health has changed is lost**: after a talk with
    the creature it is saved, and no session can go on with it. -/
theorem talk_lost : ∃ shelf b s p line, Shelf.Holds shelf b ∧ b.inconsistencies = .ok [] ∧
    b.IsDocumented ∧ b.HasDistinctLines ∧ b.KeepsNames ∧ Reached shelf s p ∧ s.Saves p line ∧
      ¬ ∃ s' q', Opens s.setup shelf (s.turn p line).2.host.archive s' q' := by
  let s : Session := Cellar.session (.text "closed")
  obtain ⟨b, holds, sound, documented, distinct, keeps, other, may, changed⟩ :=
    Cellar.exists_holds (.text "INVENTORY") (.text "closed")
      (fun b =>
        let p := (s.turn (Cellar.first b) "talk creature").2
        b.inconsistencies = .ok [] ∧ b.IsDocumented ∧ b.HasDistinctLines ∧ b.KeepsNames ∧
          (s.cause (Cellar.first b) "talk creature").verb? ≠ some .save ∧ s.MaySave p "save" ∧
          ∃ ch ∈ p.world.characters.get? "creature", ch.health = .word ∧
            (b.characters.get? "creature").map Character.state ≠ some ch.state)
      (by decide +kernel)
  have begun : Reached _ s (Cellar.first b) := Cellar.reached holds sound []
  have reached := begun.line "talk creature"
  obtain ⟨sane, placed⟩ := reached_sane holds reached
  have archive := archive_turn (s := s) (reached_sane holds begun).1 other
  have saves : s.Saves (s.turn (Cellar.first b) "talk creature").2 "save" :=
    saves_of_place sane placed may (by rw [archive]; exact Cellar.place)
  refine ⟨_, b, s, _, "save", holds, sound, documented, distinct, keeps, reached, saves, ?_⟩
  rintro ⟨s', q', opens⟩
  obtain ⟨-, -, w, restores, -⟩ := opens_saved holds sane placed saves rfl opens
  have built : b.IsBuilt := holds.built
  have counts := World.counts_of_restores keeps sane.world.plan built restores
  obtain ⟨ch, there, word, differs⟩ := changed
  rcases counts "creature" ch there with same | ⟨n, number⟩
  · exact differs same
  · rw [word] at number
    cases number

end Adventure.Session
