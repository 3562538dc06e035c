import Adventure.Proofs.Session.Anew
import Adventure.Proofs.World.Reports

/-!
# A report tells exactly what has changed

* `reached_hasNoWord`: no item ever lies in a place that is called like the mark of the inventory;
* `report_exact`: **what the report of a play mentions**, and that plays of one adventure whose reports
  compare equal agree;
* `told_unchanged`: a line that has been said before the play begins is told, though nothing has
  changed;
* `twins_untold`: lines with the same id are not told apart.
-/

namespace Adventure

open Outcome

/-! ## 1. Where items lie -/

namespace World

variable {b w v : World} {c : Cause}

/-- No deed brings an item to such a place. -/
theorem hasNoWord_deed (built : b.IsBuilt) (located : w.HasNoWord) (h : Deed b c w v) :
    v.HasNoWord := by
  intro name i there
  rcases location_deed h there with ⟨i', there', same⟩ | ⟨-, taken⟩ | ⟨effect, mem, moves⟩
  · rw [same]
    exact located name i' there'
  · rw [taken]
    exact nofun
  · exact (built.marked effect mem).moves_ne moves

/-- Nor does a saved game. -/
theorem hasNoWord_mend {es : List (String × Content)} {part : SavedPart} (located : w.HasNoWord)
    (h : Mend (SavedPlace es) part w v) : v.HasNoWord := by
  intro name i there
  rcases location_mend h there with ⟨i', there', same⟩ | ⟨⟨state, fs, -, -, saved⟩, -⟩
  · rw [same]
    exact located name i' there'
  · exact (savedLocation_ok saved).2

/-- A world with clean flags has a report. -/
theorem report_eq (clean : w.flags.IsClean) : w.report = .ok w.toSaved := by
  have shown : w.flags.showingFault? = none := by
    simp [Flags.showingFault?, Flags.hiding?, clean.1.1]
  simp [report, shown]

end World

namespace Session

variable {shelf : Shelf} {b : World} {s : Session} {p : Play}

/-- **No item ever lies in a place that is called like the mark.** -/
theorem reached_hasNoWord (holds : shelf.Holds b) (h : Reached shelf s p) : p.world.HasNoWord := by
  have built : b.IsBuilt := holds.built
  refine reached_preserves holds built.located (World.hasNoWord_deed built)
    (fun _ _ _ accepts restores => ?_) h
  exact World.restores_carry (I := World.HasNoWord) built.clean accepts restores
    World.filled_items (fun _ => World.hasNoWord_mend) built.located

end Session

/-! ## 2. An echo -/

namespace Echo

/-- A line with an id, that may have been said before the play begins. -/
def line (id : Int) (used : Bool) : Content :=
  .mapping
    [("id", .int id), ("node", .int 1), ("text", .text "Who goes there?"), ("reply", .int 1),
     ("used", .bool used)]

/-- **An echo**: a hall, and the miner with some lines that have the same reply. -/
def content (lines : List Content) : Content :=
  .mapping
    [("start", .text "hall"), ("rooms", .mapping [("hall", Cellar.room "Hall" [])]),
     ("characters", .mapping [("miner", Den.character "miner" "hall")]),
     ("dialogues", .mapping
       [("miner", .mapping
         [("lines", .list lines),
          ("replies", .list [.mapping [("id", .int 1), ("text", .text "Nobody.")]])])])]

def session : Session := Cellar.session (.text "closed")

/-- What can be told of it after some lines of the player. -/
theorem exists_plays (lines : List Content) (P : World → Play → Play → Prop)
    [∀ b p q, Decidable (P b p q)] (first second : List String)
    (told : (World.ofFile (content lines)).toOption.any (fun b => b.inconsistencies = .ok [] ∧
      P b (session.after (Cellar.first b) first) (session.after (Cellar.first b) second)) = true) :
    ∃ shelf b p q, Shelf.Holds shelf b ∧ b.inconsistencies = .ok [] ∧
      Session.Reached shelf session p ∧ Session.Reached shelf session q ∧ P b p q := by
  obtain ⟨b, holds, sound, tells⟩ := Cellar.exists_holdsOf (content lines) (.text "closed") _ told
  have reached (spoken : List String) : Session.Reached (Cellar.shelfOf (content lines)
      (.text "closed")) session (session.after (Cellar.first b) spoken) := by
    induction spoken using List.reverseRecOn with
    | nil => exact .anew (Cellar.opensOf holds sound) rfl
    | append_singleton spoken line ih =>
        rw [Session.after_append]
        exact .line ih line
  exact ⟨_, b, _, _, holds, sound, reached first, reached second, tells⟩

end Echo

namespace Session

variable {shelf : Shelf} {b : World} {s : Session} {p : Play}

/-! ## 3. Reports -/

/-- **The report of a play is exact.** It mentions an item, a room, a character or a flag if it is not
    as it was in the beginning, and a dialogue if a line of it has been said. Plays whose reports
    compare equal agree in all that play changes, down to the ids of the lines that have been said,
    and down to the lines if these have ids of their own. -/
theorem report_exact (holds : shelf.Holds b) (reached : Reached shelf s p) :
    let w := p.world
    w.report = .ok w.toSaved ∧
    (∀ name,
      (w.Reports .items name ↔ w.items.get? name ≠ b.items.get? name) ∧
      (w.Reports .rooms name ↔ w.rooms.get? name ≠ b.rooms.get? name) ∧
      (w.Reports .characters name ↔ w.characters.get? name ≠ b.characters.get? name) ∧
      (w.Reports .flags name ↔ ∃ f : Flag, name = f.word ∧ w.flags.get f ≠ b.flags.get f) ∧
      (w.Reports .lines name ↔
        ∃ d, w.dialogues.get? name = some d ∧ ∃ line ∈ d.lines, line.used = true) ∧
      ((∀ d, b.dialogues.get? name = some d → ∀ line ∈ d.lines, line.used = false) →
        (w.Reports .lines name ↔ w.dialogues.get? name ≠ b.dialogues.get? name))) ∧
    ∀ s' p', Reached shelf s' p' →
      (Content.mapping w.toSaved).same (.mapping p'.world.toSaved) = true →
      w.Agrees p'.world ∧ (b.HasDistinctLines → p'.world.dialogues = w.dialogues) := by
  have built : b.IsBuilt := holds.built
  obtain ⟨sane, placed⟩ := reached_sane holds reached
  obtain ⟨clean, plan, sound⟩ := sane.world
  have located := reached_hasNoWord holds reached
  refine ⟨World.report_eq clean, fun name => ⟨?_, ?_, ?_, ?_, ?_, fun unsaid => ?_⟩,
    fun s' p' reached' same => ?_⟩
  · exact World.reports_item built plan sound located
  · exact World.reports_room built plan
  · exact World.reports_character built plan
  · exact World.reports_flag built plan clean
  · exact World.reports_dialogue
  · exact World.reports_unsaid plan unsaid
  · obtain ⟨clean', plan', -⟩ := (reached_sane holds reached').1.world
    have agrees := World.agrees_of_reports clean same built plan plan' sound clean' placed located
      (reached_hasNoWord holds reached')
    exact ⟨agrees, fun distinct => agrees.dialogues distinct plan plan'⟩

/-- What is told of the miner when one of two lines has been said. -/
theorem report_exact_echo : ∃ shelf b s p q, Shelf.Holds shelf b ∧ Reached shelf s p ∧
    Reached shelf s q ∧ b.HasDistinctLines ∧
      (Content.mapping p.world.toSaved).same (.mapping q.world.toSaved) = true ∧
      p.world.Reports .lines "miner" ∧ ¬ p.world.Reports .rooms "hall" ∧
      q.world.dialogues = p.world.dialogues := by
  obtain ⟨shelf, b, p, q, holds, -, reached, reached', distinct, same, said, still⟩ :=
    Echo.exists_plays [Echo.line 1 false, Echo.line 2 false]
      (fun b p q => b.HasDistinctLines ∧
        (Content.mapping p.world.toSaved).same (.mapping q.world.toSaved) = true ∧
        (∃ d ∈ p.world.dialogues.get? "miner", ∃ line ∈ d.lines, line.used = true) ∧
        p.world.rooms.get? "hall" = b.rooms.get? "hall")
      ["talk miner", "2"] ["talk miner", "3", "2", "dance"] (by decide +kernel)
  obtain ⟨-, mentions, agree⟩ := report_exact holds reached
  exact ⟨shelf, b, _, p, q, holds, reached, reached', distinct, same,
    (mentions "miner").2.2.2.2.1.mpr said,
    fun told => (mentions "hall").2.1.mp told still, (agree _ q reached' same).2 distinct⟩

/-- **A line that has been said before the play begins** is told, though nothing has changed. -/
theorem told_unchanged : ∃ shelf b s p, Shelf.Holds shelf b ∧ b.inconsistencies = .ok [] ∧
    Reached shelf s p ∧ p.world.dialogues = b.dialogues ∧ p.world.Reports .lines "miner" := by
  obtain ⟨shelf, b, p, -, holds, sound, reached, -, same, said⟩ :=
    Echo.exists_plays [Echo.line 1 true]
      (fun b p _ => p.world.dialogues.entries = b.dialogues.entries ∧
        ∃ d ∈ p.world.dialogues.get? "miner", ∃ line ∈ d.lines, line.used = true)
      [] [] (by decide +kernel)
  exact ⟨shelf, b, _, p, holds, sound, reached, Roster.ext_entries same,
    World.reports_dialogue.mpr said⟩

/-- **Lines with the same id** are not told apart: after either of them the report is the same. -/
theorem twins_untold : ∃ shelf b s p q, Shelf.Holds shelf b ∧ b.inconsistencies = .ok [] ∧
    Reached shelf s p ∧ Reached shelf s q ∧ p.world.toSaved = q.world.toSaved ∧
      p.world.dialogues ≠ q.world.dialogues := by
  obtain ⟨shelf, b, p, q, holds, sound, reached, reached', same, lines⟩ :=
    Echo.exists_plays [Echo.line 1 false, Echo.line 1 false]
      (fun _ p q => p.world.toSaved = q.world.toSaved ∧
        p.world.dialogues.entries ≠ q.world.dialogues.entries)
      ["talk miner", "1"] ["talk miner", "2"] (by decide +kernel)
  exact ⟨shelf, b, _, p, q, holds, sound, reached, reached', same,
    fun e => lines (congrArg Roster.entries e)⟩

end Session

end Adventure
