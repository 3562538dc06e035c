import Adventure.Proofs.Kept
import Adventure.Proofs.Session.Opening
import Adventure.Proofs.Session.Turn
import Mathlib.Data.List.Induction

/-!
# Plays that are reached

* `Session.turn`, `Session.after`: a line of the player, and many;
* `turn_resumes`, `turn_unread`, `turn_reads`, `turn_routes`: what a turn is;
* `turn_follows`, `turn_answers`: **the player is told what the rule of the verb says**;
* `Session.Saves`: a line with which the game is saved;
* `Session.Reached`: the plays of an adventure that are reached from new sessions and from sessions
  that go on with a game that one of them has saved;
* `saves_turn`: **what a line leaves behind with which the game is saved**;
* `archive_turn`: only a command to save changes files;
* `reached_sane`: what is known of every play that is reached;
* `reached_preserves`: **an invariant of the world holds in every play that is reached**.
-/

namespace Adventure

open Relation (ReflTransGen)
open Outcome

namespace Session

/-! ## 1. Runs of a session -/

/-- **A line of the player**: what is said, or the fault, and the play after it. -/
def turn (s : Session) (p : Play) (line : String) : Except Fault (List Content) × Play :=
  (s.handle line).runOn p

/-- The play after some lines. -/
def after (s : Session) (p : Play) (lines : List String) : Play :=
  lines.foldl (fun p line => (s.turn p line).2) p

/-- **A line with which the game is saved**: it is read as a command to do so, and the last thing
    that is noted is that the game was saved. -/
def Saves (s : Session) (p : Play) (line : String) : Prop :=
  (s.cause p line).verb? = some .save ∧
    (s.turn p line).2.world.notes.head? = some ("saved slot " ++ s.setup.slot.shown)

/-- **Plays that are reached** with the adventure of a shelf, line after line. A session that does
    not begin anew goes on with a game that a session has saved. -/
inductive Reached (shelf : Shelf) : Session → Play → Prop where
  | anew {setup : Setup} {archive : Archive} {s : Session} {p : Play}
      (opens : Opens setup shelf archive s p) (new : s.resumed = false) : Reached shelf s p
  | line {s : Session} {p : Play} (reached : Reached shelf s p) (line : String) :
      Reached shelf s (s.turn p line).2
  | resumed {s s' : Session} {p p' : Play} {setup : Setup} {archive : Archive} {line : String}
      (reached : Reached shelf s p) (saves : s.Saves p line)
      (kept : archive.sheet setup.slot = (s.turn p line).2.host.archive.sheet s.setup.slot)
      (opens : Opens setup shelf archive s' p') : Reached shelf s' p'

/-! ## 2. What a turn is -/

section

variable {s : Session} {p : Play} {line : String}

/-- A line for which something waits. -/
theorem turn_resumes {k : Pending} (waits : p.router.waiting = some k) :
    s.turn p line = (s.resume k line >>= Play.tell).runOn (p.heard line) := by
  unfold turn
  rw [handle_run, waits]
  rfl

/-- A line in which no command is looked for does nothing. -/
theorem turn_unread (free : p.router.waiting = none) (unread : s.intent? p.world line = none) :
    s.turn p line = (.ok [], p.heard line) := by
  have heard : s.intent? (p.heard line).world line = none := unread
  unfold turn
  rw [handle_run, free]
  unfold respond obey
  rw [Act.runOn_bind_ok (Act.runOn_get _)]
  simp only [heard]
  rfl

/-- A line that is read as a command. -/
theorem turn_reads {i : Intent} (free : p.router.waiting = none)
    (read : s.intent? p.world line = some i) :
    s.turn p line = ((if i.verb? = some .quit then s.quit
      else Turn.dispatch s.messages announce s.setting.rules i) >>= Play.tell).runOn
        (p.heard line) := by
  have heard : s.intent? (p.heard line).world line = some i := read
  unfold turn
  rw [handle_run, free]
  unfold respond obey
  rw [Act.runOn_bind_ok (Act.runOn_get _)]
  simp only [heard]
  split
  · rfl
  · rfl

/-- A line that is read as a command other than to quit goes to the rule of its verb. -/
theorem turn_routes {i : Intent} (free : p.router.waiting = none)
    (read : s.intent? p.world line = some i) (other : i.verb? ≠ some .quit) :
    s.turn p line = (s.setting.route announce i >>= Play.tell).runOn (p.heard line) := by
  rw [turn_reads free read, if_neg other]
  exact congrArg (fun a => (a >>= Play.tell).runOn (p.heard line))
    (dispatch_rules s.setting announce i)

/-- A line that asks for what a verb does is read as a command. -/
theorem read_of_verb {v : Verb} (verb : (s.cause p line).verb? = some v) : ∃ i,
    p.router.waiting = none ∧ s.intent? p.world line = some i ∧ i.verb? = some v := by
  unfold cause at verb
  split at verb
  · cases verb
  · cases verb
  · next free =>
      split at verb
      · next i read => exact ⟨i, free, read, verb⟩
      · cases verb

end

/-! ## 3. A line with which the game is saved -/

/-- **What telling lines comes to.** -/
theorem tell_run (lines : List Content) (p : Play) :
    (Play.tell lines).runOn p = (.ok lines, { p with host := { p.host with
      spoken := (lines.map fun line => (.line line, p.world.notes.length)).reverse ++
        p.host.spoken } }) := by
  have emitted : ∀ (lines : List Content) (p : Play), (lines.forM Play.emit).runOn p =
      (.ok (), { p with host := { p.host with
        spoken := (lines.map fun line => (.line line, p.world.notes.length)).reverse ++
          p.host.spoken } }) := by
    intro lines
    induction lines with
    | nil => exact fun p => rfl
    | cons line lines ih =>
        intro p
        have said : (Play.emit line).runOn p = (.ok (), { p with host := { p.host with
            spoken := (.line line, p.world.notes.length) :: p.host.spoken } }) := rfl
        show (Play.emit line >>= fun _ => lines.forM Play.emit).runOn p = _
        rw [Act.runOn_bind_ok said, ih]
        simp
  unfold Play.tell
  rw [Act.runOn_bind_ok (emitted lines p)]
  rfl

/-- The rule for saving saves, unless there is more to the command or the antagonist holds the
    player back. -/
theorem save_rule_free (s : Session) {i : Intent} {q : Play} (alone : i.hasArguments = false)
    (uncornered : q.world.isCornered = .ok false) :
    ((s.setting.save i).runOn q).2 = (s.save.runOn q).2 := by
  have asked : (Stage.ask World.isCornered).runOn q = (.ok false, q) := by
    show (q.world.isCornered, q) = _
    rw [uncornered]
  unfold Setting.save
  rw [if_neg (by rw [alone]; exact nofun), Act.runOn_bind_ok asked]
  simp only [Bool.false_eq_true, if_false, setting]
  rw [Act.runOn_bind]
  rcases s.save.runOn q with ⟨r, u⟩
  rcases r with e | (obstacle | slot)
  · rfl
  · rfl
  · rfl

/-- The rule for saving does nothing, or saves. -/
theorem save_rule (s : Session) (i : Intent) (q : Play) :
    ((s.setting.save i).runOn q).2 = q ∨
      (q.world.isCornered = .ok false ∧ ((s.setting.save i).runOn q).2 = (s.save.runOn q).2) := by
  by_cases arguments : i.hasArguments = true
  · unfold Setting.save
    rw [if_pos arguments]
    exact .inl rfl
  have asked : (Stage.ask World.isCornered).runOn q = (q.world.isCornered, q) := rfl
  cases cornered : q.world.isCornered with
  | error e =>
      unfold Setting.save
      rw [if_neg arguments, Act.runOn_bind_error (asked.trans (by rw [cornered]))]
      exact .inl rfl
  | ok held =>
      cases held with
      | true =>
          unfold Setting.save
          rw [if_neg arguments, Act.runOn_bind_ok (asked.trans (by rw [cornered]))]
          exact .inl rfl
      | false =>
          exact .inr ⟨rfl, s.save_rule_free (Bool.eq_false_iff.mpr arguments) cornered⟩

/-- A step that leaves the player where the player is brings no arrival. -/
theorem withArrival_here {hear : Content → Act Play Unit} {before : Content} {q : Play}
    (lines : List Content) (here : q.world.current.same before = true) :
    (Turn.withArrival hear before lines).runOn q = (.ok lines, q) := by
  unfold Turn.withArrival
  rw [Act.runOn_bind_ok (Act.runOn_get q), if_pos here]
  rfl

/-- **A turn is the rule of the verb**, and the arrival if the room is another one. -/
theorem turn_follows {i : Intent} {verb : Verb} {rule : Rule Desk} {s : Session} {p : Play}
    {line : String} (free : p.router.waiting = none) (read : s.intent? p.world line = some i)
    (hv : i.verb? = some verb) (hr : s.setting.ruleFor? verb = some rule) :
    s.turn p line = (rule i >>= fun saying => Turn.withArrival announce p.world.current
      ([saying].filter Content.isFilled) >>= Play.tell).runOn (p.heard line) := by
  have other : i.verb? ≠ some .quit := by
    intro quits
    rw [hv] at quits
    cases quits
    cases hr
  rw [turn_routes free read other]
  unfold Setting.route
  simp only [hv, hr, bind_assoc]
  rw [Act.runOn_bind_ok (Act.runOn_get _)]
  rfl

/-- **The player is told what the rule says**, if it leaves the player where the player is. -/
theorem turn_answers {i : Intent} {verb : Verb} {rule : Rule Desk} {s : Session} {p q : Play}
    {line : String} {r : Except Fault Content} (free : p.router.waiting = none)
    (read : s.intent? p.world line = some i) (hv : i.verb? = some verb)
    (hr : s.setting.ruleFor? verb = some rule) (run : (rule i).runOn (p.heard line) = (r, q))
    (here : q.world.current.same p.world.current = true) :
    (s.turn p line).1 = r.map (fun saying => [saying].filter Content.isFilled) ∧
      ∃ spoken, (s.turn p line).2 = { q with host := { q.host with spoken } } := by
  rw [turn_follows free read hv hr, Act.runOn_bind, run]
  cases r with
  | error e => exact ⟨rfl, q.host.spoken, rfl⟩
  | ok saying =>
      simp only
      rw [Act.runOn_bind_ok (withArrival_here _ here), tell_run]
      exact ⟨rfl, _, rfl⟩

/-- A turn with a command to save leaves what the rule for saving leaves. -/
theorem turn_save {s : Session} {p : Play} {line : String} {i : Intent}
    (free : p.router.waiting = none) (read : s.intent? p.world line = some i)
    (verb : i.verb? = some .save) {q : Play}
    (rule : ((s.setting.save i).runOn (p.heard line)).2 = q)
    (here : q.world.current.same p.world.current = true) :
    ∃ spoken, (s.turn p line).2 = { q with host := { q.host with spoken } } := by
  have run : (s.setting.save i).runOn (p.heard line) =
      (((s.setting.save i).runOn (p.heard line)).1, q) := Prod.ext rfl rule
  exact (turn_answers free read verb rfl run here).2

/-- The game that is saved in a play. -/
def gameOf (s : Session) (w : World) : Content :=
  .mapping (w.toSaved ++ [("language", .text s.setup.language)])

variable {s : Session} {b : World} {p : Play} {line : String}

/-- What is noted first in a turn is not that the game was saved. -/
theorem heard_ne_saved (s : Session) (line : String) :
    "input=" ++ line ≠ "saved slot " ++ s.setup.slot.shown := by
  intro e
  have first := congrArg (fun t => t.toList.head?) e
  simp at first

/-- **What a line leaves behind that asks for saving**: nothing, or what saving does while the
    antagonist does not hold the player back. -/
theorem save_turn (sane : Play.Sane b p) (placed : p.world.IsPlaced)
    (verb : (s.cause p line).verb? = some .save) :
    ∃ q spoken, (s.turn p line).2 = { q with host := { q.host with spoken } } ∧
      (q = p.heard line ∨
        (p.world.isCornered = .ok false ∧ q = (s.save.runOn (p.heard line)).2)) := by
  obtain ⟨i, free, read, verb⟩ := read_of_verb verb
  have here (q : Play) (h : q.world.current = p.world.current) :
      q.world.current.same p.world.current = true := by
    rw [h]
    exact placed.here
  rcases s.save_rule i (p.heard line) with e | ⟨uncornered, e⟩
  · obtain ⟨spoken, turn⟩ := turn_save free read verb e (here _ rfl)
    exact ⟨_, spoken, turn, .inl rfl⟩
  · have saved : (p.heard line).world.savedGame (.text s.setup.language) =
        .ok (s.gameOf p.world) := World.savedGame_eq sane.world.clean _
    have stays : (s.save.runOn (p.heard line)).2.world.current = p.world.current := by
      rw [save_run s _ saved]
      simp only
      split
      · rfl
      · split
        · rfl
        · rfl
    obtain ⟨spoken, turn⟩ := turn_save free read verb e (here _ stays)
    exact ⟨_, spoken, turn, .inr ⟨uncornered, rfl⟩⟩

/-- **What a line leaves behind with which the game is saved.** -/
theorem saves_turn (sane : Play.Sane b p) (placed : p.world.IsPlaced) (h : s.Saves p line) :
    p.router.waiting = none ∧ p.world.isCornered = .ok false ∧
      (s.gameOf p.world).isWritable = true ∧
      ∃ there, p.host.archive.place s.setup.slot = .ok there ∧
        p.world.Alike (s.turn p line).2.world ∧ (s.turn p line).2.router = {} ∧
        (s.turn p line).2.host.archive =
          p.host.archive.put there (.written (s.gameOf p.world).asKept) := by
  obtain ⟨verb, noted⟩ := h
  obtain ⟨-, free, -, -⟩ := read_of_verb verb
  obtain ⟨q, spoken, turn, left⟩ := save_turn sane placed verb
  rw [turn] at noted ⊢
  -- whatever leaves the notes of the line alone has not saved the game
  have silent (notes : q.world = (p.heard line).world) : False := by
    simp only [notes] at noted
    exact heard_ne_saved s line (Option.some.inj noted)
  rcases left with rfl | ⟨uncornered, rfl⟩
  · exact (silent rfl).elim
  have saved : (p.heard line).world.savedGame (.text s.setup.language) =
      .ok (s.gameOf p.world) := World.savedGame_eq sane.world.clean _
  have archive : (p.heard line).host.archive = p.host.archive := rfl
  rw [save_run s _ saved, Archive.save_run, archive] at silent ⊢
  cases place : p.host.archive.place s.setup.slot with
  | error fault =>
      rw [place] at silent
      simp only at silent
      split at silent
      · exact (silent rfl).elim
      · exact (silent rfl).elim
  | ok there =>
      rw [place] at silent
      simp only at silent ⊢
      by_cases writable : (s.gameOf p.world).isWritable = true
      · rw [if_pos writable]
        exact ⟨free, uncornered, writable, there, rfl, ⟨_, rfl⟩, rfl, rfl⟩
      · rw [if_neg writable] at silent
        simp only at silent
        split at silent
        · exact (silent rfl).elim
        · exact (silent rfl).elim

/-! ## 4. What a turn keeps -/

theorem alike_self (p : Play) : Play.Alike false p p :=
  ⟨World.Alike.refl _, rfl, rfl, fun _ => rfl⟩

/-- **A turn consists of deeds** once the line is heard. -/
theorem turn_leads (sane : Play.Sane b p) (line : String) :
    ReflTransGen (Play.Deed s.setup b (s.cause p line)) (p.heard line) (s.turn p line).2 :=
  (keeps_handle (s := s) (alike_self p) sane line).leads

/-- **In a fine play a turn comes to no fault.** -/
theorem turn_comes (sane : Play.Sane b p) (fine : Play.Fine s.setup s.messages b p)
    (line : String) : ∃ lines, (s.turn p line).1 = .ok lines :=
  (keeps_handle (s := s) (alike_self p) sane line).done (fine_heard fine line)

/-- A property of the world that its deeds preserve holds after a turn. -/
theorem turn_preserves {I : World → Prop} (sane : Play.Sane b p) {line : String}
    (step : ∀ {w v}, I w → World.Deed b (s.cause p line) w v → I v)
    (start : I (p.heard line).world) : I (s.turn p line).2.world := by
  refine Play.deeds_preserve (I := fun q => I q.world) (fun i d => ?_) (turn_leads sane line) start
  cases d with
  | world v deed => exact step i deed
  | desk => exact i
  | converse => exact i
  | hush => exact i
  | knock => exact i
  | listen => exact i
  | keep => exact i
  | halt => exact i

/-- **Only a command to save changes files.** -/
theorem archive_turn (sane : Play.Sane b p) (other : (s.cause p line).verb? ≠ some .save) :
    (s.turn p line).2.host.archive = p.host.archive := by
  refine Play.deeds_preserve (I := fun q => q.host.archive = p.host.archive) (fun i d => ?_)
    (turn_leads (s := s) sane line) rfl
  cases d with
  | world => exact i
  | desk desk conversation running archive => exact archive.trans i
  | converse => exact i
  | hush => exact i
  | knock => exact i
  | listen => exact i
  | keep game save => exact absurd save other
  | halt => exact i

theorem turn_sane (sane : Play.Sane b p) (line : String) : Play.Sane b (s.turn p line).2 :=
  Play.deeds_preserve Play.sane_deed (turn_leads (s := s) sane line) (sane_heard sane line)

theorem after_append (s : Session) (p : Play) (lines : List String) (line : String) :
    s.after p (lines ++ [line]) = (s.turn (s.after p lines) line).2 := by
  unfold after
  rw [List.foldl_append]
  rfl

theorem after_sane (sane : Play.Sane b p) (lines : List String) :
    Play.Sane b (s.after p lines) := by
  induction lines using List.reverseRecOn with
  | nil => exact sane
  | append_singleton lines line ih =>
      rw [after_append]
      exact turn_sane ih line

/-! ## 5. What is known of every play -/

section Reached

variable {shelf : Shelf} {s' : Session} {p' : Play} {setup : Setup} {archive : Archive}

/-- A new session begins with the adventure as it is. -/
theorem opens_anew (holds : shelf.Holds b) (opens : Opens setup shelf archive s p)
    (new : s.resumed = false) : b.inconsistencies = .ok [] ∧ s.setup = setup ∧
      p = firstPlay setup archive b := by
  obtain ⟨b', saved, w, holds', -, -, accepted, restored, setup_eq, resumed, rfl⟩ :=
    opens_iff.mp opens
  cases holds.unique holds'
  rw [new] at resumed
  rcases restored_eq_ok.mp restored with ⟨-, rfl⟩ | ⟨filled, -⟩
  · exact ⟨(allInconsistencies_eq_nil.mp accepted).1, setup_eq, rfl⟩
  · rw [filled] at resumed
    cases resumed

/-- A saved game says something. -/
theorem keptGame_filled {w : World} (placed : w.IsPlaced) (language : Content) :
    (Content.mapping (w.keptGame language)).isFilled = true := by
  cases entries : w.keptGame language with
  | nil =>
      have found := World.savedOr_current w language (.list [])
      obtain ⟨name, e, -⟩ := placed
      rw [entries, e] at found
      cases found
  | cons e es => rfl

/-- What stands in a slot in which a game was saved. -/
theorem load_saved (sane : Play.Sane b p) (placed : p.world.IsPlaced) (saves : s.Saves p line)
    (kept : archive.sheet setup.slot = (s.turn p line).2.host.archive.sheet s.setup.slot) :
    archive.load setup.slot = .ok (.mapping (p.world.keptGame (.text s.setup.language))) := by
  obtain ⟨-, -, -, there, place, -, -, stored⟩ := saves_turn sane placed saves
  rw [stored, Archive.sheet_of_put place] at kept
  have game : (s.gameOf p.world).asKept =
      .mapping (p.world.keptGame (.text s.setup.language)) := Content.asKept_mapping _
  unfold Archive.load
  rw [kept, game]
  simp only [Sheet.read, keptGame_filled placed, if_true]

/-- **A session that goes on with a saved game** begins with the adventure as the game says. -/
theorem opens_saved (holds : shelf.Holds b) (sane : Play.Sane b p) (placed : p.world.IsPlaced)
    (saves : s.Saves p line)
    (kept : archive.sheet setup.slot = (s.turn p line).2.host.archive.sheet s.setup.slot)
    (opens : Opens setup shelf archive s' p') :
    b.Accepts (p.world.keptGame (.text s.setup.language)) ∧ s'.setup = setup ∧
      ∃ w, World.Restores b (p.world.keptGame (.text s.setup.language)) w ∧
        p' = firstPlay setup archive w := by
  have load := load_saved sane placed saves kept
  obtain ⟨b', saved, w, holds', -, load', accepted, restored, setup_eq, -, rfl⟩ :=
    opens_iff.mp opens
  cases holds.unique holds'
  rw [load] at load'
  cases load'
  rcases restored_eq_ok.mp restored with ⟨empty, -⟩ | ⟨filled, es, e, restores⟩
  · rw [keptGame_filled placed _] at empty
    cases empty
  · cases e
    exact ⟨World.accepts_of ((allInconsistencies_eq_nil.mp accepted).2 filled), setup_eq, w,
      restores, rfl⟩

/-- The place of a saved game is a room, even if its name was not kept. -/
theorem placed_of_restores {w v : World} (sane : World.Sane b w) (placed : w.IsPlaced)
    {language : Content} (accepts : b.Accepts (w.keptGame language))
    (restores : World.Restores b (w.keptGame language) v) (clean : b.flags.IsClean) :
    v.IsPlaced := by
  obtain ⟨plan, -, current, -, -⟩ := World.restores_preserve clean accepts restores
  obtain ⟨name, e, known⟩ := placed
  rw [World.savedOr_current, e] at current
  have rooms : b.rooms.has name = true := (World.has_room_of_plan sane.plan name) ▸ known
  refine ⟨Text.kept name, current, ?_⟩
  rw [World.has_room_of_plan plan]
  rcases accepts.current with empty | ⟨other, e', known'⟩
  · rw [World.savedOr_current, e] at empty
    have none : Text.kept name = "" := by simpa [Content.asKept, Content.isFilled] using empty
    rw [none, ← Text.kept_eq_empty none]
    exact rooms
  · rw [World.savedOr_current, e] at e'
    cases e'
    exact known'

theorem sane_first {w : World} (setup : Setup) (archive : Archive) (sane : World.Sane b w) :
    Play.Sane b (firstPlay setup archive w) :=
  ⟨⟨sane.clean, sane.plan, sane.sound⟩, nofun, nofun⟩

/-- What is known of a play with which a session begins anew. -/
theorem sane_anew (holds : shelf.Holds b) (opens : Opens setup shelf archive s p)
    (new : s.resumed = false) : Play.Sane b p ∧ p.world.IsPlaced := by
  obtain ⟨sound, -, rfl⟩ := opens_anew holds opens new
  exact ⟨sane_first _ _ ⟨holds.built.clean, rfl, sound⟩, World.start_known sound⟩

/-- What is known of a play with which a session goes on with a saved game. -/
theorem sane_saved (holds : shelf.Holds b) (sane : Play.Sane b p) (placed : p.world.IsPlaced)
    (saves : s.Saves p line)
    (kept : archive.sheet setup.slot = (s.turn p line).2.host.archive.sheet s.setup.slot)
    (opens : Opens setup shelf archive s' p') : Play.Sane b p' ∧ p'.world.IsPlaced := by
  have clean : b.flags.IsClean := holds.built.clean
  obtain ⟨accepts, -, w, restores, rfl⟩ := opens_saved holds sane placed saves kept opens
  obtain ⟨plan, clean', -, -, -⟩ := World.restores_preserve clean accepts restores
  have there : w.IsPlaced := placed_of_restores sane.world placed accepts restores clean
  exact ⟨sane_first _ _ ⟨clean', plan, sane.world.sound⟩, there⟩

/-- **What is known of every play that is reached.** -/
theorem reached_sane (holds : shelf.Holds b) (h : Reached shelf s p) :
    Play.Sane b p ∧ p.world.IsPlaced := by
  induction h with
  | anew opens new => exact sane_anew holds opens new
  | line reached line ih =>
      exact ⟨turn_sane ih.1 line, turn_preserves ih.1 World.isPlaced_deed ih.2⟩
  | resumed reached saves kept opens ih => exact sane_saved holds ih.1 ih.2 saves kept opens

/-- **An invariant of the world** holds in every play that is reached: the adventure has it, deeds
    preserve it, and so does going on with a game that was saved. -/
theorem reached_preserves {I : World → Prop} (holds : shelf.Holds b) (start : I b)
    (step : ∀ {c w v}, I w → World.Deed b c w v → I v)
    (resume : ∀ {w v language}, World.Sane b w → w.IsPlaced → I w →
      b.Accepts (w.keptGame language) → World.Restores b (w.keptGame language) v → I v)
    (h : Reached shelf s p) : I p.world := by
  -- sessions and lines begin with a note, which is a deed whatever is asked for
  have noted {w : World} (i : I w) (text : String) : I (w.noted text) :=
    step i (.note w text : World.Deed b .idle w _)
  induction h with
  | anew opens new =>
      obtain ⟨-, -, rfl⟩ := opens_anew holds opens new
      exact noted start _
  | line reached line ih =>
      exact turn_preserves (reached_sane holds reached).1 step (noted ih _)
  | resumed reached saves kept opens ih =>
      obtain ⟨sane, placed⟩ := reached_sane holds reached
      obtain ⟨accepts, -, w, restores, rfl⟩ := opens_saved holds sane placed saves kept opens
      exact noted (resume sane.world placed ih accepts restores) _

end Reached

end Session

end Adventure
