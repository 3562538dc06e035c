import Adventure.Proofs.Session.Alarm
import Adventure.Proofs.Session.Talks
import Adventure.Proofs.World.Progress

/-!
# How a session ends

* `Play.steady`: the session and the conversation go on as they did;
* `turn_steady`, `turn_quits`: **most lines leave a session alone**, and what quitting does;
* `Session.Quits`, `Session.Parts`, `Session.Climaxes`: a line that quits, one with which a dialogue
  comes to its end, and one with which the last one does;
* `Session.Recalls`: who has been talked to is remembered, in every play that is reached;
* `turn_fares`: **what a line means for the session**;
* `ends_iff`: **a session ends where the player quits or the climax is over, and nowhere else**;
* `climax_unended`: a quit word that is a choice, and messages without an end.
-/

namespace Adventure

open Outcome Terms

/-! ## 1. What leaves a session alone -/

namespace Play

/-- The session and the conversation go on as they did. -/
def steady : Frame Play where
  Within p q := q.host.running = p.host.running ∧ q.host.conversation = p.host.conversation
  refl _ := ⟨rfl, rfl⟩
  trans h k := ⟨k.1.trans h.1, k.2.trans h.2⟩

variable {p q : Play} {α : Type}

theorem Murmurs.steady (h : p.Murmurs q) : steady.Within p q := ⟨h.running, h.conversation⟩

theorem steady_of_murmur {a : Act Play Unit} (h : IsMurmur a) : steady.Holds a := by
  intro p
  obtain ⟨q, run, murmurs⟩ := h p
  rw [run]
  exact murmurs.steady

end Play

namespace Session

open Play Adventure.Frame

variable {s : Session} {b : World} {p : Play} {line : String}

theorem steady_save : steady.Holds s.save :=
  holds_save (fun _ => steady_of_murmur (.note _)) fun _ _ => ⟨rfl, rfl⟩

/-- **A line that neither quits nor has to do with a dialogue leaves the session alone.** -/
theorem turn_steady (sane : Play.Sane b p) (quits : (s.cause p line).verb? ≠ some .quit)
    (talks : (s.cause p line).verb? ≠ some .talk) (answers : s.cause p line ≠ .choice) :
    steady.Within p (s.turn p line).2 := by
  show steady.Within (p.heard line) _
  -- no other verb begins a dialogue, and so none would notice that there is none
  refine turn_minds (h := { s.setting.hooks with beginDialogue := fun _ => pure .null })
    sane ?_ quits answers fun verb hv => s.setting.ruleFor?_hosted _
      (fun e => absurd (e ▸ hv) talks) (fun _ => rfl) (fun _ => rfl) (fun _ => rfl)
  exact
    { whispers := fun h => h.1.steady
      world := fun _ _ => ⟨rfl, rfl⟩
      knock := fun _ _ => ⟨rfl, rfl⟩
      roomChanged := rfl
      startTicker := ⟨murmurs_startTicker s, steady_of_murmur (murmurs_startTicker s)⟩
      stopTicker := ⟨murmurs_stopTicker, steady_of_murmur murmurs_stopTicker⟩
      beginDialogue := fun _ => ⟨meets_return _, holds_pure _⟩
      save := ⟨rfl, steady_save⟩ }

/-- **Whoever wants to quit does so**, unless the antagonist does not let the player go. -/
theorem turn_quits (sane : Play.Sane b p) (quits : (s.cause p line).verb? = some .quit) :
    (p.world.encounterActive = .ok true ∧
      Play.whispers.Within (p.heard line) (s.turn p line).2) ∨
    (p.world.encounterActive = .ok false ∧ (s.turn p line).2.host.running = false ∧
      (s.turn p line).2.router.waiting = none ∧
      (s.turn p line).2.host.conversation = p.host.conversation) := by
  have told (ph : Phrase) (q : Play) : Play.whispers.Within q
      (((do return [← s.setting.say ph]) >>= Play.tell : Act Play (List Content)).runOn q).2 :=
    holds_bind (holds_bind (holds_ofExcept _) fun _ => holds_pure _)
      (fun lines => whispers_tell lines) q
  have asked : (Stage.ask World.encounterActive).runOn (p.heard line) =
      (p.world.encounterActive, p.heard line) := rfl
  rw [turn_quit quits]
  unfold quit
  obtain ⟨active, told_active⟩ : Comes p.world.encounterActive :=
    ⟨_, World.encounterActive_eq sane.world.clean⟩
  simp only [bind_assoc]
  rw [Act.runOn_bind_ok (asked.trans (by rw [told_active]))]
  cases active with
  | true =>
      rw [if_pos rfl]
      exact .inl ⟨told_active, told .quitRefused _⟩
  | false =>
      rw [if_neg nofun]
      obtain ⟨q, run, -, router, halted, -, conversation⟩ := stop_run (p.heard line)
      have after := told .farewell q
      simp only [bind_assoc] at after ⊢
      rw [Act.runOn_bind_ok run]
      refine .inr ⟨told_active, after.1.running.trans halted, ?_, ?_⟩
      · rw [after.1.router, router]
      · exact after.1.conversation.trans conversation

/-- **Whatever a line does, the world advances.** -/
theorem turn_advances (sane : Play.Sane b p) (line : String) :
    p.world.Advances (s.turn p line).2.world :=
  turn_preserves (I := p.world.Advances) sane (fun far d => far.trans (World.advances_deed d))
    (World.alike_noted _ _).advances

/-- A line that is neither for going nor a code leaves the player in the room. -/
theorem turn_here (sane : Play.Sane b p) (move : (s.cause p line).verb? ≠ some .move)
    (free : ∀ target, p.router.waiting ≠ some (.doorCode target)) :
    (s.turn p line).2.world.current = p.world.current := by
  refine (turn_preserves (I := fun w => w.plan = p.world.plan ∧ w.current = p.world.current) sane
    (fun here d => ⟨(World.plan_deed d).trans here.1, ?_⟩) ⟨rfl, rfl⟩).2
  rcases World.current_deed d with same | ⟨target, -, -, approaches | unlocks⟩
  · exact same.trans here.2
  · refine absurd ?_ move
    unfold Cause.Approaches at approaches
    split at approaches
    · next cause =>
        rw [cause]
        exact approaches.1.1
    · exact approaches.elim
  · exact absurd (waiting_of_unlocks unlocks here.1).1 (free target)

/-! ## 2. Lines that end something -/

/-- **A line that quits**: nothing else waits for it, it is read as a command to do so, and the
    antagonist lets the player go. -/
def Quits (s : Session) (p : Play) (line : String) : Prop :=
  p.router.waiting = none ∧ (∃ i ∈ s.intent? p.world line, i.verb? = some .quit) ∧
    p.world.encounterActive = .ok false

/-- **A line with which the dialogue with a character comes to its end.** -/
def Parts (s : Session) (p : Play) (line name : String) : Prop :=
  ¬ p.host.conversation.IsOver name ∧ (s.turn p line).2.host.conversation.IsOver name

/-- **A line with which the dialogue at the climax comes to its end**: the one with its character,
    in its room. -/
def Climaxes (s : Session) (p : Play) (line : String) : Prop :=
  ∃ c ∈ p.world.scenario.climax, p.world.current = .text c.room ∧ s.Parts p line c.character

theorem not_parts {name : String}
    (same : (s.turn p line).2.host.conversation = p.host.conversation) : ¬ s.Parts p line name :=
  fun parts => parts.1 (same ▸ parts.2)

theorem not_climaxes (same : (s.turn p line).2.host.conversation = p.host.conversation) :
    ¬ s.Climaxes p line :=
  fun ⟨_, _, _, parts⟩ => not_parts same parts

/-- The line is read as a command to quit. -/
theorem Quits.verb (h : s.Quits p line) : (s.cause p line).verb? = some .quit := by
  obtain ⟨free, ⟨i, read, verb⟩, -⟩ := h
  unfold cause
  rw [free]
  rw [Option.mem_def] at read
  simp only [read]
  exact verb

/-- A line at a prompt does not quit, whatever it says. -/
theorem not_quits {k : Pending} (waits : p.router.waiting = some k) : ¬ s.Quits p line := by
  rintro ⟨free, -⟩
  rw [waits] at free
  cases free

/-! ## 3. Who has been talked to -/

/-- **Who has been talked to is remembered**, and nothing is to follow the dialogue. -/
structure Recalls (p : Play) : Prop where
  plain : p.host.conversation.continuation.isFilled = false
  met : ∀ name, p.host.conversation.IsOver name →
    ∃ c, p.world.characters.get? name = some c ∧ c.interacted = true

variable {q : Play} {t : Talk} {name : String} {runs : Bool}

/-- What goes on and leaves the conversation alone is remembered. -/
theorem Recalls.far (h : Recalls p) (far : p.world.Advances q.world)
    (same : q.host.conversation = p.host.conversation) : Recalls q := by
  refine ⟨same ▸ h.plain, fun name closed => ?_⟩
  obtain ⟨c, there, met⟩ := h.met name (same ▸ closed)
  obtain ⟨c', there', further⟩ := far.characters name c there
  exact ⟨c', there', further.interacted met⟩

/-- A dialogue with a character that ends is remembered. -/
theorem Converses.recalls (h : Converses s.messages name runs t q)
    (plain : t.conversation.continuation.isFilled = false)
    (known : q.world.characters.has name = true) : Recalls q := by
  cases h with
  | on awaits same =>
      refine ⟨same ▸ plain, fun other closed => ?_⟩
      exact absurd (awaits.1.symm.trans closed.1) nofun
  | closed isOver same world =>
      refine ⟨same ▸ plain, fun other closed => ?_⟩
      cases isOver.2.symm.trans closed.2
      obtain ⟨c, there⟩ := (Roster.has_iff _).mp known
      obtain ⟨notes, e⟩ := world
      refine ⟨c, there, ?_⟩
      rw [e] at there
      rcases Roster.get?_update_cases there with ⟨-, c', -, rfl⟩ | ⟨ne, -⟩
      · rfl
      · exact absurd rfl ne

/-- The characters of the adventure stay. -/
theorem has_character_turn (sane : Play.Sane b p) (name : String) :
    (s.turn p line).2.world.characters.has name = p.world.characters.has name :=
  World.has_character_of_plan ((turn_sane (s := s) sane line).world.plan.trans
    sane.world.plan.symm) name

/-- **What a line means for the session**: it goes on as it did, the player quits, or a step is
    taken of the dialogue with a character that was not over yet. -/
inductive Fares (s : Session) (p : Play) (line : String) : Prop where
  | steadily (noQuit : ¬ s.Quits p line) (same : steady.Within p (s.turn p line).2)
  | quits (quits : s.Quits p line) (halted : (s.turn p line).2.host.running = false)
      (free : (s.turn p line).2.router.waiting = none)
      (same : (s.turn p line).2.host.conversation = p.host.conversation)
  | talks {name : String} {t : Talk} (noQuit : ¬ s.Quits p line)
      (plain : t.conversation.continuation.isFilled = false)
      (known : p.world.characters.has name = true) (new : ¬ p.host.conversation.IsOver name)
      (here : (s.turn p line).2.world.current = p.world.current)
      (converses : Converses s.messages name p.host.running t (s.turn p line).2)

/-- A line with which a dialogue begins. -/
theorem fares_talk (sane : Play.Sane b p) (recalls : Recalls p)
    (talks : (s.cause p line).verb? = some .talk) : s.Fares p line := by
  obtain ⟨i, free, -, -⟩ := read_of_verb talks
  have noQuit : ¬ s.Quits p line := fun h => by cases talks.symm.trans h.verb
  rcases turn_talk talks with whispers | ⟨name, c, there, fresh, converses⟩
  · exact .steadily noQuit whispers.1.steady
  · refine .talks noQuit rfl (Roster.has_of_get? there) (fun isOver => ?_) ?_ converses
    · obtain ⟨c', there', met⟩ := recalls.met name isOver
      cases there.symm.trans there'
      exact absurd (fresh.symm.trans met) nofun
    · refine turn_here sane (by rw [talks]; exact nofun) fun target waits => ?_
      cases free.symm.trans waits

/-- A line that answers the prompt of a dialogue. -/
theorem fares_choice (sane : Play.Sane b p) (recalls : Recalls p)
    (answers : s.cause p line = .choice) : s.Fares p line := by
  have waits := waiting_of_choice answers
  obtain ⟨name, u, awaits, same, converses, -⟩ :=
    turn_choice (s := s) sane waits recalls.plain line
  obtain ⟨-, name', character, -, known⟩ := (sane.offers waits).awaits
  cases awaits.2.symm.trans character
  refine .talks (not_quits waits) (same ▸ recalls.plain)
    ((World.has_character_of_plan sane.world.plan name).trans known) (fun isOver => ?_) ?_ converses
  · exact absurd (awaits.1.symm.trans isOver.1) nofun
  · refine turn_here sane (by rw [answers]; exact nofun) fun target other => ?_
    cases waits.symm.trans other

/-- **Every line fares in one of these ways.** -/
theorem turn_fares (sane : Play.Sane b p) (recalls : Recalls p) (line : String) :
    s.Fares p line := by
  by_cases quits : (s.cause p line).verb? = some .quit
  · obtain ⟨i, free, read, verb⟩ := read_of_verb quits
    rcases turn_quits sane quits with ⟨active, whispers⟩ | ⟨active, halted, free', same⟩
    · refine .steadily (fun h => ?_) whispers.1.steady
      cases active.symm.trans h.2.2
    · exact .quits ⟨free, ⟨i, read, verb⟩, active⟩ halted free' same
  by_cases talks : (s.cause p line).verb? = some .talk
  · exact fares_talk sane recalls talks
  by_cases answers : s.cause p line = .choice
  · exact fares_choice sane recalls answers
  · exact .steadily (fun h => quits h.verb) (turn_steady sane quits talks answers)

theorem recalls_turn (sane : Play.Sane b p) (h : Recalls p) (line : String) :
    Recalls (s.turn p line).2 := by
  have far := turn_advances (s := s) sane line
  cases turn_fares sane h line with
  | steadily noQuit same => exact h.far far same.2
  | quits quits halted free same => exact h.far far same
  | talks noQuit plain known new here converses =>
      exact converses.recalls plain ((has_character_turn sane _).trans known)

theorem recalls_first (setup : Setup) (archive : Archive) (w : World) :
    Recalls (firstPlay setup archive w) :=
  ⟨rfl, fun _ closed => absurd closed.1 nofun⟩

/-- **In every play that is reached who has been talked to is remembered.** -/
theorem reached_recalls {shelf : Shelf} (holds : shelf.Holds b) (reached : Reached shelf s p) :
    Recalls p := by
  induction reached with
  | anew opens new =>
      obtain ⟨-, -, rfl⟩ := opens_anew holds opens new
      exact recalls_first _ _ _
  | line reached line ih => exact recalls_turn (reached_sane holds reached).1 ih line
  | resumed reached saves kept opens _ =>
      obtain ⟨sane, placed⟩ := reached_sane holds reached
      obtain ⟨-, -, w, -, rfl⟩ := opens_saved holds sane placed saves kept opens
      exact recalls_first _ _ _

/-! ## 4. The end -/

/-- The player is at the climax, as it is told of the play before a line that leaves the player in
    the room. -/
theorem isClimax_iff (far : p.world.Advances q.world)
    (here : q.world.current = p.world.current) :
    Talk.isClimax q.world (.text name) = true ↔
      ∃ c ∈ p.world.scenario.climax, p.world.current = .text c.room ∧ c.character = name := by
  rw [Talk.isClimax_text, far.scenario, here]

/-- **What a step of a dialogue means for the end of the session.** -/
theorem Converses.halts_iff (h : Converses s.messages name p.host.running t (s.turn p line).2)
    (new : ¬ p.host.conversation.IsOver name) (far : p.world.Advances (s.turn p line).2.world)
    (here : (s.turn p line).2.world.current = p.world.current) :
    (s.turn p line).2.host.running = false ↔ p.host.running = false ∨
      (s.Climaxes p line ∧ Comes (s.messages.plain .dialogueEnd)) := by
  cases h with
  | on awaits same world running =>
      rw [running]
      refine ⟨.inl, fun ends => ends.resolve_right ?_⟩
      rintro ⟨⟨c, -, -, parts⟩, -⟩
      exact absurd (awaits.1.symm.trans parts.2.1) nofun
  | closed isOver same world free running =>
      have climax : s.Climaxes p line ↔
          Talk.isClimax (s.turn p line).2.world (.text name) = true := by
        rw [isClimax_iff far here]
        constructor
        · rintro ⟨c, scenario, room, parts⟩
          cases isOver.2.symm.trans parts.2.2
          exact ⟨c, scenario, room, rfl⟩
        · rintro ⟨c, scenario, room, rfl⟩
          exact ⟨c, scenario, room, new, isOver⟩
      rw [running, climax]

/-- **When the session ends**: the player quits, or the climax is over. -/
theorem turn_ends (sane : Play.Sane b p) (recalls : Recalls p) (line : String) :
    (s.turn p line).2.host.running = false ↔ p.host.running = false ∨ s.Quits p line ∨
      (s.Climaxes p line ∧ Comes (s.messages.plain .dialogueEnd)) := by
  cases turn_fares (s := s) sane recalls line with
  | steadily noQuit same =>
      rw [same.1]
      exact ⟨.inl, fun ends => ends.resolve_right fun h => h.elim noQuit
        fun k => not_climaxes same.2 k.1⟩
  | quits quits halted free same => exact ⟨fun _ => .inr (.inl quits), fun _ => halted⟩
  | talks noQuit plain known new here converses =>
      rw [converses.halts_iff new (turn_advances sane line) here]
      exact or_congr_right (or_iff_right noQuit).symm

/-- **When the session ends nobody waits for a line.** -/
theorem turn_frees (sane : Play.Sane b p) (recalls : Recalls p) (line : String)
    (ends : (s.turn p line).2.host.running ≠ p.host.running) :
    (s.turn p line).2.router.waiting = none := by
  cases turn_fares (s := s) sane recalls line with
  | steadily noQuit same => exact absurd same.1 ends
  | quits quits halted free same => exact free
  | talks noQuit plain known new here converses =>
      cases converses with
      | on awaits same world running => exact absurd running ends
      | closed isOver same world free running => exact free

/-- **When the session ends the antagonist is silent.** -/
theorem turn_silences (sane : Play.Sane b p) (line : String)
    (ends : (s.turn p line).2.host.running ≠ p.host.running) :
    ∀ t ∈ (s.turn p line).2.host.ticker, t.cancelled = true := by
  have other {v : Verb} (verb : (s.cause p line).verb? = some v) (quits : v ≠ .quit) :
      v = .talk := by
    by_contra talks
    refine ends (turn_steady sane ?_ ?_ fun answers => ?_).1
    · exact fun e => quits (Option.some.inj (verb.symm.trans e))
    · exact fun e => talks (Option.some.inj (verb.symm.trans e))
    · rw [answers] at verb
      cases verb
  have look : (s.cause p line).verb? ≠ some .examine := fun look => nomatch other look nofun
  have shot : (s.cause p line).verb? ≠ some .shoot := fun shot => nomatch other shot nofun
  rcases turn_hushes sane look shot with ⟨-, same⟩ | ⟨silent, -⟩
  · exact absurd same ends
  · intro t there
    rw [silent] at there
    obtain ⟨t₀, -, rfl⟩ := mem_silenced there
    exact Ticker.cancelled_cancel t₀

/-- **A ticker that has not been cancelled stays**, or is cancelled. -/
theorem turn_ticker (sane : Play.Sane b p) (line : String) {t : Ticker String}
    (there : p.host.ticker = some t) (runs : t.cancelled = false) :
    (s.turn p line).2.host.ticker = some t ∨ (s.turn p line).2.host.ticker = some t.cancel.1 := by
  have silenced : p.silenced = some t.cancel.1 := by
    unfold Play.silenced
    rw [there]
    rfl
  by_cases look : (s.cause p line).verb? = some .examine
  · rcases turn_examine sane look with whispers | ⟨-, -, whispers⟩
    · exact .inl (whispers.2.trans there)
    · refine .inl (whispers.2.trans ?_)
      unfold startTicker
      rw [Act.runOn_bind_ok (Act.runOn_get _)]
      simp only [heard, there, Option.any_some, runs, Bool.not_false, if_true]
      split
      · exact there
      · exact there
  by_cases shot : (s.cause p line).verb? = some .shoot
  · rcases turn_shoot sane shot with whispers | ⟨a, ch, n, -, -, -, -, -, wounded⟩
    · exact .inl (whispers.2.trans there)
    · have ticker := wounded.ticker
      split at ticker
      · exact .inr (ticker.trans silenced)
      · exact .inl (ticker.trans there)
  rcases turn_hushes sane look shot with ⟨same, -⟩ | ⟨silent, -⟩
  · exact .inl (same.trans there)
  · exact .inr (silent.trans silenced)

end Session

/-! ## 5. A den with an end -/

namespace Finale

/-- **The den with an end**: all is over when the miner in the hall has been heard out. -/
def content : Content :=
  .mapping
    [("start", .text "hall"), ("rooms", .mapping [("hall", Cellar.room "Hall" [])]),
     ("characters", .mapping [("miner", Den.character "miner" "hall")]),
     ("dialogues", .mapping [("miner", Den.dialogue)]),
     ("scenario", .mapping
       [("climax", .mapping [("character", .text "miner"), ("room", .text "hall")])])]

/-- What it takes to talk, and to quit with a number. -/
def words : Content :=
  .list [.mapping [("name", .text "talk"), ("type", .text "talk")],
    .mapping [("name", .text "1"), ("type", .text "quit")]]

def messages : Messages := .bare (.text "closed")

/-- Messages that say nothing at the end of a dialogue. -/
def endless : Messages where
  content := .mapping ((Phrase.all.filter (· ≠ .dialogueEnd)).map fun p =>
    (p.word, .text (Messages.bare.sentence p)))

/-- The shelf of the den with an end. -/
def shelf (messages : Messages) : Shelf where
  sheet
    | .world => .written content
    | .messages => .written messages.content
    | .commands => .written words
    | .stopwords => .written .null

/-- A session with it. -/
def session (messages : Messages) : Session where
  setup := Cellar.setup
  messages := messages
  catalogue := [⟨⟨"talk", []⟩, .talk⟩, ⟨⟨"1", []⟩, .quit⟩]
  stopwords := []
  resumed := false

theorem offers {messages : Messages} (filled : messages.content.isFilled = true) :
    (shelf messages).Offers (session messages) where
  messages := ⟨_, ⟨_, rfl, (if_pos filled).symm⟩, rfl⟩
  commands := by
    have read : Command.catalogue words =
        .ok [⟨⟨"talk", []⟩, .talk⟩, ⟨⟨"1", []⟩, .quit⟩] := by decide +kernel
    exact ⟨words, ⟨_, rfl, rfl⟩, read⟩
  stopwords := ⟨_, [], ⟨_, rfl, rfl⟩, rfl, rfl⟩

/-- What can be told of the world of its content is told of the den with an end. -/
theorem exists_holds (messages : Messages) (P : World → Prop) [DecidablePred P]
    (told : (World.ofFile content).toOption.any (fun b => P b) = true) :
    ∃ b, (shelf messages).Holds b ∧ P b := by
  obtain ⟨b, ⟨c, sheet, built⟩, tells⟩ := Cellar.exists_holdsOf content .null P told
  exact ⟨b, ⟨c, sheet, built⟩, tells⟩

end Finale

namespace Session

open Play

variable {s : Session} {b : World} {p : Play} {line name : String}

/-! ## 6. Where a session ends -/

/-- A line with which a dialogue comes to its end does not quit. -/
theorem Parts.stays (sane : Play.Sane b p) (h : s.Parts p line name) : ¬ s.Quits p line := by
  intro quits
  rcases turn_quits sane quits.verb with ⟨-, whispers⟩ | ⟨-, -, -, same⟩
  · exact not_parts whispers.1.conversation h
  · exact not_parts same h

/-- **A session ends where the player quits or the climax is over, and nowhere else.** Nobody waits
    for a line then, and no antagonist is left to warn. What is typed where a code is asked for never
    ends it, nor does what picks none of the lines of a dialogue, nor the end of any other
    dialogue. -/
theorem ends_iff {shelf : Shelf} (holds : shelf.Holds b) (reached : Reached shelf s p)
    (line : String) :
    let q := (s.turn p line).2
    (q.host.running = false ↔ p.host.running = false ∨ s.Quits p line ∨
      (s.Climaxes p line ∧ Comes (s.messages.plain .dialogueEnd))) ∧
    (p.host.running = true → q.host.running = false →
      q.router.waiting = none ∧ ∀ t ∈ q.host.ticker, t.cancelled = true) ∧
    (∀ t ∈ p.host.ticker, t.cancelled = false →
      q.host.ticker = some t ∨ q.host.ticker = some t.cancel.1) ∧
    (∀ target, p.router.waiting = some (.doorCode target) →
      q.host.running = p.host.running) ∧
    (p.router.waiting = some .choice → p.talk.picked line = none →
      q.host.running = p.host.running) ∧
    ∀ name, s.Parts p line name → ¬ s.Climaxes p line → q.host.running = p.host.running := by
  intro q
  obtain ⟨sane, -⟩ := reached_sane holds reached
  have recalls := reached_recalls holds reached
  have ends := turn_ends (s := s) sane recalls line
  have goesOn (quits : ¬ s.Quits p line) (climax : ¬ s.Climaxes p line) :
      q.host.running = p.host.running := by
    rw [or_iff_left (not_or.mpr ⟨quits, fun h => climax h.1⟩)] at ends
    exact Bool.eq_iff_iff.mpr (not_iff_not.mp (by simpa only [Bool.not_eq_true] using ends))
  refine ⟨ends, fun runs halted => ?_, fun t there => turn_ticker sane line there,
    fun target waits => ?_, fun waits unpicked => ?_, fun name parts other => ?_⟩
  · have changes : q.host.running ≠ p.host.running := by
      rw [halted, runs]
      exact nofun
    exact ⟨turn_frees sane recalls line changes, turn_silences sane line changes⟩
  · have cause : s.cause p line = .code target line := by
      unfold cause
      rw [waits]
    exact (turn_steady sane (by rw [cause]; nofun) (by rw [cause]; nofun)
      (by rw [cause]; nofun)).1
  · obtain ⟨name, u, -, -, -, -, misses⟩ := turn_choice (s := s) sane waits recalls.plain line
    exact goesOn (not_quits waits) (not_climaxes (misses unpicked).2)
  · exact goesOn (parts.stays sane) other

/-- Whoever has heard the miner out in the den that ends with that is done, and nobody waits for
    another line. -/
theorem ends_iff_finale : ∃ shelf b s p line, Shelf.Holds shelf b ∧ Reached shelf s p ∧
    p.host.running = true ∧ s.Climaxes p line ∧ (s.turn p line).2.host.running = false ∧
      (s.turn p line).2.router.waiting = none := by
  let s : Session := Cellar.session (.text "closed")
  obtain ⟨b, holds, sound, waits, runs, ended⟩ :=
    Cellar.exists_holdsOf Finale.content (.text "closed")
      (fun b =>
        let p := (s.turn (Cellar.first b) "talk miner").2
        b.inconsistencies = .ok [] ∧ p.router.waiting = some .choice ∧ p.host.running = true ∧
          (s.turn p "1").2.host.running = false)
      (by decide +kernel)
  have reached := (Reached.anew (Cellar.opensOf holds sound) rfl).line "talk miner"
  obtain ⟨ends, closes, -⟩ := ends_iff holds reached "1"
  rcases ends.mp ended with halted | quits | ⟨climaxes, -⟩
  · exact absurd (runs.symm.trans halted) nofun
  · exact absurd quits (not_quits waits)
  · exact ⟨_, b, s, _, "1", holds, reached, runs, climaxes, ended, (closes runs ended).1⟩

/-- **A word to quit can be the number of a line**, and the session ends with that line. And **if the
    messages have no text for the end of a dialogue**, the climax ends nothing. -/
theorem climax_unended :
    (∃ shelf b s p, Shelf.Holds shelf b ∧ b.inconsistencies = .ok [] ∧ Reached shelf s p ∧
      p.router.waiting = some .choice ∧ (∃ i ∈ s.intent? p.world "1", i.verb? = some .quit) ∧
      p.host.running = true ∧ (s.turn p "1").2.host.running = false) ∧
    ∃ shelf b s p, Shelf.Holds shelf b ∧ b.inconsistencies = .ok [] ∧ Reached shelf s p ∧
      s.Climaxes p "1" ∧ (s.turn p "1").2.host.running = true := by
  refine ⟨?_, ?_⟩
  · let s := Finale.session Finale.messages
    obtain ⟨b, holds, sound, waits, word, runs, ended⟩ :=
      Finale.exists_holds Finale.messages
        (fun b =>
          let p := (s.turn (Cellar.first b) "talk miner").2
          b.inconsistencies = .ok [] ∧ p.router.waiting = some .choice ∧
            (∃ i ∈ s.intent? p.world "1", i.verb? = some .quit) ∧ p.host.running = true ∧
            (s.turn p "1").2.host.running = false)
        (by decide +kernel)
    have begun := Reached.anew (opens_new holds (Finale.offers rfl) sound Cellar.vacant rfl) rfl
    exact ⟨_, b, s, _, holds, sound, begun.line "talk miner", waits, word, runs, ended⟩
  · let s := Finale.session Finale.endless
    obtain ⟨b, holds, sound, ⟨c, climax, here, who⟩, awaits, ended, whom, runs⟩ :=
      Finale.exists_holds Finale.endless
        (fun b =>
          let p := (s.turn (Cellar.first b) "talk miner").2
          b.inconsistencies = .ok [] ∧
            (∃ c ∈ p.world.scenario.climax, p.world.current = .text c.room ∧
              c.character = "miner") ∧
            p.host.conversation.state = .awaitingChoice ∧
            (s.turn p "1").2.host.conversation.state = .terminated ∧
            (s.turn p "1").2.host.conversation.character = .text "miner" ∧
            (s.turn p "1").2.host.running = true)
        (by decide +kernel)
    have begun := Reached.anew (opens_new holds (Finale.offers rfl) sound Cellar.vacant rfl) rfl
    refine ⟨_, b, s, _, holds, sound, begun.line "talk miner", ⟨c, climax, here, ?_⟩, runs⟩
    rw [who]
    exact ⟨fun h => absurd (awaits.symm.trans h.1) nofun, ended, whom⟩

end Session

end Adventure
