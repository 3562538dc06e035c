import Adventure.Proofs.Session.Anew
import Adventure.Proofs.Session.Course
import Adventure.Proofs.Session.Walk

/-!
# Lines of the player, and dialogues that begin between them

* `Session.Call`, `Session.led`: a line is handed in or a dialogue begins outside of a turn; the play
  after some of these;
* `Play.InStep`: a play that waits for a choice has something to choose;
* `Play.Led`: what is known of a play after any calls, in step or not;
* `begun_offers`, `begun_ends`: a dialogue with somebody who has something to say, and with somebody
  who has not;
* `led_line`, `led_talkative`, `led_silent`: **what a line and a dialogue do to a play**;
* `inStep_iff`: a play gets out of step only where a dialogue that ends at once comes in between, and
  the next line is the one that is lost;
* `monk_interrupts`: such a dialogue.
-/

namespace Adventure

open Outcome Terms

/-! ## 1. Dialogues that begin -/

/-- What there is to say at the beginning of the dialogue with a character. -/
def World.openings (w : World) (name : String) : List PlayerLine :=
  ((w.dialogues.get? name).getD {}).openLines (some 1)

namespace Talk

variable {m : Messages} {b : World} {name : String} {continuation : Content} {t : Talk}

/-- The conversation is left alone. -/
def beside : Frame Talk where
  Within t u := u.conversation = t.conversation
  refl _ := rfl
  trans h k := k.trans h

theorem beside_onWorld {α : Type} (a : Act World α) : beside.Holds (onWorld a) :=
  Frame.holds_zoom (fun _ _ => rfl) a

/-- **Whatever happens at the end of a dialogue**, no choice is awaited any longer. -/
theorem terminate_ends (m : Messages) (character : Content) (lines : List Content) (t : Talk) :
    ((terminate m character lines).runOn t).2.conversation =
      { t.conversation with state := .terminated } := by
  unfold terminate
  rw [Act.runOn_bind_ok (Act.runOn_modify _ _)]
  refine Frame.holds_bind (F := beside) (beside_onWorld _) (fun _ => ?_) _
  refine Frame.holds_bind (Frame.holds_ofExcept _) fun _ => Frame.holds_get fun u => ?_
  split
  · exact Frame.holds_pure _
  · split
    · exact Frame.holds_pure _
    · exact Frame.holds_pure _

/-- The beginning of a dialogue is noted. -/
def announced (name : String) (t : Talk) : Talk :=
  { t with world :=
      t.world.noted ("dialogue start " ++ (Content.text name).shown ++ " node 1") }

theorem begun_run (m : Messages) (name : String) (t : Talk) :
    (begun m name).runOn t =
      (if t.options.isEmpty then terminate m (.text name) []
        else return { outcome := .goesOn, lines := [] ++ [← Act.ofExcept (prompt m t.options)] } :
        Act Talk Reaction).runOn (announced name t) := rfl

/-- **Somebody who has something to say** is listened to, and a choice is awaited. -/
theorem begun_offers (known : b.characters.has name = true)
    (e : t.conversation = opened name continuation) (something : t.options ≠ []) :
    ((begun m name).runOn t).2.Offers b ∧
      ∀ r, ((begun m name).runOn t).1 = .ok r → r.outcome = .goesOn := by
  have awaits : t.conversation.Awaits b := by
    rw [e]
    exact ⟨rfl, name, rfl, rfl, known⟩
  have offers : (announced name t).Offers b :=
    Offers.congr (t := t) ⟨awaits, something⟩ rfl rfl
  rw [begun_run, if_neg (by simpa using something)]
  rw [Act.runOn_bind, Act.runOn_ofExcept]
  cases prompt m t.options with
  | error fault => exact ⟨offers, nofun⟩
  | ok x =>
      refine ⟨offers, fun r told => ?_⟩
      cases told
      rfl

/-- **The dialogue with somebody who has nothing to say** ends at once. -/
theorem begun_ends (nothing : t.options = []) :
    ((begun m name).runOn t).2.conversation.state = .terminated := by
  rw [begun_run, if_pos (by rw [nothing]; rfl), terminate_ends]

end Talk

/-! ## 2. Plays in step -/

/-- **The play is in step**: when the next line is to be a choice, the conversation waits for one too,
    and there is something to choose. -/
def Play.InStep (p : Play) : Prop :=
  p.router.waiting = some .choice →
    p.host.conversation.state = .awaitingChoice ∧ p.talk.options ≠ []

/-- **What is known of a play**, whether it is in step or not. -/
structure Play.Led (b : World) (p : Play) : Prop where
  world : World.Sane b p.world
  choice : p.router.waiting = some .choice →
    p.talk.Offers b ∨ p.host.conversation.state = .terminated
  known : ∀ target, p.router.waiting = some (.doorCode target) → b.rooms.has target = true

namespace Play

variable {b : World} {p q : Play}

theorem Sane.led (sane : Sane b p) : Led b p :=
  ⟨sane.world, fun waits => .inl (sane.offers waits), sane.known⟩

theorem Sane.inStep (sane : Sane b p) : p.InStep :=
  fun waits => ⟨(sane.offers waits).awaits.1, (sane.offers waits).choices⟩

/-- A play in step is one of the adventure. -/
theorem Led.sane (led : Led b p) (step : p.InStep) : Sane b p := by
  refine ⟨led.world, fun waits => ?_, led.known⟩
  rcases led.choice waits with offers | ended
  · exact offers
  · exact absurd ((step waits).1.symm.trans ended) nofun

/-- Notes may have been made, and nothing else counts for the lines to come. -/
def lapses : Frame Play where
  Within p q := (∃ more, q.world = { p.world with notes := more ++ p.world.notes }) ∧
    q.router = p.router ∧ q.host.conversation = p.host.conversation
  refl _ := ⟨⟨[], rfl⟩, rfl, rfl⟩
  trans := by
    rintro p q r ⟨⟨more, e⟩, router, conversation⟩ ⟨⟨more', e'⟩, router', conversation'⟩
    refine ⟨⟨more' ++ more, ?_⟩, router'.trans router, conversation'.trans conversation⟩
    rw [e', e, List.append_assoc]

theorem lapses_of_whispers {α : Type} {a : Act Play α} (h : whispers.Holds a) : lapses.Holds a :=
  fun p => ⟨(h p).1.notes, (h p).1.router, (h p).1.conversation⟩

/-- What lapses leaves a play in step, or out of it. -/
theorem inStep_lapses (h : lapses.Within p q) : q.InStep ↔ p.InStep := by
  obtain ⟨⟨more, e⟩, router, conversation⟩ := h
  have dialogues : q.world.dialogues = p.world.dialogues := by rw [e]
  have options : q.talk.options = p.talk.options := Talk.options_congr dialogues conversation
  unfold InStep
  rw [router, conversation, options]

theorem Led.lapses (led : Led b p) (h : lapses.Within p q) : Led b q := by
  obtain ⟨⟨more, e⟩, router, conversation⟩ := h
  have dialogues : q.world.dialogues = p.world.dialogues := by rw [e]
  refine ⟨?_, fun waits => ?_, fun target waits => led.known target (router ▸ waits)⟩
  · rw [e]
    exact ⟨led.world.clean, led.world.plan, led.world.sound⟩
  · rcases led.choice (router ▸ waits) with offers | ended
    · exact .inl (offers.congr dialogues conversation)
    · exact .inr (conversation ▸ ended)

end Play

namespace Session

open Play Adventure.Frame

variable {s : Session} {b : World} {p : Play}

/-! ## 3. What follows -/

/-- **An event ends the session only where nothing waits for a line.** -/
theorem lapses_trigger (event : Content) : lapses.Holds (trigger event) := by
  unfold trigger
  refine holds_bind (lapses_of_whispers (whispers_note _)) fun _ => ?_
  refine holds_bind (fun _ => ⟨⟨[], rfl⟩, rfl, rfl⟩) fun _ => ?_
  intro p
  rw [Act.runOn_bind_ok (Act.runOn_get p)]
  split
  · next ends =>
      obtain ⟨q, run, notes, router, -, -, conversation⟩ := stop_run p
      rw [run]
      have nobody : p.router = {} := by
        have free := ends.2
        cases hw : p.router with
        | mk waiting =>
            rw [hw] at free
            cases waiting with
            | none => rfl
            | some k => cases free
      exact ⟨notes, router.trans nobody.symm, conversation⟩
  · exact holds_pure _ p

theorem lapses_follow {r : Reaction} (ended : r.outcome ≠ .goesOn) : lapses.Holds (follow r) := by
  unfold follow
  split
  · next goesOn => exact absurd goesOn ended
  · exact holds_bind (lapses_trigger _) fun _ => holds_pure _
  · exact holds_pure _

/-- A dialogue that goes on waits for a choice. -/
theorem follow_run {r : Reaction} (goesOn : r.outcome = .goesOn) (p : Play) :
    (follow r).runOn p = (.ok r.lines, { p with router := ⟨some .choice⟩ }) := by
  unfold follow
  simp only [goesOn]
  rfl

/-- The play in which a talk has come to a certain point. -/
def talking (p : Play) (t : Talk) : Play :=
  { p with world := t.world, host := { p.host with conversation := t.conversation } }

theorem onTalk_run {α : Type} (a : Act Talk α) (p : Play) :
    (Play.onTalk a).runOn p = ((a.runOn p.talk).1, talking p (a.runOn p.talk).2) := rfl

/-- **A dialogue from outside**: it begins, something may follow from it, and it is told. -/
theorem startDialogue_run (s : Session) (name : String) (continuation : Content) (p : Play) :
    (s.startDialogue (.text name) continuation).runOn p =
      match (Talk.begun s.messages name).runOn (opened name continuation p).talk with
      | (.ok r, t) => (do Play.tell (← follow r)).runOn (talking p t)
      | (.error e, t) => (.error e, talking p t) := by
  unfold startDialogue
  rw [Act.runOn_bind, beginDialogue_run, Act.runOn_bind, onTalk_run]
  rcases (Talk.begun s.messages name).runOn (opened name continuation p).talk with ⟨r, t⟩
  cases r with
  | error e => rfl
  | ok r => exact (Act.runOn_bind (follow r) Play.tell _).symm

/-! ## 4. Calls -/

/-- Something that a session is called to do. -/
inductive Call where
  /-- The player hands in a line. -/
  | line (text : String)
  /-- A dialogue begins outside of a turn. -/
  | dialogue (name : String) (continuation : Content)

/-- The play after a call. -/
def obeyed (s : Session) (p : Play) : Call → Play
  | .line text => (s.turn p text).2
  | .dialogue name continuation => ((s.startDialogue (.text name) continuation).runOn p).2

/-- **The play after some calls.** -/
def led (s : Session) (p : Play) (calls : List Call) : Play := calls.foldl s.obeyed p

theorem led_append (s : Session) (p : Play) (calls : List Call) (call : Call) :
    s.led p (calls ++ [call]) = s.obeyed (s.led p calls) call := by
  unfold led
  rw [List.foldl_append]
  rfl

/-- A line that comes to a play in step is not lost. -/
theorem turn_mishaps (sane : Play.Sane b p) (line : String) : Mishaps (s.turn p line).1 :=
  (keeps_handle (s := s) (alike_self p) sane line).faults

/-- **The line that comes to a play out of step is lost**, and nothing waits for the next one. -/
theorem turn_lost (s : Session) (line : String) (waits : p.router.waiting = some .choice)
    (ended : p.host.conversation.state = .terminated) :
    s.turn p line = (.error .noChoiceAwaited, p.heard line) := by
  have chosen : (Talk.choose s.messages line).runOn (p.heard line).talk =
      (.error .noChoiceAwaited, (p.heard line).talk) := by
    unfold Talk.choose
    rw [Act.runOn_bind_ok (Act.runOn_get _)]
    have other : ¬ ((p.heard line).talk.conversation.state = .awaitingChoice ∧
        (p.heard line).talk.conversation.character ≠ .null) :=
      fun h => absurd (h.1.symm.trans ended) nofun
    simp only [if_neg other]
    rfl
  rw [turn_resumes waits]
  have lost : (s.choose line).runOn (p.heard line) = (.error .noChoiceAwaited, p.heard line) := by
    refine Act.runOn_bind_error ?_
    rw [onTalk_run, chosen]
    rfl
  exact Act.runOn_bind_error lost

/-- **A line leaves a play in step**, and is lost if it finds one out of step. -/
theorem led_line (led : Led b p) (line : String) : Play.Sane b (s.turn p line).2 ∧
    ((s.turn p line).1 = .error .noChoiceAwaited ↔ ¬ p.InStep) := by
  by_cases step : p.InStep
  · have sane := led.sane step
    exact ⟨turn_sane sane line, fun lost => absurd rfl (turn_mishaps sane line _ lost),
      fun out => absurd step out⟩
  · obtain ⟨waits, out⟩ := Classical.not_imp.mp step
    have ended : p.host.conversation.state = .terminated := by
      refine (led.choice waits).resolve_left fun offers => out ⟨offers.awaits.1, offers.choices⟩
    rw [turn_lost s line waits ended]
    exact ⟨⟨⟨led.world.clean, led.world.plan, led.world.sound⟩, nofun, nofun⟩,
      fun _ => step, fun _ => rfl⟩

section Dialogue

variable (led : Led b p) {name : String} (known : b.characters.has name = true)
variable (continuation : Content)

include led known

/-- What the beginning of a dialogue leaves behind. -/
theorem begun_settles :
    let r := (Talk.begun s.messages name).runOn (opened name continuation p).talk
    World.Sane b r.2.world ∧ ∀ x, r.1 = .ok x → Talk.Settles s.messages b x r.2 := by
  have keeps := Talk.meets_begun (m := s.messages) (c := .idle) known continuation
    (s := (opened name continuation p).talk) ⟨World.Alike.refl _, rfl⟩ led.world rfl
  exact ⟨(World.terms b .idle).sane_of_leads led.world keeps.leads, keeps.post⟩

/-- **Somebody who has something to say puts a play in step**, whoever was talked to before. -/
theorem led_talkative (something : p.world.openings name ≠ []) :
    Play.Sane b ((s.startDialogue (.text name) continuation).runOn p).2 := by
  obtain ⟨world, -⟩ := begun_settles (s := s) led known continuation
  obtain ⟨offers, goesOn⟩ :=
    Talk.begun_offers (t := (opened name continuation p).talk) (m := s.messages) known rfl something
  rw [startDialogue_run]
  rcases hb : (Talk.begun s.messages name).runOn (opened name continuation p).talk with ⟨r, t⟩
  rw [hb] at world offers goesOn
  cases r with
  | error e => exact ⟨world, fun _ => offers, led.known⟩
  | ok r =>
      have asked : Play.Sane b { talking p t with router := ⟨some .choice⟩ } :=
        ⟨world, fun _ => offers, nofun⟩
      simp only
      rw [Act.runOn_bind_ok (follow_run (goesOn r rfl) _)]
      have told := lapses_of_whispers (whispers_tell r.lines)
        { talking p t with router := ⟨some .choice⟩ }
      exact (asked.led.lapses told).sane ((inStep_lapses told).mpr asked.inStep)

/-- **With somebody who has nothing to say the dialogue is over at once**, and whoever waited for a
    choice still does. -/
theorem led_silent (nothing : p.world.openings name = []) :
    let q := ((s.startDialogue (.text name) continuation).runOn p).2
    Led b q ∧ (q.InStep ↔ p.router.waiting ≠ some .choice) := by
  intro q
  obtain ⟨world, settles⟩ := begun_settles (s := s) led known continuation
  have ended : ((Talk.begun s.messages name).runOn
      (opened name continuation p).talk).2.conversation.state = .terminated :=
    Talk.begun_ends nothing
  have run : q = _ := congrArg Prod.snd (startDialogue_run s name continuation p)
  rcases hb : (Talk.begun s.messages name).runOn (opened name continuation p).talk with ⟨r, t⟩
  rw [hb] at world settles ended run
  -- the new conversation has taken the place of the one that somebody may still wait for
  have after : Led b (talking p t) := ⟨world, fun _ => .inr ended, led.known⟩
  have step : (talking p t).InStep ↔ p.router.waiting ≠ some .choice := by
    constructor
    · exact fun step waits => absurd ((step waits).1.symm.trans ended) nofun
    · exact fun free waits => absurd waits free
  have lapsed : lapses.Within (talking p t) q := by
    rw [run]
    cases r with
    | error e => exact lapses.refl _
    | ok r =>
        have finished : r.outcome ≠ .goesOn := fun goesOn =>
          absurd (((settles r rfl).1 goesOn).awaits.1.symm.trans ended) nofun
        exact holds_bind (lapses_follow finished)
          (fun lines => lapses_of_whispers (whispers_tell lines)) _
  exact ⟨after.lapses lapsed, (inStep_lapses lapsed).trans step⟩

/-- **A dialogue leaves a play in step unless it ends at once** while a choice is awaited. -/
theorem led_dialogue :
    let q := ((s.startDialogue (.text name) continuation).runOn p).2
    Led b q ∧ (q.InStep ↔ (p.router.waiting = some .choice → p.world.openings name ≠ [])) := by
  by_cases nothing : p.world.openings name = []
  · obtain ⟨after, step⟩ := led_silent (s := s) led known continuation nothing
    exact ⟨after, step.trans ⟨fun free waits => absurd waits free,
      fun free waits => free waits nothing⟩⟩
  · have sane := led_talkative (s := s) led known continuation nothing
    exact ⟨sane.led, fun _ _ => nothing, fun _ => sane.inStep⟩

end Dialogue

/-- **What is known of a play after any calls.** -/
theorem led_calls (led₀ : Led b p) (calls : List Call)
    (known : ∀ name continuation, .dialogue name continuation ∈ calls →
      b.characters.has name = true) : Led b (s.led p calls) := by
  induction calls using List.reverseRecOn with
  | nil => exact led₀
  | append_singleton calls call ih =>
      have before := ih fun name continuation mem => known name continuation
        (List.mem_append_left _ mem)
      rw [led_append]
      cases call with
      | line text => exact (led_line (s := s) before text).1.led
      | dialogue name continuation =>
          have there : b.characters.has name = true :=
            known name continuation (List.mem_append_right _ (List.mem_singleton.mpr rfl))
          exact (led_dialogue (s := s) before there continuation).1

/-! ## 5. Out of step -/

/-- **The last call was not for a dialogue with somebody who has nothing to say**, if a choice was
    awaited. -/
def Tactful (s : Session) (p : Play) (calls : List Call) : Prop :=
  ∀ before name continuation, calls = before ++ [.dialogue name continuation] →
    (s.led p before).router.waiting = some .choice → (s.led p before).world.openings name ≠ []

theorem tactful_dialogue {calls : List Call} {name : String} {continuation : Content} :
    s.Tactful p (calls ++ [.dialogue name continuation]) ↔
      ((s.led p calls).router.waiting = some .choice →
        (s.led p calls).world.openings name ≠ []) := by
  constructor
  · exact fun tactful => tactful calls name continuation rfl
  · intro free before name' continuation' e
    obtain ⟨rfl, last⟩ := List.append_inj' e rfl
    cases last
    exact free

theorem tactful_line {calls : List Call} {text : String} :
    s.Tactful p (calls ++ [.line text]) := by
  intro before name continuation e
  cases (List.append_inj' e rfl).2

variable {shelf : Shelf} {setup : Setup} {archive : Archive}

/-- **Router and conversation are in step, whatever lines and dialogues have come, unless the last of
    them was a dialogue that ended at once while a choice was awaited.** Then, and only then, the next
    line is lost, because nobody waits for the choice that it is taken for. -/
theorem inStep_iff (opens : Opens setup shelf archive s p) (calls : List Call)
    (known : ∀ name continuation, .dialogue name continuation ∈ calls →
      p.world.characters.has name = true) :
    ((s.led p calls).InStep ↔ s.Tactful p calls) ∧
      ∀ line, (s.turn (s.led p calls) line).1 = .error .noChoiceAwaited ↔
        ¬ s.Tactful p calls := by
  obtain ⟨b, sane⟩ := opens_sane opens
  have there : ∀ name continuation, .dialogue name continuation ∈ calls →
      b.characters.has name = true := fun name continuation mem =>
    (World.has_character_of_plan sane.world.plan name).symm.trans (known name continuation mem)
  have step : (s.led p calls).InStep ↔ s.Tactful p calls := by
    cases calls using List.reverseRecOn with
    | nil =>
        refine ⟨fun _ before name continuation e => ?_, fun _ => sane.inStep⟩
        exact absurd e.symm (List.append_ne_nil_of_right_ne_nil _ (List.cons_ne_nil _ _))
    | append_singleton calls call =>
        have before : Led b (s.led p calls) := led_calls sane.led calls
          fun name continuation mem => there name continuation (List.mem_append_left _ mem)
        rw [led_append]
        cases call with
        | line text =>
            exact ⟨fun _ => tactful_line, fun _ => (led_line (s := s) before text).1.inStep⟩
        | dialogue name continuation =>
            have mem := List.mem_append_right calls
              (List.mem_singleton.mpr (rfl : Call.dialogue name continuation = _))
            rw [tactful_dialogue]
            exact (led_dialogue (s := s) before (there name continuation mem) continuation).2
  refine ⟨step, fun line => ?_⟩
  rw [← step]
  exact (led_line (s := s) (led_calls sane.led calls there) line).2

/-- Whoever talks to the monk of the den first and then to the miner is listened to. -/
theorem inStep_iff_den : ∃ shelf setup archive s p, Opens setup shelf archive s p ∧
    let q := s.led p [.dialogue "monk" .null, .dialogue "miner" .null]
    q.router.waiting = some .choice ∧ q.InStep ∧
      ∀ line, (s.turn q line).1 ≠ .error .noChoiceAwaited := by
  let s : Session := Cellar.session (.text "closed")
  obtain ⟨b, holds, sound, monk, miner, free, waits⟩ :=
    Cellar.exists_holdsOf (Den.content "hall") (.text "closed")
      (fun b =>
        let p := Cellar.first b
        b.inconsistencies = .ok [] ∧ p.world.characters.has "monk" = true ∧
          p.world.characters.has "miner" = true ∧
          (s.led p [.dialogue "monk" .null]).router.waiting = none ∧
          (s.led p [.dialogue "monk" .null, .dialogue "miner" .null]).router.waiting =
            some .choice)
      (by decide +kernel)
  have opens := Cellar.opensOf holds sound
  have tactful : s.Tactful (Cellar.first b) ([.dialogue "monk" .null] ++ [.dialogue "miner" .null]) :=
    tactful_dialogue.mpr fun waits => absurd (free.symm.trans waits) nofun
  obtain ⟨step, lost⟩ := inStep_iff opens [.dialogue "monk" .null, .dialogue "miner" .null] (by
    rintro name continuation mem
    simp only [List.mem_cons, List.not_mem_nil, or_false, Call.dialogue.injEq] at mem
    rcases mem with ⟨rfl, -⟩ | ⟨rfl, -⟩
    · exact monk
    · exact miner)
  exact ⟨_, _, _, s, _, opens, waits, step.mpr tactful,
    fun line e => (lost line).mp e tactful⟩

/-- **The monk interrupts the miner**: the session still waits for a choice when nobody does, and the
    line that is taken for one is lost. -/
theorem monk_interrupts : ∃ shelf b s p, Shelf.Holds shelf b ∧ b.inconsistencies = .ok [] ∧
    Opens Cellar.setup shelf Cellar.archive s p ∧
      p.world.characters.has "miner" = true ∧ p.world.characters.has "monk" = true ∧
        let q := s.led p [.dialogue "miner" .null, .dialogue "monk" .null]
        q.router.waiting = some .choice ∧ q.host.conversation.state = .terminated ∧
          (s.turn q "1").1 = .error .noChoiceAwaited := by
  let s : Session := Cellar.session (.text "closed")
  obtain ⟨b, holds, sound, miner, monk, waits, ended, lost⟩ :=
    Cellar.exists_holdsOf (Den.content "hall") (.text "closed")
      (fun b =>
        let p := Cellar.first b
        let q := s.led p [.dialogue "miner" .null, .dialogue "monk" .null]
        b.inconsistencies = .ok [] ∧ p.world.characters.has "miner" = true ∧
          p.world.characters.has "monk" = true ∧ q.router.waiting = some .choice ∧
          q.host.conversation.state = .terminated ∧ (s.turn q "1").1 = .error .noChoiceAwaited)
      (by decide +kernel)
  exact ⟨_, b, s, _, holds, sound, Cellar.opensOf holds sound, miner, monk, waits, ended, lost⟩

end Session

end Adventure
