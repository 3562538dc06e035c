import Adventure.Proofs.Session.Talks
import Adventure.Proofs.Talk.Places
import Adventure.Proofs.World.Backdrop

/-!
# What comes of a choice when there are words for everything

* `Talk.Listens`: a character waits for the choice of the player;
* `Talk.Reacts`: **how a step of a dialogue comes out** with complete messages: there is something
  to choose, and it is listed, or the dialogue is over;
* `World.told`, `Talk.Hears`: the world after a line was said, and what has been said in reply;
* `start_reacts`, `say_reacts`: a dialogue that begins, and a line that is said in one, in any world
  in which the character and the player's room are there and the reply can have its effect;
* `choose_again`, `choose_picked`, `choose_unasked`: an answer that picks no line, one that picks a
  line, and one that nobody waits for.
-/

namespace Adventure

open Outcome

/-- The world after the line at a place of a dialogue was said: the line is spent, and the player
    sees the room anew if it waits for an event. -/
def World.told (name : String) (place : Nat) (w : World) : World :=
  (w.updateDialogue name fun d =>
    { d with lines := d.lines.modify place PlayerLine.spent }).refreshed false

/-- That a line is said is no change of the plan. -/
theorem World.plan_told (name : String) (place : Nat) (w : World) :
    (w.told name place).plan = w.plan := by
  unfold told
  rw [plan_refreshed]
  refine plan_updateDialogue fun d => ?_
  simp only [Dialogue.bare, Dialogue.bare_modify]

namespace Talk

variable {m : Messages} {name : String} {t u : Talk} {said : List Content}

/-! ## 1. Lines that can be said -/

/-- The places of the lines that the player can say now. -/
def places (t : Talk) : List Nat := Dialogue.openPlaces t.conversation.node t.dialogue.lines

theorem length_places (t : Talk) : t.places.length = t.options.length :=
  Dialogue.length_openPlaces ..

/-- **A character waits for the choice of the player.** -/
structure Listens (name : String) (t : Talk) : Prop where
  state : t.conversation.state = .awaitingChoice
  character : t.conversation.character = .text name
  subject : t.conversation.subject = some name
  known : t.world.characters.has name = true

/-- The dialogue of the conversation is that of its character. -/
theorem dialogue_eq (subject : t.conversation.subject = some name) :
    t.dialogue = (t.world.dialogues.get? name).getD {} := by
  unfold dialogue
  rw [subject]
  rfl

/-- **To say the line at a position is to spend the line at its place.** -/
theorem sayLine_place (subject : t.conversation.subject = some name) {k place : Nat}
    (at_ : t.places[k]? = some place) :
    sayLine name t.conversation.node k t.world = t.world.updateDialogue name fun d =>
      { d with lines := d.lines.modify place PlayerLine.spent } := by
  unfold sayLine World.updateDialogue
  rw [Roster.update_congr fun d there => ?_]
  unfold places at at_
  rw [dialogue_eq subject, there, Option.getD_some] at at_
  rw [Dialogue.sayOpen_place at_]

/-- **At a place of the list stands a line of the dialogue** with the character, which has not been
    said. -/
theorem places_stand (subject : t.conversation.subject = some name) {k place : Nat}
    (at_ : t.places[k]? = some place) : ∃ d line, t.world.dialogues.get? name = some d ∧
      t.dialogue = d ∧ d.lines[place]? = some line ∧ line.used = false := by
  obtain ⟨line, there, isOpen, -⟩ := Dialogue.openPlaces_lines at_
  have unused := Dialogue.unused_of_isOpenAt isOpen
  have same := dialogue_eq subject
  cases kept : t.world.dialogues.get? name with
  | none =>
      rw [same, kept] at there
      cases there
  | some d =>
      rw [kept, Option.getD_some] at same
      exact ⟨d, line, rfl, same, same ▸ there, unused⟩

/-! ## 2. Reactions -/

/-- **How a step of a dialogue comes out**, after what has been said in it: there is something to
    choose, and it is listed, or the dialogue is over. -/
inductive Reacts (m : Messages) (name : String) (t : Talk) (said : List Content) :
    Except Fault Reaction × Talk → Prop where
  | asks {shown : Content} (choices : t.options ≠ []) (listed : prompt m t.options = .ok shown) :
      Reacts m name t said (.ok { outcome := .goesOn, lines := said ++ [shown] }, t)
  | closes {last : Content} {v : World} (ending : m.plain .dialogueEnd = .ok last)
      (world : (t.world.parted name).Alike v) :
      Reacts m name t said
        (.ok (conclusion v (.text name) t.conversation.continuation (said ++ [last])),
          ⟨v, { t.conversation with state := .terminated }⟩)

section Complete

variable (complete : m.IsComplete)

include complete

theorem terminate_reacts (known : t.world.characters.has name = true) (said : List Content) :
    Reacts m name t said ((terminate m (.text name) said).runOn t) := by
  obtain ⟨v, alike, run⟩ := terminate_run m known said
  obtain ⟨last, ending, -⟩ := Messages.plain_text complete .dialogueEnd
  rw [run, ending]
  exact .closes ending alike

/-- The player is shown what there is to say, or there is nothing and the dialogue is over. -/
theorem offer_reacts (known : t.world.characters.has name = true) (said : List Content) :
    Reacts m name t said ((do
      let t ← get
      if t.options.isEmpty then terminate m (.text name) said
      else return { outcome := .goesOn, lines := said ++ [← Act.ofExcept (prompt m t.options)] } :
        Act Talk Reaction).runOn t) := by
  rw [Act.runOn_bind_ok (Act.runOn_get t)]
  split
  · exact terminate_reacts complete known said
  · next choices =>
    obtain ⟨shown, listed⟩ := prompt_comes complete t.options
    rw [Act.runOn_bind_ok (x := shown) (t := t) (by rw [listed]; rfl)]
    exact .asks (by simpa using choices) listed

/-- **A dialogue begins**, and comes to something. -/
theorem start_reacts (known : t.world.characters.has name = true) (continuation : Content) :
    ∃ u, u.conversation = opened name continuation ∧ t.world.Alike u.world ∧
      Reacts m name u [] ((start m (.text name) continuation).runOn t) := by
  let v : Talk := ⟨t.world, opened name continuation⟩
  have run : (start m (.text name) continuation).runOn t = (begun m name).runOn v := rfl
  refine ⟨announced name v, rfl, World.alike_noted _ _, ?_⟩
  rw [run, begun_run]
  exact offer_reacts (t := announced name v) complete known []

/-- **A dialogue goes on** at a node, or is over. -/
theorem goOn_reacts (known : t.world.characters.has name = true) (node : Option Figure)
    (said : List Content) :
    ∃ u, u.conversation = { t.conversation with node := node.or t.conversation.node } ∧
      t.world.Alike u.world ∧ Reacts m name u said ((goOn m (.text name) node said).runOn t) := by
  unfold goOn
  cases node with
  | none => exact ⟨t, rfl, .refl _, terminate_reacts complete known said⟩
  | some n =>
      let u : Talk :=
        ⟨t.world.noted ("dialogue " ++ (Content.text name).shown ++ " node " ++ n.shown),
          { t.conversation with node := some n }⟩
      exact ⟨u, rfl, World.alike_noted _ _, offer_reacts (t := u) complete known said⟩

end Complete

/-! ## 3. Lines that are said -/

/-- The reply to a line: the first one of the dialogue with the id that the line asks for. -/
def replyTo (t : Talk) (line : PlayerLine) : Option Reply := t.dialogue.reply? line.reply

/-- What follows from a line. -/
def consequence (t : Talk) (line : PlayerLine) : Content :=
  ((t.replyTo line).map Reply.effect).getD .null

/-- The words of a character that replies. -/
def Answers (m : Messages) (name : String) (w : World) : Option Reply → List Content → Prop
  | none, said => said = []
  | some r, said => ∃ c s, w.characters.get? name = some c ∧
      m.filled .dialogueReply [("name", .text c.name), ("text", .text (Text.strip r.text))] = .ok s ∧
        said = [.text s]

/-- **What a line makes of a talk** before the dialogue goes on: the line is spent, the reply is
    said, and it has its effect. -/
structure Hears (m : Messages) (name : String) (t : Talk) (place : Nat) (line : PlayerLine)
    (said : List Content) (u : Talk) : Prop where
  answers : Answers m name t.world (t.replyTo line) said
  world : ∃ w, (t.world.told name place).Alike w ∧ (w.brought (t.consequence line)).Alike u.world
  conversation : u.conversation =
    { t.conversation with node := ((t.replyTo line).bind Reply.nextNode).or t.conversation.node }

/-- The character still waits when a line has been said, if it has not gone. -/
theorem Hears.listens {place : Nat} {line : PlayerLine} (hears : Hears m name t place line said u)
    (listens : t.Listens name) (known : u.world.characters.has name = true) : u.Listens name := by
  refine ⟨?_, ?_, ?_, known⟩
  · rw [hears.conversation]
    exact listens.state
  · rw [hears.conversation]
    exact listens.character
  · rw [hears.conversation]
    exact listens.subject

/-- What is brought about without a fault. -/
theorem bring_run {w : World} {effect : Content} (allows : w.Allows effect) :
    (World.apply effect).runOn w = (.ok (), w.brought effect) := by
  obtain ⟨v, run⟩ := allows
  unfold World.brought
  rw [run]

theorem answer_comes (complete : m.IsComplete) {c : Character}
    (there : t.world.characters.get? name = some c) (r : Reply) :
    ∃ s, m.filled .dialogueReply [("name", .text c.name), ("text", .text (Text.strip r.text))] =
        .ok s ∧ (answer m (.text name) r).runOn t = (.ok (.text s), t) := by
  obtain ⟨s, said⟩ : Comes (m.filled .dialogueReply
      [("name", .text c.name), ("text", .text (Text.strip r.text))]) :=
    Messages.filled_comes complete (by simp [Phrase.fields]) rfl
  refine ⟨s, said, ?_⟩
  have asked : (Act.reading fun t : Talk => t.world.characters.demand (.text name)).runOn t =
      (.ok c, t) := by rw [Act.runOn_reading, Roster.demand_text there]
  unfold answer
  rw [Act.runOn_bind_ok asked, said]
  rfl

section Said

variable (complete : m.IsComplete) (listens : t.Listens name) (placed : t.world.IsPlaced)
  {k place : Nat} {line : PlayerLine} (at_ : t.places[k]? = some place)
  (allows : t.world.Allows (t.consequence line))

include complete listens placed at_ allows

/-- A line is said, the reply is said, and it has its effect. -/
theorem say_run : ∃ said told, Answers m name t.world (t.replyTo line) said ∧
    (t.world.told name place).Alike told ∧ (say m (.text name) k line).runOn t =
      (goOn m (.text name) ((t.replyTo line).bind Reply.nextNode) said).runOn
        { t with world := told.brought (t.consequence line) } := by
  let spent : World := t.world.updateDialogue name fun d =>
    { d with lines := d.lines.modify place PlayerLine.spent }
  let noted : World := spent.noted
    ("dialogue " ++ (Content.text name).shown ++ " line " ++ line.id.shown ++ " used")
  have spends : (onWorld (modify (sayLine (t.conversation.subject.getD "") t.conversation.node k)) :
      Act Talk Unit).runOn t = (.ok (), { t with world := spent }) := by
    refine onWorld_run ?_
    rw [Act.runOn_modify, listens.subject, Option.getD_some, sayLine_place listens.subject at_]
  obtain ⟨r, notes, seen, comes⟩ := World.refreshObservation_run false noted
  obtain rfl := comes.mpr placed
  let told : World := { noted.refreshed false with notes }
  -- the effect is brought about in a world that looks like the one before the line
  have like : World.LooksLike t.world told :=
    ⟨rfl, rfl, rfl, congrArg World.rooms (World.plan_refreshed false noted)⟩
  have brings := bring_run (World.allows_of_looksLike like allows)
  obtain ⟨c, there⟩ := (Roster.has_iff _).mp listens.known
  unfold say
  rw [Act.runOn_bind_ok (Act.runOn_get t)]
  simp only
  rw [Act.runOn_bind_ok spends, Act.runOn_bind_ok (onWorld_run (v := noted) rfl)]
  unfold consequence at brings ⊢
  cases reply : t.replyTo line with
  | none =>
      unfold replyTo at reply
      rw [reply]
      refine ⟨[], told, rfl, ⟨notes, rfl⟩, ?_⟩
      rw [Act.runOn_bind_ok (Act.runOn_pure _ _), Act.runOn_bind_ok (onWorld_run seen)]
      rfl
  | some r =>
      rw [reply] at brings
      unfold replyTo at reply
      obtain ⟨s, filled, answers⟩ := answer_comes (t := { t with world := noted }) complete there r
      rw [reply]
      refine ⟨[.text s], told, ⟨c, s, there, filled, rfl⟩, ⟨notes, rfl⟩, ?_⟩
      simp only [pure_bind]
      rw [Act.runOn_bind_ok answers, Act.runOn_bind_ok (onWorld_run seen),
        Act.runOn_bind_ok (onWorld_run brings)]

/-- **The player says an open line**, and something comes of it. -/
theorem say_reacts : ∃ u said, Hears m name t place line said u ∧
    Reacts m name u said ((say m (.text name) k line).runOn t) := by
  obtain ⟨said, told, answers, alike, run⟩ := say_run complete listens placed at_ allows
  have known : (told.brought (t.consequence line)).characters.has name = true := by
    have scene : (told.brought (t.consequence line)).characters = told.characters :=
      (World.sameScene_apply (t.consequence line) told).characters
    obtain ⟨notes, e⟩ := alike
    rw [scene, e]
    exact listens.known
  obtain ⟨u, conversation, world, reacts⟩ := goOn_reacts
    (t := { t with world := told.brought (t.consequence line) }) complete known
    ((t.replyTo line).bind Reply.nextNode) said
  rw [run]
  exact ⟨u, said, ⟨answers, ⟨told, alike, world⟩, conversation⟩, reacts⟩

end Said

/-! ## 4. Answers -/

/-- What an answer picks is one of the lines that are shown. -/
theorem picked_option {raw : String} {k : Nat} {line : PlayerLine}
    (picked : t.picked raw = some (k, line)) : t.options[k]? = some line := by
  obtain ⟨n, -, -, -, there⟩ := picked_eq_some_iff.mp picked
  exact there

/-- **An answer that picks a line says it.** -/
theorem choose_picked (state : t.conversation.state = .awaitingChoice)
    (character : t.conversation.character = .text name) {raw : String} {k : Nat}
    {line : PlayerLine} (picked : t.picked raw = some (k, line)) :
    (choose m raw).runOn t = (say m (.text name) k line).runOn t := by
  obtain ⟨n, read, positive, rfl, there⟩ := picked_eq_some_iff.mp picked
  unfold choose
  rw [Act.runOn_bind_ok (Act.runOn_get t)]
  simp only [character]
  rw [if_pos ⟨state, Content.noConfusion⟩, read]
  simp only [if_pos positive, there]

/-- There are words to ask again. -/
theorem asks_again (complete : m.IsComplete) (sentence : Content) :
    ∃ r, askAgain m sentence = .ok r ∧ r.outcome = .goesOn := by
  obtain ⟨prompt, there, -⟩ := Messages.plain_text complete .dialoguePrompt
  unfold askAgain
  rw [there]
  exact ⟨_, rfl, rfl⟩

/-- There are words to ask for a number of the list. -/
theorem asks_inRange (complete : m.IsComplete) (count : Nat) :
    ∃ r, askInRange m count = .ok r ∧ r.outcome = .goesOn := by
  obtain ⟨sentence, there⟩ : Comes (m.filled .dialogueOutOfRange [("count", .number count)]) :=
    Messages.filled_comes complete (by simp [Phrase.fields]) rfl
  unfold askInRange
  rw [there]
  exact asks_again complete _

/-- **An answer that picks no line changes nothing**: the player is asked again. -/
theorem choose_again (complete : m.IsComplete)
    (state : t.conversation.state = .awaitingChoice)
    (character : t.conversation.character = .text name) {raw : String}
    (picked : t.picked raw = none) :
    ∃ r, (choose m raw).runOn t = (.ok r, t) ∧ r.outcome = .goesOn := by
  unfold choose
  unfold Talk.picked at picked
  rw [Act.runOn_bind_ok (Act.runOn_get t)]
  simp only [character]
  rw [if_pos ⟨state, Content.noConfusion⟩]
  cases read : Text.readInt? (Text.strip raw).toList with
  | none =>
      obtain ⟨sentence, there, -⟩ := Messages.plain_text complete .dialogueNotANumber
      obtain ⟨r, asked, goesOn⟩ := asks_again complete (.text sentence)
      simp only
      rw [there]
      exact ⟨r, by rw [Act.runOn_ofExcept]; exact congrArg (·, t) asked, goesOn⟩
  | some n =>
      obtain ⟨r, asked, goesOn⟩ := asks_inRange complete t.options.length
      rw [read] at picked
      simp only [Option.bind_eq_bind, Option.bind_some] at picked
      refine ⟨r, ?_, goesOn⟩
      by_cases positive : 1 ≤ n
      · simp only [if_pos positive, Option.map_eq_none_iff] at picked
        simp only [if_pos positive, picked]
        rw [Act.runOn_ofExcept, asked]
      · simp only [if_neg positive]
        rw [Act.runOn_ofExcept, asked]

/-- **An answer that nobody waits for** is a fault, and changes nothing. -/
theorem choose_unasked (other : t.conversation.state ≠ .awaitingChoice) (raw : String) :
    (choose m raw).runOn t = (.error .noChoiceAwaited, t) := by
  unfold choose
  rw [Act.runOn_bind_ok (Act.runOn_get t), if_neg fun asked => other asked.1]
  rfl

end Talk

end Adventure
