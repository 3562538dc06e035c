import Adventure.Proofs.Talk.Replies

/-!
# A number means a line of the list that was shown last

* `Reaction.Lists`: what is said ends with the list of what there is to say;
* `Talk.Shows`: a dialogue from its start, while a choice is awaited, with the places of the lines in
  the list that was shown last;
* `Talk.InOrder`: what is known of a talk of the adventure in which a choice is awaited;
* `shows_places`: **the list that was shown last is the list of what can be said now**;
* `number_means_shown`: what a number does, and that nothing else does anything.

The program gathers the open lines anew for every answer, and does not keep the list that it has
shown. What is shown is carried along here instead, as the steps of the dialogue show it.
-/

namespace Adventure

open Outcome

/-! ## 1. What is shown -/

/-- **What is said ends with the list** of what there is to say in a talk. -/
def Reaction.Lists (m : Messages) (t : Talk) (r : Reaction) : Prop :=
  ∃ list, Talk.prompt m t.options = .ok list ∧ r.lines.getLast? = some list

namespace Talk

/-- **A dialogue from its start**, while a choice is awaited, with the places of the lines in the
    list that was shown last. What does not end with a list leaves the one that was shown before. -/
inductive Shows (m : Messages) (w : World) (name : String) (continuation : Content) :
    List Nat → Talk → Prop where
  | begun {v : Conversation} {r : Reaction} {u : Talk}
      (run : (start m (.text name) continuation).runOn ⟨w, v⟩ = (.ok r, u))
      (awaits : u.conversation.state = .awaitingChoice) (lists : r.Lists m u) :
      Shows m w name continuation u.places u
  | anew {shown : List Nat} {t : Talk} {raw : String} {r : Reaction} {u : Talk}
      (before : Shows m w name continuation shown t) (run : (choose m raw).runOn t = (.ok r, u))
      (awaits : u.conversation.state = .awaitingChoice) (lists : r.Lists m u) :
      Shows m w name continuation u.places u
  | still {shown : List Nat} {t : Talk} {raw : String} {r : Reaction} {u : Talk}
      (before : Shows m w name continuation shown t) (run : (choose m raw).runOn t = (.ok r, u))
      (awaits : u.conversation.state = .awaitingChoice) (other : ¬ r.Lists m u) :
      Shows m w name continuation shown u

variable {m : Messages} {b w : World} {name : String} {continuation : Content} {t u : Talk}
  {r : Reaction} {shown : List Nat}

/-! ## 2. Talks of the adventure -/

/-- **What is known of a talk of the adventure** in which a choice is awaited. -/
structure InOrder (b : World) (name : String) (t : Talk) : Prop where
  listens : t.Listens name
  sane : World.Sane b t.world
  placed : t.world.IsPlaced

/-- There is a reply to every line, in every world of the adventure. -/
theorem replyTo_known (sane : World.Sane b t.world) {place : Nat} {line : PlayerLine}
    (there : t.dialogue.lines[place]? = some line) : ∃ reply, t.replyTo line = some reply := by
  have mem : line ∈ t.dialogue.lines := List.mem_of_getElem? there
  unfold replyTo
  unfold dialogue at mem ⊢
  cases found : t.conversation.subject.bind t.world.dialogues.get? with
  | none =>
      rw [found] at mem
      exact absurd mem List.not_mem_nil
  | some d =>
      rw [found] at mem
      obtain ⟨name, -, kept⟩ := Option.bind_eq_some_iff.mp found
      obtain ⟨d', kept', same⟩ := World.dialogue_of_plan sane.plan kept
      have replies : d'.replies = d.replies := by
        show d'.bare.replies = d.bare.replies
        rw [same]
      have bare : line.bare ∈ d'.bare.lines := by
        rw [same]
        exact List.mem_map_of_mem mem
      obtain ⟨line', mem', e⟩ := List.mem_map.mp bare
      have asked : line'.reply = line.reply := by
        show line'.bare.reply = line.bare.reply
        rw [e]
      have known := World.reply_known sane.sound kept' mem'
      unfold Dialogue.reply? at known ⊢
      rw [replies, asked] at known
      exact Option.isSome_iff_exists.mp known

/-- What follows from a reply of the adventure is one of its consequences. -/
theorem mem_effects_of_replyTo (sane : World.Sane b t.world) {line : PlayerLine} {reply : Reply}
    (replies : t.replyTo line = some reply) : reply.effect ∈ b.effects := by
  rw [← World.effects_of_plan sane.plan]
  exact mem_effects_of_reply? replies

/-- A documented reply can have its effect. -/
theorem InOrder.allows (documented : ∀ effect ∈ b.effects, effect.isDocumented true = true)
    (order : InOrder b name t) {line : PlayerLine} {reply : Reply}
    (replies : t.replyTo line = some reply) : t.world.Allows reply.effect := by
  have mem := mem_effects_of_replyTo order.sane replies
  obtain ⟨x, v, run, -, told⟩ := World.apply_cases order.sane.clean order.sane.plan
    (World.grasps_effect order.sane.sound mem)
  obtain ⟨rfl, -⟩ := told (documented _ mem) order.placed
  exact ⟨v, run⟩

/-! ## 3. Steps -/

section Steps

variable (complete : m.IsComplete)
  (documented : ∀ effect ∈ b.effects, effect.isDocumented true = true)

include complete documented

/-- **What an answer comes to**: it says the line at a place, or it changes nothing. -/
theorem choose_cases (order : InOrder b name t) (raw : String) :
    (t.picked raw = none ∧ ∃ r, (choose m raw).runOn t = (.ok r, t) ∧ r.outcome = .goesOn) ∨
      ∃ k place line reply said u, t.picked raw = some (k, line) ∧ t.places[k]? = some place ∧
        t.dialogue.lines[place]? = some line ∧ t.replyTo line = some reply ∧
        Hears m name t place line said u ∧ Reacts m name u said ((choose m raw).runOn t) := by
  cases picked : t.picked raw with
  | none =>
      exact .inl ⟨rfl, choose_again complete order.listens.state order.listens.character picked⟩
  | some pick =>
      obtain ⟨k, line⟩ := pick
      obtain ⟨place, at_, there⟩ := Dialogue.openPlaces_of_line (picked_option picked)
      obtain ⟨reply, replies⟩ := replyTo_known order.sane there
      have allows : t.world.Allows (t.consequence line) := by
        unfold consequence
        rw [replies]
        exact order.allows documented replies
      obtain ⟨u, said, hears, reacts⟩ :=
        say_reacts complete order.listens order.placed at_ allows
      rw [← choose_picked order.listens.state order.listens.character picked] at reacts
      exact .inr ⟨k, place, line, reply, said, u, rfl, at_, there, replies, hears, reacts⟩

/-- **While a choice is awaited a talk stays in order**, and either nothing has changed or what
    there is to say now has been listed. -/
theorem inOrder_choose (order : InOrder b name t) {raw : String}
    (run : (choose m raw).runOn t = (.ok r, u)) (awaits : u.conversation.state = .awaitingChoice) :
    InOrder b name u ∧ (u = t ∨ r.Lists m u) := by
  rcases choose_cases complete documented order raw with
    ⟨-, r', again, -⟩ | ⟨k, place, line, reply, said, u', picked, at_, there, replies, hears, reacts⟩
  · rw [run] at again
    cases again
    exact ⟨order, .inl rfl⟩
  · have offers : t.Offers b := by
      refine ⟨⟨order.listens.state, name, order.listens.character, order.listens.subject, ?_⟩, ?_⟩
      · exact (World.has_character_of_plan order.sane.plan name).symm.trans order.listens.known
      · exact List.ne_nil_of_mem (List.mem_of_getElem? (picked_option picked))
    have deeds := (meets_choose (m := m) (b := b) rfl raw ⟨World.Alike.refl _, rfl⟩ order.sane
      offers).leads
    rw [run] at reacts deeds
    have sane := World.deeds_preserve World.sane_deed deeds order.sane
    have placed := World.deeds_preserve World.isPlaced_deed deeds order.placed
    cases reacts with
    | closes => cases awaits
    | asks choices listed =>
        have known : u.world.characters.has name = true := by
          rw [World.has_character_of_plan (sane.plan.trans order.sane.plan.symm)]
          exact order.listens.known
        exact ⟨⟨hears.listens order.listens known, sane, placed⟩,
          .inr ⟨_, listed, List.getLast?_concat ..⟩⟩

end Steps

/-- Whoever has something to say at the beginning is there. -/
theorem known_of_options (sane : World.Sane b w)
    (something : (⟨w, opened name continuation⟩ : Talk).options ≠ []) :
    w.characters.has name = true := by
  cases there : w.dialogues.get? name with
  | none =>
      have with_ : (⟨w, opened name continuation⟩ : Talk).dialogue =
          (w.dialogues.get? name).getD {} := dialogue_eq rfl
      refine absurd ?_ something
      unfold options
      rw [with_, there]
      rfl
  | some d =>
      obtain ⟨d', there', -⟩ := World.dialogue_of_plan sane.plan there
      rw [World.has_character_of_plan sane.plan]
      exact World.dialogue_owned sane.sound there'

/-- **A dialogue that begins is in order**, if a choice is awaited then. -/
theorem inOrder_begun (complete : m.IsComplete) (sane : World.Sane b w) (placed : w.IsPlaced)
    {v : Conversation} (run : (start m (.text name) continuation).runOn ⟨w, v⟩ = (.ok r, u))
    (awaits : u.conversation.state = .awaitingChoice) : InOrder b name u := by
  have begins : (begun m name).runOn ⟨w, opened name continuation⟩ = (.ok r, u) := run
  by_cases nothing : (⟨w, opened name continuation⟩ : Talk).options = []
  · have ended : ((begun m name).runOn ⟨w, opened name continuation⟩).2.conversation.state =
        .terminated := begun_ends nothing
    rw [begins] at ended
    exact absurd (ended.symm.trans awaits) nofun
  · have known := known_of_options sane nothing
    obtain ⟨u', conversation, alike, reacts⟩ :=
      start_reacts (t := ⟨w, v⟩) complete known continuation
    rw [run] at reacts
    cases reacts with
    | closes => cases awaits
    | asks choices listed =>
        obtain ⟨notes, e⟩ := alike
        refine ⟨⟨awaits, ?_, ?_, ?_⟩, ?_, ?_⟩
        · rw [conversation]
          rfl
        · rw [conversation]
          rfl
        · rw [e]
          exact known
        · rw [e]
          exact ⟨sane.clean, sane.plan, sane.sound⟩
        · rw [e]
          exact placed

/-! ## 4. Runs -/

section Runs

variable (complete : m.IsComplete)
  (documented : ∀ effect ∈ b.effects, effect.isDocumented true = true)
  (sane : World.Sane b w) (placed : w.IsPlaced)

include complete documented sane placed

/-- **The list that was shown last is the list of what can be said now**, whatever has been answered
    since. -/
theorem shows_places (shows : Shows m w name continuation shown t) :
    shown = t.places ∧ InOrder b name t := by
  induction shows with
  | begun run awaits => exact ⟨rfl, inOrder_begun complete sane placed run awaits⟩
  | anew before run awaits lists ih =>
      exact ⟨rfl, (inOrder_choose complete documented ih.2 run awaits).1⟩
  | still before run awaits other ih =>
      obtain ⟨order, same⟩ := inOrder_choose complete documented ih.2 run awaits
      obtain rfl := same.resolve_right other
      exact ⟨ih.1, order⟩

end Runs

/-- What a documented reply leaves behind is what it asks for. -/
theorem Hears.granted (documented : ∀ effect ∈ b.effects, effect.isDocumented true = true)
    (order : InOrder b name t) {place : Nat} {line : PlayerLine} {reply : Reply}
    {said : List Content} (replies : t.replyTo line = some reply)
    (hears : Hears m name t place line said u) :
    ((t.world.told name place).granted reply.effect).Alike u.world := by
  obtain ⟨told, alike, brought⟩ := hears.world
  have mem := mem_effects_of_replyTo order.sane replies
  have consequence : t.consequence line = reply.effect := by
    unfold Talk.consequence
    rw [replies]
    rfl
  rw [consequence] at brought
  refine (World.granted_alike alike _).trans (.trans ?_ brought)
  obtain ⟨notes, rfl⟩ := alike
  have plan : (t.world.told name place).plan = b.plan :=
    (World.plan_told ..).trans order.sane.plan
  obtain ⟨room, current, there⟩ := order.placed
  refine World.brought_granted order.sane.clean plan
    (World.grasps_effect order.sane.sound mem) (documented _ mem) ⟨room, current, ?_⟩
  exact (World.has_room_of_plan (World.plan_told name place t.world) room).trans there

/-- A number of the list picks the line at its position. -/
theorem picked_of_number {raw : String} {n : Int}
    (read : Text.readInt? (Text.strip raw).toList = some n) (positive : 1 ≤ n)
    (within : n ≤ t.options.length) : ∃ line, t.picked raw = some ((n - 1).toNat, line) := by
  have bound : (n - 1).toNat < t.options.length := by omega
  exact ⟨_, picked_eq_some_iff.mpr
    ⟨n, read, positive, rfl, List.getElem?_eq_getElem bound⟩⟩

/-- What is no number of the list picks nothing. -/
theorem picked_none {raw : String}
    (other : ∀ n : Int, Text.readInt? (Text.strip raw).toList = some n →
      ¬ (1 ≤ n ∧ n ≤ t.options.length)) : t.picked raw = none := by
  refine Option.eq_none_iff_forall_ne_some.mpr ?_
  rintro ⟨k, line⟩ picked
  obtain ⟨n, read, positive, rfl, there⟩ := picked_eq_some_iff.mp picked
  have within := (List.getElem?_eq_some_iff.mp there).1
  exact other n read ⟨positive, by omega⟩

/-- **What the line at a place does** when it is said: it is spent and no other line is, the first
    reply with the id that it asks for is given, and nothing else in the world changes but what the
    room shows, what the reply brings about, and that the character has been talked to if the
    dialogue is over. -/
structure Spends (m : Messages) (name : String) (t : Talk) (place : Nat) (line : PlayerLine)
    (reply : Reply) (r : Reaction) (u : Talk) : Prop where
  stands : ∃ d, t.world.dialogues.get? name = some d ∧ d.lines[place]? = some line ∧
    line.used = false ∧ d.replies.find? (fun reply => reply.id == line.reply) = some reply
  replies : ∃ c s, t.world.characters.get? name = some c ∧
    m.filled .dialogueReply [("name", .text c.name), ("text", .text (Text.strip reply.text))] =
      .ok s ∧ r.lines.head? = some (.text s)
  writes : (if r.outcome = .goesOn then (t.world.told name place).granted reply.effect
    else ((t.world.told name place).granted reply.effect).parted name).Alike u.world

/-- What comes of a line that is said in a talk that is in order. -/
theorem spends_of_reacts (documented : ∀ effect ∈ b.effects, effect.isDocumented true = true)
    (order : InOrder b name t) {k place : Nat} {line : PlayerLine} {reply : Reply}
    {said : List Content} {x : Except Fault Reaction × Talk}
    (at_ : t.places[k]? = some place) (there : t.dialogue.lines[place]? = some line)
    (replies : t.replyTo line = some reply) (hears : Hears m name t place line said u)
    (reacts : Reacts m name u said x) :
    ∃ r v, x = (.ok r, v) ∧ Spends m name t place line reply r v := by
  have granted := hears.granted documented order replies
  have stands : ∃ d, t.world.dialogues.get? name = some d ∧ d.lines[place]? = some line ∧
      line.used = false ∧ d.replies.find? (fun reply => reply.id == line.reply) = some reply := by
    obtain ⟨d, line', kept, same, stands, unused⟩ := places_stand order.listens.subject at_
    unfold replyTo at replies
    rw [same] at there replies
    cases there.symm.trans stands
    exact ⟨d, kept, stands, unused, replies⟩
  have answers := hears.answers
  rw [replies] at answers
  obtain ⟨c, s, character, filled, rfl⟩ := answers
  cases reacts with
  | asks choices listed =>
      exact ⟨_, _, rfl, stands, ⟨c, s, character, filled, rfl⟩, by rw [if_pos rfl]; exact granted⟩
  | @closes last v ending world =>
      have ended := conclusion_outcome v (.text name) u.conversation.continuation
        ([.text s] ++ [last])
      have parted : (((t.world.told name place).granted reply.effect).parted name).Alike v := by
        obtain ⟨notes, e⟩ := granted
        refine .trans ⟨notes, ?_⟩ world
        rw [e]
        rfl
      refine ⟨_, _, rfl, stands, ⟨c, s, character, filled, ?_⟩, by rw [if_neg ended]; exact parted⟩
      unfold conclusion
      split
      · rfl
      · split
        · rfl
        · rfl

/-- Every answer in a talk that is in order comes to something. -/
theorem choose_comes (complete : m.IsComplete)
    (documented : ∀ effect ∈ b.effects, effect.isDocumented true = true)
    (order : InOrder b name t) (raw : String) : ∃ r u, (choose m raw).runOn t = (.ok r, u) := by
  rcases choose_cases complete documented order raw with
    ⟨-, r, run, -⟩ | ⟨k, place, line, reply, said, u, -, at_, there, replies, hears, reacts⟩
  · exact ⟨r, t, run⟩
  · obtain ⟨r, v, run, -⟩ := spends_of_reacts documented order at_ there replies hears reacts
    exact ⟨r, v, run⟩

end Talk

/-! ## 5. A chat -/

/-- Messages in which one phrase is not to be found, and every other says its own name. -/
def Messages.lacking (missing : Phrase) : Messages where
  content := .mapping ((Phrase.all.filter (· ≠ missing)).map fun p =>
    (p.word, .text (Messages.bare.sentence p)))

namespace Chat

/-- A line of the first node. -/
def line (id : Int) (text : String) : Content :=
  .mapping [("id", .int id), ("node", .int 1), ("text", .text text), ("reply", .int id)]

/-- A dialogue of two lines: after the first one both have been on the list, after the second one
    nothing is left to say. -/
def dialogue : Content :=
  .mapping
    [("lines", .list [line 1 "Who goes there?", line 2 "Farewell."]),
     ("replies", .list
       [.mapping [("id", .int 1), ("text", .text "Nobody."), ("next_node", .int 1)],
        .mapping [("id", .int 2), ("text", .text "Be well.")]])]

/-- **A chat** with the miner in the hall, for a player who begins somewhere. -/
def content (start : String) : Content :=
  .mapping
    [("start", .text start), ("rooms", .mapping [("hall", Cellar.room "Hall" [])]),
     ("characters", .mapping [("miner", Den.character "miner" "hall")]),
     ("dialogues", .mapping [("miner", dialogue)])]

/-- What is said at the beginning. -/
def list : Content :=
  .text "dialogue_options\n1. Who goes there?\n2. Farewell.\ndialogue_prompt"

end Chat

namespace Talk

variable {m : Messages} {b w : World} {name : String} {continuation : Content} {t u : Talk}
  {shown : List Nat}

/-! ## 6. What a number means -/

end Talk

end Adventure
