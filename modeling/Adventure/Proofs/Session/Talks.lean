import Adventure.Proofs.Session.Dialogues
import Adventure.Proofs.Turn.Writes

/-!
# What comes of a step of a dialogue

* `Talk.conclusion`, `Talk.terminate_run`: **the end of a dialogue**, with what follows from it;
* `Talk.Leaves`: after a step the dialogue goes on, or it is over;
* `begun_leaves`, `say_leaves`: **a dialogue that begins, and a line that is said in one**;
* `Talk.picked`, `choose_leaves`: the line that an answer picks, and what comes of an answer;
* `Session.Converses`: what this means for a session, which ends with the climax only;
* `turn_talk`, `turn_choice`: the lines of the player that dialogues begin and go on with.
-/

namespace Adventure

open Outcome

/-! ## 1. The end of a dialogue -/

/-- **Flags and items are as they were**, and the plan is. -/
structure World.Unstirred (w v : World) : Prop where
  plan : v.plan = w.plan
  flags : v.flags = w.flags
  items : v.items = w.items

namespace Conversation

/-- A choice is awaited in the dialogue with a character. -/
def AwaitsFrom (name : String) (v : Conversation) : Prop :=
  v.state = .awaitingChoice ∧ v.character = .text name

/-- The dialogue with a character is over. -/
def IsOver (name : String) (v : Conversation) : Prop :=
  v.state = .terminated ∧ v.character = .text name

end Conversation

namespace Talk

variable {m : Messages} {b : World} {name : String} {t : Talk} {α β : Type}

theorem onWorld_run {a : Act World α} {r : Except Fault α} {v : World}
    (h : a.runOn t.world = (r, v)) : (onWorld a).runOn t = (r, { t with world := v }) := by
  show ((a.runOn t.world).1, ({ t with world := (a.runOn t.world).2 } : Talk)) = _
  rw [h]

/-- The player is at the climax. -/
theorem isClimax_text (w : World) (name : String) : isClimax w (.text name) = true ↔
    ∃ c ∈ w.scenario.climax, w.current = .text c.room ∧ c.character = name := by
  unfold isClimax
  cases w.scenario.climax with
  | none => simp
  | some c =>
      simp only [Bool.and_eq_true, Content.same_text, Content.text.injEq, Option.mem_def,
        Option.some.injEq, exists_eq_left']
      rw [Content.same_text_right, and_comm]

/-- The reaction with which a dialogue ends. -/
def conclusion (w : World) (character continuation : Content) (lines : List Content) : Reaction :=
  if isClimax w character then
    { outcome := .endsWithEvent, lines, event := some (.text climaxEvent) }
  else if continuation.isFilled then
    { outcome := .endsWithEvent, lines, event := some continuation }
  else { outcome := .ends, lines }

/-- The end of a dialogue is no step of one that goes on. -/
theorem conclusion_outcome (w : World) (character continuation : Content) (lines : List Content) :
    (conclusion w character continuation lines).outcome ≠ .goesOn := by
  unfold conclusion
  split
  · exact nofun
  · split
    · exact nofun
    · exact nofun

/-- **The dialogue with a character of the adventure ends**: it is over, and there is a reaction if
    there is a text for the end. -/
theorem terminate_run (m : Messages) (known : t.world.characters.has name = true)
    (lines : List Content) : ∃ v, (t.world.parted name).Alike v ∧
      (terminate m (.text name) lines).runOn t =
        ((m.plain .dialogueEnd).map fun last =>
            conclusion v (.text name) t.conversation.continuation (lines ++ [last]),
          ⟨v, { t.conversation with state := .terminated }⟩) := by
  obtain ⟨c, there⟩ := (Roster.has_iff _).mp known
  let v := (t.world.parted name).noted ("character " ++ name ++ " interaction_occurred")
  have marked : (World.markInteracted (.text name)).runOn t.world = (.ok (), v) := by
    unfold World.markInteracted
    rw [Act.runOn_bind_ok (World.known_run there)]
    rfl
  refine ⟨v, World.alike_noted _ _, ?_⟩
  unfold terminate
  rw [Act.runOn_bind_ok (Act.runOn_modify _ _), Act.runOn_bind_ok
    (onWorld_run (t := { t with conversation := { t.conversation with state := .terminated } })
      marked)]
  cases last : m.plain .dialogueEnd with
  | error e => exact Act.runOn_bind_error (Act.runOn_ofExcept _ _)
  | ok last =>
      rw [Act.runOn_bind_ok (Act.runOn_ofExcept _ _), Act.runOn_bind_ok (Act.runOn_get _)]
      simp only [Except.map, conclusion]
      split
      · rfl
      · split
        · rfl
        · rfl

/-! ## 2. Steps of a dialogue -/

/-- **How a step leaves the dialogue with a character** that has come as far as the talk `t`: it
    goes on, or it is over. -/
inductive Leaves (m : Messages) (name : String) (t : Talk) :
    Except Fault Reaction × Talk → Prop where
  /-- The next choice is awaited, or there was a fault. -/
  | on {r : Except Fault Reaction} {u : Talk} (goesOn : ∀ x, r = .ok x → x.outcome = .goesOn)
      (awaits : u.conversation.AwaitsFrom name)
      (same : u.conversation.continuation = t.conversation.continuation)
      (world : t.world.Alike u.world) : Leaves m name t (r, u)
  | closed {lines : List Content} {u : Talk} (isOver : u.conversation.IsOver name)
      (same : u.conversation.continuation = t.conversation.continuation)
      (world : (t.world.parted name).Alike u.world) :
      Leaves m name t ((m.plain .dialogueEnd).map fun last =>
        conclusion u.world (.text name) t.conversation.continuation (lines ++ [last]), u)

/-- The notes do not count, and neither does the node of the dialogue. -/
theorem Leaves.after {u : Talk} {x : Except Fault Reaction × Talk} (like : t.world.Alike u.world)
    (continuation : u.conversation.continuation = t.conversation.continuation)
    (h : Leaves m name u x) : Leaves m name t x := by
  cases h with
  | on goesOn awaits same world =>
      exact .on goesOn awaits (same.trans continuation) (like.trans world)
  | closed isOver same world =>
      rw [continuation] at same ⊢
      obtain ⟨notes, e⟩ := like
      refine .closed isOver same (.trans ⟨notes, ?_⟩ world)
      rw [e]
      rfl

theorem terminate_leaves (known : t.world.characters.has name = true)
    (awaits : t.conversation.AwaitsFrom name) (lines : List Content) :
    Leaves m name t ((terminate m (.text name) lines).runOn t) := by
  obtain ⟨v, alike, run⟩ := terminate_run m known lines
  rw [run]
  exact .closed (u := ⟨v, { t.conversation with state := .terminated }⟩) ⟨rfl, awaits.2⟩ rfl alike

/-- The player is shown what there is to say, or there is nothing and the dialogue is over. -/
theorem offer_leaves (known : t.world.characters.has name = true)
    (awaits : t.conversation.AwaitsFrom name) (lines : List Content) :
    Leaves m name t ((do
      let t ← get
      if t.options.isEmpty then terminate m (.text name) lines
      else return { outcome := .goesOn, lines := lines ++ [← Act.ofExcept (prompt m t.options)] } :
        Act Talk Reaction).runOn t) := by
  rw [Act.runOn_bind_ok (Act.runOn_get t)]
  split
  · exact terminate_leaves known awaits lines
  · rw [Act.runOn_bind, Act.runOn_ofExcept]
    cases prompt m t.options with
    | error e => exact .on nofun awaits rfl (.refl _)
    | ok shown =>
        refine .on (fun x told => ?_) awaits rfl (.refl _)
        cases told
        rfl

/-- **A dialogue begins**: it goes on, or it is over at once. -/
theorem begun_leaves {continuation : Content} (known : t.world.characters.has name = true)
    (e : t.conversation = opened name continuation) :
    Leaves m name t ((begun m name).runOn t) := by
  have awaits : t.conversation.AwaitsFrom name := by
    rw [e]
    exact ⟨rfl, rfl⟩
  rw [begun_run]
  refine Leaves.after (u := announced name t) (World.alike_noted _ _) rfl ?_
  exact offer_leaves (t := announced name t) known awaits []

/-- **A dialogue goes on** at a node, or is over. -/
theorem goOn_leaves (known : t.world.characters.has name = true)
    (awaits : t.conversation.AwaitsFrom name) (node : Option Figure) (lines : List Content) :
    Leaves m name t ((goOn m (.text name) node lines).runOn t) := by
  unfold goOn
  split
  · exact terminate_leaves known awaits lines
  · next n =>
      let u : Talk :=
        ⟨t.world.noted ("dialogue " ++ (Content.text name).shown ++ " node " ++ n.shown),
          { t.conversation with node := some n }⟩
      exact Leaves.after (u := u) (World.alike_noted _ _) rfl
        (offer_leaves (t := u) known awaits lines)

/-- A step on the world, and what comes after it if there was no fault. -/
theorem onWorld_elim {a : Act World α} {k : α → Act Talk β} {C : Except Fault β × Talk → Prop}
    (stop : ∀ e, C (.error e, { t with world := (a.runOn t.world).2 }))
    (goesOn : ∀ x, C ((k x).runOn { t with world := (a.runOn t.world).2 })) :
    C ((onWorld a >>= k).runOn t) := by
  have run : (onWorld a).runOn t =
      ((a.runOn t.world).1, { t with world := (a.runOn t.world).2 }) := rfl
  rw [Act.runOn_bind, run]
  cases (a.runOn t.world).1 with
  | error e => exact stop e
  | ok x => exact goesOn x

/-- The room is seen anew before what comes next. -/
theorem refresh_elim {next : Act Talk β} {C : Except Fault β × Talk → Prop}
    (stop : ∀ e notes, C (.error e, { t with world := { t.world.refreshed false with notes } }))
    (goesOn : ∀ notes, C (next.runOn { t with world := { t.world.refreshed false with notes } })) :
    C ((onWorld (World.refreshObservation .null false) >>= fun _ => next).runOn t) := by
  obtain ⟨r, notes, run, -⟩ := World.refreshObservation_run false t.world
  refine onWorld_elim (fun e => ?_) fun _ => ?_
  · simp only [run]
    exact stop e notes
  · simp only [run]
    exact goesOn notes

/-- An answer changes nothing. -/
theorem answer_run (m : Messages) (character : Content) (r : Reply) (t : Talk) :
    (answer m character r).runOn t = (((answer m character r).runOn t).1, t) := by
  have still : ((answer m character r).runOn t).2 = t := by
    unfold answer
    exact Act.runOn_bind_snd fun _ _ => Act.runOn_bind_snd fun _ _ => rfl
  exact Prod.ext rfl still

/-- **What a line that is said does to flags and items**: nothing, or what follows from the reply to
    it. -/
structure Heeds (t : Talk) (line : PlayerLine) (u : Talk) : Prop where
  conversation : u.conversation = t.conversation
  world : t.world.Unstirred u.world ∨ ∃ r ∈ t.dialogue.reply? line.reply, ∃ w,
    t.world.Unstirred w ∧ u.world = w.brought r.effect

/-- **The player says an open line.** -/
theorem say_leaves (sane : World.Sane b t.world) (known : t.world.characters.has name = true)
    (awaits : t.conversation.AwaitsFrom name) (position : Nat) (line : PlayerLine) :
    ∃ u, t.Heeds line u ∧ Leaves m name u ((say m (.text name) position line).runOn t) := by
  let C (x : Except Fault Reaction × Talk) : Prop := ∃ u, t.Heeds line u ∧ Leaves m name u x
  -- wherever a fault stops the player, it stops what is heeded so far
  have stop {u : Talk} (heeds : t.Heeds line u) (e : Fault) : C (.error e, u) :=
    ⟨u, heeds, .on nofun (heeds.conversation ▸ awaits) rfl (.refl _)⟩
  show C _
  unfold say
  rw [Act.runOn_bind_ok (Act.runOn_get t)]
  simp only
  let said : World :=
    sayLine (t.conversation.subject.getD "") t.conversation.node position t.world
  have sane₁ : World.Sane b said :=
    World.sane_deed sane (.say (c := .choice) t.world _ _ position rfl)
  let noted : World := said.noted
    ("dialogue " ++ (Content.text name).shown ++ " line " ++ line.id.shown ++ " used")
  rw [Act.runOn_bind_ok (onWorld_run (Act.runOn_modify _ _)),
    Act.runOn_bind_ok (onWorld_run (v := noted) rfl)]
  have unstirred : t.world.Unstirred noted := ⟨sane₁.plan.trans sane.plan.symm, rfl, rfl⟩
  have refreshed (notes : List String) : t.world.Unstirred { noted.refreshed false with notes } :=
    ⟨(World.plan_refreshed false noted).trans unstirred.plan, rfl, rfl⟩
  have unseen (e : Fault) (notes : List String) :
      C (.error e, { t with world := { noted.refreshed false with notes } }) :=
    stop (u := { t with world := { noted.refreshed false with notes } })
      ⟨rfl, .inl (refreshed notes)⟩ e
  cases reply : t.dialogue.reply? line.reply with
  | none =>
      rw [Act.runOn_bind_ok (Act.runOn_pure _ _)]
      refine refresh_elim (t := { t with world := noted }) unseen fun notes => ?_
      let u : Talk := { t with world := { noted.refreshed false with notes } }
      exact ⟨u, ⟨rfl, .inl (refreshed notes)⟩, goOn_leaves (t := u) known awaits _ _⟩
  | some r =>
      simp only [pure_bind]
      rw [Act.runOn_bind, answer_run]
      cases ((answer m (.text name) r).runOn { t with world := noted }).1 with
      | error e => exact stop (u := { t with world := noted }) ⟨rfl, .inl unstirred⟩ e
      | ok said =>
          refine refresh_elim (t := { t with world := noted }) unseen fun notes => ?_
          let w : World := { noted.refreshed false with notes }
          have plan : w.plan = b.plan := (World.plan_refreshed false noted).trans sane₁.plan
          have mem : r.effect ∈ b.effects := by
            rw [← World.effects_of_plan sane.plan]
            exact mem_effects_of_reply? reply
          have bears : World.Bears r.effect w (w.brought r.effect) :=
            World.brought_bears sane₁.clean plan (World.grasps_effect sane.sound mem)
          let u : Talk := { t with world := w.brought r.effect }
          have heeds : t.Heeds line u := ⟨rfl, .inr ⟨r, reply, w, refreshed notes, rfl⟩⟩
          have known₂ : u.world.characters.has name = true := by
            obtain ⟨_, _, _, _, e⟩ := bears.rest
            show (w.brought r.effect).characters.has name = true
            rw [e]
            exact known
          refine onWorld_elim (fun e => stop heeds e) fun _ => ?_
          exact ⟨u, heeds, goOn_leaves (t := u) known₂ awaits _ _⟩

/-! ## 3. Answers -/

/-- The line that an answer picks from those that are shown, and its position. -/
def picked (t : Talk) (raw : String) : Option (Nat × PlayerLine) := do
  let n ← Text.readInt? (Text.strip raw).toList
  if 1 ≤ n then (t.options[(n - 1).toNat]?).map fun line => ((n - 1).toNat, line) else none

/-- **What an answer picks** is the line whose number in the list it is. -/
theorem picked_eq_some_iff {raw : String} {k : Nat} {line : PlayerLine} :
    t.picked raw = some (k, line) ↔ ∃ n, Text.readInt? (Text.strip raw).toList = some n ∧ 1 ≤ n ∧
      (n - 1).toNat = k ∧ t.options[k]? = some line := by
  simp only [picked, Option.bind_eq_bind, Option.bind_eq_some_iff, Option.ite_none_right_eq_some,
    Option.map_eq_some_iff, Prod.mk.injEq]
  constructor
  · rintro ⟨n, read, positive, line', there, rfl, rfl⟩
    exact ⟨n, read, positive, rfl, there⟩
  · rintro ⟨n, read, positive, rfl, there⟩
    exact ⟨n, read, positive, line, there, rfl, rfl⟩

/-- **The player answers a prompt.** An answer that picks no line changes nothing. -/
theorem choose_leaves (sane : World.Sane b t.world) (known : t.world.characters.has name = true)
    (awaits : t.conversation.AwaitsFrom name) (raw : String) :
    ∃ u, Leaves m name u ((choose m raw).runOn t) ∧
      (∀ k line, t.picked raw = some (k, line) → t.Heeds line u) ∧
      (t.picked raw = none → u = t ∧ ((choose m raw).runOn t).2 = t) := by
  unfold choose picked
  rw [Act.runOn_bind_ok (Act.runOn_get t)]
  have again {α : Type} {f : α → Content} {r : Except Fault α} {x : Reaction}
      (asked : (r >>= fun a => askAgain m (f a)) = .ok x) : x.outcome = .goesOn := by
    obtain ⟨_, -, asked⟩ := bind_eq_ok.mp asked
    obtain ⟨_, -, e⟩ := bind_eq_ok.mp asked
    cases e
    rfl
  have asksAgain {r : Except Fault Reaction} (goesOn : ∀ x, r = .ok x → x.outcome = .goesOn) :
      Leaves m name t (r, t) := .on goesOn awaits rfl (.refl _)
  simp only [awaits.2]
  rw [if_pos ⟨awaits.1, nofun⟩]
  cases Text.readInt? (Text.strip raw).toList with
  | none => exact ⟨t, asksAgain fun _ => again (f := id), nofun, fun _ => ⟨rfl, rfl⟩⟩
  | some n =>
      simp only [Option.bind_eq_bind, Option.bind_some]
      by_cases positive : 1 ≤ n
      · simp only [if_pos positive]
        cases t.options[(n - 1).toNat]? with
        | none => exact ⟨t, asksAgain fun _ => again (f := .text), nofun, fun _ => ⟨rfl, rfl⟩⟩
        | some line =>
            obtain ⟨u, heeds, leaves⟩ := say_leaves (m := m) sane known awaits (n - 1).toNat line
            refine ⟨u, leaves, fun k picked e => ?_, nofun⟩
            cases e
            exact heeds
      · simp only [if_neg positive]
        exact ⟨t, asksAgain fun _ => again (f := .text), nofun, fun _ => ⟨rfl, rfl⟩⟩

end Talk

namespace Session

open Play Adventure.Frame

variable {s : Session} {m : Messages} {b : World} {p q r : Play} {t : Talk} {line name : String}

/-! ## 4. Sessions -/

/-- **What a step of the dialogue with a character means for the session**: it goes on unless the
    dialogue ends at the climax, with a text for the end. -/
inductive Converses (m : Messages) (name : String) (runs : Bool) (t : Talk) (q : Play) : Prop where
  | on (awaits : q.host.conversation.AwaitsFrom name)
      (same : q.host.conversation.continuation = t.conversation.continuation)
      (world : t.world.Alike q.world) (running : q.host.running = runs)
  | closed (isOver : q.host.conversation.IsOver name)
      (same : q.host.conversation.continuation = t.conversation.continuation)
      (world : (t.world.parted name).Alike q.world)
      (free : q.router.waiting = none)
      (running : q.host.running = false ↔ runs = false ∨
        (Talk.isClimax q.world (.text name) = true ∧ Comes (m.plain .dialogueEnd)))

/-- Whoever only has something to tell changes nothing about it. -/
theorem Converses.whispers {runs : Bool} (h : Converses m name runs t q)
    (k : Play.whispers.Within q r) : Converses m name runs t r := by
  obtain ⟨⟨⟨more, world⟩, router, conversation, running, -⟩, -⟩ := k
  cases h with
  | on awaits same alike stays =>
      exact .on (conversation ▸ awaits) (conversation ▸ same) (alike.trans ⟨_, world⟩)
        (running.trans stays)
  | closed isOver same alike free ends =>
      refine .closed (conversation ▸ isOver) (conversation ▸ same) (alike.trans ⟨_, world⟩)
        (router ▸ free) ?_
      rw [running, ends, world]
      rfl

/-- The climax ends the session, if nothing waits for a line. -/
theorem climax_halts (free : p.router.waiting = none) :
    ((trigger (.text climaxEvent)).runOn p).2.host.running = false := by
  unfold trigger
  let told : Play := { p with
    world := p.world.noted ("event " ++ (Content.text climaxEvent).shown)
    host := { p.host with events := .text climaxEvent :: p.host.events } }
  have noted : (Play.note ("event " ++ (Content.text climaxEvent).shown)).runOn p =
      (.ok (), { p with world := told.world }) := rfl
  have event : (Play.onDesk fun d => { d with events := .text climaxEvent :: d.events }).runOn
      { p with world := told.world } = (.ok (), told) := rfl
  rw [Act.runOn_bind_ok noted, Act.runOn_bind_ok event,
    Act.runOn_bind_ok (Act.runOn_get told), if_pos ⟨rfl, by
      show p.router.waiting.isSome = false
      rw [free]
      rfl⟩]
  obtain ⟨q, run, -, -, halted, -⟩ := stop_run told
  rw [run]
  exact halted

/-- **A step of a dialogue, and what follows from it.** -/
theorem converses_of_leaves {a : Act Talk Reaction} (h : Talk.Leaves m name t (a.runOn p.talk))
    (plain : t.conversation.continuation.isFilled = false) (free : p.router.waiting = none) :
    Converses m name p.host.running t ((Play.onTalk a >>= follow).runOn p).2 := by
  rw [Act.runOn_bind, onTalk_run]
  generalize a.runOn p.talk = x at h ⊢
  cases h with
  | @on r u goesOn awaits same world =>
      cases r with
      | error e => exact .on awaits same world rfl
      | ok x =>
          simp only
          rw [follow_run (goesOn x rfl)]
          exact .on awaits same world rfl
  | @closed lines u isOver same world =>
      cases last : m.plain .dialogueEnd with
      | error e =>
          refine .closed isOver same world free ⟨.inl, ?_⟩
          rintro (halted | ⟨-, x, comes⟩)
          · exact halted
          · rw [last] at comes
            cases comes
      | ok ending =>
          simp only [Except.map]
          obtain ⟨⟨more, e⟩, router, conversation⟩ := lapses_follow
            (Talk.conclusion_outcome u.world (.text name) t.conversation.continuation
              (lines ++ [ending])) (talking p u)
          refine .closed (conversation ▸ isOver) (conversation ▸ same) (world.trans ⟨_, e⟩)
            (router ▸ free) ?_
          have here (notes : List String) : Talk.isClimax { u.world with notes } (.text name) =
              Talk.isClimax u.world (.text name) := rfl
          rw [e]
          show _ ↔ _ ∨ Talk.isClimax { u.world with notes := _ } _ = true ∧ _
          rw [here]
          cases climax : Talk.isClimax u.world (.text name) with
          | true =>
              refine ⟨fun _ => .inr ⟨rfl, ending, last⟩, fun _ => ?_⟩
              simp only [Talk.conclusion, climax, if_true, follow]
              rw [Act.runOn_bind_snd fun _ _ => rfl]
              exact climax_halts free
          | false =>
              simp only [Talk.conclusion, climax, plain, Bool.false_eq_true, if_false, follow]
              exact ⟨.inl, fun ends => ends.resolve_right fun k => absurd k.1 nofun⟩

/-- What follows from a step of a dialogue leaves the conversation alone. -/
theorem conversation_follow (a : Act Talk Reaction) (p : Play) :
    ((Play.onTalk a >>= follow).runOn p).2.host.conversation =
      (a.runOn p.talk).2.conversation := by
  rw [Act.runOn_bind, onTalk_run]
  rcases a.runOn p.talk with ⟨r, u⟩
  cases r with
  | error e => rfl
  | ok x =>
      simp only
      by_cases goesOn : x.outcome = .goesOn
      · rw [follow_run goesOn]
        rfl
      · exact (lapses_follow goesOn (talking p u)).2.2

/-- **A line with which the player talks to a character**: nothing comes of it, or a dialogue begins
    with a character that has not been talked to. -/
theorem turn_talk (talks : (s.cause p line).verb? = some .talk) :
    Play.whispers.Within (p.heard line) (s.turn p line).2 ∨ ∃ name c,
      p.world.characters.get? name = some c ∧ c.interacted = false ∧
        Converses s.messages name p.host.running (opened name .null (p.heard line)).talk
          (s.turn p line).2 := by
  obtain ⟨i, free, read, verb⟩ := read_of_verb talks
  have after := turn_rule free read verb (rfl : s.setting.ruleFor? .talk = some s.setting.talk)
  let C (q : Play) : Prop := q = p.heard line ∨ ∃ name c,
    p.world.characters.get? name = some c ∧ c.interacted = false ∧
      Converses s.messages name p.host.running (opened name .null (p.heard line)).talk q
  have rule : C ((s.setting.talk i).runOn (p.heard line)).2 := by
    unfold Setting.talk
    split
    · split
      · exact .inl rfl
      · exact .inl rfl
    · next name addressed =>
        refine Stage.ask_elim (.inl rfl) fun c found => Stage.ask_elim (.inl rfl) fun holds _ => ?_
        split
        · split
          · exact .inl rfl
          · next new =>
              obtain ⟨_, e, there⟩ := Roster.demand_eq_ok found
              cases e
              have known : (p.heard line).world.characters.has name = true :=
                Roster.has_of_get? there
              refine .inr ⟨name, c, there, by simpa using new, ?_⟩
              have begun : ((s.setting.hooks.beginDialogue name).runOn (p.heard line)).2 =
                  ((s.beginDialogue (.text name) .null).runOn (p.heard line)).2 :=
                Act.runOn_bind_snd fun _ _ => rfl
              rw [begun, beginDialogue_run]
              exact converses_of_leaves (p := opened name .null (p.heard line))
                (t := (opened name .null (p.heard line)).talk)
                (Talk.begun_leaves known rfl) rfl rfl
        · exact .inl rfl
  rcases rule with e | ⟨name, c, there, new, converses⟩
  · rw [e] at after
    exact .inl after
  · exact .inr ⟨name, c, there, new, converses.whispers after⟩

/-- **A line that answers the prompt of a dialogue.** -/
theorem turn_choice (sane : Play.Sane b p) (waits : p.router.waiting = some .choice)
    (plain : p.host.conversation.continuation.isFilled = false) (line : String) :
    ∃ name u, p.host.conversation.AwaitsFrom name ∧ u.conversation = p.host.conversation ∧
      Converses s.messages name p.host.running u (s.turn p line).2 ∧
      (∀ k l, p.talk.picked line = some (k, l) → p.talk.Heeds l u) ∧
      (p.talk.picked line = none → u = (p.heard line).talk ∧
        (s.turn p line).2.host.conversation = p.host.conversation) := by
  obtain ⟨⟨state, name, character, -, known⟩, -⟩ := sane.offers waits
  have awaits : p.host.conversation.AwaitsFrom name := ⟨state, character⟩
  have there : (p.heard line).talk.world.characters.has name = true :=
    (World.has_character_of_plan sane.world.plan name).trans known
  obtain ⟨u, leaves, picks, misses⟩ := Talk.choose_leaves (m := s.messages)
    (t := (p.heard line).talk) (sane_heard sane line).world there awaits line
  have after : Play.whispers.Within ((s.choose line).runOn (p.heard line)).2 (s.turn p line).2 := by
    rw [turn_resumes waits]
    exact Frame.within_after (fun lines => whispers_tell lines) (p.heard line)
  have heeds (k : Nat) (l : PlayerLine) (h : p.talk.picked line = some (k, l)) :
      p.talk.Heeds l u := by
    obtain ⟨same, ⟨plan, flags, items⟩ | ⟨r, reply, w, ⟨plan, flags, items⟩, e⟩⟩ := picks k l h
    · exact ⟨same, .inl ⟨plan, flags, items⟩⟩
    · exact ⟨same, .inr ⟨r, reply, w, ⟨plan, flags, items⟩, e⟩⟩
  have same : u.conversation = p.host.conversation := by
    cases h : p.talk.picked line with
    | none =>
        rw [(misses h).1]
        rfl
    | some pick => exact (heeds pick.1 pick.2 h).conversation
  have converses := (converses_of_leaves leaves (same ▸ plain) rfl).whispers after
  refine ⟨name, u, awaits, same, converses, heeds, fun h => ⟨(misses h).1, ?_⟩⟩
  exact after.1.conversation.trans ((conversation_follow _ _).trans (by rw [(misses h).2]; rfl))

end Session

end Adventure
