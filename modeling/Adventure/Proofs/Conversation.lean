import Adventure.Proofs.Messages
import Adventure.Proofs.World.Questions
import Adventure.Proofs.World.Steps

/-!
# Conversations meet the terms

* `Conversation.Awaits`: a choice is awaited, in the dialogue with a character that is there;
* `Talk.terms`: the terms of a world, beside which the conversation may change;
* `Talk.Offers`, `Talk.Settles`: there is something to choose; what a reaction leaves behind: an
  offer if the dialogue goes on;
* `meets_begun`, `meets_choose`: a dialogue begins, and goes on.
-/

namespace Adventure

open Outcome Terms

/-! ## 1. Terms -/

/-- **A choice is awaited** in the dialogue with a character of the adventure. -/
def Conversation.Awaits (b : World) (v : Conversation) : Prop :=
  v.state = .awaitingChoice ∧
    ∃ name, v.character = .text name ∧ v.subject = some name ∧ b.characters.has name = true

namespace Talk

/-- The terms of a world and a conversation in it, with the messages `m`. -/
def terms (m : Messages) (b : World) (c : Cause) : Terms Talk where
  Alike t u := t.world.Alike u.world ∧ u.conversation = t.conversation
  Leads t u := (World.terms b c).Leads t.world u.world
  Sane t := World.Sane b t.world
  Fine t := World.Fine b t.world ∧ m.IsComplete
  Faults := Fault.IsMishap
  refl _ := (World.terms b c).refl _
  trans := (World.terms b c).trans
  sane_of_leads := (World.terms b c).sane_of_leads
  fine_of_leads sane fine leads := ⟨(World.terms b c).fine_of_leads sane fine.1 leads, fine.2⟩

/-- **A choice is awaited, and there is something to choose.** -/
structure Offers (b : World) (t : Talk) : Prop where
  awaits : t.conversation.Awaits b
  choices : t.options ≠ []

/-- What can be said depends on the dialogues of the world only. -/
theorem options_congr {t u : Talk} (dialogues : u.world.dialogues = t.world.dialogues)
    (conversation : u.conversation = t.conversation) : u.options = t.options := by
  simp only [options, dialogue, dialogues, conversation]

theorem Offers.congr {b : World} {t u : Talk} (offers : t.Offers b)
    (dialogues : u.world.dialogues = t.world.dialogues)
    (conversation : u.conversation = t.conversation) : u.Offers b :=
  ⟨conversation ▸ offers.awaits, options_congr dialogues conversation ▸ offers.choices⟩

/-- **What a reaction leaves behind**: if the dialogue goes on, there is something to choose.
    Complete messages say texts. -/
def Settles (m : Messages) (b : World) (r : Reaction) (t : Talk) : Prop :=
  (r.outcome = .goesOn → t.Offers b) ∧
    (m.IsComplete → ∀ x ∈ r.lines, ∃ s, x = .text s)

variable {m : Messages} {b : World} {c : Cause} {α : Type}

/-! ## 2. Parts -/

/-- A step on the world leaves the conversation. -/
theorem meets_onWorld {P : World → Prop} {Q : α → World → Prop} {K : Conversation → Prop}
    {a : Act World α} (h : (World.terms b c).Meets P a Q) :
    (terms m b c).Meets (fun t => P t.world ∧ K t.conversation) (onWorld a)
      (fun x t => Q x t.world ∧ K t.conversation) := by
  intro t u like sane pre
  have k := h like.1 sane pre.1
  exact ⟨k.same, ⟨k.alike, like.2⟩, k.leads, fun x e => ⟨k.post x e, pre.2⟩,
    fun fine => k.done fine.1, k.faults⟩

/-- A step on the world about which nothing is to be known. -/
theorem meets_world {K : Conversation → Prop} {a : Act World α}
    (h : (World.terms b c).Meets (fun _ => True) a (fun _ _ => True)) :
    (terms m b c).Meets (fun t => K t.conversation) (onWorld a)
      (fun _ t => K t.conversation) :=
  (meets_onWorld (K := K) h).weaken (fun _ _ pre => ⟨trivial, pre⟩) fun _ _ post => post.2

/-- The conversation changes. -/
theorem meets_turn {K L : Conversation → Prop} {f : Talk → Talk}
    (world : ∀ t, (f t).world = t.world)
    (same : ∀ t u, u.conversation = t.conversation → (f u).conversation = (f t).conversation)
    (h : ∀ t, K t.conversation → L (f t).conversation) :
    (terms m b c).Meets (fun t => K t.conversation) (modify f) (fun _ t => L t.conversation) := by
  refine meets_modify ?_ fun t _ pre => ⟨?_, h t pre⟩
  · rintro t u ⟨like, e⟩
    refine ⟨?_, same t u e⟩
    rw [world, world]
    exact like
  · show (World.terms b c).Leads t.world (f t).world
    rw [world]
    exact (World.terms b c).refl _

/-- A phrase as it stands, as one of the lines. -/
theorem meets_plain {P : Talk → Prop} (ph : Phrase) :
    (terms m b c).Meets P (Act.ofExcept (m.plain ph)) (fun x t =>
      P t ∧ (m.IsComplete → ∃ s, x = .text s)) := by
  refine meets_ofExcept _ (fun t x pre e => ⟨pre, fun complete => ?_⟩) (fun t _ _ fine => ?_)
    (m.mishaps_plain ph)
  · obtain ⟨s, hs, -⟩ := Messages.plain_text complete ph
    rw [e] at hs
    cases hs
    exact ⟨s, rfl⟩
  · obtain ⟨s, hs, -⟩ := Messages.plain_text fine.2 ph
    exact ⟨_, hs⟩

theorem joined_comes {between : String} {xs : List Content} (h : ∀ x ∈ xs, ∃ s, x = .text s) :
    Comes (Content.joined between xs) := by
  have texts : ∃ l : List String, xs = l.map Content.text := by
    induction xs with
    | nil => exact ⟨[], rfl⟩
    | cons x xs ih =>
        obtain ⟨s, rfl⟩ := h x (List.mem_cons_self ..)
        obtain ⟨l, rfl⟩ := ih fun y hy => h y (List.mem_cons_of_mem _ hy)
        exact ⟨s :: l, rfl⟩
  obtain ⟨l, rfl⟩ := texts
  unfold Content.joined
  rw [Content.allTexts_map_text]
  exact comes_ok _

/-- The prompt is a text. -/
theorem prompt_text {lines : List PlayerLine} {x : Content} (h : prompt m lines = .ok x) :
    ∃ s, x = .text s := by
  simp only [prompt, bind_eq_ok, pure_eq_ok] at h
  obtain ⟨-, -, -, -, s, -, rfl⟩ := h
  exact ⟨s, rfl⟩

theorem prompt_comes (complete : m.IsComplete) (lines : List PlayerLine) :
    Comes (prompt m lines) := by
  obtain ⟨heading, hh, -⟩ := Messages.plain_text complete .dialogueOptions
  obtain ⟨last, hl, -⟩ := Messages.plain_text complete .dialoguePrompt
  unfold prompt
  refine comes_bind ⟨_, hh⟩ fun x hx => comes_bind ⟨_, hl⟩ fun y hy => ?_
  rw [hh] at hx
  rw [hl] at hy
  cases hx
  cases hy
  refine comes_bind (joined_comes fun z hz => ?_) fun _ _ => comes_pure _
  rcases List.mem_cons.mp hz with rfl | hz
  · exact ⟨heading, rfl⟩
  · rcases List.mem_append.mp hz with hz | hz
    · obtain ⟨s, -, rfl⟩ := List.mem_map.mp hz
      exact ⟨s, rfl⟩
    · exact ⟨last, List.mem_singleton.mp hz⟩

theorem mishaps_prompt (m : Messages) (lines : List PlayerLine) : Mishaps (prompt m lines) :=
  mishaps_bind (m.mishaps_plain _) fun _ => mishaps_bind (m.mishaps_plain _) fun _ =>
    mishaps_bind (Content.mishaps_joined _ _) fun _ => mishaps_ok _

/-! ## 3. Going on -/

/-- A step that looks at the talk, but not at the notes. -/
theorem meets_look {P : Talk → Prop} {Q : α → Talk → Prop} {k : Talk → Act Talk α}
    (same : ∀ t notes, k ⟨{ t.world with notes }, t.conversation⟩ = k t)
    (h : ∀ t, World.Sane b t.world → P t → (terms m b c).Meets (fun u => u = t) (k t) Q) :
    (terms m b c).Meets P (get >>= k) Q := by
  refine meets_get (fun t u like => ?_) h
  obtain ⟨⟨notes, e⟩, e'⟩ := like
  cases u
  simp only at e e'
  subst e e'
  exact same t notes

/-- **The dialogue with a character comes to its end.** -/
theorem meets_terminate {P : Talk → Prop} {name : String} (known : b.characters.has name = true)
    (lines : List Content) (texts : m.IsComplete → ∀ x ∈ lines, ∃ s, x = .text s) :
    (terms m b c).Meets P (terminate m (.text name) lines) (Settles m b) := by
  unfold terminate
  refine meets_bind (Q := fun _ _ => True) (Meets.pre (meets_turn (K := fun _ => True)
    (L := fun _ => True) ?_ ?_ fun _ _ => trivial) fun _ _ _ => trivial) fun _ => ?_
  · exact fun _ => rfl
  · intro t u e
    simp only [e]
  refine meets_bind (meets_world (K := fun _ => True) (World.meets_markInteracted (.text name)
    fun w sane _ _ => ⟨name, rfl, ?_⟩)) fun _ => ?_
  · exact (World.has_character_of_plan sane.plan name).trans known
  refine meets_bind (meets_plain .dialogueEnd) fun last => ?_
  refine meets_of_state fun t _ pre => ?_
  have said : m.IsComplete → ∀ x ∈ lines ++ [last], ∃ s, x = .text s := by
    intro complete x hx
    rcases List.mem_append.mp hx with hx | hx
    · exact texts complete x hx
    · rw [List.mem_singleton.mp hx]
      exact pre.2 complete
  refine meets_look (fun _ _ => rfl) fun u _ _ => ?_
  split
  · exact Meets.pre (meets_pure _) fun _ _ _ => ⟨nofun, said⟩
  · split
    · exact Meets.pre (meets_pure _) fun _ _ _ => ⟨nofun, said⟩
    · exact Meets.pre (meets_pure _) fun _ _ _ => ⟨nofun, said⟩

/-- The player is shown what there is to say, or there is nothing and the dialogue ends. -/
theorem meets_offer {P : Talk → Prop} {name : String} (known : b.characters.has name = true)
    (lines : List Content) (texts : m.IsComplete → ∀ x ∈ lines, ∃ s, x = .text s)
    (awaits : ∀ t, P t → t.conversation.Awaits b) :
    (terms m b c).Meets P
      (do
        let t ← get
        if t.options.isEmpty then terminate m (.text name) lines
        else return { outcome := .goesOn, lines := lines ++ [← Act.ofExcept (prompt m t.options)] })
      (Settles m b) := by
  refine meets_look (fun _ _ => rfl) fun t _ pre => ?_
  split
  · exact meets_terminate known lines texts
  · next choices =>
    refine meets_bind (Q := fun x u => u = t ∧ ∃ s, x = .text s) (meets_ofExcept _
      (fun u x e h => ⟨e, prompt_text h⟩) (fun _ _ _ fine => prompt_comes fine.2 _)
      (mishaps_prompt m _)) fun x => ?_
    refine Meets.pre (meets_pure _) fun u _ post => ⟨fun _ => ?_, fun complete y hy => ?_⟩
    · rw [post.1]
      exact ⟨awaits t pre, by simpa using choices⟩
    · rcases List.mem_append.mp hy with hy | hy
      · exact texts complete y hy
      · rw [List.mem_singleton.mp hy]
        exact post.2

/-- **The dialogue goes on** at a node, or ends. -/
theorem meets_goOn {name : String} (known : b.characters.has name = true) (node : Option Figure)
    (lines : List Content) (texts : m.IsComplete → ∀ x ∈ lines, ∃ s, x = .text s) :
    (terms m b c).Meets (fun t => t.conversation.Awaits b) (goOn m (.text name) node lines)
      (Settles m b) := by
  unfold goOn
  split
  · exact meets_terminate known lines texts
  · next n =>
      refine meets_bind (meets_turn (L := Conversation.Awaits b) (fun _ => rfl)
        (fun t u e => by simp only [e]) fun _ awaits => awaits) fun _ => ?_
      refine meets_bind (meets_world (World.meets_note _ fun _ _ => trivial)) fun _ => ?_
      exact meets_offer known lines texts fun _ awaits => awaits

/-! ## 4. Beginning and choosing -/

/-- A conversation that has just begun. -/
def opened (name : String) (continuation : Content) : Conversation :=
  { state := .awaitingChoice, character := .text name, subject := some name, node := some 1
    continuation }

/-- What follows when a dialogue has begun. -/
def begun (m : Messages) (name : String) : Act Talk Reaction := do
  onWorld (World.note ("dialogue start " ++ (Content.text name).shown ++ " node 1"))
  let t ← get
  if t.options.isEmpty then terminate m (.text name) []
  else return { outcome := .goesOn, lines := [] ++ [← Act.ofExcept (prompt m t.options)] }

theorem meets_begun {name : String} (known : b.characters.has name = true)
    (continuation : Content) :
    (terms m b c).Meets (fun t => t.conversation = opened name continuation) (begun m name)
      (Settles m b) := by
  unfold begun
  refine meets_bind (meets_world (K := fun v => v = opened name continuation)
    (World.meets_note _ fun _ _ => trivial)) fun _ => ?_
  refine meets_offer known [] (fun _ _ hx => absurd hx List.not_mem_nil) fun t e => ?_
  rw [e]
  exact ⟨rfl, name, rfl, rfl, known⟩

/-- A reply that a line of the dialogue gets is one of the adventure. -/
theorem mem_effects_of_reply? {t : Talk} {id : Figure} {r : Reply}
    (h : t.dialogue.reply? id = some r) : r.effect ∈ t.world.effects := by
  have mem : r ∈ t.dialogue.replies := List.mem_of_find?_eq_some h
  unfold dialogue at mem
  cases hd : t.conversation.subject.bind t.world.dialogues.get? with
  | none =>
      rw [hd] at mem
      exact absurd mem List.not_mem_nil
  | some d =>
      rw [hd] at mem
      obtain ⟨name, -, there⟩ := Option.bind_eq_some_iff.mp hd
      exact World.mem_effects_of_reply there mem

theorem meets_answer {K : Conversation → Prop} {name : String}
    (known : b.characters.has name = true) (reply : Reply) :
    (terms m b c).Meets (fun t => K t.conversation) (answer m (.text name) reply)
      (fun x t => K t.conversation ∧ ∃ s, x = .text s) := by
  unfold answer
  refine meets_bind (Q := fun _ t => K t.conversation) (meets_reading (fun t u like => ?_)
    (fun t x _ pre _ => pre) (fun t sane _ _ => ?_) fun t => t.world.characters.mishaps_demand _)
    fun ch => ?_
  · obtain ⟨⟨notes, e⟩, -⟩ := like
    rw [e]
  · obtain ⟨ch, hc⟩ := (Roster.has_iff _).mp
      ((World.has_character_of_plan sane.plan name).trans known)
    exact ⟨ch, Roster.demand_text hc⟩
  · refine meets_bind (Q := fun _ t => K t.conversation) (meets_ofExcept _ (fun _ _ pre _ => pre)
      (fun t _ _ fine => ?_) (m.mishaps_filled _ _))
      fun said => Meets.pre (meets_pure _) fun _ _ pre => ⟨pre, said, rfl⟩
    exact Messages.filled_comes fine.2 (by simp [Phrase.fields]) rfl

/-- **The player says an open line.** -/
theorem meets_say {name : String} (known : b.characters.has name = true) (chosen : c = .choice)
    (position : Nat) (line : PlayerLine) :
    (terms m b c).Meets (fun t => t.conversation.Awaits b) (say m (.text name) position line)
      (Settles m b) := by
  unfold say
  refine meets_look (fun _ _ => rfl) fun t sane awaits => ?_
  have effect : ∀ r, t.dialogue.reply? line.reply = some r → r.effect ∈ b.effects := by
    intro r hr
    rw [← World.effects_of_plan sane.plan]
    exact mem_effects_of_reply? hr
  simp only
  refine meets_bind ((meets_world (K := Conversation.Awaits b)
    (World.meets_change (Q := fun _ _ => True) (fun _ _ => rfl)
      fun w _ _ => ⟨.say w _ _ _ chosen, trivial⟩)).pre fun u _ e => e ▸ awaits) fun _ => ?_
  refine meets_bind (meets_world (World.meets_note _ fun _ _ => trivial)) fun _ => ?_
  have refreshed := meets_world (m := m) (K := Conversation.Awaits b)
    (World.meets_refreshObservation (b := b) (c := c) (P := fun _ => True) false)
  cases reply : t.dialogue.reply? line.reply with
  | none =>
      refine meets_bind (Q := fun lines u => u.conversation.Awaits b ∧ lines = [])
        (Meets.pre (meets_pure _) fun _ _ pre => ⟨pre, rfl⟩) fun lines => ?_
      refine meets_of_state fun u _ pre => ?_
      refine meets_bind (refreshed.pre fun _ _ e => e ▸ pre.1) fun _ => ?_
      refine meets_goOn known _ lines fun _ x hx => ?_
      rw [pre.2] at hx
      exact absurd hx List.not_mem_nil
  | some r =>
      refine meets_bind (meets_answer known r) fun said => ?_
      refine meets_bind (Q := fun lines u => u.conversation.Awaits b ∧ ∃ s, lines = [.text s])
        (Meets.pre (meets_pure _) ?_) fun lines => ?_
      · rintro u _ ⟨awaits, s, rfl⟩
        exact ⟨awaits, s, rfl⟩
      refine meets_of_state fun u _ pre => ?_
      obtain ⟨awaits, s, rfl⟩ := pre
      refine meets_bind (refreshed.pre fun _ _ e => e ▸ awaits) fun _ => ?_
      refine meets_bind (meets_world (World.meets_apply (effect r reply))) fun _ => ?_
      exact meets_goOn known _ _ fun _ x hx => ⟨s, List.mem_singleton.mp hx⟩

/-- What asks again says texts. -/
theorem askAgain_texts {sentence : Content} {r : Reaction} (h : askAgain m sentence = .ok r)
    (text : m.IsComplete → ∃ s, sentence = .text s) :
    m.IsComplete → ∀ x ∈ r.lines, ∃ s, x = .text s := by
  intro complete x hx
  obtain ⟨last, hl, e⟩ := bind_eq_ok.mp h
  obtain ⟨s, hs, -⟩ := Messages.plain_text complete .dialoguePrompt
  rw [hl] at hs
  cases hs
  cases e
  simp only [List.mem_cons, List.not_mem_nil, or_false] at hx
  rcases hx with rfl | rfl
  · exact text complete
  · exact ⟨s, rfl⟩

theorem askAgain_comes (complete : m.IsComplete) (sentence : Content) :
    Comes (askAgain m sentence) := by
  obtain ⟨s, hs, -⟩ := Messages.plain_text complete .dialoguePrompt
  exact comes_bind ⟨_, hs⟩ fun _ _ => comes_pure _

theorem mishaps_askAgain (m : Messages) (sentence : Content) : Mishaps (askAgain m sentence) :=
  mishaps_bind (m.mishaps_plain _) fun _ => mishaps_ok _

/-- The player is asked again, and the same choice is awaited. -/
theorem meets_again {r : Except Fault Reaction}
    (texts : ∀ x, r = .ok x → m.IsComplete → ∀ y ∈ x.lines, ∃ s, y = .text s)
    (comes : m.IsComplete → Comes r) (mishaps : Mishaps r) :
    (terms m b c).Meets (Offers b) (Act.ofExcept r) (Settles m b) :=
  meets_ofExcept _ (fun _ x offers e => ⟨fun _ => offers, texts x e⟩)
    (fun _ _ _ fine => comes fine.2) mishaps

/-- **The player answers a prompt.** -/
theorem meets_choose (chosen : c = .choice) (raw : String) :
    (terms m b c).Meets (Offers b) (choose m raw) (Settles m b) := by
  unfold choose
  refine meets_look (fun t notes => ?_) fun t _ offers => ?_
  · have same : options ⟨{ t.world with notes }, t.conversation⟩ = t.options := rfl
    simp only [same]
  obtain ⟨state, name, character, subject, known⟩ := offers.awaits
  simp only [character]
  rw [if_pos ⟨state, nofun⟩]
  split
  · refine (meets_again (fun x e => ?_) (fun complete => ?_)
      (mishaps_bind (m.mishaps_plain _) (mishaps_askAgain m))).pre fun _ _ e => e ▸ offers
    · obtain ⟨sentence, hs, e⟩ := bind_eq_ok.mp e
      refine askAgain_texts e fun complete => ?_
      obtain ⟨s, hs', -⟩ := Messages.plain_text complete .dialogueNotANumber
      rw [hs] at hs'
      cases hs'
      exact ⟨s, rfl⟩
    · obtain ⟨s, hs, -⟩ := Messages.plain_text complete .dialogueNotANumber
      exact comes_bind ⟨_, hs⟩ fun _ _ => askAgain_comes complete _
  · split
    · exact (meets_say known chosen _ _).pre fun _ _ e => e ▸ offers.awaits
    · refine (meets_again (fun x e => ?_) (fun complete => ?_)
        (mishaps_bind (m.mishaps_filled _ _) fun _ => mishaps_askAgain m _)).pre
        fun _ _ e => e ▸ offers
      · obtain ⟨sentence, -, e⟩ := bind_eq_ok.mp e
        exact askAgain_texts e fun _ => ⟨sentence, rfl⟩
      · exact comes_bind (Messages.filled_comes complete (by simp [Phrase.fields]) rfl)
          fun _ _ => askAgain_comes complete _

end Talk

end Adventure
