import Adventure.Proofs.Intent
import Adventure.Proofs.Messages
import Adventure.Proofs.World.Questions
import Adventure.Proofs.World.Steps
import Adventure.Turn.Stage

/-!
# The ground that the rules of the verbs stand on

* `Setting.Suits`: terms of a stage that fit those of its world, and hooks that meet them;
* `Stage.Begins`: how things stand when a rule is asked;
* `meets_world`, `meets_ask`, `meets_say`, `meets_sayWith`, `meets_joined`: what rules are made of.
-/

namespace Adventure

open Outcome

/-- **The terms of a stage suit the rules**: they fit the terms of the world, and the hooks meet
    them. -/
structure Setting.Suits {σ : Type} (s : Setting σ) (b : World) (c : Cause) (T : Terms (Stage σ)) :
    Prop where
  alike : ∀ {p q}, T.Alike p q → ∃ notes, q.world = { p.world with notes }
  sane : ∀ {p}, T.Sane p → World.Sane b p.world
  fine : ∀ {p}, T.Fine p → World.Fine b p.world ∧ s.messages.IsComplete
  faults : ∀ {e}, e.IsMishap → T.Faults e
  world : ∀ {α : Type} {P : World → Prop} {Q : α → World → Prop} {a : Act World α},
    (World.terms b c).Meets P a Q →
      T.Meets (fun p => P p.world) (Stage.onWorld a) (fun x p => Q x p.world)
  /-- The player is asked for the code of a locked room. -/
  knock : ∀ target : String,
    T.Meets (fun p => c.Approaches p.world target ∧
        ∃ r, p.world.rooms.get? target = some r ∧ r.locked = true)
      (Stage.redirect (.doorCode target)) (fun _ _ => True)
  roomChanged : T.Meets (fun _ => True) s.hooks.roomChanged (fun _ _ => True)
  startTicker : T.Meets (fun _ => True) s.hooks.startTicker (fun _ _ => True)
  stopTicker : T.Meets (fun _ => True) s.hooks.stopTicker (fun _ _ => True)
  beginDialogue : ∀ id : String,
    T.Meets (fun p => p.router.waiting = none ∧ p.world.characters.has id = true)
      (s.hooks.beginDialogue id) (fun _ _ => True)
  save : ∀ write, s.hooks.save = some write →
    T.Meets (fun p => c.verb? = some .save ∧ p.world.isCornered = .ok false) write
      (fun _ _ => True)

/-- How things stand when a rule is asked: the world is the one in which the line was said, what it
    names is there, and nothing waits for a line. -/
structure Stage.Begins {σ : Type} (before : World) (i : Intent) (p : Stage σ) : Prop where
  waiting : p.router.waiting = none
  same : before.Alike p.world
  fits : i.FitsIn p.world

/-- Complete messages say a text. -/
def Setting.Says {σ : Type} (s : Setting σ) (x : Content) : Prop :=
  s.messages.IsComplete → ∃ t, x = .text t

theorem allTexts_comes {sayings : List Content} (h : ∀ x ∈ sayings, ∃ t, x = .text t) :
    Comes (Content.allTexts sayings) := by
  induction sayings with
  | nil => exact comes_ok []
  | cons x sayings ih =>
      obtain ⟨t, rfl⟩ := h x (List.mem_cons_self ..)
      exact comes_map _ (ih fun y hy => h y (List.mem_cons_of_mem _ hy))

namespace Setting.Suits

open Terms

variable {σ α : Type} {s : Setting σ} {b : World} {c : Cause} {T : Terms (Stage σ)}
variable {P : Stage σ → Prop}

section

variable (S : s.Suits b c T)

include S

/-- A step on the world, about which nothing is to be known afterwards. -/
theorem meets_world {I : World → Prop} {a : Act World α}
    (h : (World.terms b c).Meets I a (fun _ _ => True))
    (hP : ∀ p, World.Sane b p.world → P p → I p.world) :
    T.Meets P (Stage.onWorld a) (fun _ _ => True) :=
  (S.world h).weaken (fun p sane pre => hP p (S.sane sane) pre) fun _ _ _ => trivial

/-- **A question to the world** that does not look at the notes. -/
theorem meets_ask {f : World → Except Fault α}
    (same : ∀ w notes, f { w with notes } = f w)
    (hF : ∀ p, World.Sane b p.world → P p → World.Fine b p.world → Comes (f p.world))
    (hE : ∀ w, Mishaps (f w)) :
    T.Meets P (Stage.ask f) (fun x p => P p ∧ f p.world = .ok x) := by
  refine meets_reading (fun p q like => ?_) (fun p x _ pre e => ⟨pre, e⟩)
    (fun p sane pre fine => hF p (S.sane sane) pre (S.fine fine).1)
    fun p e h => S.faults (hE p.world e h)
  obtain ⟨notes, e⟩ := S.alike like
  rw [e]
  exact same p.world notes

/-- An entry of a roster of the world. -/
theorem meets_demand {roster : World → Roster α} (id : String)
    (same : ∀ w notes, roster { w with notes } = roster w)
    (has : ∀ p, World.Sane b p.world → P p → (roster p.world).has id = true) :
    T.Meets P (Stage.ask (fun w => (roster w).demand (.text id)))
      (fun x p => P p ∧ (roster p.world).get? id = some x) := by
  refine (S.meets_ask (fun w notes => by rw [same]) (fun p sane pre _ => ?_)
    fun w => (roster w).mishaps_demand _).post fun x p post => ⟨post.1, ?_⟩
  · obtain ⟨x, hx⟩ := (Roster.has_iff _).mp (has p sane pre)
    exact ⟨x, Roster.demand_text hx⟩
  · obtain ⟨name, e, hx⟩ := Roster.demand_eq_ok post.2
    cases e
    exact hx

/-- **A phrase as it stands.** -/
theorem meets_say (ph : Phrase) :
    T.Meets P (s.say ph) (fun x p => P p ∧ s.messages.plain ph = .ok x) := by
  refine meets_ofExcept _ (fun _ _ pre e => ⟨pre, e⟩) (fun p _ _ fine => ?_)
    fun e h => S.faults (s.messages.mishaps_plain ph e h)
  obtain ⟨t, ht, -⟩ := Messages.plain_text (S.fine fine).2 ph
  exact ⟨_, ht⟩

/-- **A phrase with its fields filled.** -/
theorem meets_sayWith {ph : Phrase} {values : List (String × Filling)}
    (fields : values.map Prod.fst = ph.fields) (given : ph.fields ≠ []) :
    T.Meets P (s.sayWith ph values) (fun x p => P p ∧ s.Says x) := by
  refine meets_ofExcept _ (fun _ x pre e => ⟨pre, fun _ => ?_⟩) (fun p _ _ fine => ?_)
    fun e h => S.faults (mishaps_map _ (s.messages.mishaps_filled ph values) e h)
  · obtain ⟨t, -, rfl⟩ := map_eq_ok.mp e
    exact ⟨t, rfl⟩
  · exact comes_map _ (Messages.filled_comes (S.fine fine).2 given fields)

/-- Several sayings as one text. -/
theorem meets_joined (between : String) (sayings : List Content)
    (said : ∀ x ∈ sayings, s.Says x) :
    T.Meets P (Setting.joined between sayings) (fun _ _ => True) := by
  refine meets_ofExcept _ (fun _ _ _ _ => trivial) (fun p _ _ fine => ?_)
    fun e h => S.faults (mishaps_map _ (Content.mishaps_joined between sayings) e h)
  exact comes_map _ (comes_map _ (allTexts_comes fun x hx => said x hx (S.fine fine).2))

omit S in
theorem says_text (t : String) : s.Says (.text t) := fun _ => ⟨t, rfl⟩

omit S in
theorem says_plain {ph : Phrase} {x : Content} (h : s.messages.plain ph = .ok x) : s.Says x := by
  intro complete
  obtain ⟨t, ht, -⟩ := Messages.plain_text complete ph
  rw [h] at ht
  cases ht
  exact ⟨t, rfl⟩

/-- A phrase, and nothing after it. -/
theorem meets_saying (ph : Phrase) : T.Meets P (s.say ph) (fun _ _ => True) :=
  (S.meets_say ph).post fun _ _ _ => trivial

theorem meets_sayingWith {ph : Phrase} {values : List (String × Filling)}
    (fields : values.map Prod.fst = ph.fields) (given : ph.fields ≠ []) :
    T.Meets P (s.sayWith ph values) (fun _ _ => True) :=
  (S.meets_sayWith fields given).post fun _ _ _ => trivial

/-- A step that looks at the world, but not at the notes. -/
theorem meets_look {k : Stage σ → Act (Stage σ) α} {Q : α → Stage σ → Prop}
    (same : ∀ p q notes, q.world = { p.world with notes } → k q = k p)
    (h : ∀ p, World.Sane b p.world → P p → T.Meets (fun q => q = p) (k p) Q) :
    T.Meets P (get >>= k) Q := by
  refine meets_get (fun p q like => ?_) fun p sane pre => h p (S.sane sane) pre
  obtain ⟨notes, e⟩ := S.alike like
  exact same p q notes e

end

end Setting.Suits

end Adventure
