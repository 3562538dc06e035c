import Adventure.Fault

/-!
# Terms: what the steps of a play keep to

* `Act.runOn_bind` and the lemmas after it: what a step that is put together comes to;
* `Terms`: which states look alike, where a state may lead, which states are sane and fine, and
  which faults there may be;
* `Terms.Keeps`, `Terms.Meets`: two runs from states that look alike keep to the terms; a step
  meets them from every state with a property;
* `meets_pure`, `meets_bind` and the rules after them: a step that is put together from steps that
  meet the terms meets them.

A step that meets terms is told once what it may do (`Leads`, whether it comes to a fault or not),
when it comes to no fault (`Fine`), what faults it comes to otherwise (`Faults`), and what it must
not look at (`Alike`).
-/

namespace Adventure

/-! ## 1. Runs of steps -/

namespace Act

variable {σ τ α β : Type}

/-- A fault of the first step is the fault of both, and the second one is not begun. -/
theorem runOn_bind (a : Act σ α) (f : α → Act σ β) (s : σ) :
    (a >>= f).runOn s = match a.runOn s with
      | (.ok x, t) => (f x).runOn t
      | (.error e, t) => (.error e, t) := by
  unfold runOn
  simp only [ExceptT.run_bind, StateT.run_bind]
  rcases a.run.run s with ⟨r, t⟩
  cases r with
  | ok x => rfl
  | error e => rfl

theorem runOn_bind_ok {a : Act σ α} {f : α → Act σ β} {s t : σ} {x : α}
    (h : a.runOn s = (.ok x, t)) : (a >>= f).runOn s = (f x).runOn t := by
  rw [runOn_bind, h]

theorem runOn_bind_error {a : Act σ α} {f : α → Act σ β} {s t : σ} {e : Fault}
    (h : a.runOn s = (.error e, t)) : (a >>= f).runOn s = (.error e, t) := by
  rw [runOn_bind, h]

theorem runOn_bind_eq_ok {a : Act σ α} {f : α → Act σ β} {s u : σ} {y : β} :
    (a >>= f).runOn s = (.ok y, u) ↔
      ∃ x t, a.runOn s = (.ok x, t) ∧ (f x).runOn t = (.ok y, u) := by
  rw [runOn_bind]
  rcases a.runOn s with ⟨r, t⟩
  cases r with
  | ok x =>
      constructor
      · exact fun h => ⟨x, t, rfl, h⟩
      · rintro ⟨_, _, ⟨⟩, h⟩
        exact h
  | error e => simp

/-- What comes after a step without changing the state. -/
theorem runOn_bind_snd {a : Act σ α} {f : α → Act σ β} {s : σ}
    (h : ∀ x t, ((f x).runOn t).2 = t) : ((a >>= f).runOn s).2 = (a.runOn s).2 := by
  rw [runOn_bind]
  rcases a.runOn s with ⟨r, t⟩
  cases r with
  | error e => rfl
  | ok x => exact h x t

@[simp] theorem runOn_pure (x : α) (s : σ) : (pure x : Act σ α).runOn s = (.ok x, s) := rfl

@[simp] theorem runOn_throw (e : Fault) (s : σ) : (throw e : Act σ α).runOn s = (.error e, s) :=
  rfl

@[simp] theorem runOn_get (s : σ) : (get : Act σ σ).runOn s = (.ok s, s) := rfl

@[simp] theorem runOn_modify (f : σ → σ) (s : σ) :
    (modify f : Act σ Unit).runOn s = (.ok (), f s) := rfl

@[simp] theorem runOn_reading (f : σ → Except Fault α) (s : σ) :
    (reading f).runOn s = (f s, s) := rfl

@[simp] theorem runOn_ofExcept (r : Except Fault α) (s : σ) :
    (ofExcept r : Act σ α).runOn s = (r, s) := rfl

end Act

/-! ## 2. Terms -/

/-- What the steps of a play keep to. -/
structure Terms (σ : Type) where
  /-- The states differ in nothing that a step may look at. -/
  Alike : σ → σ → Prop
  /-- Steps may lead from the first state to the second. -/
  Leads : σ → σ → Prop
  /-- What the terms hold for. -/
  Sane : σ → Prop
  /-- Where no step comes to a fault. -/
  Fine : σ → Prop
  /-- The faults that steps come to elsewhere. -/
  Faults : Fault → Prop
  refl : ∀ s, Leads s s
  trans : ∀ {s t u}, Leads s t → Leads t u → Leads s u
  sane_of_leads : ∀ {s t}, Sane s → Leads s t → Sane t
  fine_of_leads : ∀ {s t}, Sane s → Fine s → Leads s t → Fine t

namespace Terms

variable {σ α β : Type} (T : Terms σ)

/-- A run from `s` and one from a state that looks like it keep to the terms. -/
structure Keeps (s : σ) (r r' : Except Fault α × σ) (Q : α → σ → Prop) : Prop where
  same : r'.1 = r.1
  alike : T.Alike r.2 r'.2
  leads : T.Leads s r.2
  post : ∀ x, r.1 = .ok x → Q x r.2
  done : T.Fine s → ∃ x, r.1 = .ok x
  faults : ∀ e, r.1 = .error e → T.Faults e

/-- **A step meets the terms** from the states with the property `P`, and when it comes to a result,
    result and state have the property `Q`. -/
def Meets (P : σ → Prop) (a : Act σ α) (Q : α → σ → Prop) : Prop :=
  ∀ ⦃s t : σ⦄, T.Alike s t → T.Sane s → P s → T.Keeps s (a.runOn s) (a.runOn t) Q

section Rules

variable {T} {P P' : σ → Prop} {Q Q' : α → σ → Prop} {R : β → σ → Prop}
variable {a : Act σ α}

/-! ## 3. Rules for properties -/

theorem Meets.weaken (h : T.Meets P a Q) (hP : ∀ s, T.Sane s → P' s → P s)
    (hQ : ∀ x s, Q x s → Q' x s) : T.Meets P' a Q' := by
  intro s t like sane pre
  have k := h like sane (hP s sane pre)
  exact ⟨k.same, k.alike, k.leads, fun x e => hQ x _ (k.post x e), k.done, k.faults⟩

/-- What is not needed of the state before. -/
theorem Meets.pre (h : T.Meets P a Q) (hP : ∀ s, T.Sane s → P' s → P s) : T.Meets P' a Q :=
  h.weaken hP (fun _ _ q => q)

/-- What is not needed of the state after. -/
theorem Meets.post (h : T.Meets P a Q) (hQ : ∀ x s, Q x s → Q' x s) : T.Meets P a Q' :=
  h.weaken (fun _ _ p => p) hQ

/-- One state at a time. -/
theorem meets_of_state (h : ∀ s, T.Sane s → P s → T.Meets (fun u => u = s) a Q) :
    T.Meets P a Q :=
  fun s _ like sane pre => h s sane pre like sane rfl

/-! ## 4. Rules for steps -/

theorem meets_pure (x : α) : T.Meets (fun s => Q x s) (pure x) Q := by
  intro s t like sane pre
  refine ⟨rfl, like, T.refl s, fun y e => ?_, fun _ => ⟨x, rfl⟩, nofun⟩
  cases e
  exact pre

/-- A result about which nothing is to be known. -/
theorem meets_return (x : α) : T.Meets P (pure x) (fun _ _ => True) :=
  Meets.pre (meets_pure (Q := fun _ _ => True) x) fun _ _ _ => trivial

theorem meets_throw (e : Fault) (h : ∀ s, T.Sane s → P s → ¬ T.Fine s) (hE : T.Faults e) :
    T.Meets P (throw e) Q := by
  intro s t like sane pre
  refine ⟨rfl, like, T.refl s, fun y k => ?_, fun fine => absurd fine (h s sane pre), fun e k => ?_⟩
  · cases k
  · cases k
    exact hE

theorem meets_ofExcept (r : Except Fault α) (hQ : ∀ s x, P s → r = .ok x → Q x s)
    (hF : ∀ s, T.Sane s → P s → T.Fine s → ∃ x, r = .ok x)
    (hE : ∀ e, r = .error e → T.Faults e) : T.Meets P (Act.ofExcept r) Q := by
  intro s t like sane pre
  exact ⟨rfl, like, T.refl s, fun x e => hQ s x pre e, fun fine => hF s sane pre fine, hE⟩

theorem meets_reading {f : σ → Except Fault α} (same : ∀ s t, T.Alike s t → f t = f s)
    (hQ : ∀ s x, T.Sane s → P s → f s = .ok x → Q x s)
    (hF : ∀ s, T.Sane s → P s → T.Fine s → ∃ x, f s = .ok x)
    (hE : ∀ s e, f s = .error e → T.Faults e) : T.Meets P (Act.reading f) Q := by
  intro s t like sane pre
  exact ⟨same s t like, like, T.refl s, fun x e => hQ s x sane pre e,
    fun fine => hF s sane pre fine, hE s⟩

theorem meets_modify {f : σ → σ} {Q : Unit → σ → Prop}
    (same : ∀ s t, T.Alike s t → T.Alike (f s) (f t))
    (h : ∀ s, T.Sane s → P s → T.Leads s (f s) ∧ Q () (f s)) :
    T.Meets P (modify f) Q := by
  intro s t like sane pre
  exact ⟨rfl, same s t like, (h s sane pre).1, fun _ _ => (h s sane pre).2, fun _ => ⟨(), rfl⟩,
    nofun⟩

/-- **One step after the other.** -/
theorem meets_bind {f : α → Act σ β} (ha : T.Meets P a Q) (hf : ∀ x, T.Meets (Q x) (f x) R) :
    T.Meets P (a >>= f) R := by
  intro s t like sane pre
  have k := ha like sane pre
  rw [Act.runOn_bind, Act.runOn_bind]
  rcases hs : a.runOn s with ⟨r, u⟩
  rcases ht : a.runOn t with ⟨r', u'⟩
  obtain ⟨same, alike, leads, post, done, faults⟩ := k
  rw [hs, ht] at same alike
  rw [hs] at leads post done faults
  simp only at same alike leads post done faults
  subst same
  cases r' with
  | error e =>
      refine ⟨rfl, alike, leads, fun x e => ?_, fun fine => ?_, fun _ k => ?_⟩
      · cases e
      · obtain ⟨x, e⟩ := done fine
        cases e
      · cases k
        exact faults e rfl
  | ok x =>
      have k := hf x alike (T.sane_of_leads sane leads) (post x rfl)
      exact ⟨k.same, k.alike, T.trans leads k.leads, k.post,
        fun fine => k.done (T.fine_of_leads sane fine leads), k.faults⟩

/-- A step that looks at the state: what it goes on with does not tell states apart that look
    alike. -/
theorem meets_get {k : σ → Act σ α} (same : ∀ s t, T.Alike s t → k t = k s)
    (h : ∀ s, T.Sane s → P s → T.Meets (fun u => u = s) (k s) Q) :
    T.Meets P (get >>= k) Q := by
  intro s t like sane pre
  rw [Act.runOn_bind_ok (Act.runOn_get s), Act.runOn_bind_ok (Act.runOn_get t), same s t like]
  exact h s sane pre like sane rfl

end Rules

end Terms

end Adventure
