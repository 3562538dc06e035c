import Adventure.Proofs.Terms

/-!
# Frames: what steps leave alone

* `Frame`: how the state after a step has to do with the one before it;
* `Frame.Holds`: a step keeps within a frame, whether it comes to a fault or not;
* `holds_pure`, `holds_bind` and the lemmas after them: a step that is put together from steps that
  keep within a frame keeps within it;
* `Terms.framed`: the terms of a play and a frame beside them.

Terms say what a step does and when it comes to a fault. A frame says less and asks for less: no
property of the state that the step begins with is needed.
-/

namespace Adventure

/-- **How the state after a step has to do with the one before it.** -/
structure Frame (σ : Type) where
  Within : σ → σ → Prop
  refl : ∀ s, Within s s
  trans : ∀ {s t u}, Within s t → Within t u → Within s u

namespace Frame

variable {σ τ α β : Type}

/-- **A step keeps within a frame.** -/
def Holds (F : Frame σ) (a : Act σ α) : Prop := ∀ s, F.Within s (a.runOn s).2

variable {F : Frame σ}

theorem holds_pure (x : α) : F.Holds (pure x) := F.refl

theorem holds_throw (e : Fault) : F.Holds (throw e : Act σ α) := F.refl

theorem holds_ofExcept (r : Except Fault α) : F.Holds (Act.ofExcept r) := F.refl

theorem holds_reading (f : σ → Except Fault α) : F.Holds (Act.reading f) := F.refl

/-- **One step after the other.** -/
theorem holds_bind {a : Act σ α} {f : α → Act σ β} (ha : F.Holds a) (hf : ∀ x, F.Holds (f x)) :
    F.Holds (a >>= f) := by
  intro s
  have first := ha s
  rw [Act.runOn_bind]
  rcases h : a.runOn s with ⟨r, t⟩
  rw [h] at first
  cases r with
  | error e => exact first
  | ok x => exact F.trans first (hf x t)

/-- What comes after a step leads no further. -/
theorem within_after {a : Act σ α} {f : α → Act σ β} (hf : ∀ x, F.Holds (f x)) (s : σ) :
    F.Within (a.runOn s).2 ((a >>= f).runOn s).2 := by
  rw [Act.runOn_bind]
  rcases a.runOn s with ⟨r, t⟩
  cases r with
  | error e => exact F.refl t
  | ok x => exact hf x t

theorem holds_get {k : σ → Act σ α} (h : ∀ s, F.Holds (k s)) : F.Holds (get >>= k) :=
  holds_bind F.refl h

theorem holds_forM {f : α → Act σ Unit} (h : ∀ x, F.Holds (f x)) (l : List α) :
    F.Holds (l.forM f) := by
  induction l with
  | nil => exact holds_pure ()
  | cons x l ih => exact holds_bind (h x) fun _ => ih

/-- A step on a part of the state, of which the frame does not speak. -/
theorem holds_zoom {get : σ → τ} {set : τ → σ → σ} (h : ∀ t s, F.Within s (set t s))
    (a : Act τ α) : F.Holds (a.zoom get set) :=
  fun s => h _ s

end Frame

namespace Terms

variable {σ α : Type}

/-- **Terms and a frame beside them.** States are alike if they are the same, and nothing is said
    of where there are no faults. -/
def framed (T : Terms σ) (F : Frame σ) : Terms σ where
  Alike s t := t = s
  Leads s t := T.Leads s t ∧ F.Within s t
  Sane := T.Sane
  Fine _ := False
  Faults := T.Faults
  refl s := ⟨T.refl s, F.refl s⟩
  trans h k := ⟨T.trans h.1 k.1, F.trans h.2 k.2⟩
  sane_of_leads sane leads := T.sane_of_leads sane leads.1
  fine_of_leads _ fine _ := fine

/-- **A step that meets the terms and keeps within the frame** meets both. -/
theorem Meets.framed {T : Terms σ} {F : Frame σ} {P : σ → Prop} {a : Act σ α}
    {Q : α → σ → Prop} (h : T.Meets P a Q) (like : ∀ s, T.Alike s s) (within : F.Holds a) :
    (T.framed F).Meets P a Q := by
  intro s t same sane pre
  cases same
  have k := h (like s) sane pre
  exact ⟨rfl, rfl, ⟨k.leads, within s⟩, k.post, False.elim, k.faults⟩

/-- What a step does to a state for which the terms hold. -/
theorem Meets.within {T : Terms σ} {F : Frame σ} {P : σ → Prop} {a : Act σ α}
    {Q : α → σ → Prop} (h : (T.framed F).Meets P a Q) {s : σ} (sane : T.Sane s) (pre : P s) :
    F.Within s (a.runOn s).2 :=
  (h (show (T.framed F).Alike s s from rfl) sane pre).leads.2

end Terms

end Adventure
