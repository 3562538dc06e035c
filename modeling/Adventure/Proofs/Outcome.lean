import Adventure.Fault

/-!
# Outcomes: what it takes to come to a result

* `bind_eq_ok`, `pure_eq_ok`, `map_eq_ok`: when readings that are put together come to a result;
* `Comes`: a reading comes to some result;
* `entries_eq_ok`, `filledEntries_eq_ok`, `demand_eq_ok`: what content has to be for that.
-/

namespace Adventure

namespace Outcome

variable {ε α β : Type}

@[simp] theorem bind_eq_ok {x : Except ε α} {f : α → Except ε β} {b : β} :
    (x >>= f) = .ok b ↔ ∃ a, x = .ok a ∧ f a = .ok b := by
  cases x <;> simp [bind, Except.bind]

@[simp] theorem pure_eq_ok {a b : α} : (pure a : Except ε α) = .ok b ↔ a = b := by
  simp [pure, Except.pure]

@[simp] theorem map_eq_ok {x : Except ε α} {f : α → β} {b : β} :
    x.map f = .ok b ↔ ∃ a, x = .ok a ∧ f a = b := by
  cases x <;> simp [Except.map]

/-- The reading comes to some result. -/
def Comes (x : Except ε α) : Prop := ∃ a, x = .ok a

theorem comes_ok (a : α) : Comes (.ok a : Except ε α) := ⟨a, rfl⟩

theorem comes_pure (a : α) : Comes (pure a : Except ε α) := ⟨a, rfl⟩

theorem comes_bind {x : Except ε α} {f : α → Except ε β} (hx : Comes x)
    (hf : ∀ a, x = .ok a → Comes (f a)) : Comes (x >>= f) := by
  obtain ⟨a, ha⟩ := hx
  obtain ⟨b, hb⟩ := hf a ha
  exact ⟨b, bind_eq_ok.mpr ⟨a, ha, hb⟩⟩

theorem comes_map {x : Except ε α} (f : α → β) (hx : Comes x) : Comes (x.map f) := by
  obtain ⟨a, ha⟩ := hx
  exact ⟨f a, map_eq_ok.mpr ⟨a, ha, rfl⟩⟩

end Outcome

namespace Content

theorem entries_eq_ok {c : Content} {es : List (String × Content)} :
    c.entries = .ok es ↔ c = .mapping es := by
  cases c <;> simp [entries]

/-- What is walked through by entries is a mapping, or not filled and without any. -/
theorem filledEntries_eq_ok {c : Content} {es : List (String × Content)}
    (h : c.filledEntries = .ok es) : c = .mapping es ∨ es = [] := by
  unfold filledEntries at h
  split at h
  · exact .inl (entries_eq_ok.mp h)
  · cases h
    exact .inr rfl

theorem demand_eq_ok {c x : Content} {k : String} (h : c.demand k = .ok x) :
    ∃ es, c = .mapping es ∧ es.lookup k = some x := by
  unfold demand at h
  split at h
  · split at h
    · cases h
      exact ⟨_, rfl, by assumption⟩
    · cases h
  · cases h

theorem demand_of_lookup {es : List (String × Content)} {k : String} {x : Content}
    (h : es.lookup k = some x) : (Content.mapping es).demand k = .ok x := by
  simp [demand, h]

end Content

end Adventure
