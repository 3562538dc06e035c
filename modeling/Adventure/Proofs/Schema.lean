import Adventure.Schema

/-!
# What a reading that went well was made of

* `Checked.map_eq_good`, `Checked.seq_eq_good`: values put together from values;
* `Reader.optional_eq_good`, `record_eq_good`, `nullable_eq_good`, `listOf_eq_good`,
  `table_eq_good`: readers of parts and records.
-/

namespace Adventure

/-! ## 1. Checked values -/

namespace Checked

variable {α β : Type}

theorem map_eq_good {f : α → β} {x : Checked α} {b : β} :
    f <$> x = .good b ↔ ∃ a, x = .good a ∧ f a = b := by
  cases x with
  | good a =>
      show Checked.good (f a) = .good b ↔ _
      simp
  | bad ps =>
      show Checked.bad ps = .good b ↔ _
      simp

theorem seq_eq_good {f : Checked (α → β)} {x : Checked α} {b : β} :
    f <*> x = .good b ↔ ∃ g a, f = .good g ∧ x = .good a ∧ g a = b := by
  show f.app x = .good b ↔ _
  cases f with
  | good g =>
      cases x with
      | good a => simp [app]
      | bad ps => simp [app]
  | bad ps =>
      cases x with
      | good a => simp [app]
      | bad qs => simp [app]

theorem within_eq_good {step : String} {x : Checked α} {a : α} :
    x.within step = .good a ↔ x = .good a := by
  cases x with
  | good a => rfl
  | bad ps => simp [within]

end Checked

/-! ## 2. Readers -/

namespace Reader

open Checked

variable {α : Type}

theorem optional_eq_good {es : List (String × Content)} {name : String} {r : Reader α}
    {default a : α} (h : optional es name r default = .good a) :
    (∃ x, es.lookup name = some x ∧ r x = .good a) ∨ a = default := by
  unfold optional at h
  split at h
  · next x found => exact .inl ⟨x, found, within_eq_good.mp h⟩
  · cases h
    exact .inr rfl

/-- A record is a mapping from which the fields are read. -/
theorem record_eq_good {names : List String} {fields : List (String × Content) → Checked α}
    {c : Content} {a : α} (h : record names fields c = .good a) :
    ∃ es, c = .mapping es ∧ fields es = .good a := by
  unfold record at h
  split at h
  · next es =>
      unfold closed at h
      split at h
      · exact ⟨es, rfl, h⟩
      · cases hx : fields es with
        | good a => simp [hx, Checked.app, Checked.map] at h
        | bad ps => simp [hx, Checked.app, Checked.map] at h
  · cases h

theorem nullable_eq_good {r : Reader α} {c : Content} {o : Option α}
    (h : nullable r c = .good o) : o = none ∨ ∃ a, o = some a ∧ r c = .good a := by
  unfold nullable at h
  split at h
  · cases h
    exact .inl rfl
  · next c' _ =>
      cases hr : r c with
      | good a =>
          simp only [hr, Checked.map] at h
          cases h
          exact .inr ⟨a, rfl, rfl⟩
      | bad ps =>
          simp only [hr, Checked.map] at h
          cases h

theorem elementsFrom_eq_good {r : Reader α} {i : Nat} {xs : List Content} {l : List α}
    (h : elementsFrom r i xs = .good l) : ∀ a ∈ l, ∃ x ∈ xs, r x = .good a := by
  induction xs generalizing i l with
  | nil =>
      cases h
      exact fun _ ha => absurd ha List.not_mem_nil
  | cons x xs ih =>
      unfold elementsFrom at h
      obtain ⟨g, as, hg, has, rfl⟩ := seq_eq_good.mp h
      obtain ⟨a, ha, rfl⟩ := map_eq_good.mp hg
      intro a' hm
      rcases List.mem_cons.mp hm with rfl | hm
      · exact ⟨x, List.mem_cons_self .., within_eq_good.mp ha⟩
      · obtain ⟨y, hy, e⟩ := ih has a' hm
        exact ⟨y, List.mem_cons_of_mem _ hy, e⟩

/-- The elements of what is read are read from elements of a list. -/
theorem listOf_eq_good {r : Reader α} {c : Content} {l : List α} (h : listOf r c = .good l) :
    ∃ xs, c = .list xs ∧ ∀ a ∈ l, ∃ x ∈ xs, r x = .good a := by
  unfold listOf at h
  split at h
  · exact ⟨_, rfl, elementsFrom_eq_good h⟩
  · cases h

/-- A table is kept as it is. -/
theorem table_eq_good {c a : Content} (h : table c = .good a) : a = c := by
  unfold table at h
  split at h
  · cases h
    rfl
  · cases h
    rfl
  · cases h

end Reader

end Adventure
