import Adventure.Fault

/-!
# Laws of rosters

* `mem_entries_iff`, `get?_filter_iff`, `get?_map`: an entry, a choice of entries, entries seen by a
  function;
* `Roster.ext_get?`: rosters with the same names that agree under each of them are the same;
* `map_update_of`: a change that a function does not see;
* `get?_insert_self`, `mem_of_ofList`: what stands in a roster of a list;
* `demand_text`, `knows_text`: look-up by a name that is given as content.
-/

namespace Adventure

/-! ## 1. Entries under distinct names -/

section Lookup

variable {α β : Type}

theorem mem_of_lookup {κ : Type} [BEq κ] [LawfulBEq κ] {es : List (κ × α)} {name : κ} {a : α}
    (h : es.lookup name = some a) : (name, a) ∈ es := by
  obtain ⟨before, after, e, _⟩ := List.lookup_eq_some_iff.mp h
  rw [e]
  exact List.mem_append_right _ (List.mem_cons_self ..)

theorem lookup_of_mem {es : List (String × α)} (distinct : (es.map Prod.fst).Nodup)
    {name : String} {a : α} (h : (name, a) ∈ es) : es.lookup name = some a := by
  obtain ⟨before, after, e⟩ := List.append_of_mem h
  refine List.lookup_eq_some_iff.mpr ⟨before, after, e, fun p hp => ?_⟩
  subst e
  rw [List.map_append, List.nodup_append] at distinct
  have ne := distinct.2.2 p.1 (List.mem_map_of_mem hp) name (by simp)
  simpa using fun k => ne k.symm

theorem lookup_of_fresh {es : List (String × α)} {name : String}
    (fresh : name ∉ es.map Prod.fst) : es.lookup name = none := by
  rw [List.lookup_eq_none_iff]
  intro e he
  have mem : e.1 ∈ es.map Prod.fst := List.mem_map_of_mem he
  simpa using fun k : name = e.1 => fresh (k ▸ mem)

theorem lookup_filter {es : List (String × α)} (distinct : (es.map Prod.fst).Nodup)
    (name : String) (p : α → Bool) :
    (es.filter (fun e => p e.2)).lookup name = (es.lookup name).filter p := by
  induction es with
  | nil => rfl
  | cons e es ih =>
      obtain ⟨k, a⟩ := e
      rw [List.map_cons, List.nodup_cons] at distinct
      obtain ⟨fresh, distinct⟩ := distinct
      by_cases hk : name = k
      · subst hk
        by_cases ha : p a
        · simp [ha, Option.filter]
        · have rest : (es.filter (fun e => p e.2)).lookup name = none :=
            lookup_of_fresh fun mem => fresh ((List.filter_sublist.map Prod.fst).subset mem)
          simp [ha, rest, Option.filter]
      · have ne : (name == k) = false := by simpa using hk
        by_cases ha : p a
        · simp [ha, List.lookup_cons, ne, ih distinct]
        · simp [ha, List.lookup_cons, ne, ih distinct]

end Lookup

namespace Roster

variable {α β : Type}

theorem mem_entries_iff (r : Roster α) {name : String} {a : α} :
    (name, a) ∈ r.entries ↔ r.get? name = some a :=
  ⟨lookup_of_mem r.distinct, mem_of_lookup⟩

theorem get?_filter (r : Roster α) (name : String) (p : α → Bool) :
    (r.filter p).get? name = (r.get? name).filter p :=
  lookup_filter r.distinct name p

/-- An entry of a choice is one of the entries that are chosen. -/
theorem get?_filter_iff {r : Roster α} {name : String} {p : α → Bool} {a : α} :
    (r.filter p).get? name = some a ↔ r.get? name = some a ∧ p a = true := by
  rw [get?_filter, Option.filter_eq_some_iff]

theorem mem_names_iff (r : Roster α) {name : String} : name ∈ r.names ↔ r.has name = true := by
  unfold names has get?
  rw [List.lookup_isSome_iff, List.mem_map]
  constructor
  · rintro ⟨e, he, rfl⟩
    exact ⟨e, he, by simp⟩
  · rintro ⟨e, he, k⟩
    exact ⟨e, he, by simpa using Eq.symm (by simpa using k)⟩

theorem has_iff (r : Roster α) {name : String} : r.has name = true ↔ ∃ a, r.get? name = some a :=
  Option.isSome_iff_exists

theorem has_of_get? {r : Roster α} {name : String} {a : α} (h : r.get? name = some a) :
    r.has name = true :=
  r.has_iff.mpr ⟨a, h⟩

theorem ext_entries {r s : Roster α} (h : r.entries = s.entries) : r = s := by
  cases r
  cases s
  cases h
  rfl

/-- Entries under the same names, in the same order, are the same if they agree under each. -/
theorem entries_eq_of_lookup :
    ∀ {es fs : List (String × α)}, (es.map Prod.fst).Nodup → es.map Prod.fst = fs.map Prod.fst →
      (∀ name, es.lookup name = fs.lookup name) → es = fs
  | [], [], _, _, _ => rfl
  | (k, a) :: es, (l, b) :: fs, distinct, names, agree => by
      rw [List.map_cons, List.map_cons, List.cons.injEq] at names
      obtain ⟨hk, names⟩ := names
      simp only at hk
      subst hk
      have ha : some a = some b := by simpa [List.lookup_cons] using agree k
      rw [List.map_cons, List.nodup_cons] at distinct
      have rest : es = fs := by
        refine entries_eq_of_lookup distinct.2 names fun name => ?_
        by_cases hn : name = k
        · subst hn
          rw [lookup_of_fresh distinct.1, lookup_of_fresh (names ▸ distinct.1)]
        · have ne : (name == k) = false := by simpa using hn
          simpa [List.lookup_cons, ne] using agree name
      rw [rest, Option.some.inj ha]

/-- **Rosters with the same names that agree under each of them are the same.** -/
theorem ext_get? {r s : Roster α} (names : r.names = s.names)
    (agree : ∀ name, r.get? name = s.get? name) : r = s :=
  ext_entries (entries_eq_of_lookup r.distinct names agree)

/-! ## 2. Entries seen by a function -/

/-- The entries as a function sees them. -/
def map (r : Roster α) (f : α → β) : Roster β where
  entries := r.entries.map (fun e => (e.1, f e.2))
  distinct := by
    have h : (r.entries.map (fun e => (e.1, f e.2))).map Prod.fst = r.entries.map Prod.fst := by
      rw [List.map_map]; rfl
    rw [h]; exact r.distinct

theorem lookup_map (f : α → β) (name : String) :
    ∀ es : List (String × α),
      (es.map (fun e => (e.1, f e.2))).lookup name = (es.lookup name).map f
  | [] => rfl
  | (k, a) :: es => by
      by_cases h : name = k
      · subst h; simp
      · have ne : (name == k) = false := by simpa using h
        simp [List.lookup_cons, ne, lookup_map f name es]

@[simp] theorem get?_map (r : Roster α) (f : α → β) (name : String) :
    (r.map f).get? name = (r.get? name).map f :=
  lookup_map f name r.entries

@[simp] theorem names_map (r : Roster α) (f : α → β) : (r.map f).names = r.names := by
  unfold names map
  rw [List.map_map]; rfl

@[simp] theorem has_map (r : Roster α) (f : α → β) (name : String) :
    (r.map f).has name = r.has name := by
  simp [has]

@[simp] theorem has_update (r : Roster α) (name other : String) (f : α → α) :
    (r.update name f).has other = r.has other := by
  simp [has, get?_update]

theorem get?_update_self {r : Roster α} {name : String} {a : α} (h : r.get? name = some a)
    (f : α → α) : (r.update name f).get? name = some (f a) := by
  simp [get?_update, h]

theorem get?_update_ne (r : Roster α) {name other : String} (h : other ≠ name) (f : α → α) :
    (r.update name f).get? other = r.get? other := by
  simp [get?_update, h]

/-- An entry after a change is an entry from before, changed if it stands under the name. -/
theorem get?_update_cases {r : Roster α} {name other : String} {f : α → α} {a : α}
    (h : (r.update name f).get? other = some a) :
    (other = name ∧ ∃ b, r.get? other = some b ∧ a = f b) ∨
      (other ≠ name ∧ r.get? other = some a) := by
  rw [get?_update] at h
  obtain ⟨b, hb, e⟩ := Option.map_eq_some_iff.mp h
  by_cases hn : other = name
  · rw [if_pos hn] at e
    exact .inl ⟨hn, b, hb, e.symm⟩
  · rw [if_neg hn] at e
    exact .inr ⟨hn, e ▸ hb⟩

theorem get?_insert_self (r : Roster α) (name : String) (a : α) :
    (r.insert name a).get? name = some a := by
  unfold insert
  split
  · next there =>
      obtain ⟨b, hb⟩ := r.has_iff.mp (r.mem_names_iff.mp there)
      exact get?_update_self hb _
  · next fresh =>
      unfold get?
      simp only
      rw [List.lookup_append, lookup_of_fresh fresh]
      simp

theorem get?_insert_cases {r : Roster α} {name other : String} {a b : α}
    (h : (r.insert name a).get? other = some b) :
    (other = name ∧ b = a) ∨ r.get? other = some b := by
  unfold insert at h
  split at h
  · rcases get?_update_cases h with ⟨e, -, -, rfl⟩ | ⟨-, h⟩
    · exact .inl ⟨e, rfl⟩
    · exact .inr h
  · unfold get? at h
    have mem := mem_of_lookup h
    rcases List.mem_append.mp mem with mem | mem
    · exact .inr (r.mem_entries_iff.mp mem)
    · cases List.mem_singleton.mp mem
      exact .inl ⟨rfl, rfl⟩

/-- **What stands in a roster of a list stands in the list.** -/
theorem mem_of_ofList {l : List (String × α)} {name : String} {a : α}
    (h : (ofList l).get? name = some a) : (name, a) ∈ l := by
  have gathered : ∀ (l : List (String × α)) (r : Roster α),
      (l.foldl (fun r e => r.insert e.1 e.2) r).get? name = some a →
        (name, a) ∈ l ∨ r.get? name = some a := by
    intro l
    induction l with
    | nil => exact fun r h => .inr h
    | cons e l ih =>
        intro r h
        rcases ih _ h with hm | h
        · exact .inl (List.mem_cons_of_mem _ hm)
        · rcases get?_insert_cases h with ⟨rfl, rfl⟩ | h
          · exact .inl (List.mem_cons_self ..)
          · exact .inr h
  exact (gathered l empty h).elim id (fun h => nomatch h)

/-- **A change that a function does not see.** -/
theorem map_update_of {r : Roster α} {name : String} {g : α → α} {f : α → β}
    (h : ∀ a, r.get? name = some a → f (g a) = f a) : (r.update name g).map f = r.map f := by
  refine ext_get? (by simp) fun other => ?_
  rw [get?_map, get?_map, get?_update, Option.map_map]
  rcases e : r.get? other with _ | a
  · rfl
  · by_cases hn : other = name
    · subst hn
      simp [h a e]
    · simp [hn]

/-- Changes that agree on the entry under the name are the same. -/
theorem update_congr {r : Roster α} {name : String} {f g : α → α}
    (h : ∀ a, r.get? name = some a → f a = g a) : r.update name f = r.update name g := by
  refine ext_get? (by simp) fun other => ?_
  rw [get?_update, get?_update]
  rcases e : r.get? other with _ | a
  · rfl
  · by_cases hn : other = name
    · subst hn
      simp [h a e]
    · simp [hn]

@[simp] theorem update_id (r : Roster α) (name : String) : r.update name id = r := by
  refine ext_get? (by simp) fun other => ?_
  rw [get?_update]
  simp

theorem update_update (r : Roster α) (name : String) (f g : α → α) :
    (r.update name f).update name g = r.update name (fun a => g (f a)) := by
  refine ext_get? (by simp) fun other => ?_
  rw [get?_update, get?_update, get?_update, Option.map_map]
  congr 1
  funext a
  by_cases hn : other = name
  · simp [hn]
  · simp [hn]

/-! ## 3. Names that are given as content -/

@[simp] theorem find_text (r : Roster α) (name : String) :
    r.find (.text name) = .ok (r.get? name) := rfl

theorem demand_text {r : Roster α} {name : String} {a : α} (h : r.get? name = some a) :
    r.demand (.text name) = .ok a := by
  simp [demand, h]

theorem demand_eq_ok {r : Roster α} {key : Content} {a : α} (h : r.demand key = .ok a) :
    ∃ name, key = .text name ∧ r.get? name = some a := by
  unfold demand find at h
  cases key with
  | text name =>
      refine ⟨name, rfl, ?_⟩
      simp only [Content.asName_text, Except.map, Option.bind_some] at h
      split at h <;> simp_all
  | list | mapping => simp [Content.asName, Except.map] at h
  | null | bool | int | float | inventory => simp [Content.asName, Except.map] at h

@[simp] theorem knows_text (r : Roster α) (name : String) :
    r.knows (.text name) = .ok (r.has name) := rfl

theorem knows_eq_true {r : Roster α} {key : Content} (h : r.knows key = .ok true) :
    ∃ name, key = .text name ∧ r.has name = true := by
  unfold knows find at h
  cases key with
  | text name => exact ⟨name, rfl, by simpa [Except.map, has] using h⟩
  | list | mapping => simp [Content.asName, Except.map] at h
  | null | bool | int | float | inventory => simp [Content.asName, Except.map] at h

end Roster

end Adventure
