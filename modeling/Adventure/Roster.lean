/-!
# Rosters: named entries in a fixed order

* `Roster`: entries under distinct names, in the order in which they were written;
* `Roster.get?`, `Roster.update`, `Roster.ofList`: look-up, change in place, and construction,
  where a repeated name replaces the entry it had;
* `get?_update`, `names_update`: what a change does to look-ups and to the order.
-/

namespace Adventure

/-- Entries under distinct names. -/
structure Roster (α : Type) where
  entries : List (String × α)
  distinct : (entries.map Prod.fst).Nodup

namespace Roster

variable {α : Type}

/-! ## 1. Reading -/

/-- The names, in order. -/
def names (r : Roster α) : List String := r.entries.map Prod.fst

/-- The entry under a name. -/
def get? (r : Roster α) (name : String) : Option α := r.entries.lookup name

/-- The name has an entry. -/
def has (r : Roster α) (name : String) : Bool := (r.get? name).isSome

/-- The entries for which a test holds, in order. -/
def filter (r : Roster α) (p : α → Bool) : Roster α where
  entries := r.entries.filter (fun e => p e.2)
  distinct := by
    have h : (r.entries.filter (fun e => p e.2)).Sublist r.entries := List.filter_sublist
    exact r.distinct.sublist (h.map Prod.fst)

/-! ## 2. Changing -/

/-- Changes the entry under a name; without such an entry nothing changes. -/
def update (r : Roster α) (name : String) (f : α → α) : Roster α where
  entries := r.entries.map (fun e => (e.1, if e.1 = name then f e.2 else e.2))
  distinct := by
    have h : (r.entries.map (fun e => (e.1, if e.1 = name then f e.2 else e.2))).map Prod.fst
        = r.entries.map Prod.fst := by
      rw [List.map_map]; rfl
    rw [h]; exact r.distinct

/-- The roster without entries. -/
def empty : Roster α := ⟨[], List.nodup_nil⟩

instance : Inhabited (Roster α) := ⟨empty⟩

/-- Puts an entry under a name: in the place of the entry it had, or at the end. -/
def insert (r : Roster α) (name : String) (a : α) : Roster α :=
  if h : name ∈ r.entries.map Prod.fst then r.update name (fun _ => a)
  else
    { entries := r.entries ++ [(name, a)]
      distinct := by
        rw [List.map_append, List.nodup_append]
        refine ⟨r.distinct, by simp, fun x hx y hy => ?_⟩
        simp only [List.map_cons, List.map_nil, List.mem_singleton] at hy
        subst hy
        exact fun e => h (e ▸ hx) }

/-- The roster without the entry under a name. -/
def erase (r : Roster α) (name : String) : Roster α where
  entries := r.entries.filter (fun e => e.1 ≠ name)
  distinct := by
    have h : (r.entries.filter (fun e => e.1 ≠ name)).Sublist r.entries := List.filter_sublist
    exact r.distinct.sublist (h.map Prod.fst)

/-- The roster of a list of entries. -/
def ofList (entries : List (String × α)) : Roster α :=
  entries.foldl (fun r e => r.insert e.1 e.2) empty

/-! ## 3. Laws -/

theorem lookup_map_snd (name : String) (f : String → α → α) :
    ∀ es : List (String × α), (es.map (fun e => (e.1, f e.1 e.2))).lookup name
      = (es.lookup name).map (f name)
  | [] => rfl
  | (k, a) :: es => by
    by_cases h : name = k
    · subst h; simp
    · have h' : (name == k) = false := by simpa using h
      simp [List.lookup_cons, h', lookup_map_snd name f es]

/-- **A change is seen under its name and nowhere else.** -/
theorem get?_update (r : Roster α) (name other : String) (f : α → α) :
    (r.update name f).get? other
      = (r.get? other).map (fun a => if other = name then f a else a) := by
  have h := lookup_map_snd other (fun k a => if k = name then f a else a) r.entries
  exact h

@[simp] theorem names_update (r : Roster α) (name : String) (f : α → α) :
    (r.update name f).names = r.names := by
  unfold names update
  rw [List.map_map]; rfl

end Roster

end Adventure
