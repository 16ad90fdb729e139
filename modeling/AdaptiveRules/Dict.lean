/-!
# Dictionaries

A dictionary holds at most one value under each name and lists its names in ascending order.  Order
and uniqueness are part of the type, so two dictionaries with the same entries are equal.
-/

namespace AdaptiveRules

/-- Puts a value under a name in an ascending list, over any value that stands there. -/
def putAscending {α : Type u} (k : String) (v : α) : List (String × α) → List (String × α)
  | [] => [(k, v)]
  | (a, w) :: rest =>
      if k < a then (k, v) :: (a, w) :: rest
      else if a < k then (a, w) :: putAscending k v rest
      else (k, v) :: rest

def Ascending {α : Type u} (l : List (String × α)) : Prop :=
  l.Pairwise fun x y => x.1 < y.1

theorem mem_putAscending {α : Type u} {k : String} {v : α} {l : List (String × α)}
    {x : String × α} (h : x ∈ putAscending k v l) : x = (k, v) ∨ x ∈ l := by
  induction l with
  | nil => simpa [putAscending] using h
  | cons y rest ih =>
      obtain ⟨a, w⟩ := y
      simp only [putAscending] at h
      split at h
      · simpa using h
      · split at h
        · rcases List.mem_cons.1 h with h | h
          · exact .inr (h ▸ List.mem_cons_self)
          · exact (ih h).imp id (List.mem_cons_of_mem _)
        · rcases List.mem_cons.1 h with h | h
          · exact .inl h
          · exact .inr (List.mem_cons_of_mem _ h)

theorem ascending_putAscending {α : Type u} {l : List (String × α)} (h : Ascending l)
    (k : String) (v : α) : Ascending (putAscending k v l) := by
  induction l with
  | nil => simp [putAscending, Ascending]
  | cons y rest ih =>
      obtain ⟨a, w⟩ := y
      obtain ⟨hhead, hrest⟩ := List.pairwise_cons.1 h
      simp only [putAscending]
      split
      case isTrue hlt =>
        refine List.pairwise_cons.2 ⟨?_, h⟩
        intro x hx
        rcases List.mem_cons.1 hx with hx | hx
        · exact hx ▸ hlt
        · exact String.lt_trans hlt (hhead x hx)
      case isFalse hge =>
        split
        case isTrue hlt =>
          refine List.pairwise_cons.2 ⟨?_, ih hrest⟩
          intro x hx
          rcases mem_putAscending hx with hx | hx
          · exact hx ▸ hlt
          · exact hhead x hx
        case isFalse hle =>
          have hka : k = a := String.le_antisymm (String.not_lt.1 hle) (String.not_lt.1 hge)
          exact List.pairwise_cons.2 ⟨fun x hx => hka ▸ hhead x hx, hrest⟩

structure Dict (α : Type u) where
  entries : List (String × α)
  ascending : Ascending entries

namespace Dict

variable {α : Type u} {β : Type v}

theorem ext_entries {d e : Dict α} (h : d.entries = e.entries) : d = e := by
  cases d; cases e; cases h; rfl

def empty : Dict α := ⟨[], .nil⟩

instance : Inhabited (Dict α) := ⟨empty⟩

instance [DecidableEq α] : DecidableEq (Dict α) := fun d e =>
  if h : d.entries = e.entries then isTrue (ext_entries h)
  else isFalse fun heq => h (heq ▸ rfl)

def insert (d : Dict α) (k : String) (v : α) : Dict α :=
  ⟨putAscending k v d.entries, ascending_putAscending d.ascending k v⟩

/-- Among entries with the same name, the last one counts. -/
def ofList (l : List (String × α)) : Dict α :=
  l.foldl (fun d e => d.insert e.1 e.2) empty

def get? (d : Dict α) (k : String) : Option α := d.entries.lookup k

def contains (d : Dict α) (k : String) : Bool := (d.get? k).isSome

def keys (d : Dict α) : List String := d.entries.map (·.1)

def values (d : Dict α) : List α := d.entries.map (·.2)

def size (d : Dict α) : Nat := d.entries.length

def isEmpty (d : Dict α) : Bool := d.entries.isEmpty

/-- Replaces the value under a name by a function of it, `none` standing for no value. -/
def alter (d : Dict α) (k : String) (f : Option α → α) : Dict α :=
  d.insert k (f (d.get? k))

def map (f : α → β) (d : Dict α) : Dict β where
  entries := d.entries.map fun e => (e.1, f e.2)
  ascending := by
    have h := d.ascending
    unfold Ascending at h ⊢
    exact List.pairwise_map.2 h

/-- Drops a name and its value. -/
def erase (d : Dict α) (k : String) : Dict α :=
  ⟨d.entries.filter fun e => e.1 != k, List.Pairwise.filter _ d.ascending⟩

@[simp] theorem get?_empty (k : String) : (empty : Dict α).get? k = none := rfl

theorem lookup_cons_ite (k : String) (v : α) (l : List (String × α)) (j : String) :
    ((k, v) :: l).lookup j = if j = k then some v else l.lookup j := by
  by_cases h : j = k
  · simp [h]
  · have hb : (j == k) = false := by simpa using h
    simp [List.lookup_cons, hb, h]

theorem lookup_putAscending (k : String) (v : α) (l : List (String × α)) (j : String) :
    (putAscending k v l).lookup j = if j = k then some v else l.lookup j := by
  induction l with
  | nil => rw [putAscending, lookup_cons_ite]
  | cons y rest ih =>
      obtain ⟨a, w⟩ := y
      simp only [putAscending]
      split
      · rw [lookup_cons_ite]
      · split
        · rename_i hlt
          rw [lookup_cons_ite, lookup_cons_ite, ih]
          by_cases hj : j = a
          · have hjk : j ≠ k := fun e => String.lt_irrefl k (by rwa [← hj, e] at hlt)
            simp [hj, hj ▸ hjk]
          · simp [hj]
        · rename_i hge hle
          have hka : k = a := String.le_antisymm (String.not_lt.1 hle) (String.not_lt.1 hge)
          subst hka
          rw [lookup_cons_ite, lookup_cons_ite]
          by_cases h : j = k <;> simp [h]

theorem get?_insert (d : Dict α) (k : String) (v : α) (j : String) :
    (d.insert k v).get? j = if j = k then some v else d.get? j :=
  lookup_putAscending k v d.entries j

theorem lookup_filter_ne (l : List (String × α)) (k j : String) :
    (l.filter fun e => e.1 != k).lookup j = if j = k then none else l.lookup j := by
  induction l with
  | nil => simp
  | cons y rest ih =>
      obtain ⟨a, w⟩ := y
      by_cases ha : a = k
      · subst ha
        simp only [bne_self_eq_false, Bool.false_eq_true, not_false_eq_true,
          List.filter_cons_of_neg, ih, lookup_cons_ite]
        by_cases hj : j = a <;> simp [hj]
      · have hkeep : (a != k) = true := by simpa using ha
        simp only [hkeep, List.filter_cons_of_pos, lookup_cons_ite, ih]
        by_cases hj : j = a
        · simp [hj, ha]
        · simp [hj]

theorem get?_erase (d : Dict α) (k j : String) :
    (d.erase k).get? j = if j = k then none else d.get? j :=
  lookup_filter_ne d.entries k j

end Dict
end AdaptiveRules
