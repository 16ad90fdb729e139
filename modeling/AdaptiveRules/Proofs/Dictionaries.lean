import AdaptiveRules.Dict
import Mathlib.Tactic

/-!
# Names and entries of dictionaries

A dictionary is known by its entries, by what it holds under every name, and by the list it is
made of.  Putting a value under a new name adds one entry; a list without a repeated name holds the
entries of its dictionary in another order.
-/

namespace AdaptiveRules
namespace Dict

variable {α β : Type} {d e : Dict α} {k : String} {x : α}

/-! ### Names -/

theorem keys_putAscending {l : List (String × α)} {m : List (String × β)} (k : String) (v : α)
    (w : β) (hkeys : l.map Prod.fst = m.map Prod.fst) :
    (putAscending k v l).map Prod.fst = (putAscending k w m).map Prod.fst := by
  induction l generalizing m with
  | nil =>
      obtain rfl : m = [] := by simpa using hkeys.symm
      rfl
  | cons e rest ih =>
      cases m with
      | nil => cases hkeys
      | cons f more =>
          obtain ⟨a, x⟩ := e
          obtain ⟨b, y⟩ := f
          obtain ⟨rfl, hrest⟩ : a = b ∧ rest.map Prod.fst = more.map Prod.fst := by
            simpa using hkeys
          simp only [putAscending]
          split
          · simp [hrest]
          · split
            · simp [ih hrest]
            · simp [hrest]

/-- Which names there are after an insertion depends on the names alone. -/
theorem keys_insert_congr {d : Dict α} {e : Dict β} (hkeys : d.keys = e.keys) (k : String) (v : α)
    (w : β) : (d.insert k v).keys = (e.insert k w).keys := keys_putAscending k v w hkeys

theorem mem_keys_iff {d : Dict α} {k : String} : k ∈ d.keys ↔ d.contains k = true := by
  unfold contains get? keys
  rw [List.lookup_isSome_iff, List.mem_map]
  constructor
  · rintro ⟨e, he, rfl⟩
    exact ⟨e, he, by simp⟩
  · rintro ⟨e, he, heq⟩
    exact ⟨e, he, (beq_iff_eq.mp heq).symm⟩

theorem contains_congr {d : Dict α} {e : Dict β} (hkeys : d.keys = e.keys) (k : String) :
    d.contains k = e.contains k := by
  rw [Bool.eq_iff_iff, ← mem_keys_iff, ← mem_keys_iff, hkeys]

theorem size_eq_of_keys {d : Dict α} {e : Dict β} (hkeys : d.keys = e.keys) : d.size = e.size := by
  have hlength := congrArg List.length hkeys
  simpa [keys, size] using hlength

/-! ### Entries -/

theorem lookup_of_lt {l : List (String × α)} {a k : String} {w : α} (hlt : k < a)
    (hl : Ascending ((a, w) :: l)) : ((a, w) :: l).lookup k = none := by
  obtain ⟨hhead, _⟩ := List.pairwise_cons.mp hl
  apply List.lookup_eq_none_iff.mpr
  intro e he
  have habove : k < e.1 := by
    rcases List.mem_cons.mp he with rfl | he
    · exact hlt
    · exact String.lt_trans hlt (hhead e he)
  simpa using fun heq : k = e.1 => String.lt_irrefl k (by rwa [← heq] at habove)

theorem mem_entries_iff : (k, x) ∈ d.entries ↔ d.get? k = some x := by
  unfold get?
  rw [List.lookup_eq_some_iff]
  constructor
  · intro hmem
    obtain ⟨front, back, hsplit⟩ := List.append_of_mem hmem
    have hsorted := d.ascending
    rw [hsplit] at hsorted
    refine ⟨front, back, hsplit, fun f hf => ?_⟩
    have hless : f.1 < k := (List.pairwise_append.mp hsorted).2.2 f hf _ List.mem_cons_self
    simpa using fun heq : k = f.1 => String.lt_irrefl k (by rwa [← heq] at hless)
  · rintro ⟨front, back, hsplit, _⟩
    rw [hsplit]
    exact List.mem_append_right _ List.mem_cons_self

theorem nodup_entries (d : Dict α) : d.entries.Nodup := by
  refine d.ascending.imp fun hless => ?_
  rintro rfl
  exact String.lt_irrefl _ hless

theorem nodup_keys (d : Dict α) : d.keys.Nodup := by
  refine List.pairwise_map.mpr (d.ascending.imp fun hless heq => ?_)
  exact String.lt_irrefl _ (heq ▸ hless)

/-- The order of the entries follows from what they are. -/
theorem ext_perm (hperm : d.entries.Perm e.entries) : d = e := by
  refine ext_entries (hperm.eq_of_pairwise ?_ d.ascending e.ascending)
  exact fun f g _ _ hless hmore => absurd (String.lt_trans hless hmore) (String.lt_irrefl _)

/-- Dictionaries that hold the same under every name are equal. -/
theorem ext_get? (hsame : ∀ k, d.get? k = e.get? k) : d = e := by
  refine ext_perm ((List.perm_ext_iff_of_nodup d.nodup_entries e.nodup_entries).mpr fun f => ?_)
  rw [← Prod.mk.eta (p := f), mem_entries_iff, mem_entries_iff, hsame]

/-! ### What is put in -/

/-- A new name is put somewhere among the others. -/
theorem perm_insert {d : Dict α} {k : String} (v : α) (hnew : d.get? k = none) :
    (d.insert k v).entries.Perm ((k, v) :: d.entries) := by
  have hput : ∀ l : List (String × α), l.lookup k = none →
      (putAscending k v l).Perm ((k, v) :: l) := by
    intro l
    induction l with
    | nil => exact fun _ => .refl _
    | cons e rest ih =>
        obtain ⟨a, w⟩ := e
        rw [lookup_cons_ite]
        intro hlookup
        have hne : k ≠ a := by
          rintro rfl
          simp at hlookup
        rw [if_neg hne] at hlookup
        simp only [putAscending]
        split
        · exact .refl _
        · split
          · exact ((ih hlookup).cons (a, w)).trans (.swap (k, v) (a, w) rest)
          · next hge hle =>
              exact absurd (String.le_antisymm (String.not_lt.1 hle) (String.not_lt.1 hge)) hne
  exact hput d.entries hnew

theorem size_insert_of_get?_eq_none {d : Dict α} {k : String} (v : α) (hnew : d.get? k = none) :
    (d.insert k v).size = d.size + 1 := (perm_insert v hnew).length_eq

/-- A sum over all values goes by the value that is put in and the one it replaces. -/
theorem sum_values_insert (g : α → Nat) (d : Dict α) (k : String) (v : α) :
    ((d.insert k v).values.map g).sum + ((d.get? k).map g).getD 0 =
      (d.values.map g).sum + g v := by
  have hgrow : ∀ l : List (String × α), Ascending l →
      (((putAscending k v l).map Prod.snd).map g).sum + ((l.lookup k).map g).getD 0 =
        ((l.map Prod.snd).map g).sum + g v := by
    intro l hl
    induction l with
    | nil => simp [putAscending]
    | cons e rest ih =>
        obtain ⟨a, w⟩ := e
        obtain ⟨_, hrest⟩ := List.pairwise_cons.mp hl
        simp only [putAscending]
        split
        · next hlt =>
            rw [lookup_of_lt hlt hl]
            simp only [Option.map_none, Option.getD_none, List.map_cons, List.sum_cons]
            omega
        · rw [lookup_cons_ite]
          split
          · next hlt =>
              rw [if_neg fun heq : k = a => String.lt_irrefl a (by rwa [heq] at hlt)]
              have hmore := ih hrest
              simp only [List.map_cons, List.sum_cons] at hmore ⊢
              omega
          · next hge hle =>
              rw [if_pos (String.le_antisymm (String.not_lt.1 hle) (String.not_lt.1 hge))]
              simp only [Option.map_some, Option.getD_some, List.map_cons, List.sum_cons]
              omega
  exact hgrow d.entries d.ascending

/-- A list that is longer by one item makes all lists together longer by one item. -/
theorem length_values_insert_concat (d : Dict (List α)) (k : String) (x : α) :
    (d.insert k ((d.get? k).getD [] ++ [x])).values.flatten.length =
      d.values.flatten.length + 1 := by
  have hsum := sum_values_insert List.length d k ((d.get? k).getD [] ++ [x])
  rw [List.length_flatten, List.length_flatten]
  rw [List.length_append, List.length_singleton, ← Option.getD_map List.length,
    List.length_nil] at hsum
  omega

/-! ### Images -/

theorem get?_map (f : α → β) (d : Dict α) (k : String) : (d.map f).get? k = (d.get? k).map f := by
  have hlookup : ∀ l : List (String × α),
      (l.map fun e => (e.1, f e.2)).lookup k = (l.lookup k).map f := by
    intro l
    induction l with
    | nil => rfl
    | cons e rest ih =>
        obtain ⟨a, w⟩ := e
        rw [List.map_cons, lookup_cons_ite, lookup_cons_ite, ih]
        split <;> rfl
  exact hlookup d.entries

theorem keys_map (f : α → β) (d : Dict α) : (d.map f).keys = d.keys := by
  simp [keys, map, Function.comp_def]

theorem values_map (f : α → β) (d : Dict α) : (d.map f).values = d.values.map f := by
  simp [values, map, Function.comp_def]

theorem map_putAscending (f : α → β) (k : String) (v : α) (l : List (String × α)) :
    (putAscending k v l).map (fun e => (e.1, f e.2)) =
      putAscending k (f v) (l.map fun e => (e.1, f e.2)) := by
  induction l with
  | nil => rfl
  | cons e rest ih =>
      obtain ⟨a, w⟩ := e
      simp only [putAscending, List.map_cons]
      split_ifs
      · rfl
      · rw [List.map_cons, ih]
      · rfl

theorem map_insert (f : α → β) (d : Dict α) (k : String) (v : α) :
    (d.insert k v).map f = (d.map f).insert k (f v) :=
  ext_entries (map_putAscending f k v d.entries)

/-! ### Lists as dictionaries -/

theorem putAscending_of_lt {l : List (String × α)} {k : String} (v : α)
    (hl : ∀ e ∈ l, e.1 < k) : putAscending k v l = l ++ [(k, v)] := by
  induction l with
  | nil => rfl
  | cons e rest ih =>
      obtain ⟨a, w⟩ := e
      have hlt : a < k := hl _ List.mem_cons_self
      have hge : ¬ k < a := fun h => String.lt_irrefl a (String.lt_trans hlt h)
      rw [putAscending, if_neg hge, if_pos hlt, ih fun e he => hl e (List.mem_cons_of_mem _ he),
        List.cons_append]

/-- A dictionary is made of its entries. -/
theorem ofList_entries (d : Dict α) : ofList d.entries = d := by
  have hfold : ∀ (l : List (String × α)) (acc : Dict α), Ascending (acc.entries ++ l) →
      (l.foldl (fun d e => d.insert e.1 e.2) acc).entries = acc.entries ++ l := by
    intro l
    induction l with
    | nil => exact fun acc _ => (List.append_nil _).symm
    | cons e rest ih =>
        intro acc hascending
        have hbelow : ∀ f ∈ acc.entries, f.1 < e.1 := fun f hf =>
          (List.pairwise_append.mp hascending).2.2 f hf e List.mem_cons_self
        have hinsert : (acc.insert e.1 e.2).entries = acc.entries ++ [e] :=
          putAscending_of_lt e.2 hbelow
        rw [List.foldl_cons, ih _ (by rwa [hinsert, List.append_assoc]), hinsert, List.append_assoc]
        rfl
  exact ext_entries (hfold d.entries empty d.ascending)

/-- Of the entries of a name the last one counts. -/
theorem get?_ofList (l : List (String × α)) (k : String) :
    (ofList l).get? k = ((l.filter fun e => e.1 == k).getLast?).map Prod.snd := by
  induction l using List.reverseRecOn with
  | nil => rfl
  | append_singleton l e ih =>
      have hlast : ofList (l ++ [e]) = (ofList l).insert e.1 e.2 := by
        simp [ofList]
      rw [hlast, get?_insert, List.filter_append]
      by_cases hkey : k = e.1
      · simp [hkey]
      · simp [hkey, Ne.symm hkey, ih]

theorem perm_ofList {l : List (String × α)} (hkeys : (l.map Prod.fst).Nodup) :
    (ofList l).entries.Perm l := by
  induction l using List.reverseRecOn with
  | nil => exact .refl _
  | append_singleton l e ih =>
      rw [List.map_append, List.nodup_append] at hkeys
      obtain ⟨hkeys, _, hother⟩ := hkeys
      have hnew : (ofList l).get? e.1 = none := by
        rw [get?_ofList, Option.map_eq_none_iff, List.getLast?_eq_none_iff,
          List.filter_eq_nil_iff]
        intro d hd heq
        exact hother d.1 (List.mem_map_of_mem hd) e.1 (by simp) (beq_iff_eq.mp heq)
      calc
        (ofList (l ++ [e])).entries = ((ofList l).insert e.1 e.2).entries := by
          simp [ofList]
        List.Perm _ (e :: (ofList l).entries) := perm_insert e.2 hnew
        List.Perm _ (e :: l) := (ih hkeys).cons e
        List.Perm _ (l ++ [e]) := (List.perm_append_singleton e l).symm

theorem ofList_of_perm {l : List (String × α)} (hperm : l.Perm d.entries) : ofList l = d := by
  have hkeys : (l.map Prod.fst).Nodup := (hperm.map Prod.fst).nodup_iff.mpr d.nodup_keys
  exact ext_perm ((perm_ofList hkeys).trans hperm)

end Dict
end AdaptiveRules
