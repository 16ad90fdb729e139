import AdaptiveRules.MatchCache
import AdaptiveRules.Proofs.ContextKeys

/-!
# What the cache of a pattern holds

Every operation of the cache leaves entries that were there or that were just put, so a property
of all entries is kept as long as what is put has it.  Asking makes no room smaller and counts one
hit or one miss. -/

namespace AdaptiveRules

namespace MatchCache

/-- Every entry has the property, of its key and what is kept under it. -/
def Holds (P : String → List MatchInstance → Prop) (c : MatchCache) : Prop :=
  ∀ e ∈ c.entries, P e.key e.found

variable {P : String → List MatchInstance → Prop} {c : MatchCache}

theorem mem_of_find? {key : String} {e : CacheEntry} (hfind : c.find? key = some e) :
    e ∈ c.entries ∧ e.key = key :=
  ⟨List.mem_of_find?_eq_some hfind, by simpa using List.find?_some hfind⟩

theorem mem_of_mem_without {key : String} {e : CacheEntry} (he : e ∈ c.without key) :
    e ∈ c.entries := (List.mem_filter.mp he).1

/-- Asking for a key misses, drops an entry that has expired, or hits and moves the entry. -/
theorem get_cases (c : MatchCache) (key : String) (now : Instant) :
    (c.find? key = none ∧ c.get key now = (none, { c with misses := c.misses + 1 })) ∨
      (∃ e, c.find? key = some e ∧ c.isExpired e now = true ∧
        c.get key now = (none, { c with entries := c.without key, misses := c.misses + 1 })) ∨
      ∃ e, c.find? key = some e ∧ c.isExpired e now = false ∧
        c.get key now =
          (some e.found, { c with entries := e :: c.without key, hits := c.hits + 1 }) := by
  unfold get
  cases hfind : c.find? key with
  | none => exact .inl ⟨rfl, rfl⟩
  | some e =>
      cases hexpired : c.isExpired e now with
      | true => exact .inr (.inl ⟨e, rfl, hexpired, by simp [hexpired]⟩)
      | false => exact .inr (.inr ⟨e, rfl, hexpired, by simp [hexpired]⟩)

/-- What is found was stored under the key and is still valid. -/
theorem exists_of_get {key : String} {now : Instant} {found : List MatchInstance}
    (hget : (c.get key now).1 = some found) :
    ∃ e ∈ c.entries, e.key = key ∧ e.found = found ∧ c.isExpired e now = false := by
  rcases c.get_cases key now with ⟨_, hmiss⟩ | ⟨e, _, _, hmiss⟩ | ⟨e, hfind, hvalid, hhit⟩
  · rw [hmiss] at hget
    cases hget
  · rw [hmiss] at hget
    cases hget
  · rw [hhit] at hget
    obtain ⟨hmem, hkey⟩ := mem_of_find? hfind
    exact ⟨e, hmem, hkey, Option.some.inj hget, hvalid⟩

theorem holds_ofCapacity (capacity : Nat) (ttl : Option Nat) : Holds P (ofCapacity capacity ttl) :=
  fun _ he => absurd he List.not_mem_nil

theorem holds_clear : Holds P c.clear := fun _ he => absurd he List.not_mem_nil

theorem Holds.get (hholds : Holds P c) (key : String) (now : Instant) :
    Holds P (c.get key now).2 := by
  rcases c.get_cases key now with ⟨_, hget⟩ | ⟨e, _, _, hget⟩ | ⟨e, hfind, _, hget⟩
  · rw [hget]
    exact hholds
  · rw [hget]
    exact fun f hf => hholds f (mem_of_mem_without hf)
  · rw [hget]
    intro f hf
    rcases List.mem_cons.mp hf with rfl | hf
    · exact hholds _ (mem_of_find? hfind).1
    · exact hholds f (mem_of_mem_without hf)

theorem Holds.of_get (hholds : Holds P c) {key : String} {now : Instant}
    {found : List MatchInstance} (hget : (c.get key now).1 = some found) : P key found := by
  obtain ⟨e, hmem, rfl, rfl, _⟩ := exists_of_get hget
  exact hholds e hmem

theorem Holds.put (hholds : Holds P c) {key : String} {found : List MatchInstance}
    (hnew : P key found) (now : Instant) : Holds P (c.put key found now) := by
  intro e he
  rcases List.mem_cons.mp (List.mem_of_mem_take he) with rfl | he
  · exact hnew
  · exact hholds e (mem_of_mem_without he)

/-- What was just put is found, unless it expires. -/
theorem get_put (hroom : 1 ≤ c.capacity) (hkept : c.ttl = none) (key : String)
    (found : List MatchInstance) (now later : Instant) :
    ((c.put key found now).get key later).1 = some found := by
  obtain ⟨room, hcapacity⟩ : ∃ room, c.capacity = room + 1 := ⟨c.capacity - 1, by omega⟩
  have hfind : (c.put key found now).find? key = some ⟨key, found, now⟩ := by
    simp [MatchCache.find?, MatchCache.put, hcapacity]
  have hfresh : (c.put key found now).isExpired ⟨key, found, now⟩ later = false := by
    simp [isExpired, MatchCache.put, hkept]
  simp [MatchCache.get, hfind, hfresh]

/-! ### Counters and room -/

section Counters

variable (c : MatchCache) (key : String) (found : List MatchInstance) (now : Instant)

theorem get_counts :
    (c.get key now).2.hits = c.hits + (if (c.get key now).1.isSome then 1 else 0) ∧
      (c.get key now).2.misses = c.misses + if (c.get key now).1.isSome then 0 else 1 := by
  rcases c.get_cases key now with ⟨_, hget⟩ | ⟨e, _, _, hget⟩ | ⟨e, _, _, hget⟩ <;>
    simp [hget]

theorem capacity_get : (c.get key now).2.capacity = c.capacity := by
  rcases c.get_cases key now with ⟨_, hget⟩ | ⟨e, _, _, hget⟩ | ⟨e, _, _, hget⟩ <;>
    rw [hget]

/-- A hit moves an entry, and what expires is dropped. -/
theorem size_get_le : (c.get key now).2.size ≤ c.size := by
  rcases c.get_cases key now with ⟨_, hget⟩ | ⟨e, _, _, hget⟩ | ⟨e, hfind, _, hget⟩
  · rw [hget]
    exact Nat.le_refl _
  · rw [hget]
    exact List.length_filter_le ..
  · rw [hget]
    rcases mem_of_find? hfind with ⟨hmem, hkey⟩
    have hfewer : (c.without key).length < c.entries.length :=
      List.length_filter_lt_length_iff_exists.mpr ⟨e, hmem, by simp [hkey]⟩
    exact hfewer

theorem size_put_le : (c.put key found now).size ≤ c.capacity := List.length_take_le ..

end Counters

end MatchCache
end AdaptiveRules
