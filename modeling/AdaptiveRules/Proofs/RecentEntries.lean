import AdaptiveRules.Proofs.CacheEntries

/-!
# The keys used last

The cache is compared with a log of the calls it has answered.  A key is used when something is put
under it and when it is hit.  Without expiry the cache holds exactly the keys that were used last, as
many as there is room for, and under each of them what was put there last.  With expiry it still
answers with nothing else, and with nothing older than allowed.
-/

namespace AdaptiveRules

inductive CacheCall
  | get (key : String) (now : Instant)
  | put (key : String) (found : List MatchInstance) (now : Instant)
  | clear

/-- Calls with their answers, the latest first. -/
abbrev CacheLog := List (CacheCall × Option (List MatchInstance))

namespace CacheCall

def isGet : CacheCall → Bool
  | get .. => true
  | _ => false

end CacheCall

namespace CacheLog

/-- What was put under a key last and when, if there was no clearing since. -/
def lastPut? (key : String) : CacheLog → Option (List MatchInstance × Instant)
  | [] => none
  | (.clear, _) :: _ => none
  | (.put other found now, _) :: log => if other = key then some (found, now) else lastPut? key log
  | (.get .., _) :: log => lastPut? key log

/-- The keys that were put or hit since the last clearing, the latest first. -/
def used : CacheLog → List String
  | [] => []
  | (.clear, _) :: _ => []
  | (.put key .., _) :: log => key :: used log
  | (.get key _, some _) :: log => key :: used log
  | (.get .., none) :: log => used log

/-- The other keys that were used since a key was. -/
def usedSince (key : String) (log : CacheLog) : Finset String :=
  (log.used.takeWhile (· ≠ key)).toFinset

theorem mem_used_of_lastPut? {key : String} {log : CacheLog}
    (hput : (log.lastPut? key).isSome = true) : key ∈ log.used := by
  induction log with
  | nil => cases hput
  | cons entry log ih =>
      rcases entry with ⟨call, answer⟩
      cases call with
      | get other now =>
          cases answer with
          | none => exact ih hput
          | some found => exact List.mem_cons_of_mem _ (ih hput)
      | put other found now =>
          by_cases hsame : other = key
          · simp [used, hsame]
          · rw [lastPut?, if_neg hsame] at hput
            exact List.mem_cons_of_mem _ (ih hput)
      | clear => cases hput

end CacheLog

/-! ### First occurrences -/

/-- The different keys of a list, each where it stands first. -/
def firstOccurrences : List String → List String
  | [] => []
  | k :: ks => k :: (firstOccurrences ks).filter (· != k)

theorem mem_firstOccurrences {ks : List String} {k : String} :
    k ∈ firstOccurrences ks ↔ k ∈ ks := by
  induction ks with
  | nil => rfl
  | cons j ks ih =>
      by_cases hk : k = j
      · simp [firstOccurrences, hk]
      · simp [firstOccurrences, hk, ih]

theorem nodup_firstOccurrences (ks : List String) : (firstOccurrences ks).Nodup := by
  induction ks with
  | nil => exact List.nodup_nil
  | cons k ks ih =>
      apply List.nodup_cons.mpr
      exact ⟨by simp, ih.filter _⟩

theorem mem_take_iff {n : Nat} {k : String} {ks : List String} :
    k ∈ ks.take n ↔ k ∈ ks ∧ (ks.takeWhile (· ≠ k)).length < n := by
  induction ks generalizing n with
  | nil => simp
  | cons j ks ih =>
      cases n with
      | zero => simp
      | succ n =>
          by_cases hk : k = j
          · simp [hk]
          · have hother : j ≠ k := fun h => hk h.symm
            simp [hk, hother, ih]

theorem takeWhile_filter_ne {j k : String} (hne : k ≠ j) (ks : List String) :
    (ks.filter (· != j)).takeWhile (· ≠ k) = (ks.takeWhile (· ≠ k)).filter (· != j) := by
  induction ks with
  | nil => rfl
  | cons i ks ih =>
      by_cases hk : i = k
      · simp [hk, hne]
      · by_cases hj : i = j
        · have hkept : j ≠ k := hne.symm
          simpa [hj, hkept] using ih
        · simpa [hk, hj] using ih

/-- Before the first occurrence of a key stand the same keys in both lists. -/
theorem toFinset_takeWhile_firstOccurrences (k : String) (ks : List String) :
    ((firstOccurrences ks).takeWhile (· ≠ k)).toFinset = (ks.takeWhile (· ≠ k)).toFinset := by
  induction ks with
  | nil => rfl
  | cons j ks ih =>
      by_cases hk : j = k
      · simp [firstOccurrences, hk]
      · have hne : k ≠ j := fun h => hk h.symm
        have hmem (i : String) :
            i ∈ (firstOccurrences ks).takeWhile (· ≠ k) ↔ i ∈ ks.takeWhile (· ≠ k) := by
          rw [← List.mem_toFinset, ih, List.mem_toFinset]
        ext i
        simp only [firstOccurrences, List.takeWhile_cons, hk, ne_eq, not_false_eq_true, decide_true,
          if_true, List.mem_toFinset, List.mem_cons]
        rw [takeWhile_filter_ne hne, List.mem_filter, hmem]
        by_cases hi : i = j
        · simp [hi]
        · simp [hi]

/-- Among the first keys are those that have few others before them. -/
theorem mem_take_firstOccurrences_iff {n : Nat} {k : String} {ks : List String} :
    k ∈ (firstOccurrences ks).take n ↔ k ∈ ks ∧ (ks.takeWhile (· ≠ k)).toFinset.card < n := by
  have hnodup : ((firstOccurrences ks).takeWhile (· ≠ k)).Nodup :=
    (List.takeWhile_sublist _).nodup (nodup_firstOccurrences ks)
  rw [mem_take_iff, mem_firstOccurrences, ← toFinset_takeWhile_firstOccurrences,
    List.toFinset_card_of_nodup hnodup]

/-- A key is moved to the front alike before and after the list is cut off. -/
theorem take_cons_filter_take {ks : List String} (hks : ks.Nodup) (n : Nat) (k : String) :
    (k :: (ks.take n).filter (· != k)).take n = (k :: ks.filter (· != k)).take n := by
  induction ks generalizing n with
  | nil => simp
  | cons j ks ih =>
      rcases List.nodup_cons.mp hks with ⟨hj, hks⟩
      cases n with
      | zero => rfl
      | succ n =>
          by_cases hk : j = k
          · have hothers : ks.filter (· != k) = ks := by
              apply List.filter_eq_self.mpr
              intro i hi
              have hne : i ≠ j := fun h => hj (h ▸ hi)
              simpa [hk] using hne
            have hcut : (ks.take n).filter (· != k) = ks.take n := by
              apply List.filter_eq_self.mpr
              intro i hi
              have hne : i ≠ j := fun h => hj (h ▸ List.mem_of_mem_take hi)
              simpa [hk] using hne
            simp [hk, hothers, hcut]
          · cases n with
            | zero => simp
            | succ n =>
                have hrest := ih hks (n + 1)
                simp only [List.take_succ_cons, List.cons.injEq, true_and] at hrest
                simp [hk, hrest]

namespace MatchCache

def answer (c : MatchCache) : CacheCall → Option (List MatchInstance)
  | .get key now => (c.get key now).1
  | _ => none

def after (c : MatchCache) : CacheCall → MatchCache
  | .get key now => (c.get key now).2
  | .put key found now => c.put key found now
  | .clear => c.clear

/-- Answers one more call and notes it. -/
def step (s : CacheLog × MatchCache) (call : CacheCall) : CacheLog × MatchCache :=
  ((call, s.2.answer call) :: s.1, s.2.after call)

/-- The log and the cache after some calls. -/
def run (c : MatchCache) (calls : List CacheCall) : CacheLog × MatchCache :=
  calls.foldl step ([], c)

def keys (c : MatchCache) : List String := c.entries.map CacheEntry.key

variable {c : MatchCache} {log : CacheLog} {key : String} {now : Instant}

theorem mem_keys_of_find? {e : CacheEntry} (hfind : c.find? key = some e) : key ∈ c.keys := by
  rcases mem_of_find? hfind with ⟨hmem, rfl⟩
  exact List.mem_map_of_mem hmem

theorem find?_eq_none_iff : c.find? key = none ↔ key ∉ c.keys := by
  simp [MatchCache.find?, keys]

theorem map_key_without : (c.without key).map CacheEntry.key = c.keys.filter (· != key) := by
  simp [without, keys, List.filter_map, Function.comp_def]

theorem keys_put (found : List MatchInstance) :
    (c.put key found now).keys = (key :: (c.without key).map CacheEntry.key).take c.capacity :=
  List.map_take ..

/-! ### What every cache keeps -/

theorem limits_after (c : MatchCache) (call : CacheCall) :
    (c.after call).capacity = c.capacity ∧ (c.after call).ttl = c.ttl := by
  cases call with
  | get key now =>
      rcases c.get_cases key now with ⟨_, hget⟩ | ⟨e, _, _, hget⟩ | ⟨e, _, _, hget⟩ <;>
        simp [after, hget]
  | put key found now => exact ⟨rfl, rfl⟩
  | clear => exact ⟨rfl, rfl⟩

/-- Under every key stands what was put there last, and the counts are those of the calls. -/
structure Recalls (log : CacheLog) (c : MatchCache) : Prop where
  nodup : c.keys.Nodup
  last : ∀ e ∈ c.entries, log.lastPut? e.key = some (e.found, e.stored)
  counts : c.hits + c.misses = log.countP fun call => call.1.isGet
  room : c.size ≤ c.capacity

theorem nodup_moved (hnodup : c.keys.Nodup) (key : String) :
    (key :: (c.without key).map CacheEntry.key).Nodup := by
  rw [map_key_without]
  apply List.nodup_cons.mpr
  exact ⟨by simp, hnodup.filter _⟩

theorem Recalls.get (hrecalls : Recalls log c) (key : String) (now : Instant) :
    Recalls ((.get key now, (c.get key now).1) :: log) (c.get key now).2 := by
  rcases hrecalls with ⟨hnodup, hlast, hcounts, hroom⟩
  have hcounted : (c.get key now).2.hits + (c.get key now).2.misses =
      ((CacheCall.get key now, (c.get key now).1) :: log).countP fun call => call.1.isGet := by
    rw [List.countP_cons_of_pos rfl, ← hcounts]
    rcases c.get_cases key now with ⟨_, hget⟩ | ⟨e, _, _, hget⟩ | ⟨e, _, _, hget⟩ <;>
      simp only [hget] <;> omega
  refine ⟨?_, ?_, hcounted, ?_⟩
  · rcases c.get_cases key now with ⟨_, hget⟩ | ⟨e, _, _, hget⟩ | ⟨e, hfind, _, hget⟩
    · rw [hget]
      exact hnodup
    · rw [hget]
      exact (List.nodup_cons.mp (nodup_moved hnodup key)).2
    · rw [hget]
      rcases mem_of_find? hfind with ⟨_, rfl⟩
      exact nodup_moved hnodup e.key
  · intro e he
    rcases c.get_cases key now with ⟨_, hget⟩ | ⟨f, _, _, hget⟩ | ⟨f, hfind, _, hget⟩
    · rw [hget] at he
      exact hlast e he
    · rw [hget] at he
      exact hlast e (mem_of_mem_without he)
    · rw [hget] at he
      rcases List.mem_cons.mp he with rfl | he
      · exact hlast _ (mem_of_find? hfind).1
      · exact hlast e (mem_of_mem_without he)
  · rw [c.capacity_get]
    exact (c.size_get_le key now).trans hroom

theorem Recalls.put (hrecalls : Recalls log c) (key : String) (found : List MatchInstance)
    (now : Instant) : Recalls ((.put key found now, none) :: log) (c.put key found now) := by
  rcases hrecalls with ⟨hnodup, hlast, hcounts, hroom⟩
  refine ⟨?_, ?_, ?_, size_put_le ..⟩
  · rw [keys_put]
    exact (List.take_sublist _ _).nodup (nodup_moved hnodup key)
  · intro e he
    rcases List.mem_cons.mp (List.mem_of_mem_take he) with rfl | he
    · simp [CacheLog.lastPut?]
    · have hother : key ≠ e.key := by
        have hkept : e.key ≠ key := by simpa using (List.mem_filter.mp he).2
        exact hkept.symm
      rw [CacheLog.lastPut?, if_neg hother]
      exact hlast e (mem_of_mem_without he)
  · exact hcounts.trans (List.countP_cons_of_neg (by simp [CacheCall.isGet])).symm

theorem Recalls.after (hrecalls : Recalls log c) (call : CacheCall) :
    Recalls ((call, c.answer call) :: log) (c.after call) := by
  cases call with
  | get key now => exact hrecalls.get key now
  | put key found now => exact hrecalls.put key found now
  | clear =>
      refine ⟨List.nodup_nil, fun e he => absurd he List.not_mem_nil, ?_, Nat.zero_le _⟩
      exact hrecalls.counts.trans (List.countP_cons_of_neg (by simp [CacheCall.isGet])).symm

/-- What holds of the fresh cache and is kept by every call holds after all calls. -/
theorem run_induction {P : CacheLog → MatchCache → Prop} (hstart : P [] c)
    (hstep : ∀ log c call, P log c → P ((call, c.answer call) :: log) (c.after call))
    (calls : List CacheCall) : P (run c calls).1 (run c calls).2 := by
  apply List.foldlRecOn (motive := fun s => P s.1 s.2) calls step hstart
  intro s hs call _
  exact hstep s.1 s.2 call hs

theorem recalls_run (capacity : Nat) (ttl : Option Nat) (calls : List CacheCall) :
    Recalls (run (ofCapacity capacity ttl) calls).1 (run (ofCapacity capacity ttl) calls).2 := by
  apply run_induction
  · exact ⟨List.nodup_nil, fun e he => absurd he List.not_mem_nil, rfl, Nat.zero_le _⟩
  · exact fun log c call hrecalls => hrecalls.after call

theorem limits_run (c : MatchCache) (calls : List CacheCall) :
    (run c calls).2.capacity = c.capacity ∧ (run c calls).2.ttl = c.ttl := by
  apply run_induction (P := fun _ d => d.capacity = c.capacity ∧ d.ttl = c.ttl) ⟨rfl, rfl⟩
  rintro _ d call ⟨hcapacity, httl⟩
  rcases d.limits_after call with ⟨hsame, hsameTtl⟩
  exact ⟨hsame.trans hcapacity, hsameTtl.trans httl⟩

theorem calls_run (c : MatchCache) (calls : List CacheCall) :
    (run c calls).1.map Prod.fst = calls.reverse := by
  induction calls using List.reverseRecOn with
  | nil => rfl
  | append_singleton calls call ih => simp [run, step, ← ih]

/-- A hit gives what was put under the key last, and that is not too old. -/
theorem Recalls.of_get (hrecalls : Recalls log c) {found : List MatchInstance}
    (hget : (c.get key now).1 = some found) :
    ∃ stored, log.lastPut? key = some (found, stored) ∧
      ∀ limit ∈ c.ttl, now.toNanos - stored.toNanos ≤ limit := by
  obtain ⟨e, hmem, rfl, rfl, hfresh⟩ := exists_of_get hget
  refine ⟨e.stored, hrecalls.last e hmem, ?_⟩
  intro limit hlimit
  have hyoung : ¬ limit < now.since e.stored := by
    simpa [isExpired, Option.mem_def.mp hlimit] using hfresh
  rw [Instant.since] at hyoung
  omega

/-! ### What a cache without expiry keeps -/

/-- The keys in the cache are those that were used last. -/
structure KeepsRecent (log : CacheLog) (c : MatchCache) : Prop where
  keys : c.keys = (firstOccurrences log.used).take c.capacity
  put : ∀ key ∈ log.used, (log.lastPut? key).isSome
  lasting : c.ttl = none

theorem keys_hit (hkeys : c.keys = (firstOccurrences log.used).take c.capacity)
    (hmem : key ∈ c.keys) :
    key :: c.keys.filter (· != key) =
      (firstOccurrences (key :: log.used)).take c.capacity := by
  have hfewer : (c.keys.filter (· != key)).length < c.keys.length :=
    List.length_filter_lt_length_iff_exists.mpr ⟨key, hmem, by simp⟩
  have hroom : c.keys.length ≤ c.capacity := by
    rw [hkeys]
    exact List.length_take_le ..
  have hwhole : (key :: c.keys.filter (· != key)).length ≤ c.capacity := by
    rw [List.length_cons]
    omega
  rw [← List.take_of_length_le hwhole, hkeys]
  exact take_cons_filter_take (nodup_firstOccurrences _) c.capacity key

theorem KeepsRecent.get (hkeeps : KeepsRecent log c) (key : String) (now : Instant) :
    KeepsRecent ((.get key now, (c.get key now).1) :: log) (c.get key now).2 := by
  rcases hkeeps with ⟨hkeys, hput, hlasting⟩
  rcases c.get_cases key now with ⟨_, hget⟩ | ⟨e, _, hexpired, _⟩ | ⟨e, hfind, _, hget⟩
  · rw [hget]
    exact ⟨hkeys, hput, hlasting⟩
  · simp [isExpired, hlasting] at hexpired
  · rw [hget]
    rcases mem_of_find? hfind with ⟨_, rfl⟩
    have hmem := mem_keys_of_find? hfind
    refine ⟨?_, ?_, hlasting⟩
    · rw [CacheLog.used, ← keys_hit hkeys hmem, ← map_key_without]
      rfl
    · intro other hother
      rcases List.mem_cons.mp hother with rfl | hother
      · apply hput
        rw [hkeys] at hmem
        exact mem_firstOccurrences.mp (List.mem_of_mem_take hmem)
      · exact hput other hother

theorem KeepsRecent.put_key (hkeeps : KeepsRecent log c) (key : String)
    (found : List MatchInstance) (now : Instant) :
    KeepsRecent ((.put key found now, none) :: log) (c.put key found now) := by
  rcases hkeeps with ⟨hkeys, hput, hlasting⟩
  refine ⟨?_, ?_, hlasting⟩
  · rw [keys_put, map_key_without, hkeys]
    exact take_cons_filter_take (nodup_firstOccurrences _) c.capacity key
  · intro other hother
    by_cases hsame : key = other
    · simp [CacheLog.lastPut?, hsame]
    · have hbefore : other ∈ log.used := by
        rcases List.mem_cons.mp hother with heq | hother
        · exact absurd heq.symm hsame
        · exact hother
      simpa [CacheLog.lastPut?, hsame] using hput other hbefore

theorem KeepsRecent.after (hkeeps : KeepsRecent log c) (call : CacheCall) :
    KeepsRecent ((call, c.answer call) :: log) (c.after call) := by
  cases call with
  | get key now => exact hkeeps.get key now
  | put key found now => exact hkeeps.put_key key found now
  | clear =>
      exact ⟨List.take_nil.symm, fun key hkey => absurd hkey List.not_mem_nil, hkeeps.lasting⟩

theorem keepsRecent_run (capacity : Nat) (calls : List CacheCall) :
    KeepsRecent (run (ofCapacity capacity none) calls).1
      (run (ofCapacity capacity none) calls).2 := by
  apply run_induction
  · exact ⟨List.take_nil.symm, fun key hkey => absurd hkey List.not_mem_nil, rfl⟩
  · exact fun log c call hkeeps => hkeeps.after call

theorem KeepsRecent.isSome_get (hkeeps : KeepsRecent log c) :
    (c.get key now).1.isSome = true ↔
      (log.lastPut? key).isSome = true ∧ (log.usedSince key).card < c.capacity := by
  have hmem : (c.get key now).1.isSome = true ↔ key ∈ c.keys := by
    rcases c.get_cases key now with ⟨hfind, hget⟩ | ⟨e, _, hexpired, _⟩ | ⟨e, hfind, _, hget⟩
    · simp [hget, find?_eq_none_iff.mp hfind]
    · simp [isExpired, hkeeps.lasting] at hexpired
    · simp [hget, mem_keys_of_find? hfind]
  have hused : key ∈ log.used ↔ (log.lastPut? key).isSome = true :=
    ⟨hkeeps.put key, CacheLog.mem_used_of_lastPut?⟩
  rw [hmem, hkeeps.keys, mem_take_firstOccurrences_iff, hused, CacheLog.usedSince]

/-! ### The whole cache -/

/-- After any calls the hits and misses are the gets, there is no more than there is room for, and a
hit gives what was put under the key last, if that is not too old.  Without expiry there is a hit
exactly if the key was put since the last clearing and fewer other keys were used since than there is
room for. -/
theorem get_after_run (capacity : Nat) (ttl : Option Nat) (calls : List CacheCall) (key : String)
    (now : Instant) :
    let log := (run (ofCapacity capacity ttl) calls).1
    let c := (run (ofCapacity capacity ttl) calls).2
    c.hits + c.misses = calls.countP CacheCall.isGet ∧
      c.size ≤ max capacity 1 ∧
      (∀ found, (c.get key now).1 = some found →
        ∃ stored, log.lastPut? key = some (found, stored) ∧
          ∀ limit ∈ ttl, now.toNanos - stored.toNanos ≤ limit) ∧
      (ttl = none →
        ((c.get key now).1.isSome = true ↔
          (log.lastPut? key).isSome = true ∧ (log.usedSince key).card < max capacity 1)) := by
  intro log c
  have hrecalls : Recalls log c := recalls_run capacity ttl calls
  rcases limits_run (ofCapacity capacity ttl) calls with ⟨hcapacity, httl⟩
  change c.capacity = max capacity 1 at hcapacity
  change c.ttl = ttl at httl
  refine ⟨?_, ?_, ?_, ?_⟩
  · have hcalls : log.map Prod.fst = calls.reverse := calls_run _ calls
    calc
      c.hits + c.misses = log.countP (fun call => call.1.isGet) := hrecalls.counts
      _ = (log.map Prod.fst).countP CacheCall.isGet := by
        rw [List.countP_map]
        rfl
      _ = calls.countP CacheCall.isGet := by rw [hcalls, List.countP_reverse]
  · rw [← hcapacity]
    exact hrecalls.room
  · intro found hget
    rw [← httl]
    exact hrecalls.of_get hget
  · rintro rfl
    rw [← hcapacity]
    exact (keepsRecent_run capacity calls).isSome_get

/-- A cache for two keys: what was hit in between stays, what was not gives way to a third key. -/
theorem get_after_run_evicting :
    let calls : List CacheCall :=
      [.put "a" [] ⟨0, 0⟩, .put "b" [] ⟨1, 0⟩, .get "a" ⟨2, 0⟩, .put "c" [] ⟨3, 0⟩]
    let c := (run (ofCapacity 2 none) calls).2
    (c.get "a" ⟨4, 0⟩).1.isSome = true ∧ (c.get "b" ⟨4, 0⟩).1.isSome = false := by
  intro calls c
  constructor
  · apply ((get_after_run 2 none calls "a" ⟨4, 0⟩).2.2.2 rfl).mpr
    decide
  · apply Bool.eq_false_iff.mpr
    intro hhit
    have hkept := ((get_after_run 2 none calls "b" ⟨4, 0⟩).2.2.2 rfl).mp hhit
    revert hkept
    decide

end MatchCache
end AdaptiveRules
