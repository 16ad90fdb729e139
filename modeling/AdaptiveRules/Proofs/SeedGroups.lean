import AdaptiveRules.Similarity
import Mathlib.Tactic

/-!
# Groups and their seeds

A text opens a group if it is similar to none of the earlier texts that open one.  Every other text
belongs to the first of the seeds that are similar to it.  So a group is a seed with the texts that
belong to it, and since similarity goes both ways, no two seeds are similar.
-/

namespace AdaptiveRules

/-! ### Lists without repetitions -/

theorem nodup_eraseDups {α : Type} [BEq α] [LawfulBEq α] : ∀ as : List α, as.eraseDups.Nodup
  | [] => .nil
  | a :: rest => by
      rw [List.eraseDups_cons, List.nodup_cons, List.mem_eraseDups]
      exact ⟨by simp, nodup_eraseDups (rest.filter fun b => !b == a)⟩
termination_by as => as.length
decreasing_by exact Nat.lt_succ_of_le (List.length_filter_le ..)

namespace Similarity

variable {α : Type} [BEq α] [LawfulBEq α]

/-! ### Similarity goes both ways -/

theorem length_common_comm {as bs : List α} (has : as.Nodup) (hbs : bs.Nodup) :
    (as.filter bs.contains).length = (bs.filter as.contains).length := by
  apply List.Perm.length_eq
  apply (List.perm_ext_iff_of_nodup (has.filter _) (hbs.filter _)).mpr
  intro a
  simp [and_comm]

theorem jaccard_comm {as bs : List α} (has : as.Nodup) (hbs : bs.Nodup) :
    jaccard as bs = jaccard bs as := by
  have hcommon := length_common_comm has hbs
  have hsplitLeft := as.length_eq_length_filter_add bs.contains
  have hsplitRight := bs.length_eq_length_filter_add as.contains
  have htotal :
      as.length + (bs.filter fun b => !as.contains b).length =
        bs.length + (as.filter fun a => !bs.contains a).length := by
    omega
  simp only [jaccard, hcommon, htotal]

theorem similar_comm (t : SimilarityThresholds) (a b : String) : similar t a b = similar t b a := by
  have hlengths : lengthDifference a b = lengthDifference b a := by
    simp only [lengthDifference, Nat.max_comm, Nat.min_comm]
  have hchars : charSimilarity a b = charSimilarity b a :=
    jaccard_comm (nodup_eraseDups _) (nodup_eraseDups _)
  have hwords : wordSimilarity a b = wordSimilarity b a :=
    jaccard_comm (nodup_eraseDups _) (nodup_eraseDups _)
  simp only [similar, hlengths, hchars, hwords, Bool.or_comm a.isEmpty]

/-! ### Seeds -/

section Seeds

variable (t : SimilarityThresholds) (texts : List String)

/-- The text is similar to no earlier one that opens a group. -/
def IsSeed (i : Fin texts.length) : Prop :=
  ∀ j, (_ : j < i) → IsSeed j → similar t texts[j] texts[i] = false
termination_by i.val

theorem isSeed_iff {i : Fin texts.length} :
    IsSeed t texts i ↔ ∀ j < i, IsSeed t texts j → similar t texts[j] texts[i] = false := by
  rw [IsSeed]

instance IsSeed.decidable (i : Fin texts.length) : Decidable (IsSeed t texts i) :=
  have (j : Fin i.val) : Decidable (IsSeed t texts ⟨j, j.isLt.trans i.isLt⟩) :=
    IsSeed.decidable ⟨j, j.isLt.trans i.isLt⟩
  decidable_of_iff
    (∀ j : Fin i.val, IsSeed t texts ⟨j, j.isLt.trans i.isLt⟩ →
      similar t texts[j.val] texts[i] = false) <| by
    rw [isSeed_iff]
    exact ⟨fun hall j hj => hall ⟨j, hj⟩, fun hall j => hall ⟨j, j.isLt.trans i.isLt⟩ j.isLt⟩
termination_by i.val

/-- The text opens no group, and this is the first of the seeds that are similar to it. -/
def BelongsTo (seed i : Fin texts.length) : Prop :=
  ¬ IsSeed t texts i ∧ IsSeed t texts seed ∧ similar t texts[seed] texts[i] = true ∧
    ∀ j < seed, IsSeed t texts j → similar t texts[j] texts[i] = false

instance (seed i : Fin texts.length) : Decidable (BelongsTo t texts seed i) :=
  inferInstanceAs (Decidable (_ ∧ _))

/-- The places of the seeds, in ascending order. -/
def seeds : List (Fin texts.length) :=
  (List.finRange texts.length).filter fun i => IsSeed t texts i

/-- The place of a seed and, in ascending order, of the texts that belong to it. -/
def cluster (seed : Fin texts.length) : List (Fin texts.length) :=
  seed :: (List.finRange texts.length).filter fun i => BelongsTo t texts seed i

/-- A text with its place. -/
def numbered (i : Fin texts.length) : Nat × String := (i.val, texts[i])

/-! ### Texts that are still free -/

/-- The places from one on that are similar to no seed before it. -/
def free (k : Nat) : List (Fin texts.length) :=
  (List.finRange texts.length).filter fun i =>
    k ≤ i.val ∧ ∀ j : Fin texts.length, j.val < k → IsSeed t texts j →
      similar t texts[j] texts[i] = false

/-- The seeds from a place on. -/
def seedsFrom (k : Nat) : List (Fin texts.length) :=
  (List.finRange texts.length).filter fun i => k ≤ i.val ∧ IsSeed t texts i

end Seeds

variable {t : SimilarityThresholds} {texts : List String} {k : Nat}
  {i j seed : Fin texts.length} {rest : List (Fin texts.length)}

theorem ascending_filter_finRange {n : Nat} (p : Fin n → Bool) :
    ((List.finRange n).filter p).Pairwise (· < ·) :=
  (List.sortedLT_finRange n).pairwise.filter p

theorem ascending_free : (free t texts k).Pairwise (· < ·) := ascending_filter_finRange _

theorem ascending_seedsFrom : (seedsFrom t texts k).Pairwise (· < ·) := ascending_filter_finRange _

theorem mem_seedsFrom : i ∈ seedsFrom t texts k ↔ k ≤ i.val ∧ IsSeed t texts i := by
  simp [seedsFrom]

theorem mem_free :
    i ∈ free t texts k ↔
      k ≤ i.val ∧ ∀ j : Fin texts.length, j.val < k → IsSeed t texts j →
        similar t texts[j] texts[i] = false := by
  simp [free]

theorem mem_free_of_isSeed (hseed : IsSeed t texts i) (hk : k ≤ i.val) : i ∈ free t texts k := by
  apply mem_free.mpr
  constructor
  · exact hk
  · intro j hj hother
    apply (isSeed_iff t texts).mp hseed j _ hother
    exact Fin.lt_def.mpr (by omega)

theorem seedsFrom_of_free_eq_nil (hfree : free t texts k = []) : seedsFrom t texts k = [] := by
  apply List.eq_nil_iff_forall_not_mem.mpr
  intro i hi
  rcases mem_seedsFrom.mp hi with ⟨hk, hseed⟩
  have hmem := mem_free_of_isSeed hseed hk
  rw [hfree] at hmem
  exact List.not_mem_nil hmem

theorem lt_of_mem_rest (hfree : free t texts k = seed :: rest) (hi : i ∈ rest) : seed < i := by
  have hascending : (free t texts k).Pairwise (· < ·) := ascending_free
  rw [hfree] at hascending
  exact (List.pairwise_cons.mp hascending).1 i hi

theorem le_of_mem_free (hfree : free t texts k = seed :: rest) (hi : i ∈ free t texts k) :
    seed ≤ i := by
  rw [hfree] at hi
  rcases List.mem_cons.mp hi with rfl | hi
  · exact le_rfl
  · exact (lt_of_mem_rest hfree hi).le

theorem mem_rest_iff (hfree : free t texts k = seed :: rest) :
    i ∈ rest ↔ seed < i ∧ i ∈ free t texts k := by
  constructor
  · intro hi
    refine ⟨lt_of_mem_rest hfree hi, ?_⟩
    rw [hfree]
    exact List.mem_cons_of_mem _ hi
  · rintro ⟨hlt, hi⟩
    rw [hfree] at hi
    rcases List.mem_cons.mp hi with rfl | hi
    · exact absurd hlt (lt_irrefl _)
    · exact hi

/-- Between the place where the free texts begin and the first of them there is no seed. -/
theorem lt_of_isSeed_of_lt (hfree : free t texts k = seed :: rest) (hj : IsSeed t texts j)
    (hlt : j < seed) : j.val < k := by
  by_contra hk
  have hle := le_of_mem_free hfree (mem_free_of_isSeed hj (Nat.le_of_not_lt hk))
  exact absurd hlt (not_lt_of_ge hle)

theorem isSeed_of_free_eq_cons (hfree : free t texts k = seed :: rest) : IsSeed t texts seed := by
  have hmem : seed ∈ free t texts k := by
    rw [hfree]
    exact List.mem_cons_self
  apply (isSeed_iff t texts).mpr
  intro j hj hother
  exact (mem_free.mp hmem).2 j (lt_of_isSeed_of_lt hfree hother hj) hother

theorem seedsFrom_of_free_eq_cons (hfree : free t texts k = seed :: rest) :
    seedsFrom t texts k = seed :: seedsFrom t texts (seed.val + 1) := by
  have hseed := isSeed_of_free_eq_cons hfree
  have hplace : k ≤ seed.val := (mem_free.mp (hfree ▸ List.mem_cons_self)).1
  apply ascending_seedsFrom.eq_of_mem_iff
  · apply List.pairwise_cons.mpr
    exact ⟨fun i hi => Fin.lt_def.mpr (mem_seedsFrom.mp hi).1, ascending_seedsFrom⟩
  · intro i
    rw [List.mem_cons, mem_seedsFrom, mem_seedsFrom]
    constructor
    · rintro ⟨hk, hi⟩
      rcases (le_of_mem_free hfree (mem_free_of_isSeed hi hk)).eq_or_lt with heq | hlt
      · exact .inl heq.symm
      · exact .inr ⟨hlt, hi⟩
    · rintro (rfl | ⟨hlater, hi⟩)
      · exact ⟨hplace, hseed⟩
      · exact ⟨by omega, hi⟩

theorem ascending_rest (hfree : free t texts k = seed :: rest) : rest.Pairwise (· < ·) := by
  have hascending : (free t texts k).Pairwise (· < ·) := ascending_free
  rw [hfree] at hascending
  exact (List.pairwise_cons.mp hascending).2

/-- What the first free text leaves is what is free behind it. -/
theorem filter_rest_of_not_similar (hfree : free t texts k = seed :: rest) :
    (rest.filter fun i => !similar t texts[seed] texts[i]) = free t texts (seed.val + 1) := by
  have hplace : k ≤ seed.val := (mem_free.mp (hfree ▸ List.mem_cons_self)).1
  apply ((ascending_rest hfree).filter _).eq_of_mem_iff ascending_free
  intro i
  rw [List.mem_filter, mem_rest_iff hfree, mem_free, mem_free, Bool.not_eq_true']
  constructor
  · rintro ⟨⟨hlt, _, hunlike⟩, hother⟩
    refine ⟨hlt, ?_⟩
    intro j hj hjSeed
    rcases (Fin.le_def.mpr (Nat.le_of_lt_succ hj) : j ≤ seed).eq_or_lt with rfl | hbefore
    · exact hother
    · exact hunlike j (lt_of_isSeed_of_lt hfree hjSeed hbefore) hjSeed
  · rintro ⟨hlt, hunlike⟩
    refine ⟨⟨hlt, by omega, ?_⟩, ?_⟩
    · intro j hj hjSeed
      exact hunlike j (by omega) hjSeed
    · exact hunlike seed (Nat.lt_succ_self _) (isSeed_of_free_eq_cons hfree)

/-- What the first free text takes is what belongs to it. -/
theorem filter_rest_of_similar (hfree : free t texts k = seed :: rest) :
    seed :: (rest.filter fun i => similar t texts[seed] texts[i]) = cluster t texts seed := by
  have hseed := isSeed_of_free_eq_cons hfree
  have hplace : k ≤ seed.val := (mem_free.mp (hfree ▸ List.mem_cons_self)).1
  apply congrArg (List.cons seed)
  apply ((ascending_rest hfree).filter _).eq_of_mem_iff (ascending_filter_finRange _)
  intro i
  simp only [List.mem_filter, mem_rest_iff hfree, mem_free, List.mem_finRange, true_and,
    decide_eq_true_eq]
  constructor
  · rintro ⟨⟨hlt, _, hunlike⟩, hsimilar⟩
    refine ⟨?_, hseed, hsimilar, ?_⟩
    · intro hi
      have hnot := (isSeed_iff t texts).mp hi seed hlt hseed
      rw [hsimilar] at hnot
      cases hnot
    · intro j hj hjSeed
      exact hunlike j (lt_of_isSeed_of_lt hfree hjSeed hj) hjSeed
  · rintro ⟨hi, _, hsimilar, hfirst⟩
    have hlt : seed < i := by
      by_contra hle
      apply hi
      apply (isSeed_iff t texts).mpr
      intro j hj hjSeed
      exact hfirst j (lt_of_lt_of_le hj (not_lt.mp hle)) hjSeed
    refine ⟨⟨hlt, by omega, ?_⟩, hsimilar⟩
    intro j hj hjSeed
    exact hfirst j (Fin.lt_def.mpr (by omega)) hjSeed

theorem groupFrom_free {fuel : Nat} (hfuel : (free t texts k).length ≤ fuel) :
    groupFrom t fuel ((free t texts k).map (numbered texts)) =
      (seedsFrom t texts k).map fun seed => (cluster t texts seed).map (numbered texts) := by
  induction fuel generalizing k with
  | zero =>
      have hnone : free t texts k = [] := List.length_eq_zero_iff.mp (Nat.le_zero.mp hfuel)
      rw [seedsFrom_of_free_eq_nil hnone]
      rfl
  | succ fuel ih =>
      cases hfree : free t texts k with
      | nil =>
          rw [seedsFrom_of_free_eq_nil hfree]
          rfl
      | cons seed rest =>
          have htaken := filter_rest_of_similar hfree
          have hleft := filter_rest_of_not_similar hfree
          have hshorter : (free t texts (seed.val + 1)).length ≤ fuel := by
            rw [← hleft]
            rw [hfree, List.length_cons] at hfuel
            exact (List.length_filter_le _ _).trans (Nat.le_of_succ_le_succ hfuel)
          rw [seedsFrom_of_free_eq_cons hfree, List.map_cons, List.map_cons, ← ih hshorter, ← hleft,
            ← htaken]
          simp only [List.map_cons, groupFrom, List.partition_eq_filter_filter, List.filter_map,
            numbered, Function.comp_def]

theorem groupFrom_range_zip (t : SimilarityThresholds) (texts : List String) :
    groupFrom t ((List.range texts.length).zip texts).length ((List.range texts.length).zip texts) =
      ((seeds t texts).map (cluster t texts)).map (List.map (numbered texts)) := by
  have hfree : free t texts 0 = List.finRange texts.length := by
    apply List.filter_eq_self.mpr
    simp
  have hseeds : seedsFrom t texts 0 = seeds t texts := by
    apply List.filter_congr
    simp
  have hnumbered :
      (List.range texts.length).zip texts = (free t texts 0).map (numbered texts) := by
    rw [hfree]
    apply List.ext_getElem
    · simp
    · simp [numbered]
  rw [hnumbered, ← hseeds, List.map_map]
  apply groupFrom_free
  simp

/-! ### Groups -/

/-- A text that belongs to two seeds belongs to one: neither comes before the other. -/
theorem BelongsTo.eq {other : Fin texts.length} (hseed : BelongsTo t texts seed i)
    (hother : BelongsTo t texts other i) : seed = other := by
  rcases hseed with ⟨_, hisSeed, hsimilar, hfirst⟩
  rcases hother with ⟨_, hisOther, hotherSimilar, hotherFirst⟩
  rcases lt_trichotomy seed other with hlt | heq | hlt
  · rw [hotherFirst seed hlt hisSeed] at hsimilar
    cases hsimilar
  · exact heq
  · rw [hfirst other hlt hisOther] at hotherSimilar
    cases hotherSimilar

theorem mem_cluster : i ∈ cluster t texts seed ↔ i = seed ∨ BelongsTo t texts seed i := by
  simp [cluster]

theorem nodup_cluster (hseed : IsSeed t texts seed) : (cluster t texts seed).Nodup := by
  apply List.nodup_cons.mpr
  constructor
  · intro hmem
    have hbelongs : BelongsTo t texts seed seed := by simpa using hmem
    exact hbelongs.1 hseed
  · exact (List.nodup_finRange _).filter _

theorem disjoint_cluster {other : Fin texts.length} (hseed : IsSeed t texts seed)
    (hother : IsSeed t texts other) (hne : seed ≠ other) :
    (cluster t texts seed).Disjoint (cluster t texts other) := by
  intro i hi hiOther
  rcases mem_cluster.mp hi with rfl | hbelongs
  · rcases mem_cluster.mp hiOther with heq | hbelongsOther
    · exact hne heq
    · exact hbelongsOther.1 hseed
  · rcases mem_cluster.mp hiOther with rfl | hbelongsOther
    · exact hbelongs.1 hother
    · exact hne (hbelongs.eq hbelongsOther)

theorem nodup_flatten_clusters (keep : List (Fin texts.length) → Bool) :
    (((seeds t texts).map (cluster t texts)).filter keep).flatten.Nodup := by
  have hsublist := List.filter_sublist (p := keep) (l := (seeds t texts).map (cluster t texts))
  apply hsublist.flatten.nodup
  apply List.nodup_flatten.mpr
  constructor
  · intro group hgroup
    rcases List.mem_map.mp hgroup with ⟨seed, hmem, rfl⟩
    exact nodup_cluster (by simpa [seeds] using hmem)
  · apply List.pairwise_map.mpr
    have hnodup : (seeds t texts).Nodup := (List.nodup_finRange _).filter _
    apply List.Pairwise.imp_of_mem _ hnodup
    intro seed other hmem hmemOther hne
    exact disjoint_cluster (by simpa [seeds] using hmem) (by simpa [seeds] using hmemOther) hne

theorem not_similar_of_seeds (hi : IsSeed t texts i) (hj : IsSeed t texts j) (hne : i ≠ j) :
    similar t texts[i] texts[j] = false := by
  rcases lt_or_gt_of_ne hne with hlt | hlt
  · exact (isSeed_iff t texts).mp hj i hlt hi
  · rw [similar_comm]
    exact (isSeed_iff t texts).mp hi j hlt hj

/-- The groups are those of the seeds in their order, each seed followed by the texts that belong to
it, as far as they are large enough.  No place is in two groups, nor twice in one, and no two seeds
are similar. -/
theorem groups_eq_clusters (t : SimilarityThresholds) (least : Nat) (texts : List String) :
    groups t least texts =
        (((seeds t texts).map (cluster t texts)).filter fun group => max least 1 ≤ group.length).map
          (List.map (numbered texts)) ∧
      ((groups t least texts).flatten.map Prod.fst).Nodup ∧
      ∀ i j, IsSeed t texts i → IsSeed t texts j → i ≠ j →
        similar t texts[i] texts[j] = false := by
  have hgroups : groups t least texts =
      (((seeds t texts).map (cluster t texts)).filter fun group => max least 1 ≤ group.length).map
        (List.map (numbered texts)) := by
    unfold groups
    simp only
    rw [groupFrom_range_zip, List.filter_map]
    simp only [Function.comp_def, List.length_map]
  refine ⟨hgroups, ?_, fun i j => not_similar_of_seeds⟩
  have hplaces : ((groups t least texts).flatten.map Prod.fst) =
      (((seeds t texts).map (cluster t texts)).filter fun group =>
        max least 1 ≤ group.length).flatten.map Fin.val := by
    rw [hgroups, ← List.map_flatten, List.map_map]
    rfl
  rw [hplaces]
  exact (nodup_flatten_clusters _).map Fin.val_injective

/-- The last text is similar to the second one, but that one opens no group. -/
example :
    (groups ⟨0.3, 0.7, 0.5⟩ 1 ["abcdefgh", "abcdefgx", "abcdefxy"]).map (List.map Prod.fst) =
      [[0, 1], [2]] := by
  decide +kernel

end Similarity
end AdaptiveRules
