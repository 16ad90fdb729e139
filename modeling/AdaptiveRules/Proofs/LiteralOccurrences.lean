import AdaptiveRules.LiteralSearch
import AdaptiveRules.Proofs.WindowCoverage

/-!
# Occurrences of a literal text

A word occurs at a byte offset if the text splits there.  The plain search passes over the characters
of what it has found; this loses nothing if the word cannot overlap itself, that is, if no proper part
of it both begins and ends it.  An occurrence in a stretch of a text is one in the whole text, and one
in the whole text that fits into the stretch is one there.
-/

namespace AdaptiveRules

open TextLines

/-- The word stands in the text after so many bytes. -/
def Occurs (word cs : List Char) (pos : Nat) : Prop :=
  ∃ before after, cs = before ++ (word ++ after) ∧ byteSize before = pos

/-- The word is not empty, and no proper part of it both begins and ends it. -/
def BorderFree (word : List Char) : Prop :=
  word ≠ [] ∧ ∀ part, part <+: word → part <:+ word → part = [] ∨ part = word

/-- The matches are the occurrences of the word, each once and from left to right. -/
structure IsOccurrenceList (word source : String) (found : List MatchInstance) : Prop where
  ascending : found.Pairwise fun m n => m.start < n.start
  span : ∀ m ∈ found, m.text = word ∧ m.stop = m.start + byteSize word.toList
  mem_iff : ∀ pos, (∃ m ∈ found, m.start = pos) ↔ Occurs word.toList source.toList pos

theorem occurs_cons {word rest : List Char} {c : Char} {pos : Nat} :
    Occurs word (c :: rest) pos ↔
      (pos = 0 ∧ word <+: c :: rest) ∨
        ∃ later, pos = c.utf8Size + later ∧ Occurs word rest later := by
  constructor
  · rintro ⟨before, after, hsplit, hpos⟩
    cases before with
    | nil => exact Or.inl ⟨hpos.symm, after, hsplit.symm⟩
    | cons b before =>
        simp only [List.cons_append, List.cons.injEq] at hsplit
        obtain ⟨rfl, hrest⟩ := hsplit
        exact Or.inr ⟨byteSize before, hpos.symm, before, after, hrest, rfl⟩
  · rintro (⟨rfl, after, hafter⟩ | ⟨later, rfl, before, after, rfl, rfl⟩)
    · exact ⟨[], after, hafter.symm, rfl⟩
    · exact ⟨c :: before, after, rfl, byteSize_cons c before⟩

theorem not_occurs_nil {word : List Char} (hword : word ≠ []) (pos : Nat) :
    ¬ Occurs word [] pos := by
  rintro ⟨before, after, hsplit, _⟩
  have hempty := congrArg List.length hsplit
  have hlength := List.length_pos_iff.mpr hword
  simp only [List.length_nil, List.length_append] at hempty
  omega

theorem Occurs.of_stretch {word stretch : List Char} {pos : Nat}
    (hoccurs : Occurs word stretch pos) (before after : List Char) :
    Occurs word (before ++ (stretch ++ after)) (byteSize before + pos) := by
  obtain ⟨left, right, rfl, rfl⟩ := hoccurs
  exact ⟨before ++ left, right ++ after, by simp, byteSize_append before left⟩

/-- What occurs in a text and fits into a stretch of it occurs in the stretch. -/
theorem Occurs.in_stretch {word cs before stretch after : List Char} {pos : Nat}
    (hoccurs : Occurs word cs pos) (hsplit : cs = before ++ (stretch ++ after))
    (hstart : byteSize before ≤ pos)
    (hstop : pos + byteSize word ≤ byteSize before + byteSize stretch) :
    Occurs word stretch (pos - byteSize before) := by
  obtain ⟨left, right, hcs, rfl⟩ := hoccurs
  rw [hcs] at hsplit
  obtain ⟨middle, rfl⟩ := isPrefix_of_byteSize_le hsplit.symm hstart
  rw [List.append_assoc, List.append_cancel_left_eq, ← List.append_assoc] at hsplit
  rw [byteSize_append] at hstop
  obtain ⟨more, hmore⟩ :=
    isPrefix_of_byteSize_le hsplit (by rw [byteSize_append]; omega)
  refine ⟨middle, more, ?_, ?_⟩
  · rw [← hmore, List.append_assoc]
  · rw [byteSize_append]
    omega

theorem IsOccurrenceList.map_recovered {word source : String} {found : List MatchInstance}
    (hfound : IsOccurrenceList word source found) :
    IsOccurrenceList word source (found.map fun m => { m with recovered := true }) := by
  refine ⟨List.pairwise_map.mpr hfound.ascending, ?_, ?_⟩
  · intro m hm
    obtain ⟨n, hn, rfl⟩ := List.mem_map.mp hm
    exact hfound.span n hn
  · intro pos
    simpa only [List.mem_map, exists_exists_and_eq_and] using hfound.mem_iff pos

/-! ### The plain search finds them all -/

/-- A word that does not overlap itself cannot start again inside one of its occurrences. -/
theorem BorderFree.not_isPrefix_drop {word cs : List Char}
    (hword : BorderFree word) (hhere : word <+: cs) {skipped : Nat}
    (hpos : 0 < skipped) (hlt : skipped < word.length) :
    ¬ word <+: cs.drop skipped := by
  rintro hlater
  have htake : word = cs.take word.length := List.prefix_iff_eq_take.mp hhere
  have hagain : word.drop skipped = word.take (word.length - skipped) := by
    calc
      word.drop skipped = (cs.drop skipped).take (word.length - skipped) := by
        conv_lhs => rw [htake]
        rw [List.drop_take]
      _ = ((cs.drop skipped).take word.length).take (word.length - skipped) := by
        rw [List.take_take, Nat.min_eq_left (Nat.sub_le _ _)]
      _ = word.take (word.length - skipped) := by rw [← List.prefix_iff_eq_take.mp hlater]
  have hbegins : word.drop skipped <+: word := by
    rw [hagain]
    exact List.take_prefix _ _
  rcases hword.2 _ hbegins (List.drop_suffix _ _) with hempty | hwhole
  · have hlength := congrArg List.length hempty
    simp only [List.length_drop, List.length_nil] at hlength
    omega
  · have hlength := congrArg List.length hwhole
    simp only [List.length_drop] at hlength
    omega

namespace LiteralSearch

/-- The matches are the occurrences in a text that stands at an offset. -/
structure Locates (word : List Char) (pos : Nat) (cs : List Char) (found : List MatchInstance) :
    Prop where
  ascending : found.Pairwise fun m n => m.start < n.start
  later : ∀ m ∈ found, pos ≤ m.start
  span : ∀ m ∈ found, m.text = String.ofList word ∧ m.stop = m.start + byteSize word
  mem_iff : ∀ place, (∃ m ∈ found, m.start = pos + place) ↔ Occurs word cs place

variable {word rest : List Char} {pos : Nat} {c : Char} {found : List MatchInstance}

theorem Locates.here (hlocates : Locates word (pos + c.utf8Size) rest found)
    (hstarts : word <+: c :: rest) :
    Locates word pos (c :: rest)
      (.plain (String.ofList word) pos (pos + byteSize word) :: found) := by
  have hpos := c.utf8Size_pos
  refine ⟨List.pairwise_cons.mpr ⟨?_, hlocates.ascending⟩, ?_, ?_, ?_⟩
  · intro m hm
    have hlater := hlocates.later m hm
    simp only [MatchInstance.plain]
    omega
  · intro m hm
    rcases List.mem_cons.mp hm with rfl | hm
    · exact le_refl pos
    · exact le_of_add_le_left (hlocates.later m hm)
  · intro m hm
    rcases List.mem_cons.mp hm with rfl | hm
    · exact ⟨rfl, rfl⟩
    · exact hlocates.span m hm
  · intro place
    rw [occurs_cons]
    constructor
    · rintro ⟨m, hm, hplace⟩
      rcases List.mem_cons.mp hm with rfl | hm
      · simp only [MatchInstance.plain] at hplace
        exact Or.inl ⟨by omega, hstarts⟩
      · have hlater := hlocates.later m hm
        exact Or.inr ⟨place - c.utf8Size, by omega,
          (hlocates.mem_iff _).mp ⟨m, hm, by omega⟩⟩
    · rintro (⟨rfl, _⟩ | ⟨later, rfl, hoccurs⟩)
      · exact ⟨_, List.mem_cons_self, rfl⟩
      · obtain ⟨m, hm, hplace⟩ := (hlocates.mem_iff later).mpr hoccurs
        exact ⟨m, List.mem_cons_of_mem _ hm, by omega⟩

theorem Locates.further (hlocates : Locates word (pos + c.utf8Size) rest found)
    (hnot : ¬ word <+: c :: rest) : Locates word pos (c :: rest) found := by
  refine ⟨hlocates.ascending, fun m hm => le_of_add_le_left (hlocates.later m hm),
    hlocates.span, ?_⟩
  intro place
  rw [occurs_cons]
  constructor
  · rintro ⟨m, hm, hplace⟩
    have hlater := hlocates.later m hm
    exact Or.inr ⟨place - c.utf8Size, by omega, (hlocates.mem_iff _).mp ⟨m, hm, by omega⟩⟩
  · rintro (⟨_, hstarts⟩ | ⟨later, rfl, hoccurs⟩)
    · exact absurd hstarts hnot
    · obtain ⟨m, hm, hplace⟩ := (hlocates.mem_iff later).mpr hoccurs
      exact ⟨m, hm, by omega⟩

/-- The search from a place on.  The induction is on the text that is left; while characters are
passed over, no occurrence starts among them. -/
theorem locates_occurrencesFrom (hword : BorderFree word) (pos skip : Nat) {cs : List Char}
    (hskip : ∀ k < skip, ¬ word <+: cs.drop k) :
    Locates word pos cs (occurrencesFrom word pos skip cs) := by
  induction cs generalizing pos skip with
  | nil =>
      have hnone : occurrencesFrom word pos skip [] = [] := by
        simp [occurrencesFrom, hword.1]
      rw [hnone]
      exact ⟨.nil, by simp, by simp, by simp [not_occurs_nil hword.1]⟩
  | cons c rest ih =>
      unfold occurrencesFrom
      split
      · next hhere =>
          have hstarts : word <+: c :: rest := List.isPrefixOf_iff_prefix.mp hhere.2
          have hinside : ∀ k < word.length - 1, ¬ word <+: rest.drop k := by
            intro k hk
            exact hword.not_isPrefix_drop hstarts k.succ_pos (by omega)
          exact (ih (pos + c.utf8Size) (word.length - 1) hinside).here hstarts
      · next hnot =>
          have hhere : ¬ word <+: c :: rest := by
            by_cases hzero : skip = 0
            · intro hstarts
              exact hnot ⟨hzero, List.isPrefixOf_iff_prefix.mpr hstarts⟩
            · exact hskip 0 (by omega)
          have hinside : ∀ k < skip - 1, ¬ word <+: rest.drop k := by
            intro k hk
            exact hskip (k + 1) (by omega)
          exact (ih (pos + c.utf8Size) (skip - 1) hinside).further hhere

theorem isOccurrenceList_occurrences {word : String} (hword : BorderFree word.toList)
    (source : String) : IsOccurrenceList word source (occurrences word source) := by
  have hstart : ∀ k < 0, ¬ word.toList <+: source.toList.drop k := by simp
  have hlocates := locates_occurrencesFrom hword 0 0 hstart
  refine ⟨hlocates.ascending, ?_, ?_⟩
  · intro m hm
    obtain ⟨htext, hstop⟩ := hlocates.span m hm
    exact ⟨by rw [htext, String.ofList_toList], hstop⟩
  · intro pos
    simpa [occurrences] using hlocates.mem_iff pos

end LiteralSearch
end AdaptiveRules
