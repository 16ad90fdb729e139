import AdaptiveRules.Proofs.SectionVisits

/-!
# Turns of a session

A session takes turns at its menu.  A finished visit and a refusal to leave lead back to the menu;
saving, leaving and a prompt without an answer end the session.  Every session ends, and what it ends
with is what the finished visits made of the configuration.
-/

namespace AdaptiveRules

variable {c d e : Configuration} {keys rest : List Key}

namespace ConfigurationSession

/-! ### Turns at the menu -/

/-- The sections that were visited, in order, each with the configuration that the visit left. -/
abbrev Visits := List (ConfigurationSection × Configuration)

/-- What is chosen in the menu. -/
def chosen (keys : List Key) : Reply MenuEntry :=
  (Prompt.menu entries.length 0 keys).map fun r => (entryAt r.1, r.2)

/-- A turn that leads back to the menu. -/
inductive Turn (c : Configuration) (keys : List Key) : Visits → Configuration → List Key → Prop
  | visit {d : Configuration} {asked rest : List Key} {s : ConfigurationSection}
      (hchosen : chosen keys = some (.visit s, asked))
      (hfinished : (s.questionnaire.visit c asked).outcome = some (d, rest)) :
      Turn c keys [(s, d)] d rest
  | stay {asked rest : List Key} (hchosen : chosen keys = some (.leave, asked))
      (hrefused : Prompt.confirm false asked = some (false, rest)) : Turn c keys [] c rest

/-- Turns one after the other, with all visits that were made in them. -/
inductive Turns : Configuration → List Key → Visits → Configuration → List Key → Prop
  | none (c : Configuration) (keys : List Key) : Turns c keys [] c keys
  | next {c d e : Configuration} {keys back rest : List Key} {first visits : Visits}
      (hturn : Turn c keys first d back) (hturns : Turns d back visits e rest) :
      Turns c keys (first ++ visits) e rest

/-- The session ends with this turn. -/
inductive Ends (c : Configuration) (keys : List Key) : SessionEnd → Prop
  | save {rest : List Key} (hchosen : chosen keys = some (.save, rest)) : Ends c keys (.saved c)
  | leave {asked rest : List Key} (hchosen : chosen keys = some (.leave, asked))
      (hsure : Prompt.confirm false asked = some (true, rest)) : Ends c keys .left
  | nothingChosen (hchosen : chosen keys = none) : Ends c keys .cutOff
  | unconfirmed {asked : List Key} (hchosen : chosen keys = some (.leave, asked))
      (hcut : Prompt.confirm false asked = none) : Ends c keys .cutOff
  | unfinished {asked : List Key} {s : ConfigurationSection}
      (hchosen : chosen keys = some (.visit s, asked))
      (hcut : (s.questionnaire.visit c asked).outcome = none) : Ends c keys .cutOff

/-- The session ends so, after these visits. -/
def EndsAfter (c : Configuration) (keys : List Key) (visits : Visits) (ending : SessionEnd) : Prop :=
  ∃ d rest, Turns c keys visits d rest ∧ Ends d rest ending

variable {first visits : Visits} {ending : SessionEnd}

/-- How a session ends, turn by turn. -/
theorem ending_run (c : Configuration) (keys : List Key) :
    (run c keys).ending =
      match chosen keys with
      | none => .cutOff
      | some (.save, _) => .saved c
      | some (.leave, asked) =>
          match Prompt.confirm false asked with
          | none => .cutOff
          | some (true, _) => .left
          | some (false, rest) => (run c rest).ending
      | some (.visit s, asked) =>
          match (s.questionnaire.visit c asked).outcome with
          | none => .cutOff
          | some (d, rest) => (run d rest).ending := by
  rw [run]
  unfold chosen
  split
  · next hmenu => simp [hmenu]
  · next i asked hmenu =>
      simp only [hmenu, Option.map_some]
      split
      · next hentry => simp [hentry]
      · next hentry =>
          simp only [hentry]
          split
          · next hconfirm => simp [hconfirm]
          · next hconfirm => simp [hconfirm]
          · next hconfirm => simp [hconfirm]
      · next s hentry =>
          simp only [hentry]
          split
          · next hvisit => simp [hvisit]
          · next hvisit => simp [hvisit, SessionResult.after]

theorem Turn.ending_run (hturn : Turn c keys first d rest) :
    (run c keys).ending = (run d rest).ending := by
  rw [ConfigurationSession.ending_run c keys]
  cases hturn with
  | visit hchosen hfinished => simp only [hchosen, hfinished]
  | stay hchosen hrefused => simp only [hchosen, hrefused]

theorem Turns.ending_run (hturns : Turns c keys visits d rest) :
    (run c keys).ending = (run d rest).ending := by
  induction hturns with
  | none c keys => rfl
  | next hturn hturns ih => exact hturn.ending_run.trans ih

theorem Ends.ending_run (hends : Ends c keys ending) : (run c keys).ending = ending := by
  rw [ConfigurationSession.ending_run]
  cases hends with
  | save hchosen => simp only [hchosen]
  | leave hchosen hsure => simp only [hchosen, hsure]
  | nothingChosen hchosen => simp only [hchosen]
  | unconfirmed hchosen hcut => simp only [hchosen, hcut]
  | unfinished hchosen hcut => simp only [hchosen, hcut]

theorem EndsAfter.ending_run (hends : EndsAfter c keys visits ending) :
    (run c keys).ending = ending := by
  obtain ⟨d, rest, hturns, hend⟩ := hends
  exact hturns.ending_run.trans hend.ending_run

/-! ### What visits make of a configuration -/

/-- Only visited sections differ.  After a visit to matching, windows can be cut; after a visit that
left learning switched on, groups have members, and they keep them. -/
structure HoldsChoices (visits : Visits) (c d : Configuration) : Prop where
  differs : Configuration.DiffersOnlyIn (visits.map Prod.fst) c d
  windows : .matching ∈ visits.map Prod.fst →
    1 ≤ d.matching.windowSize ∧ d.matching.overlap < d.matching.windowSize
  groups : ∀ e, (.learning, e) ∈ visits → e.learning.enabled = true → 1 ≤ d.learning.minGroupSize
  groupsStay : 1 ≤ c.learning.minGroupSize → 1 ≤ d.learning.minGroupSize

namespace HoldsChoices

theorem refl (c : Configuration) : HoldsChoices [] c c where
  differs := .refl _ c
  windows hvisited := absurd hvisited List.not_mem_nil
  groups _ hvisited := absurd hvisited List.not_mem_nil
  groupsStay := id

theorem trans (hfirst : HoldsChoices first c d) (hmore : HoldsChoices visits d e) :
    HoldsChoices (first ++ visits) c e where
  differs := by
    rw [List.map_append]
    exact (hfirst.differs.mono (List.subset_append_left _ _)).trans
      (hmore.differs.mono (List.subset_append_right _ _))
  windows hvisited := by
    -- The last visit to matching settles it.
    by_cases hlater : .matching ∈ visits.map Prod.fst
    · exact hmore.windows hlater
    · rw [List.map_append, List.mem_append] at hvisited
      rw [hmore.differs.matching hlater]
      exact hfirst.windows (hvisited.resolve_right hlater)
  groups f hvisited hon := by
    rcases List.mem_append.mp hvisited with hearlier | hlater
    · exact hmore.groupsStay (hfirst.groups f hearlier hon)
    · exact hmore.groups f hlater hon
  groupsStay hsize := hmore.groupsStay (hfirst.groupsStay hsize)

end HoldsChoices

theorem Turn.holdsChoices (hturn : Turn c keys first d rest) : HoldsChoices first c d := by
  cases hturn with
  | stay hchosen hrefused => exact .refl c
  | @visit _ asked _ s hchosen hfinished =>
      refine ⟨ConfigurationSection.differsOnlyIn_of_visit hfinished, ?_, ?_, ?_⟩
      · intro hvisited
        obtain rfl : .matching = s := by simpa using hvisited
        exact ConfigurationSection.windowSize_of_visit hfinished
      · intro e hvisited hon
        obtain ⟨rfl, rfl⟩ : .learning = s ∧ e = d := by simpa using hvisited
        exact ConfigurationSection.minGroupSize_of_enabled hfinished hon
      · intro hsize
        exact ConfigurationSection.minGroupSize_of_visit hsize hfinished

theorem Turns.holdsChoices (hturns : Turns c keys visits d rest) : HoldsChoices visits c d := by
  induction hturns with
  | none c keys => exact .refl c
  | next hturn hturns ih => exact hturn.holdsChoices.trans ih

theorem EndsAfter.holdsChoices (hends : EndsAfter c keys visits (.saved d)) :
    HoldsChoices visits c d := by
  obtain ⟨e, rest, hturns, hend⟩ := hends
  cases hend with
  | save hchosen => exact hturns.holdsChoices

end ConfigurationSession
end AdaptiveRules
