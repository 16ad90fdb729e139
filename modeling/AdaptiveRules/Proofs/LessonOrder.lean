import AdaptiveRules.Proofs.LoadedInsights

/-!
# Lessons in another order

Taking in a lesson appends to the variations of a pattern those that are not known yet, each once.  So
the same lessons in another order leave the same projects and the same counts, and lists of variations
that are permutations of each other.
-/

namespace AdaptiveRules

/-- What is told of a project, without the time. -/
def ProjectInsight.content (p : ProjectInsight) : Nat × Dict Nat := (p.fileCount, p.patternCounts)

namespace Insights

/-- The same projects and variations are known; times and the order of variations may differ. -/
structure AgreesUpToOrder (known others : Insights) : Prop where
  trained : ∀ project, known.isTrained project = others.isTrained project
  analyzed : known.metrics.projectsAnalyzed = others.metrics.projectsAnalyzed
  projects : ∀ project, (known.projects.get? project).map ProjectInsight.content =
    (others.projects.get? project).map ProjectInsight.content
  variations : ∀ pattern, (known.variationsOf pattern).Perm (others.variationsOf pattern)

theorem AgreesUpToOrder.refl (known : Insights) : AgreesUpToOrder known known :=
  ⟨fun _ => rfl, rfl, fun _ => rfl, fun _ => .refl _⟩

/-- The new list is the old one with others appended, each once. -/
def AppendsNew (old new : List String) : Prop :=
  ∃ more, new = old ++ more ∧ more.Nodup ∧ ∀ v ∈ more, v ∉ old

theorem AppendsNew.refl (l : List String) : AppendsNew l l :=
  ⟨[], (List.append_nil l).symm, List.nodup_nil, nofun⟩

theorem AppendsNew.trans {a b c : List String} (hab : AppendsNew a b) (hbc : AppendsNew b c) :
    AppendsNew a c := by
  obtain ⟨more, rfl, hmore, hnew⟩ := hab
  obtain ⟨last, rfl, hlast, hnewer⟩ := hbc
  refine ⟨more ++ last, List.append_assoc .., ?_, fun v hv => ?_⟩
  · refine List.nodup_append.mpr ⟨hmore, hlast, ?_⟩
    rintro v hv w hw rfl
    exact hnewer v hw (List.mem_append_right _ hv)
  · rcases List.mem_append.mp hv with hv | hv
    · exact hnew v hv
    · exact fun hold => hnewer v hv (List.mem_append_left _ hold)

/-- Two lists that append new members to one list are permutations if they have the same members. -/
theorem AppendsNew.perm {old new others : List String} (hnew : AppendsNew old new)
    (hothers : AppendsNew old others) (hmem : ∀ v, v ∈ new ↔ v ∈ others) : new.Perm others := by
  obtain ⟨more, rfl, hmore, hnew⟩ := hnew
  obtain ⟨last, rfl, hlast, hothers⟩ := hothers
  refine List.Perm.append_left old ((List.perm_ext_iff_of_nodup hmore hlast).mpr fun v => ?_)
  constructor
  · intro hv
    have hboth := (hmem v).mp (List.mem_append_right _ hv)
    exact (List.mem_append.mp hboth).resolve_left (hnew v hv)
  · intro hv
    have hboth := (hmem v).mpr (List.mem_append_right _ hv)
    exact (List.mem_append.mp hboth).resolve_left (hothers v hv)

theorem appendsNew_addVariation (known : Insights) (pattern variation other : String) :
    AppendsNew (known.variationsOf other) ((known.addVariation pattern variation).variationsOf other) := by
  unfold addVariation
  by_cases hnew : known.isNew pattern variation = true
  · rw [if_pos hnew]
    unfold variationsOf at hnew ⊢
    rw [Dict.get?_insert]
    by_cases hother : other = pattern
    · subst hother
      rw [if_pos rfl]
      refine ⟨[variation], rfl, List.nodup_singleton _, fun v hv => ?_⟩
      rw [List.mem_singleton.mp hv]
      simp only [isNew, variationsOf, Bool.and_eq_true, Bool.not_eq_true'] at hnew
      simpa using hnew.2
    · rw [if_neg hother]
      exact .refl _
  · rw [if_neg hnew]
    exact .refl _

end Insights

namespace Lesson

open Insights

variable {settings : LearnerSettings} {base base' : Insights} {lessons lessons' : List Lesson}

theorem appendsNew_addDerived (settings : LearnerSettings) (known : Insights)
    (found : List (String × List String)) (pattern : String) :
    AppendsNew (known.variationsOf pattern)
      ((ProjectLearning.addDerived settings known found).1.variationsOf pattern) :=
  LearningState.addDerived_keeps
    (P := fun grown => AppendsNew (known.variationsOf pattern) (grown.variationsOf pattern))
    (fun grown other v hgrown => hgrown.trans (appendsNew_addVariation grown other v pattern))
    (.refl _) settings found

theorem appendsNew_addAllTo (settings : LearnerSettings) (base : Insights) (lessons : List Lesson)
    (pattern : String) :
    AppendsNew (base.variationsOf pattern) ((addAllTo settings base lessons).variationsOf pattern) := by
  induction lessons using List.reverseRecOn with
  | nil => exact .refl _
  | append_singleton lessons l ih =>
      rw [addAllTo_append]
      exact ih.trans (appendsNew_addDerived settings _ l.found.entries pattern)

/-- The lesson as if it had been given at one time. -/
def undated (l : Lesson) : Lesson := { l with time := ⟨0, 0⟩ }

theorem exists_of_mem_of_perm (hperm : (lessons.map undated).Perm (lessons'.map undated)) {l : Lesson}
    (hl : l ∈ lessons) : ∃ l' ∈ lessons', l'.undated = l.undated :=
  List.mem_map.mp (hperm.mem_iff.mp (List.mem_map_of_mem hl))

/-- The same lessons in any order, taken in by what differs in times only. -/
theorem agreesUpToOrder_addAllTo (hbase : base'.undated = base.undated)
    (hperm : (lessons.map undated).Perm (lessons'.map undated))
    (hnodup : (lessons.map Lesson.project).Nodup) :
    AgreesUpToOrder (addAllTo settings base lessons) (addAllTo settings base' lessons') := by
  obtain ⟨hprojects, _, htrained, hvariations, hmetrics, _⟩ := Insights.mk.inj hbase
  have hnames : (lessons.map Lesson.project).Perm (lessons'.map Lesson.project) := by
    have hboth := hperm.map Lesson.project
    rwa [List.map_map, List.map_map] at hboth
  refine ⟨fun project => ?_, ?_, fun project => ?_, fun pattern => ?_⟩
  · have hsame : base'.isTrained project = base.isTrained project := by
      unfold isTrained
      rw [htrained]
    rw [Bool.eq_iff_iff, isTrained_addAllTo, isTrained_addAllTo, hnames.mem_iff, hsame]
  · obtain ⟨hcount, _⟩ := LearningMetrics.mk.inj hmetrics
    have hlength : lessons.length = lessons'.length := by simpa using hperm.length_eq
    rw [projectsAnalyzed_addAllTo, projectsAnalyzed_addAllTo, hcount, hlength]
  · by_cases hproject : project ∈ lessons.map Lesson.project
    · obtain ⟨l, hl, rfl⟩ := List.mem_map.mp hproject
      obtain ⟨l', hl', hsame⟩ := exists_of_mem_of_perm hperm hl
      obtain ⟨hid, hfiles, hfound, _⟩ := Lesson.mk.inj hsame
      have hthere : (addAllTo settings base' lessons').projects.get? l'.project = some l'.insight :=
        projects_addAllTo_of_mem (hnames.nodup_iff.mp hnodup) hl'
      rw [hid] at hthere
      rw [projects_addAllTo_of_mem hnodup hl, hthere]
      simp only [Option.map_some, ProjectInsight.content, insight, hfiles, hfound]
    · rw [projects_addAllTo_of_notMem hproject,
        projects_addAllTo_of_notMem (fun h => hproject (hnames.mem_iff.mpr h)), hprojects]
  · have hsame : base'.variationsOf pattern = base.variationsOf pattern := by
      unfold variationsOf
      rw [hvariations]
    refine (appendsNew_addAllTo settings base lessons pattern).perm
      (hsame ▸ appendsNew_addAllTo settings base' lessons' pattern) fun v => ?_
    rw [mem_variationsOf_addAllTo, mem_variationsOf_addAllTo, hsame]
    refine or_congr_right ⟨?_, ?_⟩
    · rintro ⟨l, hl, htexts⟩
      obtain ⟨l', hl', hlesson⟩ := exists_of_mem_of_perm hperm hl
      obtain ⟨_, _, hfound, _⟩ := Lesson.mk.inj hlesson
      exact ⟨l', hl', hfound ▸ htexts⟩
    · rintro ⟨l, hl, htexts⟩
      obtain ⟨l', hl', hlesson⟩ := exists_of_mem_of_perm hperm.symm hl
      obtain ⟨_, _, hfound, _⟩ := Lesson.mk.inj hlesson
      exact ⟨l', hl', hfound ▸ htexts⟩

end Lesson
end AdaptiveRules
