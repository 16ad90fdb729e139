import AdaptiveRules.Proofs.CommandRuns
import AdaptiveRules.Proofs.FilesApart
import AdaptiveRules.Proofs.RewrittenEntries

/-!
# Rules written into the configuration file

Improving may write the rules of the live patterns back into the configuration file.  The store is
saved before and after that, at its own path.  In the file each entry that is meant then has the
rule of the first pattern of its name, if that has its language too, and everything else is as it
was.  So where a name stands twice, the later entry falls behind its pattern as soon as that is
improved.
-/

namespace AdaptiveRules

variable {c : Configuration} {path : String} {names : List String} {s t u : Shell}
  {start : LearningState}

/-! ### A learner for a command -/

namespace LearningState

variable {k : String} {l : LearningState}

/-- The learner with other files in its storage. -/
def withFiles (l : LearningState) (files : FileTree) : LearningState :=
  { l with storage := { l.storage with files } }

theorem frame_improved (l : LearningState) (names : Option (List String)) :
    Frame l (l.begin.improved names) :=
  (Move.quiet (.begin l)).frame.trans (Move.improve l.begin names (initialized_begin l)).frame

theorem keeps_improve (hapart : ∀ path ∈ l.learner.store.paths, l.storage.files.absolute path ≠ k)
    (names : Option (List String)) :
    FileTree.Keeps k l.storage.files (l.improve names).2.storage.files := by
  have hframe := frame_improved l names
  rw [← hframe.store, ← hframe.storage] at hapart
  rw [← hframe.storage]
  exact StoreHandle.keeps_save hapart _

theorem keeps_close {files : FileTree}
    (hapart : ∀ path ∈ l.learner.store.paths, files.absolute path ≠ k) :
    FileTree.Keeps k files (l.withFiles files).close.storage.files := by
  have hsaved : FileTree.Keeps k files (l.withFiles files).persist.storage.files :=
    StoreHandle.keeps_save (s := (l.withFiles files).storage) hapart _
  unfold close announce
  split
  · exact hsaved
  · exact hsaved

end LearningState

namespace Work

open ProjectLearning

theorem of_learner (hrun : (learner c).run.run s = (.ok start, u)) :
    Catalog.patterns c .none s.now = .ok start.learner.patterns ∧
      start.learner.store = .ofSettings c.learning ∧
      start.storage.files = u.files ∧
      u.files = ((StoreHandle.ofSettings c.learning).ready (.ofFiles s.files)).2.files := by
  unfold learner at hrun
  rw [run_bind, run_get] at hrun
  simp only [run_bind, run_ofExcept] at hrun
  cases hpatterns : Catalog.patterns c .none s.now with
  | error p =>
      rw [hpatterns] at hrun
      cases hrun
  | ok patterns =>
      rw [hpatterns] at hrun
      simp only [run_withStorage] at hrun
      cases hready : ((StoreHandle.ofSettings c.learning).ready (.ofFiles s.files)).1 with
      | error p =>
          rw [hready] at hrun
          cases hrun
      | ok _ =>
          rw [hready] at hrun
          cases hrun
          exact ⟨rfl, rfl, rfl, rfl⟩

end Work

theorem Configuration.of_write (hrun : (c.write path).run.run s = (.ok (), t)) :
    ∃ text, c.toToml? = some text ∧ s.files.write path text = .ok t.files := by
  unfold Configuration.write at hrun
  cases htext : c.toToml? with
  | none =>
      rw [htext] at hrun
      cases hrun
  | some text =>
      rw [htext] at hrun
      simp only [Work.run_change] at hrun
      cases hwrite : s.files.write path text with
      | error p =>
          rw [hwrite] at hrun
          cases hrun
      | ok files =>
          rw [hwrite] at hrun
          cases hrun
          exact ⟨text, rfl, hwrite⟩

namespace CommandLine

open ProjectLearning

/-- What the learner is asked to improve. -/
def targets (names : List String) : Option (List String) :=
  if names.isEmpty then none else some names

theorem of_improve (hon : c.learning.enabled = true)
    (hrun : (improve c path names true).run.run s = (.ok (), t)) :
    ∃ start u, (Work.learner c).run.run s = (.ok start, u) ∧
      let improved := (start.improve (targets names)).2
      let w := WriteBack.ofNames c improved.learner (start.improve (targets names)).1.keys
      ∃ files, t.files = (improved.withFiles files).close.storage.files ∧
        (w.written = 0 ∧ files = improved.storage.files ∨
          ∃ text, w.configuration.toToml? = some text ∧
            improved.storage.files.write path text = .ok files) := by
  unfold improve ifLearning at hrun
  rw [if_pos hon, run_bind] at hrun
  cases hlearner : (Work.learner c).run.run s with
  | mk outcome u =>
      rw [hlearner] at hrun
      cases outcome with
      | error p => cases hrun
      | ok start =>
          refine ⟨start, u, rfl, ?_⟩
          have htargets : (if names.isEmpty then none else some names) = targets names := rfl
          simp only [htargets] at hrun
          generalize start.improve (targets names) = answer at hrun ⊢
          obtain ⟨results, improved⟩ := answer
          simp only [run_bind, Work.run_keep] at hrun
          obtain ⟨shown, hresults⟩ := Work.run_lines
            (results.entries.filterMap (improvementLine improved.learner))
            { u with files := improved.storage.files }
          simp only [hresults] at hrun
          obtain ⟨told, hmissing⟩ := Work.run_lines
            ((firstMissing names results).toList.map ("Padrão não encontrado: " ++ ·))
            { u with files := improved.storage.files, shown }
          simp only [hmissing] at hrun
          split_ifs at hrun with hwritten
          · simp only [run_bind, run_get] at hrun
            cases hwrite : ((WriteBack.ofNames c improved.learner results.keys).configuration.write
                path).run.run { u with files := improved.storage.files, shown := told } with
            | mk outcome v =>
                rw [hwrite] at hrun
                cases outcome with
                | error p => cases hrun
                | ok _ =>
                    cases hrun
                    obtain ⟨text, htext, hfiles⟩ := Configuration.of_write hwrite
                    exact ⟨v.files, rfl, Or.inr ⟨text, htext, hfiles⟩⟩
          · simp only [run_bind, run_get] at hrun
            cases hrun
            refine ⟨improved.storage.files, rfl, Or.inl ⟨?_, rfl⟩⟩
            by_contra hsome
            exact hwritten ⟨trivial, Nat.pos_of_ne_zero hsome⟩

theorem of_read {files : FileTree} (hread : Configuration.read files path = .ok c) :
    ∃ text, files.readText path = .ok text ∧ Configuration.ofToml? text = some c := by
  unfold Configuration.read at hread
  cases htext : files.readText path with
  | error p =>
      rw [htext] at hread
      cases hread
  | ok text =>
      rw [htext] at hread
      refine ⟨text, rfl, ?_⟩
      cases hparsed : Configuration.ofToml? text with
      | none => simp [Except.mapError, hparsed, bind, Except.bind] at hread
      | some found =>
          simp only [Except.mapError, hparsed, bind, Except.bind] at hread
          cases hread
          rfl

theorem read_of_text {files : FileTree} {text : String} (htext : files.readText path = .ok text)
    (hparsed : Configuration.ofToml? text = some c) : Configuration.read files path = .ok c := by
  simp [Configuration.read, htext, Except.mapError, hparsed, bind, Except.bind, pure, Except.pure]

/-- The patterns as they are after improving; none if there is no learner for them. -/
def livePatterns (c : Configuration) (names : List String) (s : Shell) : List Pattern :=
  match ((Work.learner c).run.run s).1 with
  | .ok l => (l.improve (targets names)).2.learner.patterns
  | .error _ => []

/-- The names that are answered for are those of the entries that are meant. -/
theorem mem_keys_improve (howns : List.Forall₂ CatalogEntry.Owns c.patterns start.learner.patterns)
    {e : CatalogEntry} (he : e ∈ c.patterns) :
    e.name ∈ (start.improve (targets names)).1.keys ↔ e.isMeant names = true := by
  have hmeant : ∀ p : Pattern, p.name = e.name →
      LearningState.isTarget (targets names) p = e.isMeant names := by
    intro p hname
    unfold LearningState.isTarget targets CatalogEntry.isMeant
    rw [hname]
    cases names.isEmpty <;> simp
  rw [Dict.mem_keys_iff, LearningState.contains_improve]
  constructor
  · rintro ⟨p, _, hname, htarget⟩
    rw [← hmeant p hname]
    exact htarget
  · intro hchosen
    obtain ⟨p, hp, hown⟩ := CatalogEntry.exists_owned (LearningState.owns_begin howns) he
    exact ⟨p, hp, hown.name, (hmeant p hown.name).trans hchosen⟩

theorem configuration_ofNames_improve (hrun : (Work.learner c).run.run s = (.ok start, u)) :
    (WriteBack.ofNames c (start.improve (targets names)).2.learner
        (start.improve (targets names)).1.keys).configuration =
      c.withFirst names (start.improve (targets names)).2.learner.patterns := by
  obtain ⟨hpatterns, _⟩ := Work.of_learner hrun
  have howns := Catalog.owns_of_patterns hpatterns
  have hlive := LearningState.owns_improve howns (targets names)
  have htextual : ∀ p ∈ (start.improve (targets names)).2.learner.patterns,
      p.core.body.isStructural = false := by
    intro p hp
    exact CatalogEntry.textual_of_owns hlive hp
  rw [WriteBack.configuration_ofNames htextual (Catalog.nodup_identities hpatterns)]
  unfold Configuration.withFirst
  congr 1
  apply List.map_congr_left
  intro e he
  simp only [mem_keys_improve howns he]

/-- The store leaves the configuration file alone, before it is written and afterwards. -/
theorem readText_improve (hon : c.learning.enabled = true)
    (hfile : Configuration.read s.files path = .ok c)
    (hapart : ∀ other ∈ (StoreHandle.ofSettings c.learning).paths,
      s.files.absolute other ≠ s.files.absolute path)
    (hrun : (improve c path names true).run.run s = (.ok (), t)) :
    ∃ text, t.files.readText path = .ok text ∧
      ((c.withFirst names (livePatterns c names s)).toToml? = some text ∨
        Configuration.ofToml? text = some (c.withFirst names (livePatterns c names s))) := by
  obtain ⟨start, u, hlearner, hrest⟩ := of_improve hon hrun
  obtain ⟨files, ht, hwritten⟩ := hrest
  obtain ⟨_, hstore, hstart, hu⟩ := Work.of_learner hlearner
  have hlive : livePatterns c names s = (start.improve (targets names)).2.learner.patterns := by
    unfold livePatterns
    rw [hlearner]
  rw [hlive, ← configuration_ofNames_improve hlearner]
  obtain ⟨old, hold, hparsed⟩ := of_read hfile
  -- The store is made ready, saved when the patterns are improved, and saved again at the end.
  have hready : FileTree.Keeps (s.files.absolute path) s.files u.files := by
    rw [hu]
    exact StoreHandle.keeps_ready (s := .ofFiles s.files) hapart
  have hsaved : FileTree.Keeps (s.files.absolute path) u.files
      (start.improve (targets names)).2.storage.files := by
    rw [← hstart]
    apply LearningState.keeps_improve
    intro other hother
    rw [hstart, FileTree.absolute_congr hready.working]
    exact hapart other (hstore ▸ hother)
  have hkept := hready.trans hsaved
  have hclosed : ∀ v : FileTree, v.working = s.files.working →
      FileTree.Keeps (s.files.absolute path) v
        ((start.improve (targets names)).2.withFiles v).close.storage.files := by
    intro v hv
    apply LearningState.keeps_close
    intro other hother
    have hsame : (start.improve (targets names)).2.learner.store = .ofSettings c.learning :=
      (LearningState.frame_improved start (targets names)).store.trans hstore
    have hplace := FileTree.absolute_congr hv other
    exact fun heq => hapart other (hsame ▸ hother) (hplace.symm.trans heq)
  rw [ht]
  rcases hwritten with ⟨hnone, rfl⟩ | ⟨text, htext, hwrite⟩
  · have hend := hkept.trans (hclosed _ hkept.working)
    refine ⟨old, hend.readText hold, Or.inr ?_⟩
    rw [WriteBack.configuration_of_unwritten hnone]
    exact hparsed
  · have hworking := (FileTree.working_writeEntry hwrite).trans hkept.working
    have hend := hclosed files hworking
    rw [← FileTree.absolute_congr hworking] at hend
    exact ⟨text, hend.readText (FileTree.readText_write hwrite), Or.inl htext⟩

/-- Improving with write-back leaves in the configuration file each entry that is meant with the live
rule of the first pattern of its name, if that has its language too, and everything else as it was.
So the file and the live patterns agree exactly if no pattern that is meant, and that is not the first
of its name, has another rule than its entry. -/
theorem improve_writes_first (hon : c.learning.enabled = true)
    (hfile : Configuration.read s.files path = .ok c)
    (hapart : ∀ other ∈ (StoreHandle.ofSettings c.learning).paths,
      s.files.absolute other ≠ s.files.absolute path)
    (hrun : (improve c path names true).run.run s = (.ok (), t)) :
    let live := livePatterns c names s
    let after := c.withFirst names live
    List.Forall₂ CatalogEntry.Owns c.patterns live ∧
      (∃ text, t.files.readText path = .ok text ∧
        (after.toToml? = some text ∨ Configuration.ofToml? text = some after)) ∧
      ((∀ text, after.toToml? = some text → Configuration.ofToml? text = some after) →
        Configuration.read t.files path = .ok after) ∧
      (after = c.inStep names live ↔
        ∀ e p, (e, p) ∈ c.patterns.zip live → e.isMeant names = true →
          live.find? (fun q => q.name == e.name) ≠ some p → p.textRule = e.rule) := by
  intro live after
  obtain ⟨start, u, hlearner, _⟩ := of_improve hon hrun
  obtain ⟨hpatterns, _⟩ := Work.of_learner hlearner
  have howns : List.Forall₂ CatalogEntry.Owns c.patterns live := by
    have hlive := LearningState.owns_improve (Catalog.owns_of_patterns hpatterns) (targets names)
    show List.Forall₂ CatalogEntry.Owns c.patterns (livePatterns c names s)
    unfold livePatterns
    rw [hlearner]
    exact hlive
  obtain ⟨text, htext, hholds⟩ := readText_improve hon hfile hapart hrun
  refine ⟨howns, ⟨text, htext, hholds⟩, ?_, ?_⟩
  · intro hback
    rcases hholds with hprinted | hparsed
    · exact read_of_text htext (hback text hprinted)
    · exact read_of_text htext hparsed
  · exact Configuration.withFirst_eq_inStep_iff howns (Catalog.nodup_identities hpatterns) names

/-- The text of a configuration with two patterns of one name. -/
def bilingualText : String :=
  "[[patterns]]\nname = \"w\"\nrule = \"a\"\nlanguage = \"rust\"\nmode = \"base\"\n" ++
    "[[patterns]]\nname = \"w\"\nrule = \"b\"\nlanguage = \"python\"\nmode = \"base\"\n"

def bilingualFile : Configuration := (Configuration.ofToml? bilingualText).getD .standard

/-- The configuration file and a store that knows a variation for the name. -/
def bilingualShell : Shell :=
  let files := Dict.ofList [("/padrao.toml", .text bilingualText), ("/.padrao", .directory),
    ("/.padrao/insights.json", .text "\x7b\"pattern_variations\":\x7b\"w\":[\"c\"]\x7d\x7d")]
  ⟨⟨files, []⟩, "", [], ⟨0, 0⟩⟩

theorem bilingualShell_run :
    (Configuration.ofToml? bilingualText).isSome = true ∧
      bilingualFile.learning.enabled = true ∧
      (∀ other ∈ (StoreHandle.ofSettings bilingualFile.learning).paths,
        bilingualShell.files.absolute other ≠ bilingualShell.files.absolute "padrao.toml") ∧
      ((improve bilingualFile "padrao.toml" [] true).run.run bilingualShell).1.isOk = true ∧
      (bilingualFile.inStep [] (livePatterns bilingualFile [] bilingualShell)).patterns.map
        CatalogEntry.rule = ["(?:a|c)", "(?:b|c)"] ∧
      (bilingualFile.withFirst [] (livePatterns bilingualFile [] bilingualShell)).patterns.map
        CatalogEntry.rule = ["(?:a|c)", "b"] := by
  decide +kernel

theorem read_bilingualFile :
    Configuration.read bilingualShell.files "padrao.toml" = .ok bilingualFile := by
  obtain ⟨found, hfound⟩ := Option.isSome_iff_exists.mp bilingualShell_run.1
  have htext : bilingualShell.files.readText "padrao.toml" = .ok bilingualText := by rfl
  apply read_of_text htext
  rw [bilingualFile, hfound]
  rfl

/-- Both patterns take up the variation, but only the entry of the first one gets the new rule. -/
theorem improve_writes_first_bilingual :
    ∃ (t : Shell) (text : String) (after : Configuration),
      (improve bilingualFile "padrao.toml" [] true).run.run bilingualShell = (.ok (), t) ∧
      t.files.readText "padrao.toml" = .ok text ∧
      (after.toToml? = some text ∨ Configuration.ofToml? text = some after) ∧
      after.patterns.map CatalogEntry.rule = ["(?:a|c)", "b"] ∧
      (bilingualFile.inStep [] (livePatterns bilingualFile [] bilingualShell)).patterns.map
        CatalogEntry.rule = ["(?:a|c)", "(?:b|c)"] := by
  obtain ⟨_, hon, hapart, hdone, hmeant, hwritten⟩ := bilingualShell_run
  have hrun : (improve bilingualFile "padrao.toml" [] true).run.run bilingualShell =
      (.ok (), ((improve bilingualFile "padrao.toml" [] true).run.run bilingualShell).2) := by
    cases hresult : (improve bilingualFile "padrao.toml" [] true).run.run bilingualShell with
    | mk outcome t =>
        rw [hresult] at hdone
        cases outcome with
        | error p => cases hdone
        | ok _ => rfl
  obtain ⟨_, ⟨text, htext, hholds⟩, _⟩ :=
    improve_writes_first hon read_bilingualFile hapart hrun
  exact ⟨_, text, _, hrun, htext, hholds, hwritten, hmeant⟩

end CommandLine
end AdaptiveRules
