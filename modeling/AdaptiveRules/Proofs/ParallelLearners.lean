import AdaptiveRules.Proofs.AgreeingInsights
import AdaptiveRules.Proofs.RepeatedLearning
import AdaptiveRules.Proofs.RepeatedSaves

/-!
# Learners side by side

Two learners go side by side if the second has the patterns of the first but those of a name, both know
the same but for that name, and so do their stores.  Whatever both load, learn, improve or take over
from a file, they go on side by side.  They do not always save at the same time, as an import may bring
the one a variation for the name that the other has learned; but then neither knows anything new for the
other names, and the stores hold the same for those already.
-/

namespace AdaptiveRules

open Insights LearningState Pattern

/-! ### Offers of what is held -/

namespace Adaptation

theorem offer_append (a : Adaptation) (first rest : List String) :
    a.offer (first ++ rest) = (a.offer first).offer rest := by
  simp only [offer, List.foldl_append]

theorem offer_of_held {a : Adaptation} {variations : List String}
    (hheld : ∀ v ∈ variations, v ∈ a.variations) : a.offer variations = a := by
  induction variations using List.reverseRecOn with
  | nil => rfl
  | append_singleton first last ih =>
      have hlast : last ∈ a.variations := hheld last (by simp)
      rw [offer_append, ih fun v hv => hheld v (List.mem_append_left _ hv)]
      simp [offer, hlast]

end Adaptation

namespace Pattern

variable {p : Pattern} {variations : List String}

theorem offer_of_held (hheld : p.mode ≠ .plain → ∀ v ∈ variations, v ∈ p.variations) :
    p.offer variations = p := by
  by_cases hplain : p.mode = .plain
  · exact mode_offer_of_plain hplain
  · obtain ⟨core, mode⟩ := p
    have hlast := hheld hplain
    cases mode with
    | plain => exact absurd rfl hplain
    | adaptive a =>
        have hsame : a.offer variations = a := Adaptation.offer_of_held hlast
        simp only [offer, PatternMode.adaptation?, PatternMode.withAdaptation, hsame]
    | resilient a r =>
        have hsame : a.offer variations = a := Adaptation.offer_of_held hlast
        simp only [offer, PatternMode.adaptation?, PatternMode.withAdaptation, hsame]

/-- Of two offers the second may as well be the only one, if it goes on where the first ended. -/
theorem offer_offer_of_grown (p : Pattern) {first later : List String} (hgrown : first <+: later) :
    (p.offer first).offer later = p.offer later := by
  obtain ⟨more, rfl⟩ := hgrown
  have hsplit : ∀ (q : Pattern) (xs ys : List String), q.offer (xs ++ ys) = (q.offer xs).offer ys := by
    rintro ⟨core, mode⟩ xs ys
    cases mode with
    | plain => rfl
    | adaptive a =>
        simp only [offer, PatternMode.adaptation?, PatternMode.withAdaptation, Adaptation.offer_append]
    | resilient a r =>
        simp only [offer, PatternMode.adaptation?, PatternMode.withAdaptation, Adaptation.offer_append]
  rw [hsplit, hsplit]
  congr 1
  refine offer_of_held fun hmode v hv => mem_variations_offer ?_ hv
  exact (mode_perform_eq_plain_iff p (.offer first)).not.mp hmode

end Pattern

namespace LearningState

variable {s t : LearningState} {listed : List (String × List String)}

theorem insights_merge (l : Learner) (pattern : String) (vs : List String) :
    (l.merge pattern vs).1.insights = (l.insights.addVariations pattern vs).1 := by rw [merge_eq]

/-- Taking over variations comes down to one offer of all that is known in the end. -/
theorem patterns_merged (htold : s.learner.TellsAll) (hbegun : s.learner.initialized = true)
    (listed : List (String × List String)) :
    (s.merged listed).learner.patterns = s.learner.patterns.map fun p =>
      p.offer ((addAll s.learner.insights listed).variationsOf p.name) := by
  induction listed generalizing s with
  | nil =>
      have hheld : s.learner.patterns.map (fun p =>
          p.offer (s.learner.insights.variationsOf p.name)) = s.learner.patterns :=
        (List.map_congr_left fun p hp => offer_of_held (htold hbegun p hp)).trans (List.map_id _)
      exact hheld.symm
  | cons e rest ih =>
      obtain ⟨pattern, vs⟩ := e
      have hmerged := ih (tellsAll_act htold (.merge pattern vs))
        (show (s.learner.merge pattern vs).1.initialized = true by
          rw [merge_eq]
          exact hbegun)
      have hsame : s.merged ((pattern, vs) :: rest) = (s.act (.merge pattern vs)).merged rest := rfl
      rw [hsame, hmerged]
      simp only [act, withLearner, insights_merge]
      have hfinal : addAll s.learner.insights ((pattern, vs) :: rest) =
          addAll (s.learner.insights.addVariations pattern vs).1 rest := rfl
      rw [hfinal]
      by_cases hnone : (s.learner.insights.addVariations pattern vs).2 = 0
      · rw [show (s.learner.merge pattern vs).1.patterns = s.learner.patterns by
          simp [Learner.merge, hnone]]
      · have hoffered : (s.learner.merge pattern vs).1.patterns = s.learner.patterns.map fun p =>
            p.offer ((s.learner.insights.addVariations pattern vs).1.variationsOf p.name) := by
          simp only [Learner.merge, if_neg hnone]
          rfl
        rw [hoffered, List.map_map]
        refine List.map_congr_left fun p _ => ?_
        have hname : (p.offer ((s.learner.insights.addVariations pattern vs).1.variationsOf
            p.name)).name = p.name := name_perform p (.offer _)
        simp only [Function.comp_apply, hname]
        exact offer_offer_of_grown p ((extends_addAll _ rest).variations p.name)

end LearningState

/-! ### Two stores -/

namespace StoreHandle

/-- The storage is one in which insights were saved since the two learners parted. -/
def Written (h : StoreHandle) (base storage : Storage) : Prop :=
  ∃ knowns, storage = h.saveAll knowns base

end StoreHandle

open StoreHandle

namespace LearningState

variable {name other : String} {h : StoreHandle} {base : Storage} {s t u v : LearningState}

/-- Nothing was saved yet and the same is known for the name, or something was saved by both: then a
store that holds what was saved last holds what is known by now for all other names. -/
inductive StoredBeside (name : String) (h : StoreHandle) (base : Storage) (s t : LearningState) :
    Prop
  | unsaved (hstorage : s.storage = base) (hstorage' : t.storage = base)
      (hsame : s.learner.insights.variationsOf name = t.learner.insights.variationsOf name)
  | saved (before before' : List Insights) (last last' : Insights)
      (hstorage : s.storage = h.saveAll (before ++ [last]) base)
      (hstorage' : t.storage = h.saveAll (before' ++ [last']) base)
      (htaken : h.Takes last) (htaken' : h.Takes last')
      (hrecalled : h.RecallsLast base → last.AgreeBut name last' ∧
        (s.learner.initialized = true → last.AgreeBut name s.learner.insights))

/-- What the stores hold agrees but for the name. -/
theorem StoredBeside.held (hstored : StoredBeside name h base s t) (now : Instant) :
    h.held now s.storage = none ∧ h.held now t.storage = none ∨
      ∃ known others, h.held now s.storage = some known ∧ h.held now t.storage = some others ∧
        known.AgreeBut name others := by
  have hequal : h.held now s.storage = h.held now t.storage →
      h.held now s.storage = none ∧ h.held now t.storage = none ∨
        ∃ known others, h.held now s.storage = some known ∧ h.held now t.storage = some others ∧
          known.AgreeBut name others := by
    intro heq
    cases hheld : h.held now t.storage with
    | none => exact Or.inl ⟨heq.trans hheld, rfl⟩
    | some known => exact Or.inr ⟨known, known, heq.trans hheld, rfl, .refl known⟩
  cases hstored with
  | unsaved hstorage hstorage' hsame => exact hequal (by rw [hstorage, hstorage'])
  | saved before before' last last' hstorage hstorage' htaken htaken' hrecalled =>
      rcases h.recalls base with hlast | hconstant
      · obtain ⟨metrics, hheld⟩ := hlast before last htaken now
        obtain ⟨metrics', hheld'⟩ := hlast before' last' htaken' now
        rw [← hstorage] at hheld
        rw [← hstorage'] at hheld'
        exact Or.inr ⟨_, _, hheld, hheld',
          (hrecalled hlast).1.congr metrics metrics' last.saved last'.saved⟩
      · exact hequal (by rw [hstorage, hstorage', hconstant])

theorem StoredBeside.inFile (hstored : StoredBeside name h base s t) (now : Instant) (path : String) :
    InsightsExport.inFile now s.storage.files path =
      InsightsExport.inFile now t.storage.files path := by
  cases hstored with
  | unsaved hstorage hstorage' hsame => rw [hstorage, hstorage']
  | saved before before' last last' hstorage hstorage' htaken htaken' hrecalled =>
      rw [hstorage, hstorage']
      exact inFile_saveAll h base now path htaken htaken'

theorem StoredBeside.written (hstored : StoredBeside name h base s t) :
    h.Written base s.storage ∧ h.Written base t.storage := by
  cases hstored with
  | unsaved hstorage hstorage' _ => exact ⟨⟨[], hstorage⟩, ⟨[], hstorage'⟩⟩
  | saved before before' last last' hstorage hstorage' => exact ⟨⟨_, hstorage⟩, ⟨_, hstorage'⟩⟩

theorem StoredBeside.congr (hstored : StoredBeside name h base s t) (hu : u.storage = s.storage)
    (hv : v.storage = t.storage) (hinsights : u.learner.insights = s.learner.insights)
    (hinsights' : v.learner.insights = t.learner.insights)
    (hbegun : u.learner.initialized = s.learner.initialized) : StoredBeside name h base u v := by
  cases hstored with
  | unsaved hstorage hstorage' hsame =>
      refine .unsaved (hu.trans hstorage) (hv.trans hstorage') ?_
      rw [hinsights, hinsights', hsame]
  | saved before before' last last' hstorage hstorage' htaken htaken' hrecalled =>
      refine .saved before before' last last' (hu.trans hstorage) (hv.trans hstorage') htaken htaken' ?_
      rw [hinsights, hbegun]
      exact hrecalled

/-! ### Two learners -/

/-- The second learner has the patterns of the first but those of the name. -/
structure Alongside (name : String) (h : StoreHandle) (s t : LearningState) : Prop where
  patterns : t.learner.patterns = others name s.learner.patterns
  insights : s.learner.insights.AgreeBut name t.learner.insights
  store : s.learner.store = h
  store' : t.learner.store = h
  settings : t.learner.settings = s.learner.settings
  cutter : t.learner.cutter = s.learner.cutter
  begun : t.learner.initialized = s.learner.initialized
  time : t.time = s.time
  told : s.learner.TellsAll
  told' : t.learner.TellsAll
  answers : AnswersFor name s.learner.patterns

structure Parallel (name : String) (h : StoreHandle) (base : Storage) (s t : LearningState) : Prop
    extends Alongside name h s t where
  stored : StoredBeside name h base s t

theorem Parallel.congr (hparallel : Parallel name h base s t) (hu : u.learner = s.learner)
    (hustorage : u.storage = s.storage) (hutime : u.time = s.time) (hv : v.learner = t.learner)
    (hvstorage : v.storage = t.storage) (hvtime : v.time = t.time) : Parallel name h base u v := by
  obtain ⟨learner, storage, observers, time, patience⟩ := u
  obtain ⟨learner', storage', observers', time', patience'⟩ := v
  simp only at hu hustorage hutime hv hvstorage hvtime
  subst hu hustorage hutime hv hvstorage hvtime
  obtain ⟨⟨hpatterns, hinsights, hstore, hstore', hsettings, hcutter, hbegun, htime, htold, htold',
    hanswers⟩, hstored⟩ := hparallel
  exact ⟨⟨hpatterns, hinsights, hstore, hstore', hsettings, hcutter, hbegun, htime, htold, htold',
    hanswers⟩, hstored.congr rfl rfl rfl rfl rfl⟩

/-- The learner goes on with its store, its settings and its cutter. -/
def KeepsTask (s u : LearningState) : Prop :=
  u.learner.store = s.learner.store ∧ u.learner.settings = s.learner.settings ∧
    u.learner.cutter = s.learner.cutter

theorem Alongside.follow (halong : Alongside name h s t) (hs : KeepsTask s u) (ht : KeepsTask t v)
    (hpatterns : v.learner.patterns = others name u.learner.patterns)
    (hinsights : u.learner.insights.AgreeBut name v.learner.insights)
    (hbegun : v.learner.initialized = u.learner.initialized) (htime : v.time = u.time)
    (htold : u.learner.TellsAll) (htold' : v.learner.TellsAll)
    (hanswers : AnswersFor name u.learner.patterns) : Alongside name h u v where
  patterns := hpatterns
  insights := hinsights
  store := hs.1.trans halong.store
  store' := ht.1.trans halong.store'
  settings := ht.2.1.trans (halong.settings.trans hs.2.1.symm)
  cutter := ht.2.2.trans (halong.cutter.trans hs.2.2.symm)
  begun := hbegun
  time := htime
  told := htold
  told' := htold'
  answers := hanswers

theorem Alongside.stamp (halong : Alongside name h s t) : Alongside name h s.stamp t.stamp :=
  { halong with insights := halong.insights.congr _ _ _ _ }

theorem Alongside.persist_left (halong : Alongside name h s t) : Alongside name h s.persist t :=
  { halong with
    insights := halong.insights.congr s.learner.insights.metrics t.learner.insights.metrics
      (some s.now) t.learner.insights.saved }

theorem Alongside.persist_right (halong : Alongside name h s t) : Alongside name h s t.persist :=
  { halong with
    insights := halong.insights.congr s.learner.insights.metrics t.learner.insights.metrics
      s.learner.insights.saved (some t.now) }

/-- Both save what they know. -/
theorem Alongside.persist (halong : Alongside name h s t) (hwritten : h.Written base s.storage)
    (hwritten' : h.Written base t.storage) (htaken : h.Takes s.persist.learner.insights)
    (htaken' : h.Takes t.persist.learner.insights) :
    Parallel name h base s.persist t.persist := by
  obtain ⟨before, hbefore⟩ := hwritten
  obtain ⟨before', hbefore'⟩ := hwritten'
  obtain ⟨hpatterns, hinsights, hstore, hstore', hsettings, hcutter, hbegun, htime, htold, htold',
    hanswers⟩ := halong.stamp
  refine ⟨⟨hpatterns, hinsights, hstore, hstore', hsettings, hcutter, hbegun, htime, htold, htold',
    hanswers⟩, .saved before before' s.stamp.learner.insights t.stamp.learner.insights ?_ ?_ htaken
      htaken' fun _ => ⟨hinsights, fun _ => .refl _⟩⟩
  · rw [saveAll_append_singleton, ← hbefore, ← hstore]
    rfl
  · rw [saveAll_append_singleton, ← hbefore', ← hstore']
    rfl

/-! #### Loading -/

theorem loaded_eq (s : LearningState) :
    s.loaded = (s.learner.store.held s.now s.storage).getD s.learner.insights := by
  unfold loaded StoreHandle.held
  rcases s.learner.store.load s.now s.storage with p | _ | known <;> rfl

theorem Parallel.loaded (hparallel : Parallel name h base s t) :
    s.loaded.AgreeBut name t.loaded := by
  have hnow : t.now = s.now := by rw [now, now, hparallel.time]
  rw [loaded_eq, loaded_eq, hparallel.store, hparallel.store', hnow]
  obtain ⟨hnone, hnone'⟩ | ⟨known, others, hsome, hsome', hagree⟩ := hparallel.stored.held s.now
  · rw [hnone, hnone']
    exact hparallel.insights
  · rw [hsome, hsome']
    exact hagree

/-- A pattern with the known improvements restored and offered the known variations. -/
def refreshed (known : Insights) (p : Pattern) : Pattern :=
  (p.perform (.restore known)).perform (.offer (known.variationsOf p.name))

theorem patterns_begin_eq (hbefore : s.learner.initialized = false) :
    s.begin.learner.patterns = s.learner.patterns.map (refreshed s.loaded) := by
  rw [patterns_begin hbefore]
  refine List.map_congr_left fun p _ => ?_
  rw [show (Learner.restore p (s.loaded.improvementsOf p.name)).name = p.name from
    name_perform p (.restore s.loaded)]
  rfl

theorem name_refreshed (known : Insights) (p : Pattern) : (refreshed known p).name = p.name :=
  (name_perform _ (.offer _)).trans (name_perform p (.restore known))

theorem engine_refreshed (known : Insights) (p : Pattern) :
    (refreshed known p).core.engine = p.core.engine :=
  (engine_perform _ (.offer _)).trans (engine_perform p (.restore known))

theorem keepsTask_begin (s : LearningState) : KeepsTask s s.begin := by
  unfold KeepsTask
  rw [learner_begin]
  exact ⟨rfl, rfl, rfl⟩

theorem Parallel.begin (hparallel : Parallel name h base s t) :
    Parallel name h base s.begin t.begin := by
  cases hbefore : s.learner.initialized with
  | true =>
      rw [begin_of_initialized hbefore, begin_of_initialized (hparallel.begun.trans hbefore)]
      exact hparallel
  | false =>
      have hbefore' : t.learner.initialized = false := hparallel.begun.trans hbefore
      have hloaded := hparallel.loaded
      obtain ⟨hstorage, htime⟩ := begin_frame s
      obtain ⟨hstorage', htime'⟩ := begin_frame t
      have hpatterns : t.begin.learner.patterns = others name s.begin.learner.patterns := by
        rw [patterns_begin_eq hbefore, patterns_begin_eq hbefore', hparallel.patterns]
        refine (others_map (name_refreshed s.loaded) fun p _ hname => ?_).symm
        simp only [refreshed, Pattern.perform, hloaded.improvements p.name hname,
          hloaded.variations p.name hname]
      have hanswers : AnswersFor name s.begin.learner.patterns := by
        rw [patterns_begin_eq hbefore]
        exact hparallel.answers.map fun p => ⟨name_refreshed s.loaded p, engine_refreshed s.loaded p⟩
      have hinsights := hloaded
      rw [← insights_begin hbefore, ← insights_begin hbefore'] at hinsights
      refine ⟨hparallel.follow (keepsTask_begin s) (keepsTask_begin t) hpatterns hinsights ?_ ?_
        (tellsAll_act hparallel.told .begin) (tellsAll_act hparallel.told' .begin) hanswers, ?_⟩
      · rw [initialized_begin, initialized_begin]
      · rw [htime, htime', hparallel.time]
      -- what is loaded is what was saved last, or both load the same
      · have hnow : t.now = s.now := by rw [now, now, hparallel.time]
        cases hparallel.stored with
        | unsaved hbase hbase' hsame =>
            refine .unsaved (hstorage.trans hbase) (hstorage'.trans hbase') ?_
            rw [insights_begin hbefore, insights_begin hbefore', loaded_eq, loaded_eq,
              hparallel.store, hparallel.store', hnow, hbase, hbase']
            cases h.held s.now base with
            | none => exact hsame
            | some known => rfl
        | saved before before' last last' hsaved hsaved' htaken htaken' hrecalled =>
            refine .saved before before' last last' (hstorage.trans hsaved)
              (hstorage'.trans hsaved') htaken htaken' fun hlast => ⟨(hrecalled hlast).1, fun _ => ?_⟩
            obtain ⟨metrics, hheld⟩ := hlast before last htaken s.now
            rw [insights_begin hbefore, loaded_eq, hparallel.store, hsaved, hheld]
            exact (AgreeBut.refl last).congr last.metrics metrics last.saved last.saved

/-! #### Improving -/

theorem keepsTask_improved (s : LearningState) (names : Option (List String)) :
    KeepsTask s (s.improved names) := by
  obtain ⟨observers, metrics, himproved⟩ := improved_eq s names
  unfold KeepsTask
  rw [himproved]
  exact ⟨rfl, rfl, rfl⟩

theorem Alongside.improved (halong : Alongside name h s t) (names : Option (List String)) :
    Alongside name h (s.improved names) (t.improved names) := by
  have htold := tellsAll_act halong.told (.improve names)
  have htold' := tellsAll_act halong.told' (.improve names)
  have hs := keepsTask_improved s names
  have ht := keepsTask_improved t names
  obtain ⟨observers, metrics, himproved⟩ := improved_eq s names
  obtain ⟨observers', metrics', himproved'⟩ := improved_eq t names
  have hnow : t.now = s.now := by rw [now, now, halong.time]
  have hkept : ∀ p : Pattern, (p.perform (.improve s.learner.insights s.now)).name = p.name ∧
      (p.perform (.improve s.learner.insights s.now)).core.engine = p.core.engine := fun p =>
    ⟨name_perform p (.improve _ _), engine_perform p (.improve _ _)⟩
  refine halong.follow hs ht ?_ ?_ ?_ ?_ htold htold' ?_
  · rw [himproved, himproved']
    simp only
    rw [patterns_improvePatterns, patterns_improvePatterns, halong.patterns, hnow]
    refine (others_map (fun p => ?_) fun p _ hname => ?_).symm
    · split
      · exact (hkept p).1
      · rfl
    · simp only [Pattern.perform, improvePattern_congr s.now (halong.insights.variations p.name hname)]
  · rw [himproved, himproved', halong.patterns, hnow]
    exact (halong.insights.logged s.now names s.learner.patterns).congr _ _ _ _
  · rw [himproved, himproved']
    exact halong.begun
  · rw [himproved, himproved']
    exact halong.time
  · rw [himproved]
    simp only
    rw [patterns_improvePatterns]
    refine halong.answers.map fun p => ?_
    split
    · exact hkept p
    · exact ⟨rfl, rfl⟩

/-! #### Learning -/

open ProjectLearning

theorem Parallel.beside (hparallel : Parallel name h base s t) (hpatience : s.patience = none)
    (hpatience' : t.patience = none) : Beside name s t :=
  ⟨hparallel.patterns, contextOf_congr hparallel.settings hparallel.cutter, hparallel.time, hpatience,
    hpatience', hparallel.answers⟩

/-- Where a search leads goes on from where it started. -/
theorem Alongside.search (halong : Alongside name h s t) (hu : Searches s u) (hv : Searches t v)
    (hbeside : Beside name u v) : Alongside name h u v := by
  obtain ⟨hlearner, _, _⟩ := frame_of_searches hu
  obtain ⟨hlearner', _, _⟩ := frame_of_searches hv
  have htold := learner_of_byActions tellsAll_act halong.told
    (byActions_of_moves (QuietMoves.moves (Searches.quietMoves hu)))
  have htold' := learner_of_byActions tellsAll_act halong.told'
    (byActions_of_moves (QuietMoves.moves (Searches.quietMoves hv)))
  refine halong.follow ?_ ?_ hbeside.patterns ?_ ?_ hbeside.time htold htold' hbeside.answers
  · unfold KeepsTask
    rw [hlearner]
    exact ⟨rfl, rfl, rfl⟩
  · unfold KeepsTask
    rw [hlearner']
    exact ⟨rfl, rfl, rfl⟩
  · rw [hlearner, hlearner']
    exact halong.insights
  · rw [hlearner, hlearner']
    exact halong.begun

theorem Alongside.note (halong : Alongside name h s t) (project : String) (files : List SourceFile)
    {found found' : Found} (hfound : FoundBeside name found found') :
    Alongside name h (ProjectLearning.note s project files found).1
      (ProjectLearning.note t project files found').1 := by
  have hnow : t.now = s.now := by rw [now, now, halong.time]
  have hinsights := halong.insights.addTo s.learner.settings project files hfound s.now
  have hkept : ∀ (known : Insights) (p : Pattern),
      (p.offer (known.variationsOf p.name)).name = p.name ∧
        (p.offer (known.variationsOf p.name)).core.engine = p.core.engine := fun known p =>
    ⟨name_perform p (.offer _), engine_perform p (.offer _)⟩
  have hoffered : ∀ (r : LearningState) (found : Found),
      (ProjectLearning.note r project files found).1.learner.patterns = r.learner.patterns.map fun p =>
        p.offer ((Lesson.addTo r.learner.settings r.learner.insights
          ⟨project, files, found, r.now⟩).1.variationsOf p.name) := fun _ _ => rfl
  refine halong.follow ⟨rfl, rfl, rfl⟩ ⟨rfl, rfl, rfl⟩ ?_ ?_ halong.begun halong.time
    (tellsAll_act halong.told (.note project files found))
    (tellsAll_act halong.told' (.note project files found')) ?_
  · rw [hoffered, hoffered, halong.patterns, halong.settings, hnow]
    refine (others_map (fun p => (hkept _ p).1) fun p _ hname => ?_).symm
    rw [hinsights.variations p.name hname]
  · rw [(note_eq s project files found).1, (note_eq t project files found').1, halong.settings, hnow]
    exact hinsights
  · rw [hoffered]
    exact halong.answers.map fun p => hkept _ p

theorem patience_begin (s : LearningState) : s.begin.patience = s.patience := by
  unfold LearningState.begin
  split <;> rfl

theorem run_persist_of_patient (hpatience : s.patience = none) :
    ProjectLearning.persist.run.run s = (.ok (), s.persist) := by
  have hstamped : s.stamp.patience = none := hpatience
  unfold ProjectLearning.persist
  rw [run_bind, run_modify]
  simp only
  rw [run_bind, pause_of_patient hstamped]
  rfl

theorem run_announce_of_patient (hpatience : s.patience = none) (event : Event) :
    (ProjectLearning.announce event).run.run s = (.ok (), s.announce event) := by
  unfold ProjectLearning.announce
  rw [run_bind, run_get]
  simp only
  by_cases hannounces : s.learner.announces = true
  · rw [if_pos hannounces, run_bind, pause_of_patient hpatience]
    simp only
    rw [run_modify]
  · rw [if_neg hannounces, LearningState.announce, if_neg hannounces]
    rfl

theorem learn_of_stopped (hpatience : s.patience = none) {project : String}
    {files : List SourceFile} (hnew : s.knownAtFirst.isTrained project = false) {i : Interruption}
    (hextract : (extract files).run.run s.begin = (.error i, u)) :
    (s.learn project files).2 = u := by
  unfold knownAtFirst at hnew
  unfold LearningState.learn ProjectLearning.learn
  rw [run_bind, begin_of_patient hpatience]
  simp only
  rw [run_bind, run_get]
  simp only [hnew, Bool.false_eq_true, if_false]
  rw [run_bind, hextract]

/-- Work that nobody stops ends with what was learned saved. -/
theorem learn_of_found (hpatience : s.patience = none) {project : String}
    {files : List SourceFile} (hnew : s.knownAtFirst.isTrained project = false) {found : Found}
    (hextract : (extract files).run.run s.begin = (.ok found, u)) (hlater : u.patience = none) :
    ∃ observers, (s.learn project files).2 =
      { (ProjectLearning.note u project files found).1.persist with observers } := by
  unfold knownAtFirst at hnew
  let noted := ProjectLearning.note u project files found
  obtain ⟨observers, hannounced⟩ := announce_eq noted.1.persist (.projectLearned project noted.2)
  have hpersist : ProjectLearning.persist.run.run noted.1 = (.ok (), noted.1.persist) :=
    run_persist_of_patient hlater
  have hannounce : (ProjectLearning.announce (.projectLearned project noted.2)).run.run
      noted.1.persist = (.ok (), noted.1.persist.announce (.projectLearned project noted.2)) :=
    run_announce_of_patient (s := noted.1.persist) hlater _
  refine ⟨observers, ?_⟩
  rw [← hannounced]
  unfold LearningState.learn ProjectLearning.learn
  rw [run_bind, begin_of_patient hpatience]
  simp only
  rw [run_bind, run_get]
  simp only [hnew, Bool.false_eq_true, if_false]
  rw [run_bind, hextract]
  simp only
  rw [run_bind, run_get]
  simp only
  rw [run_bind, run_set]
  simp only
  rw [run_bind, hpersist]
  simp only
  rw [run_bind, hannounce]
  rfl

theorem Parallel.learn (hparallel : Parallel name h base s t) (hpatience : s.patience = none)
    (hpatience' : t.patience = none) (project : String) (files : List SourceFile)
    (htaken : h.Takes (s.learn project files).2.learner.insights)
    (htaken' : h.Takes (t.learn project files).2.learner.insights) :
    Parallel name h base (s.learn project files).2 (t.learn project files).2 := by
  have hbegun := hparallel.begin
  have hready : s.begin.patience = none := (patience_begin s).trans hpatience
  have hready' : t.begin.patience = none := (patience_begin t).trans hpatience'
  have hsame : s.knownAtFirst.isTrained project = t.knownAtFirst.isTrained project :=
    hbegun.insights.trained project
  cases hknown : s.knownAtFirst.isTrained project with
  | true =>
      rw [learn_of_isTrained (begin_of_patient hpatience) hknown,
        learn_of_isTrained (begin_of_patient hpatience') (hsame.symm.trans hknown)]
      exact hbegun
  | false =>
      have hknown' : t.knownAtFirst.isTrained project = false := hsame.symm.trans hknown
      obtain ⟨hends, hbeside⟩ := endBeside_extract (hbegun.beside hready hready') files
      have hu := along_extract files s.begin
      have hv := along_extract files t.begin
      rcases hextract : (extract files).run.run s.begin with ⟨outcome, u⟩
      rcases hextract' : (extract files).run.run t.begin with ⟨outcome', v⟩
      rw [hextract] at hu hends hbeside
      rw [hextract'] at hv hends hbeside
      have halong := hbegun.search hu hv hbeside
      obtain ⟨hlearner, hstorage, _⟩ := frame_of_searches hu
      obtain ⟨hlearner', hstorage', _⟩ := frame_of_searches hv
      cases hends with
      | stopped i =>
          rw [learn_of_stopped hpatience hknown hextract, learn_of_stopped hpatience' hknown' hextract']
          refine ⟨halong, hbegun.stored.congr hstorage hstorage' ?_ ?_ ?_⟩
          · rw [hlearner]
          · rw [hlearner']
          · rw [hlearner]
      | @found found found' hfound =>
          obtain ⟨observers, hend⟩ := learn_of_found hpatience hknown hextract hbeside.patient
          obtain ⟨observers', hend'⟩ := learn_of_found hpatience' hknown' hextract' hbeside.patient'
          rw [hend] at htaken ⊢
          rw [hend'] at htaken' ⊢
          obtain ⟨hwritten, hwritten'⟩ := hbegun.stored.written
          rw [← hstorage] at hwritten
          rw [← hstorage'] at hwritten'
          exact ((halong.note project files hfound).persist hwritten hwritten' htaken htaken').congr rfl
            rfl rfl rfl rfl rfl

/-! #### Importing -/

theorem imported_congr {l m : Learner}
    (hsame : ∀ pattern, l.insights.variationsOf pattern = m.insights.variationsOf pattern)
    (listed : List (String × List String)) :
    (mergeAll l listed).2.imported = (mergeAll m listed).2.imported := by
  induction listed generalizing l m with
  | nil => rfl
  | cons e rest ih =>
      obtain ⟨pattern, vs⟩ := e
      obtain ⟨hadded, hlater⟩ := added_congr hsame pattern vs
      have hrest := ih (l := (l.merge pattern vs).1) (m := (m.merge pattern vs).1) (by
        rw [insights_merge, insights_merge]
        exact hlater)
      rw [mergeAll_cons, mergeAll_cons, hadded, hrest]

theorem mergeAll_of_none_imported {l : Learner} (hnone : (mergeAll l listed).2.imported = 0) :
    (mergeAll l listed).1 = l := by
  induction listed with
  | nil => rfl
  | cons e rest ih =>
      obtain ⟨pattern, vs⟩ := e
      rw [mergeAll_cons, Nat.add_eq_zero_iff] at hnone
      obtain ⟨hfirst, hrest⟩ := hnone
      have hsame : (l.merge pattern vs).1 = l := by
        simp [Learner.merge, addVariations_of_none_added hfirst, hfirst]
      rw [hsame] at hrest
      simp only [mergeAll]
      rw [hsame]
      exact ih hrest

theorem merged_of_none_imported (hnone : (mergeAll s.learner listed).2.imported = 0) :
    s.merged listed = s := by rw [merged, mergeAll_of_none_imported hnone]

theorem Alongside.merged (halong : Alongside name h s t) (hbegun : s.learner.initialized = true)
    (variations : Dict (List String)) :
    Alongside name h (s.merged variations.entries) (t.merged variations.entries) := by
  have hbegun' : t.learner.initialized = true := halong.begun.trans hbegun
  have hinsights := halong.insights.addAll variations.ascending variations.ascending fun _ _ => rfl
  have hlearner := mergeAll_eq s.learner variations.entries
  have hlearner' := mergeAll_eq t.learner variations.entries
  have hmerged : ∀ r : LearningState, (r.merged variations.entries).learner =
      (mergeAll r.learner variations.entries).1 := fun _ => rfl
  refine halong.follow ?_ ?_ ?_ ?_ ?_ halong.time
    (learner_of_byActions tellsAll_act halong.told (byActions_merged s variations.entries))
    (learner_of_byActions tellsAll_act halong.told' (byActions_merged t variations.entries)) ?_
  · unfold KeepsTask
    rw [hmerged, hlearner]
    exact ⟨rfl, rfl, rfl⟩
  · unfold KeepsTask
    rw [hmerged, hlearner']
    exact ⟨rfl, rfl, rfl⟩
  · rw [patterns_merged halong.told hbegun, patterns_merged halong.told' hbegun', halong.patterns]
    refine (others_map (fun p => name_perform p (.offer _)) fun p _ hname => ?_).symm
    rw [hinsights.variations p.name hname]
    rfl
  · rw [hmerged, hmerged, hlearner, hlearner']
    exact hinsights
  · rw [hmerged, hmerged, hlearner, hlearner']
    exact halong.begun
  · rw [patterns_merged halong.told hbegun]
    exact halong.answers.map fun p => ⟨name_perform p (.offer _), engine_perform p (.offer _)⟩

/-- Only the first saves, which has learned nothing that is new to the store but for the name. -/
theorem StoredBeside.store_left (hstored : StoredBeside name h base s t)
    (hsaved : s.learner.insights.variationsOf name ≠ t.learner.insights.variationsOf name)
    (hbegun : s.learner.initialized = true) (hu : u.storage = s.storage)
    (hagree : u.stamp.learner.insights.AgreeBut name s.learner.insights)
    (hstore : u.learner.store = h) (htaken : h.Takes u.persist.learner.insights) :
    StoredBeside name h base u.persist t := by
  cases hstored with
  | unsaved _ _ hsame => exact absurd hsame hsaved
  | saved before before' last last' hstorage hstorage' _ htaken' hrecalled =>
      refine .saved (before ++ [last]) before' u.stamp.learner.insights last' ?_ hstorage' htaken htaken'
        fun hlast => ?_
      · rw [saveAll_append_singleton, ← hstorage, ← hu, ← hstore]
        rfl
      · obtain ⟨hlasts, hknown⟩ := hrecalled hlast
        exact ⟨hagree.trans ((hknown hbegun).symm.trans hlasts), fun _ => .refl _⟩

theorem StoredBeside.store_right (hstored : StoredBeside name h base s t)
    (hsaved : s.learner.insights.variationsOf name ≠ t.learner.insights.variationsOf name)
    (hbegun : s.learner.initialized = true) (hv : v.storage = t.storage)
    (hagree : s.learner.insights.AgreeBut name v.stamp.learner.insights)
    (hstore : v.learner.store = h) (htaken : h.Takes v.persist.learner.insights) :
    StoredBeside name h base s v.persist := by
  cases hstored with
  | unsaved _ _ hsame => exact absurd hsame hsaved
  | saved before before' last last' hstorage hstorage' htaken' _ hrecalled =>
      refine .saved before (before' ++ [last']) last v.stamp.learner.insights hstorage ?_ htaken' htaken
        fun hlast => ?_
      · rw [saveAll_append_singleton, ← hstorage', ← hv, ← hstore]
        rfl
      · obtain ⟨_, hknown⟩ := hrecalled hlast
        exact ⟨(hknown hbegun).trans hagree, hknown⟩

theorem Parallel.importFrom (hparallel : Parallel name h base s t) (path : String)
    (htaken : h.Takes (s.importFrom path).2.learner.insights)
    (htaken' : h.Takes (t.importFrom path).2.learner.insights) :
    Parallel name h base (s.importFrom path).2 (t.importFrom path).2 := by
  have hbegun := hparallel.begin
  have hready := initialized_begin s
  have hread : (s.begin.readExport path).toOption = (t.begin.readExport path).toOption := by
    rw [toOption_readExport, toOption_readExport, now, now, hbegun.time]
    exact hbegun.stored.inFile s.begin.time.now path
  rcases hexport : s.begin.readExport path with p | e <;>
    rcases hexport' : t.begin.readExport path with p' | e' <;> rw [hexport, hexport'] at hread
  · rw [importFrom_of_error hexport, importFrom_of_error hexport']
    exact hbegun
  · cases hread
  · cases hread
  obtain rfl : e = e' := Option.some.inj hread
  rw [importFrom_of_ok hexport] at htaken ⊢
  rw [importFrom_of_ok hexport'] at htaken' ⊢
  have halong := hbegun.merged hready e.variations
  obtain ⟨hwritten, hwritten'⟩ := hbegun.stored.written
  have hcounts : (mergeAll s.begin.learner e.variations.entries).2.imported ≠
        (mergeAll t.begin.learner e.variations.entries).2.imported →
      s.begin.learner.insights.variationsOf name ≠ t.begin.learner.insights.variationsOf name := by
    refine fun hcounts hsame => hcounts (imported_congr (fun pattern => ?_) _)
    by_cases hpattern : pattern = name
    · rw [hpattern, hsame]
    · exact hbegun.insights.variations pattern hpattern
  simp only at htaken htaken' ⊢
  by_cases hnone : (mergeAll s.begin.learner e.variations.entries).2.imported = 0 <;>
    by_cases hnone' : (mergeAll t.begin.learner e.variations.entries).2.imported = 0
  · rw [if_pos hnone, if_pos hnone', merged_of_none_imported hnone, merged_of_none_imported hnone']
    exact hbegun
  · rw [if_neg hnone'] at htaken'
    rw [merged_of_none_imported hnone] at halong
    rw [if_pos hnone, if_neg hnone', merged_of_none_imported hnone]
    have hlater := halong.persist_right
    exact ⟨hlater, hbegun.stored.store_right (hcounts (by rw [hnone]; exact Ne.symm hnone')) hready rfl
      hlater.insights hlater.store' htaken'⟩
  · rw [if_neg hnone] at htaken
    rw [merged_of_none_imported hnone'] at halong
    rw [if_neg hnone, if_pos hnone', merged_of_none_imported hnone']
    have hlater := halong.persist_left
    exact ⟨hlater, hbegun.stored.store_left (hcounts (by rw [hnone']; exact hnone)) hready rfl
      (hlater.insights.trans hbegun.insights.symm) hlater.store htaken⟩
  · rw [if_neg hnone] at htaken ⊢
    rw [if_neg hnone'] at htaken' ⊢
    exact halong.persist hwritten hwritten' htaken htaken'

end LearningState
end AdaptiveRules
