import AdaptiveRules.Proofs.ClearedStores
import AdaptiveRules.Proofs.ExportReading
import AdaptiveRules.Proofs.ForgottenVariations
import AdaptiveRules.Proofs.LessonOrder
import AdaptiveRules.Proofs.SeedGroups

/-!
# Imports join what is known

An import appends to the variations of each pattern those of the file that are new, each once, and
nothing else that is known changes.  So importing a file again changes nothing, the order of two files
does not matter, and what is exported is known again where it is imported.
-/

namespace AdaptiveRules

open LearningState

variable {known : Insights} {pattern other v w : String} {variations : List String}
  {listed : List (String × List String)}

/-! ### What is appended -/

namespace Insights

theorem eraseDups_of_nodup {vs : List String} (hvs : vs.Nodup) : vs.eraseDups = vs := by
  induction vs with
  | nil => rfl
  | cons v rest ih =>
      obtain ⟨hfirst, hrest⟩ := List.nodup_cons.mp hvs
      have hkept : rest.filter (fun w => !w == v) = rest := by
        refine List.filter_eq_self.mpr fun w hw => ?_
        simpa using fun heq : w = v => hfirst (heq ▸ hw)
      rw [List.eraseDups_cons, hkept, ih hrest]

/-- The variations among those that are listed that can be added, each once. -/
def newAmong (known : Insights) (pattern : String) (listed : List String) : List String :=
  (listed.filter (known.isNew pattern)).eraseDups

theorem mem_newAmong {listed : List String} : w ∈ known.newAmong pattern listed ↔
    w ∈ listed ∧ w ≠ "" ∧ w ∉ known.variationsOf pattern := by
  rw [newAmong, List.mem_eraseDups, List.mem_filter]
  simp [isNew]

theorem newAmong_of_variations_eq_empty (hknown : known.variations = .empty) {listed : List String}
    (hnodup : listed.Nodup) (hwords : "" ∉ listed) : known.newAmong pattern listed = listed := by
  have hnone : known.variationsOf pattern = [] := by
    rw [variationsOf, hknown]
    rfl
  have hall : listed.filter (known.isNew pattern) = listed := by
    refine List.filter_eq_self.mpr fun v hv => ?_
    have hword : v ≠ "" := fun heq => hwords (heq ▸ hv)
    simp [isNew, hnone, hword]
  rw [newAmong, hall, eraseDups_of_nodup hnodup]

theorem newAmong_congr {known others : Insights}
    (hsame : known.variationsOf pattern = others.variationsOf pattern)
    (listed : List String) : known.newAmong pattern listed = others.newAmong pattern listed := by
  unfold newAmong isNew
  rw [hsame]

theorem variationsOf_addVariation (known : Insights) (pattern v other : String) :
    (known.addVariation pattern v).variationsOf other =
      known.variationsOf other ++ if other = pattern ∧ known.isNew pattern v then [v] else [] := by
  unfold addVariation
  split
  · next hnew => 
      unfold variationsOf
      simp only [Dict.get?_insert]
      split
      · next heq => simp [heq, hnew]
      · next hne => simp [hne]
  · next hold => simp [hold]

theorem variationsOf_addVariations (known : Insights) (pattern : String) (listed : List String) :
    (known.addVariations pattern listed).1.variationsOf pattern =
      known.variationsOf pattern ++ known.newAmong pattern listed := by
  induction listed generalizing known with
  | nil => simp [addVariations, newAmong]
  | cons v rest ih =>
      show ((known.addVariation pattern v).addVariations pattern rest).1.variationsOf pattern = _
      rw [ih, variationsOf_addVariation]
      unfold newAmong
      by_cases hnew : known.isNew pattern v = true
      · have hless : (known.addVariation pattern v).isNew pattern =
            fun w => known.isNew pattern w && !w == v := by
          funext w
          unfold isNew
          rw [variationsOf_addVariation]
          simp [hnew, Bool.and_assoc]
          rfl
        rw [if_pos ⟨rfl, hnew⟩, List.filter_cons_of_pos hnew, List.eraseDups_cons, hless,
          List.filter_filter, List.append_assoc, List.singleton_append]
        simp only [Bool.and_comm]
      · rw [if_neg fun h => hnew h.2, List.filter_cons_of_neg hnew, List.append_nil, addVariation,
          if_neg hnew]

theorem variationsOf_addVariations_of_ne (known : Insights) (hother : other ≠ pattern)
    (listed : List String) :
    (known.addVariations pattern listed).1.variationsOf other = known.variationsOf other := by
  induction listed generalizing known with
  | nil => rfl
  | cons v rest ih =>
      have hfirst := variationsOf_addVariation known pattern v other
      rw [if_neg fun h => hother h.1, List.append_nil] at hfirst
      exact (ih _).trans hfirst

/-- Growth goes by what is listed, and no more is added than that. -/
theorem addVariations_le (known : Insights) (pattern : String) (listed : List String) :
    (known.addVariations pattern listed).2 ≤ listed.length := by
  induction listed generalizing known with
  | nil => exact le_refl 0
  | cons v rest ih =>
      have hrest := ih (known.addVariation pattern v)
      simp only [addVariations, List.length_cons]
      split <;> omega

theorem addVariations_of_known (hold : ∀ v ∈ variations, known.isNew pattern v = false) :
    known.addVariations pattern variations = (known, 0) := by
  induction variations with
  | nil => rfl
  | cons v rest ih =>
      have hfirst := hold v List.mem_cons_self
      have hsame : known.addVariation pattern v = known := by simp [addVariation, hfirst]
      have hrest := ih fun w hw => hold w (List.mem_cons_of_mem _ hw)
      simp only [addVariations, hsame, hrest, hfirst]
      rfl

end Insights

/-! ### The variations of a file -/

namespace LearningState

/-- The variations listed for a pattern. -/
def listedFor (listed : List (String × List String)) (pattern : String) : List String :=
  (listed.lookup pattern).getD []

theorem variationsOf_addAll (known : Insights) (hlisted : Ascending listed) (pattern : String) :
    (addAll known listed).variationsOf pattern =
      known.variationsOf pattern ++ known.newAmong pattern (listedFor listed pattern) := by
  induction listed generalizing known with
  | nil => simp [addAll, listedFor, Insights.newAmong]
  | cons e rest ih =>
      obtain ⟨k, vs⟩ := e
      obtain ⟨hhead, hrest⟩ := List.pairwise_cons.mp hlisted
      show (addAll (known.addVariations k vs).1 rest).variationsOf pattern = _
      rw [ih _ hrest]
      unfold listedFor
      rw [Dict.lookup_cons_ite]
      by_cases heq : pattern = k
      · subst heq
        have hnone : rest.lookup pattern = none :=
          List.lookup_eq_none_iff.mpr fun e he => by
            have hless := hhead e he
            simpa using fun heq : pattern = e.1 => String.lt_irrefl e.1 (by rwa [heq] at hless)
        simp [hnone, Insights.variationsOf_addVariations, Insights.newAmong]
      · have hsame := Insights.variationsOf_addVariations_of_ne known heq vs
        rw [if_neg heq, hsame, Insights.newAmong_congr hsame]

theorem mergeAll_cons (l : Learner) (pattern : String) (vs : List String)
    (rest : List (String × List String)) :
    (mergeAll l ((pattern, vs) :: rest)).2 =
      ⟨(l.insights.addVariations pattern vs).2 + (mergeAll (l.merge pattern vs).1 rest).2.imported,
        vs.length - (l.insights.addVariations pattern vs).2 +
          (mergeAll (l.merge pattern vs).1 rest).2.skipped⟩ := rfl

/-- The numbers of variations that are listed, of those that are new, and of those that are known. -/
theorem counts_mergeAll (l : Learner) (listed : List (String × List String)) :
    (mergeAll l listed).2.imported + (mergeAll l listed).2.skipped =
        (listed.map Prod.snd).flatten.length ∧
      (addAll l.insights listed).totalVariations =
        l.insights.totalVariations + (mergeAll l listed).2.imported := by
  induction listed generalizing l with
  | nil => exact ⟨rfl, rfl⟩
  | cons e rest ih =>
      obtain ⟨pattern, vs⟩ := e
      have hle := l.insights.addVariations_le pattern vs
      have htotal := l.insights.totalVariations_addVariations pattern vs
      obtain ⟨hsum, hgrown⟩ := ih (l.merge pattern vs).1
      rw [merge_eq] at hgrown
      rw [mergeAll_cons]
      refine ⟨?_, ?_⟩
      · rw [List.map_cons, List.flatten_cons, List.length_append]
        simp only
        omega
      · show (addAll (l.insights.addVariations pattern vs).1 rest).totalVariations = _
        rw [hgrown, merge_eq]
        simp only
        omega

/-- Nothing changes if nothing listed is new. -/
theorem mergeAll_of_known {l : Learner}
    (hold : ∀ e ∈ listed, ∀ v ∈ e.2, l.insights.isNew e.1 v = false) :
    mergeAll l listed = (l, ⟨0, (listed.map Prod.snd).flatten.length⟩) := by
  induction listed with
  | nil => rfl
  | cons e rest ih =>
      obtain ⟨pattern, vs⟩ := e
      have hfirst := Insights.addVariations_of_known (hold _ List.mem_cons_self)
      have hrest := ih fun f hf => hold f (List.mem_cons_of_mem _ hf)
      have hsame : l.merge pattern vs = (l, 0) := by
        unfold Learner.merge
        rw [hfirst]
        rfl
      simp only [mergeAll, hsame, hrest, List.map_cons, List.flatten_cons, List.length_append]
      simp

end LearningState

/-! ### Joined knowledge -/

/-- How taking over the variations of a file changes what is known.  What was known stays in its
place, and what is new of the file follows, each variation once. -/
structure Joins (before after : Insights) (variations : Dict (List String))
    (counts : ImportCounts) : Prop where
  appended : ∀ pattern, after.variationsOf pattern =
    before.variationsOf pattern ++ before.newAmong pattern (listedFor variations.entries pattern)
  listed : counts.imported + counts.skipped = variations.values.flatten.length
  grown : after.totalVariations = before.totalVariations + counts.imported
  projects : after.projects = before.projects
  trained : after.trained = before.trained
  improvements : after.improvements = before.improvements
  metrics : after.metrics = before.metrics

namespace Joins

variable {a b b' c c' : Insights} {d e : Dict (List String)} {i j i' j' : ImportCounts}

theorem mem_iff (hjoins : Joins a b d i) : w ∈ b.variationsOf pattern ↔
    w ∈ a.variationsOf pattern ∨ w ∈ listedFor d.entries pattern ∧ w ≠ "" := by
  rw [hjoins.appended, List.mem_append, Insights.mem_newAmong]
  by_cases hold : w ∈ a.variationsOf pattern <;> simp [hold]

theorem appendsNew (hjoins : Joins a b d i) (pattern : String) :
    Insights.AppendsNew (a.variationsOf pattern) (b.variationsOf pattern) :=
  ⟨_, hjoins.appended pattern, nodup_eraseDups _, fun _ hv =>
    (Insights.mem_newAmong.mp hv).2.2⟩

/-- All that is listed is known afterwards. -/
theorem isNew_eq_false (hjoins : Joins a b d i) {f : String × List String} (hf : f ∈ d.entries)
    (hv : v ∈ f.2) : b.isNew f.1 v = false := by
  obtain ⟨k, vs⟩ := f
  have hlisted : listedFor d.entries k = vs := by
    have hget := Dict.mem_entries_iff.mp hf
    unfold Dict.get? at hget
    rw [listedFor, hget]
    rfl
  by_cases hword : v = ""
  · simp [Insights.isNew, hword]
  · have hmem : v ∈ b.variationsOf k := hjoins.mem_iff.mpr (Or.inr ⟨hlisted ▸ hv, hword⟩)
    simp [Insights.isNew, hmem]

/-- The order of two files does not matter for what is known of a pattern. -/
theorem perm (hfirst : Joins a b d i) (hsecond : Joins b c e j) (hfirst' : Joins a b' e j')
    (hsecond' : Joins b' c' d i') (pattern : String) :
    (c.variationsOf pattern).Perm (c'.variationsOf pattern) := by
  refine ((hfirst.appendsNew pattern).trans (hsecond.appendsNew pattern)).perm
    ((hfirst'.appendsNew pattern).trans (hsecond'.appendsNew pattern)) fun v => ?_
  rw [hsecond.mem_iff, hfirst.mem_iff, hsecond'.mem_iff, hfirst'.mem_iff]
  exact or_right_comm

/-- Where nothing was known, tidy variations are all taken over as they are. -/
theorem variations_eq {known : Insights} (hjoins : Joins a b known.variations i)
    (hnone : a.variations = .empty) (hb : b.Tidy) (hknown : known.Tidy) :
    b.variations = known.variations ∧ i = ⟨known.totalVariations, 0⟩ := by
  have hsame : b.variations = known.variations := by
    refine Dict.ext_get? fun pattern => ?_
    have hlists : b.variationsOf pattern = known.variationsOf pattern := by
      obtain ⟨hnodup, hwords⟩ := hknown.of_variationsOf pattern
      have hbefore : a.variationsOf pattern = [] := by
        rw [Insights.variationsOf, hnone]
        rfl
      rw [hjoins.appended, hbefore, List.nil_append]
      exact Insights.newAmong_of_variations_eq_empty hnone hnodup hwords
    unfold Insights.variationsOf at hlists
    cases hleft : b.variations.get? pattern with
    | none =>
        cases hright : known.variations.get? pattern with
        | none => rfl
        | some vs => exact absurd (by simpa [hleft, hright] using hlists.symm) (hknown _ _ hright).1
    | some vs =>
        cases hright : known.variations.get? pattern with
        | none => exact absurd (by simpa [hleft, hright] using hlists) (hb _ _ hleft).1
        | some ws => simpa [hleft, hright] using hlists
  refine ⟨hsame, ?_⟩
  have hgrown := hjoins.grown
  have hlisted := hjoins.listed
  unfold Insights.totalVariations at hgrown ⊢
  rw [hsame, hnone] at hgrown
  have hzero : (Dict.empty : Dict (List String)).values.flatten.length = 0 := rfl
  obtain ⟨imported, skipped⟩ := i
  simp only [ImportCounts.mk.injEq]
  simp only at hgrown hlisted
  omega

end Joins

/-! ### Imports -/

namespace LearningState

variable {s t u : LearningState} {path other again again' text otherText : String}
  {e f : InsightsExport}

theorem joins_mergeAll (l : Learner) (variations : Dict (List String)) (saved : Option Instant) :
    Joins l.insights { addAll l.insights variations.entries with saved } variations
      (mergeAll l variations.entries).2 := by
  obtain ⟨hlisted, hgrown⟩ := counts_mergeAll l variations.entries
  have hrest := addAll_eq l.insights variations.entries
  refine ⟨variationsOf_addAll _ variations.ascending, hlisted, hgrown, ?_, ?_, ?_, ?_⟩ <;> rw [hrest]

theorem importFrom_of_error {p : Problem} (hread : s.begin.readExport path = .error p) :
    s.importFrom path = (.error p, s.begin) := by
  unfold importFrom
  simp only
  rw [hread]

theorem importFrom_of_ok (hread : s.begin.readExport path = .ok e) :
    s.importFrom path =
      (.ok (mergeAll s.begin.learner e.variations.entries).2,
        if (mergeAll s.begin.learner e.variations.entries).2.imported = 0 then
          s.begin.merged e.variations.entries
        else (s.begin.merged e.variations.entries).persist) := by
  unfold importFrom
  simp only
  rw [hread]
  rfl

theorem learner_importFrom (hread : s.begin.readExport path = .ok e) : ∃ patterns saved,
    (s.importFrom path).2.learner = { s.begin.learner with
      patterns
      insights := { addAll s.begin.learner.insights e.variations.entries with saved } } := by
  rw [importFrom_of_ok hread]
  simp only [merged]
  rw [mergeAll_eq]
  split
  · exact ⟨_, _, rfl⟩
  · exact ⟨_, _, rfl⟩

theorem joins_importFrom (hread : s.begin.readExport path = .ok e) : ∃ counts,
    (s.importFrom path).1 = .ok counts ∧
      Joins s.begin.learner.insights (s.importFrom path).2.learner.insights e.variations counts := by
  obtain ⟨_, saved, hlearner⟩ := learner_importFrom hread
  refine ⟨_, congrArg Prod.fst (importFrom_of_ok hread), ?_⟩
  rw [hlearner]
  exact joins_mergeAll s.begin.learner e.variations saved

/-- Nothing changes where all that a file lists was taken over before. -/
theorem importFrom_of_joined {before : Insights} {counts : ImportCounts}
    (hbegun : s.learner.initialized = true)
    (hjoins : Joins before s.learner.insights e.variations counts)
    (hread : s.readExport path = .ok e) :
    s.importFrom path = (.ok ⟨0, e.totalVariations⟩, s) := by
  have hbegin := begin_of_initialized hbegun
  have hsame := mergeAll_of_known (l := s.learner) fun _ hf _ hv => hjoins.isNew_eq_false hf hv
  rw [importFrom_of_ok (by rwa [hbegin]), hbegin, merged, hsame]
  rfl

/-! ### Files that are read -/

/-- A file has a text that is read as an export. -/
structure Offers (s : LearningState) (path text : String) (e : InsightsExport) : Prop where
  content : s.storage.files.readText path = .ok text
  reads : InsightsExport.ofText? s.now text = some e

theorem readExport_begin (s : LearningState) (path : String) :
    s.begin.readExport path = s.readExport path := by
  obtain ⟨hstorage, htime⟩ := begin_frame s
  unfold readExport now
  rw [hstorage, htime]

theorem Offers.readExport (hoffers : s.Offers path text e) : s.begin.readExport path = .ok e := by
  rw [readExport_begin]
  unfold LearningState.readExport
  rw [hoffers.content]
  simp only
  rw [hoffers.reads]

/-- Whenever a text is read, it tells of the same variations. -/
theorem Offers.exists_offers (hoffers : s.Offers path text e)
    (htext : t.storage.files.readText again = .ok text) :
    ∃ e', t.Offers again text e' ∧ e'.variations = e.variations := by
  obtain ⟨e', hreads, hsame⟩ := InsightsExport.exists_ofText?_at hoffers.reads t.now
  exact ⟨e', ⟨htext, hreads⟩, hsame⟩

theorem Offers.joins (hoffers : s.Offers path text e) : ∃ counts,
    (s.importFrom path).1 = .ok counts ∧
      Joins s.begin.learner.insights (s.importFrom path).2.learner.insights e.variations counts :=
  joins_importFrom hoffers.readExport

theorem Offers.begun (hoffers : s.Offers path text e) :
    (s.importFrom path).2.learner.initialized = true := by
  obtain ⟨_, _, hlearner⟩ := learner_importFrom hoffers.readExport
  rw [hlearner]
  exact initialized_begin s

/-- A text is taken over by a learner that has begun long ago, wherever it was read before. -/
theorem Offers.joins_later (hoffers : s.Offers path text e) (hbegun : t.learner.initialized = true)
    (htext : t.storage.files.readText again = .ok text) : ∃ counts,
    Joins t.learner.insights (t.importFrom again).2.learner.insights e.variations counts := by
  obtain ⟨e', hoffers', hsame⟩ := hoffers.exists_offers htext
  obtain ⟨counts, _, hjoins⟩ := hoffers'.joins
  rw [begin_of_initialized hbegun, hsame] at hjoins
  exact ⟨counts, hjoins⟩

/-- What was taken over once is passed over when its text is read again. -/
theorem Offers.importFrom_again (hoffers : s.Offers path text e)
    (hlearner : t.learner = (s.importFrom path).2.learner)
    (htext : t.storage.files.readText again = .ok text) :
    t.importFrom again = (.ok ⟨0, e.totalVariations⟩, t) := by
  obtain ⟨counts, _, hjoins⟩ := hoffers.joins
  have hbegun := hoffers.begun
  obtain ⟨e', hoffers', hsame⟩ := hoffers.exists_offers htext
  have hread := hoffers'.readExport
  rw [← hlearner] at hjoins hbegun
  rw [begin_of_initialized hbegun] at hread
  unfold InsightsExport.totalVariations
  rw [← hsame] at hjoins ⊢
  exact importFrom_of_joined hbegun hjoins hread

/-- Two texts are taken over in either order. -/
theorem Offers.perm (hoffers : s.Offers path text e) (hother : s.Offers other otherText f)
    (hfirst : t.learner = (s.importFrom path).2.learner)
    (hfirst' : u.learner = (s.importFrom other).2.learner)
    (htext' : t.storage.files.readText again' = .ok otherText)
    (htext : u.storage.files.readText again = .ok text) (pattern : String) :
    ((t.importFrom again').2.learner.insights.variationsOf pattern).Perm
      ((u.importFrom again).2.learner.insights.variationsOf pattern) := by
  obtain ⟨_, _, hjoins⟩ := hoffers.joins
  obtain ⟨_, _, hjoins'⟩ := hother.joins
  have hbegun := hoffers.begun
  have hbegun' := hother.begun
  rw [← hfirst] at hjoins hbegun
  rw [← hfirst'] at hjoins' hbegun'
  obtain ⟨_, hlater⟩ := hother.joins_later hbegun htext'
  obtain ⟨_, hlater'⟩ := hoffers.joins_later hbegun' htext
  exact hjoins.perm hlater hjoins' hlater' pattern

/-! ### Learners that started empty -/

theorem Move.tidy (hmove : Move s t) (hbegun : s.learner.initialized = true)
    (htidy : s.learner.insights.Tidy) : t.learner.insights.Tidy := by
  cases hmove with
  | improve names _ =>
      obtain ⟨observers, metrics, himproved⟩ := improved_eq s names
      rw [himproved]
      unfold Insights.Tidy
      simp only [variations_logged]
      exact htidy
  | quiet hquiet =>
      cases hquiet with
      | search hsearch =>
          rw [hsearch.insights_eq]
          exact htidy
      | begin =>
          rw [begin_of_initialized hbegun]
          exact htidy
      | note project files found _ _ =>
          have hseen : Insights.Tidy { s.learner.insights with
              projects := s.learner.insights.projects.insert project
                ⟨files.length, found.map List.length, s.now⟩ } := htidy
          exact addDerived_keeps (P := Insights.Tidy)
            (fun _ pattern v hknown => hknown.addVariation pattern v) hseen s.learner.settings
            found.entries
      | merge variations _ =>
          unfold merged
          rw [mergeAll_eq]
          exact addAll_keeps (fun _ pattern v hknown => hknown.addVariation pattern v) htidy _
      | stamp => exact htidy
      | tick time => exact htidy

theorem tidy_of_moves (hmoves : Moves s t) (hbegun : s.learner.initialized = true)
    (htidy : s.learner.insights.Tidy) : t.learner.insights.Tidy := by
  induction hmoves with
  | refl => exact htidy
  | tail hfirst hlast ih => exact hlast.tidy ((frame_of_moves hfirst).begun hbegun) ih

/-- A learner that has begun stays tidy whatever it does. -/
theorem tidy_perform (hbegun : s.learner.initialized = true) (htidy : s.learner.insights.Tidy)
    (op : LearnerOperation) :
    (s.perform op).learner.initialized = true ∧ (s.perform op).learner.insights.Tidy := by
  by_cases hop : op = .reset
  · rw [hop]
    exact ⟨hbegun, nofun⟩
  · obtain ⟨t, hmoves, hend⟩ := perform_cases s hop
    have ht : t.learner.initialized = true ∧ t.learner.insights.Tidy :=
      ⟨(frame_of_moves hmoves).begun hbegun, tidy_of_moves hmoves hbegun htidy⟩
    rcases hend with ⟨_, hend⟩ | ⟨_, hend⟩ | ⟨_, _, files, hend⟩
    · rwa [hend]
    · rwa [hend]
    · rwa [hend]

theorem tidy_performAll (hbegun : s.learner.initialized = true) (htidy : s.learner.insights.Tidy)
    (ops : List LearnerOperation) :
    (s.performAll ops).learner.initialized = true ∧ (s.performAll ops).learner.insights.Tidy :=
  List.foldlRecOn
    (motive := fun s => s.learner.initialized = true ∧ s.learner.insights.Tidy) ops perform
    ⟨hbegun, htidy⟩ fun _ hs op _ => tidy_perform hs.1 hs.2 op

theorem tidy_of_variations_eq_empty (hnone : known.variations = .empty) : known.Tidy := by
  intro pattern vs hget
  rw [hnone] at hget
  cases hget

/-- An export tells of what is known, and it is what the file holds afterwards. -/
theorem exportTo_of_ok (hexport : (t.exportTo other).1 = .ok e) :
    e = .ofInsights t.begin.learner.insights t.begin.now ∧
      (t.exportTo other).2.storage.files.readText other = .ok e.toJson.pretty := by
  unfold exportTo at hexport ⊢
  simp only at hexport ⊢
  cases hwrite : t.begin.storage.files.write other
      (InsightsExport.ofInsights t.begin.learner.insights t.begin.now).toJson.pretty with
  | error p =>
      rw [hwrite] at hexport
      cases hexport
  | ok files =>
      rw [hwrite] at hexport
      cases hexport
      exact ⟨rfl, FileTree.readText_write hwrite⟩

theorem totalVariations_ofInsights (known : Insights) (now : Instant) :
    (InsightsExport.ofInsights known now).totalVariations = known.totalVariations := rfl

theorem exists_offers_of_exportTo (hexport : (t.exportTo other).1 = .ok e) (he : e.Representable)
    (hsame : s.storage.files.readText path =
      (t.exportTo other).2.storage.files.readText other) :
    ∃ e', s.Offers path e.toJson.pretty e' ∧ e'.variations = e.variations :=
  ⟨_, ⟨hsame.trans (exportTo_of_ok hexport).2, InsightsExport.ofText?_pretty he s.now⟩, rfl⟩

/-- What is exported of tidy variations is all that is known where nothing was. -/
theorem importFrom_exported (htidy : t.begin.learner.insights.Tidy)
    (hexport : (t.exportTo other).1 = .ok e) (he : e.Representable)
    (hsame : s.storage.files.readText path =
      (t.exportTo other).2.storage.files.readText other)
    (hnone : s.begin.learner.insights.variations = .empty) :
    (s.importFrom path).1 = .ok ⟨e.totalVariations, 0⟩ ∧
      (s.importFrom path).2.learner.insights.variations =
        t.begin.learner.insights.variations := by
  obtain ⟨e', hoffers, hvariations⟩ := exists_offers_of_exportTo hexport he hsame
  obtain ⟨rfl, _⟩ := exportTo_of_ok hexport
  obtain ⟨counts, hcounts, hjoins⟩ := hoffers.joins
  have hafter : (s.importFrom path).2.learner.insights.Tidy := by
    obtain ⟨_, saved, hlearner⟩ := learner_importFrom hoffers.readExport
    rw [hlearner]
    exact addAll_keeps (fun _ pattern v hknown => hknown.addVariation pattern v)
      (tidy_of_variations_eq_empty hnone) _
  rw [hvariations] at hjoins
  obtain ⟨hall, rfl⟩ := Joins.variations_eq hjoins hnone hafter htidy
  exact ⟨hcounts, hall⟩

/-- An import joins what a file tells to what is known, or it fails and leaves all as it was when
the learner had begun.  A text that is read again changes nothing, two files can be read in either
order, and what a learner exports that started empty is all that is known where nothing was. -/
theorem importFrom_joins_or_fails (s : LearningState) (path : String) :
    (∀ p, s.storage.files.readText path = .error p →
        s.importFrom path = (.error (.file p), s.begin)) ∧
      (∀ text, s.storage.files.readText path = .ok text →
        InsightsExport.ofText? s.now text = none →
          s.importFrom path = (.error .jsonUnreadable, s.begin)) ∧
      (∀ text e, s.Offers path text e →
        (∃ counts, (s.importFrom path).1 = .ok counts ∧
          Joins s.begin.learner.insights (s.importFrom path).2.learner.insights e.variations
            counts) ∧
        (∀ (t : LearningState) (again : String), t.learner = (s.importFrom path).2.learner →
          t.storage.files.readText again = .ok text →
            t.importFrom again = (.ok ⟨0, e.totalVariations⟩, t)) ∧
        ∀ (other otherText : String) (f : InsightsExport), s.Offers other otherText f →
          ∀ (t u : LearningState) (again again' : String),
            t.learner = (s.importFrom path).2.learner →
            t.storage.files.readText again' = .ok otherText →
            u.learner = (s.importFrom other).2.learner →
            u.storage.files.readText again = .ok text →
              ∀ pattern, ((t.importFrom again').2.learner.insights.variationsOf pattern).Perm
                ((u.importFrom again).2.learner.insights.variationsOf pattern)) ∧
      ∀ (start : LearningState) (ops : List LearnerOperation) (source : String)
        (e : InsightsExport), start.begin.learner.insights.variations = .empty →
        ((start.begin.performAll ops).exportTo source).1 = .ok e → e.Representable →
        s.storage.files.readText path =
          ((start.begin.performAll ops).exportTo source).2.storage.files.readText source →
        s.begin.learner.insights.variations = .empty →
          (s.importFrom path).1 = .ok ⟨e.totalVariations, 0⟩ ∧
            (s.importFrom path).2.learner.insights.variations =
              (start.begin.performAll ops).learner.insights.variations := by
  refine ⟨fun p hfile => ?_, fun text htext hnone => ?_, fun text e hoffers => ⟨hoffers.joins, ?_, ?_⟩,
    ?_⟩
  · refine importFrom_of_error ((readExport_begin s path).trans ?_)
    unfold readExport
    rw [hfile]
  · refine importFrom_of_error ((readExport_begin s path).trans ?_)
    unfold readExport
    rw [htext]
    simp only
    rw [hnone]
  · exact fun t again hlearner htext => hoffers.importFrom_again hlearner htext
  · exact fun other otherText f hother t u again again' hfirst htext' hfirst' htext =>
      hoffers.perm hother hfirst hfirst' htext' htext
  · intro start ops source e hstart hexport he hsame hnone
    obtain ⟨hbegun, htidy⟩ := tidy_performAll (initialized_begin start)
      (tidy_of_variations_eq_empty hstart) ops
    rw [← begin_of_initialized hbegun] at htidy
    have hexported := importFrom_exported htidy hexport he hsame hnone
    rwa [begin_of_initialized hbegun] at hexported

/-! ### Learners in memory -/

/-- An import into memory writes no file. -/
theorem files_importFrom_of_memory (hstore : s.learner.store = .memory)
    (hoffers : s.Offers path text e) :
    (s.importFrom path).2.storage.files = s.storage.files := by
  obtain ⟨hstorage, _⟩ := begin_frame s
  have hmemory : s.begin.learner.store = .memory := (Quiet.begin s).frame.store.trans hstore
  rw [importFrom_of_ok hoffers.readExport, ← hstorage]
  simp only [merged]
  rw [mergeAll_eq]
  split
  · rfl
  · simp only [persist, stamp, store, withLearner, hmemory, StoreHandle.save]

/-- A learner that took over a variation of a file. -/
def wordOwner : LearningState :=
  (inMemory [wordPattern] none).begin.performAll [.place "x" exchangedVariation, .importFrom "x"]

/-- A learner that knows nothing, with the files of the other one after an export. -/
def wordSeeker : LearningState :=
  { inMemory [wordPattern] none with storage := .ofFiles (wordOwner.exportTo "y").2.storage.files }

theorem readText_wordSeeker (path : String) : wordSeeker.storage.files.readText path =
    (wordOwner.exportTo "y").2.storage.files.readText path := by
  simp only [wordSeeker, Storage.ofFiles]

theorem representable_wordOwner : (InsightsExport.ofInsights wordOwner.begin.learner.insights
    wordOwner.begin.now).Representable := by
  have htime : (⟨0, 0⟩ : Instant).InCalendar := ⟨by decide, by decide, by decide⟩
  obtain ⟨hnow, hlogs, hbefore, hafter, hanalyzed, hpatterns, hrules, hupdate⟩ :
      let known := wordOwner.begin.learner.insights
      wordOwner.begin.now = ⟨0, 0⟩ ∧ known.improvements.values = [] ∧
        known.metrics.rateBefore.values = [] ∧ known.metrics.rateAfter.values = [] ∧
        known.metrics.projectsAnalyzed = 0 ∧ known.metrics.patternsImproved = 0 ∧
        known.metrics.ruleImprovements = 0 ∧ known.metrics.lastUpdate = ⟨0, 0⟩ := by
    decide +kernel
  unfold InsightsExport.ofInsights
  refine ⟨?_, ?_, ⟨?_, ?_, ?_, ?_, ?_, ?_⟩⟩
  · rwa [hnow]
  · rw [hlogs]
    exact fun _ => False.elim ∘ List.not_mem_nil
  · rw [hanalyzed]
    decide
  · rw [hpatterns]
    decide
  · rw [hrules]
    decide
  · rw [hbefore]
    exact fun _ => False.elim ∘ List.not_mem_nil
  · rw [hafter]
    exact fun _ => False.elim ∘ List.not_mem_nil
  · rwa [hupdate]

/-- What one learner exported is taken over by another one and passed over when it is read again,
and a file that is not there leaves all as it was. -/
theorem importFrom_joins_or_fails_word :
    (wordSeeker.importFrom "y").1 = .ok ⟨1, 0⟩ ∧
      (wordSeeker.importFrom "y").2.learner.insights.variationsOf "w" = ["a"] ∧
      (wordSeeker.importFrom "y").2.importFrom "y" =
        (.ok ⟨0, 1⟩, (wordSeeker.importFrom "y").2) ∧
      wordSeeker.importFrom "z" = (.error (.file .notFound), wordSeeker.begin) := by
  obtain ⟨hmissing, _⟩ := importFrom_joins_or_fails wordSeeker "z"
  obtain ⟨_, _, htaken, hexported⟩ := importFrom_joins_or_fails wordSeeker "y"
  obtain ⟨hdone, hknown, htotal⟩ : (wordOwner.exportTo "y").1.toOption.isSome = true ∧
      wordOwner.learner.insights.variationsOf "w" = ["a"] ∧
      wordOwner.begin.learner.insights.totalVariations = 1 := by
    decide +kernel
  cases hexport : (wordOwner.exportTo "y").1 with
  | error p =>
      rw [hexport] at hdone
      cases hdone
  | ok e =>
      obtain ⟨heq, _⟩ := exportTo_of_ok hexport
      have he : e.Representable := by
        rw [heq]
        exact representable_wordOwner
      have hone : e.totalVariations = 1 := by
        rw [heq, totalVariations_ofInsights, htotal]
      have hshared := hexported (inMemory [wordPattern] none)
        [.place "x" exchangedVariation, .importFrom "x"] "y" e rfl
      rw [← wordOwner] at hshared
      obtain ⟨hcounts, hvariations⟩ :=
        hshared hexport he (readText_wordSeeker "y") (by decide +kernel)
      obtain ⟨e', hoffers, hsame⟩ := exists_offers_of_exportTo hexport he (readText_wordSeeker "y")
      obtain ⟨_, hagain, _⟩ := htaken _ e' hoffers
      refine ⟨?_, ?_, ?_, hmissing .notFound (by decide +kernel)⟩
      · rw [hone] at hcounts
        exact hcounts
      · rw [Insights.variationsOf, hvariations]
        exact hknown
      · have hone' : e'.totalVariations = 1 := by
          rw [InsightsExport.totalVariations, hsame]
          exact hone
        have hstays := hagain (wordSeeker.importFrom "y").2 "y" rfl
          (by rw [files_importFrom_of_memory rfl hoffers, hoffers.content])
        rw [hone'] at hstays
        exact hstays

end LearningState
end AdaptiveRules
