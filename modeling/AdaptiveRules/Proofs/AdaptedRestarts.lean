import AdaptiveRules.Proofs.AdaptationRecords
import AdaptiveRules.Proofs.ImprovementReplay
import AdaptiveRules.Proofs.LearnerLives

/-!
# What a restart keeps of rules that also adapt

Improvements are logged and restored by the next learner, each if the rule that it replaced is in
place.  Adaptation changes rules as well, but only the pattern itself has a record of that.  Both make
a rule longer, so once a rule has adapted, no later improvement starts from the rule that the log
leads to.  The next learner therefore has the rule that the pattern had before it first adapted: the
rule in place exactly if it never did.
-/

namespace AdaptiveRules

open Insights LearningState

/-! ### Logs with entries that are passed over -/

/-- Restoring the log from the first rule ends with the last one; every entry that is tried can be
installed, and those that start from another rule are passed over. -/
inductive Restores : String → List Improvement → String → Prop
  | nil (rule : String) : Restores rule [] rule
  | install {first last : String} {i : Improvement} {rest : List Improvement}
      (hfirst : i.original = first) (hrule : Installable i.improved)
      (hrest : Restores i.improved rest last) : Restores first (i :: rest) last
  | skip {first last : String} {i : Improvement} {rest : List Improvement}
      (hother : i.original ≠ first) (hrest : Restores first rest last) :
      Restores first (i :: rest) last

namespace Restores

variable {first last : String} {log : List Improvement} {i : Improvement}

theorem eq_of_nil (hlog : Restores first [] last) : last = first := by
  cases hlog
  rfl

theorem snoc_install (hlog : Restores first log last) (horiginal : i.original = last)
    (hrule : Installable i.improved) : Restores first (log ++ [i]) i.improved := by
  induction hlog with
  | nil rule => exact .install horiginal hrule (.nil _)
  | install hfirst hthere _ ih => exact .install hfirst hthere (ih horiginal)
  | skip hother _ ih => exact .skip hother (ih horiginal)

theorem snoc_skip (hlog : Restores first log last) (hother : i.original ≠ last) :
    Restores first (log ++ [i]) last := by
  induction hlog with
  | nil rule => exact .skip hother (.nil _)
  | install hfirst hthere _ ih => exact .install hfirst hthere (ih hother)
  | skip hbefore _ ih => exact .skip hbefore (ih hother)

/-- A log that can be restored from the rule in place puts its last rule in place. -/
theorem restore {p : Pattern} (hlog : Restores first log last) (hfirst : p.textRule = first) :
    (Learner.restore p log).textRule = last ∧ (Learner.restore p log).name = p.name ∧
      (Learner.restore p log).mode = p.mode := by
  induction hlog generalizing p with
  | nil rule => exact ⟨hfirst, rfl, rfl⟩
  | install horiginal hrule _ ih =>
      obtain ⟨q, hinstall⟩ := Pattern.exists_install hrule p
      obtain ⟨_, htext, hname, hmode⟩ := Pattern.of_install hinstall
      unfold Learner.restore
      simp only [hfirst, horiginal, if_true, hinstall]
      obtain ⟨hlast, hsame, hkept⟩ := ih htext
      exact ⟨hlast, hsame.trans hname, hkept.trans hmode⟩
  | skip hother _ ih =>
      unfold Learner.restore
      rw [hfirst, if_neg (Ne.symm hother)]
      exact ih hfirst

end Restores

/-! ### The rule that stands in the log -/

namespace Pattern

/-- The rule that the pattern had before adaptation first changed it, counted from the pattern of the
catalog; the rule in place if that never happened. -/
def unadaptedRule (c p : Pattern) : String :=
  match p.changes.drop c.changes.length with
  | [] => p.textRule
  | r :: _ => r.previousRule

/-- The log leads from the rule of the catalog to the rule that the pattern had before it first
adapted, and the rule in place is longer if that ever happened. -/
structure Stands (log : List Improvement) (c p : Pattern) : Prop where
  grown : c.changes <+: p.changes
  restores : Restores c.textRule log (c.unadaptedRule p)
  longer : p.changes ≠ c.changes → (c.unadaptedRule p).length < p.textRule.length

variable {c p q : Pattern} {log : List Improvement} {op : PatternOperation}

theorem unadaptedRule_of_eq (hsame : p.changes = c.changes) : c.unadaptedRule p = p.textRule := by
  simp [unadaptedRule, hsame]

theorem Stands.of_restores (hsame : p.changes = c.changes)
    (hlog : Restores c.textRule log p.textRule) : Stands log c p :=
  ⟨hsame ▸ List.prefix_refl _, (unadaptedRule_of_eq hsame).symm ▸ hlog, fun hne => absurd hsame hne⟩

theorem Stands.congr (hstands : Stands log c p) (hchanges : q.changes = p.changes)
    (hrule : q.textRule = p.textRule) : Stands log c q := by
  have hsame : c.unadaptedRule q = c.unadaptedRule p := by
    unfold unadaptedRule
    rw [hchanges, hrule]
  refine ⟨?_, ?_, ?_⟩
  · rw [hchanges]
    exact hstands.grown
  · rw [hsame]
    exact hstands.restores
  · rw [hchanges, hsame, hrule]
    exact hstands.longer

/-- The rule in place is the one from before the first adaptation exactly if there was none. -/
theorem Stands.unadaptedRule_eq_iff (hstands : Stands log c p) :
    c.unadaptedRule p = p.textRule ↔ p.changes = c.changes := by
  refine ⟨fun hrule => ?_, unadaptedRule_of_eq⟩
  by_contra hne
  have hlonger := hstands.longer hne
  rw [hrule] at hlonger
  exact lt_irrefl _ hlonger

/-- Adaptation does not change what stands in the log. -/
theorem Stands.perform (hstands : Stands log c p) (hop : op.keepsRecords = true) :
    Stands log c (p.perform op) := by
  rcases changes_perform hop with ⟨hchanges, hrule⟩ | ⟨r, hchanges, hprevious, hlonger⟩
  · exact hstands.congr hchanges hrule
  · obtain ⟨new, hnew⟩ := hstands.grown
    have hsame : c.unadaptedRule (p.perform op) = c.unadaptedRule p := by
      unfold unadaptedRule
      rw [hchanges, ← hnew, List.append_assoc, List.drop_left, List.drop_left]
      cases new with
      | nil => exact hprevious
      | cons => rfl
    refine ⟨?_, ?_, fun _ => ?_⟩
    · rw [hchanges]
      exact hstands.grown.trans (List.prefix_append ..)
    · rw [hsame]
      exact hstands.restores
    · rw [hsame]
      by_cases hnone : p.changes = c.changes
      · rw [unadaptedRule_of_eq hnone]
        exact hlonger
      · exact (hstands.longer hnone).trans hlonger

/-- The entry of an improvement is restored if the pattern never adapted, and else passed over. -/
theorem Stands.improvePattern (hstands : Stands log c p) (known : Insights) (now : Instant) :
    Stands (log ++ (improvePattern known now p).2.toList) c (improvePattern known now p).1 := by
  unfold LearningState.improvePattern
  rcases p.improve_cases (known.variationsOf p.name) with hsame | ⟨q, hother, hrule, _, hmode⟩
  · rw [hsame]
    simpa using hstands
  · rw [hother]
    have hlonger := RuleMerging.length_lt_of_improved? (improved?_of_improve hother)
    have hchanges : q.changes = p.changes := by
      unfold changes records
      rw [hmode]
    by_cases hnone : p.changes = c.changes
    · have hlog := hstands.restores
      rw [unadaptedRule_of_eq hnone] at hlog
      exact .of_restores (hchanges.trans hnone)
        (hlog.snoc_install (i := .ofRules p.textRule q.textRule now) rfl hrule)
    · have hshorter := hstands.longer hnone
      have hsame : c.unadaptedRule q = c.unadaptedRule p := by
        obtain ⟨new, hnew⟩ := hstands.grown
        unfold unadaptedRule
        rw [hchanges, ← hnew, List.drop_left]
        cases new with
        | nil => exact absurd (by rw [← hnew, List.append_nil]) hnone
        | cons => rfl
      refine ⟨hchanges.symm ▸ hstands.grown, ?_, fun _ => ?_⟩
      · rw [hsame]
        refine hstands.restores.snoc_skip fun heq => ?_
        have hequal : p.textRule = c.unadaptedRule p := heq
        rw [hequal] at hshorter
        exact lt_irrefl _ hshorter
      · rw [hsame]
        exact hshorter.trans hlonger

/-- A log is restored for a pattern that has not adapted, and then stands for it. -/
theorem Stands.restore (hstands : Stands [] c p) (hsame : p.changes = c.changes) {last : String}
    (hlog : Restores c.textRule log last) : Stands log c (Learner.restore p log) := by
  have hrule : p.textRule = c.textRule := by
    have hnone := hstands.restores
    rw [unadaptedRule_of_eq hsame] at hnone
    exact hnone.eq_of_nil
  obtain ⟨htext, _, hmode⟩ := hlog.restore hrule
  refine .of_restores ?_ (htext ▸ hlog)
  unfold changes records at hsame ⊢
  rw [hmode, hsame]

end Pattern

/-! ### A learner at work -/

namespace LearningState

open Pattern

variable {catalog : List Pattern} {name : String} {sound : Storage → Prop} {fit : Insights → Prop}
  {logs : Logs} {s t : LearningState} {h : StoreHandle}

/-- The pattern has the name of the one in the catalog, and if it is the one that is watched, the log
stands for it. -/
def Watched (name : String) (log : List Improvement) (c p : Pattern) : Prop :=
  p.name = c.name ∧ (c.name = name → Stands log c p)

/-- The log at hand stands for the pattern that is watched. -/
def Watches (catalog : List Pattern) (name : String) (s : LearningState) : Prop :=
  List.Forall₂ (fun c => Watched name (s.learner.insights.improvementsOf c.name) c) catalog
    s.learner.patterns

theorem Watched.perform {log : List Improvement} {c p : Pattern} (hwatched : Watched name log c p)
    (op : PatternOperation) (hop : op.keepsRecords = true) :
    Watched name log c (p.perform op) :=
  ⟨(name_perform p op).trans hwatched.1, fun hname => (hwatched.2 hname).perform hop⟩

theorem Watched.matchPattern {log : List Improvement} {c p : Pattern}
    (hwatched : Watched name log c p) (file : SourceFile) (context : MatchContext)
    (time : MatchTime) :
    Watched name log c (ProjectLearning.matchPattern p file context time).pattern := by
  unfold ProjectLearning.matchPattern
  split
  · exact hwatched.perform (.search file.content (some context) time) rfl
  · exact hwatched

theorem Watches.congr (hwatches : Watches catalog name s)
    (hpatterns : t.learner.patterns = s.learner.patterns)
    (hlogs : t.learner.insights.improvementsOf = s.learner.insights.improvementsOf) :
    Watches catalog name t := by
  unfold Watches
  rw [hpatterns, hlogs]
  exact hwatches

theorem Watches.of_quiet (hwatches : Watches catalog name s) (hbegun : s.learner.initialized = true)
    (hquiet : Quiet s t) : Watches catalog name t := by
  have hoffer : ∀ c p vs, Watched name (s.learner.insights.improvementsOf c.name) c p →
      Watched name (s.learner.insights.improvementsOf c.name) c (p.offer vs) :=
    fun c p vs hp => hp.perform (.offer vs) rfl
  have hlogs := hquiet.improvementsOf hbegun
  unfold Watches
  rw [hlogs]
  cases hquiet with
  | search hsearch =>
      cases hsearch with
      | attend => exact hwatches
      | apply index p file context hp =>
          exact forall₂_set hwatches hp fun c hc => hc.matchPattern file context s.time
  | begin =>
      rw [begin_of_initialized hbegun]
      exact hwatches
  | note project files found => exact forall₂_offerKnown hoffer hwatches
  | merge variations => exact forall₂_mergeAll hoffer hwatches variations
  | stamp => exact hwatches
  | tick time => exact hwatches

theorem Watches.of_move (hnames : (catalog.map Pattern.name).Nodup)
    (hwatches : Watches catalog name s) (hbegun : s.learner.initialized = true)
    (hmove : Move s t) : Watches catalog name t := by
  cases hmove with
  | quiet hquiet => exact hwatches.of_quiet hbegun hquiet
  | improve names =>
      obtain ⟨observers, metrics, himproved⟩ := improved_eq s names
      have hall := forall₂_improvePatterns (R := fun log => Watched name log)
        s.learner.insights s.now (fun hp => hp.1)
        (fun hp => ⟨(name_improvePattern ..).trans hp.1, fun hname => (hp.2 hname).improvePattern ..⟩)
        hnames hwatches names
      unfold Watches
      rw [himproved]
      refine hall.imp fun c p hp => ?_
      have hlog := improvementsOf_logged s.learner.insights
        (improvePatterns s.learner.insights s.now names s.learner.patterns).2 c.name
      rw [← hlog] at hp
      exact hp

theorem Watches.of_moves (hnames : (catalog.map Pattern.name).Nodup)
    (hwatches : Watches catalog name s) (hbegun : s.learner.initialized = true)
    (hmoves : Moves s t) : Watches catalog name t := by
  induction hmoves with
  | refl => exact hwatches
  | tail hfirst hlast ih => exact ih.of_move hnames ((frame_of_moves hfirst).begun hbegun) hlast

theorem forall₂_and {R S : Pattern → Pattern → Prop} {patterns : List Pattern}
    (hfirst : List.Forall₂ R catalog patterns) (hsecond : List.Forall₂ S catalog patterns) :
    List.Forall₂ (fun c p => R c p ∧ S c p) catalog patterns := by
  induction hfirst with
  | nil => exact .nil
  | cons hhere _ ih =>
      cases hsecond with
      | cons hthere hrest => exact .cons ⟨hhere, hthere⟩ (ih hrest)

/-- Where names differ, each pattern is found by the name of the one in the catalog. -/
theorem forall₂_pattern? (hnames : (catalog.map Pattern.name).Nodup) {l : Learner}
    (hall : List.Forall₂ (fun c p : Pattern => p.name = c.name) catalog l.patterns) :
    List.Forall₂ (fun c p => l.pattern? c.name = some p) catalog l.patterns := by
  unfold Learner.pattern?
  generalize l.patterns = patterns at hall
  induction hall with
  | nil => exact .nil
  | @cons c p catalog patterns hfirst _ ih =>
      obtain ⟨hother, hnames⟩ := List.nodup_cons.mp hnames
      have hdiffer : ∀ d ∈ catalog, c.name ≠ d.name :=
        fun d hd heq => hother (heq ▸ List.mem_map_of_mem hd)
      refine .cons (by simp [hfirst]) ?_
      refine ((List.forall₂_and_left _ _).mpr ⟨hdiffer, ih hnames⟩).imp ?_
      rintro d q ⟨hne, hq⟩
      rwa [List.find?_cons_of_neg (by simpa [hfirst] using hne)]

/-- Adaptation has not changed the rule of the pattern since it came from the catalog. -/
def Unadapted (s : LearningState) (c : Pattern) : Prop :=
  ∀ p, s.learner.pattern? c.name = some p → p.changes = c.changes

/-- A learner that begins restores the log of the store, and then this log stands. -/
theorem Watches.begin (hnames : (catalog.map Pattern.name).Nodup)
    (hwatches : Watches catalog name s) (hsteady : Steady sound s)
    (hheld : s.learner.store.HoldsLogs logs s.storage) (hbefore : s.learner.initialized = false)
    (hstart : ∀ c ∈ catalog, c.name = name →
      Unadapted s c ∧ ∃ last, Restores c.textRule (logs name) last) :
    Watches catalog name s.begin := by
  have hloaded := improvementsOf_loaded hsteady hheld hbefore
  have hblank := (hsteady.blank hbefore).improvements
  have hfound := forall₂_pattern? hnames (hwatches.imp fun _ _ hp => hp.1)
  unfold Watches
  rw [patterns_begin hbefore, insights_begin hbefore, List.forall₂_map_right_iff]
  refine ((List.forall₂_and_left _ _).mpr ⟨hstart, forall₂_and hwatches hfound⟩).imp ?_
  rintro c p ⟨hc, ⟨hname, hstands⟩, hp⟩
  refine Watched.perform ⟨?_, fun hhere => ?_⟩ (.offer _) rfl
  · exact (name_perform p (.restore s.loaded)).trans hname
  · obtain ⟨hsame, last, hlog⟩ := hc hhere
    have hnone := hstands hhere
    rw [hblank] at hnone
    rw [hloaded, hname, hhere]
    exact hnone.restore (hsame p hp) hlog

/-! ### The store of a learner at work -/

/-- The store holds some logs, and they are the logs at hand once the learner has begun. -/
structure Agreed (sound : Storage → Prop) (logs : Logs) (s : LearningState) : Prop where
  steady : Steady sound s
  held : s.learner.store.HoldsLogs logs s.storage
  inStep : InStep logs s

theorem initialized_perform {op : LearnerOperation} (hop : op ≠ .reset)
    (hbegun : s.learner.initialized = true) : (s.perform op).learner.initialized = true := by
  obtain ⟨t, hmoves, ⟨_, hend⟩ | ⟨_, hsaved⟩ | ⟨_, _, files, hwritten⟩⟩ := perform_cases s hop
  · exact hend ▸ (frame_of_moves hmoves).begun hbegun
  · exact hsaved ▸ (frame_of_moves hmoves).begun hbegun
  · exact hwritten ▸ (frame_of_moves hmoves).begun hbegun

/-- Every operation saves the logs it changes.  Nothing is saved before the learner has begun. -/
theorem Agreed.perform (hworks : s.learner.store.Works sound fit) (hagreed : Agreed sound logs s)
    {op : LearnerOperation} (hsuits : op.Suits sound fit s) (htimely : ¬ IsPremature s op) :
    ∃ later, Agreed sound later (s.perform op) ∧
      ((s.perform op).learner.initialized = false → later = logs) := by
  have hsteady := hagreed.steady.perform hworks hsuits
  obtain ⟨t, hmoves, ⟨hquiet, hend⟩ | ⟨hready, hsaved⟩ | ⟨hquiet, hwrites, files, hwritten⟩⟩ :=
    perform_cases s hsuits.keeps
  · have hframe := frame_of_moves hmoves
    have hinstep := hagreed.inStep.of_quietMoves hagreed.steady hagreed.held hquiet
    rw [hend] at hsteady ⊢
    refine ⟨logs, ⟨hsteady, ?_, hinstep⟩, fun _ => rfl⟩
    rw [hframe.store, hframe.storage]
    exact hagreed.held
  · have hfit := hsuits.fit
    have hframe := frame_of_moves hmoves
    have hbegun : t.learner.initialized = true := by
      rcases hready with hbegun | hat
      · exact hbegun
      · apply hframe.begun
        by_contra hnot
        exact htimely ⟨hat, by simpa using hnot⟩
    rw [hsaved] at hfit hsteady ⊢
    rw [← hframe.store] at hworks
    refine ⟨t.learner.insights.improvementsOf, ⟨hsteady, fun now => ?_, fun _ => rfl⟩, fun hnot => ?_⟩
    · obtain ⟨known, hload, hsame⟩ :=
        hworks.load_save (hagreed.steady.of_moves hmoves).sound hfit now
      exact Or.inr ⟨known, hload, funext hsame.improvements⟩
    · exact absurd hnot (by simp [LearningState.store, hbegun])
  · have hframe := frame_of_moves hmoves
    have hinstep := hagreed.inStep.of_quietMoves hagreed.steady hagreed.held hquiet
    have hsame := (hsuits.elsewhere hwrites).2
    rw [hwritten] at hsteady hsame ⊢
    refine ⟨logs, ⟨hsteady, fun now => ?_, hinstep⟩, fun _ => rfl⟩
    rw [hframe.store, hsame]
    exact hagreed.held now

/-! ### One life -/

theorem Watches.perform_of_initialized (hnames : (catalog.map Pattern.name).Nodup)
    (hwatches : Watches catalog name s) (hbegun : s.learner.initialized = true)
    {op : LearnerOperation} (hop : op ≠ .reset) : Watches catalog name (s.perform op) := by
  obtain ⟨t, hmoves, ⟨_, hend⟩ | ⟨_, hsaved⟩ | ⟨_, _, files, hwritten⟩⟩ := perform_cases s hop
  · exact hend ▸ hwatches.of_moves hnames hbegun hmoves
  · rw [hsaved]
    exact (hwatches.of_moves hnames hbegun hmoves).congr rfl rfl
  · rw [hwritten]
    exact (hwatches.of_moves hnames hbegun hmoves).congr rfl rfl

/-- Before it has begun, the learner has the log of the catalog, which is empty; then it has the log
of the store. -/
theorem Watches.perform (hnames : (catalog.map Pattern.name).Nodup)
    (hwatches : Watches catalog name s) (hsteady : Steady sound s)
    (hheld : s.learner.initialized = false → s.learner.store.HoldsLogs logs s.storage)
    (hstart : s.learner.initialized = false → ∀ c ∈ catalog, c.name = name →
      Unadapted s c ∧ ∃ last, Restores c.textRule (logs name) last)
    {op : LearnerOperation} (hop : op ≠ .reset) : Watches catalog name (s.perform op) := by
  by_cases hbegun : s.learner.initialized = true
  · exact hwatches.perform_of_initialized hnames hbegun hop
  · have hbefore : s.learner.initialized = false := by simpa using hbegun
    rcases perform_begin_cases s hop with ⟨later, hlater, hsame⟩ | ⟨saved, hsame⟩
    · rw [hsame]
      exact (hwatches.begin hnames hsteady (hheld hbefore) hbefore
        (hstart hbefore)).perform_of_initialized hnames (initialized_begin s) hlater
    · refine hwatches.congr ?_ ?_
      · rw [hsame]
      · rw [hsame]
        rfl

theorem Watches.use (hwatches : Watches catalog name s) (index : Nat) {op : PatternOperation}
    (hop : op.keepsRecords = true) : Watches catalog name (s.use index op) := by
  unfold LearningState.use
  split
  · exact hwatches
  · next p hp => exact forall₂_set hwatches hp fun c hc => hc.perform op hop

end LearningState

/-- A step of one learner, or a use of its patterns that installs nothing. -/
def LifeStep.IsWork : LifeStep → Prop
  | operate _ => True
  | use _ op => op.keepsRecords = true
  | restart .. => False

namespace LearningState

open Pattern

variable {catalog : List Pattern} {name : String} {sound : Storage → Prop} {fit : Insights → Prop}
  {logs : Logs} {s t : LearningState} {h : StoreHandle}

/-- The state of a learner on its store: until it has begun the store holds the logs from before. -/
structure AtWork (catalog : List Pattern) (name : String) (sound : Storage → Prop)
    (h : StoreHandle) (logs : Logs) (s : LearningState) : Prop where
  store : s.learner.store = h
  watches : Watches catalog name s
  agreed : ∃ later, Agreed sound later s ∧ (s.learner.initialized = false → later = logs)

theorem AtWork.undergo (hnames : (catalog.map Pattern.name).Nodup) (hworks : h.Works sound fit)
    (hat : AtWork catalog name sound h logs s) {step : LifeStep} (hwork : step.IsWork)
    (hsafe : step.IsSafe sound fit s)
    (hstart : s.learner.initialized = false → ∀ c ∈ catalog, c.name = name →
      Unadapted s c ∧ ∃ last, Restores c.textRule (logs name) last) :
    AtWork catalog name sound h logs (s.undergo step) := by
  obtain ⟨rfl, hwatches, later, hagreed, hlater⟩ := hat
  refine ⟨store_undergo s step, ?_, ?_⟩
  · cases step with
    | operate op =>
        refine hwatches.perform hnames hagreed.steady (fun hbefore => ?_) hstart
          (hsafe op rfl).1.keeps
        rw [← hlater hbefore]
        exact hagreed.held
    | use index op => exact hwatches.use index hwork
    | restart => exact hwork.elim
  · cases step with
    | operate op =>
        obtain ⟨hsuits, htimely⟩ := hsafe op rfl
        obtain ⟨last, hlast, hsame⟩ := hagreed.perform hworks hsuits htimely
        refine ⟨last, hlast, fun hnot => (hsame hnot).trans (hlater ?_)⟩
        by_contra hbegun
        have hstill := initialized_perform hsuits.keeps (by simpa using hbegun)
        simp only [LearningState.undergo] at hnot
        rw [hstill] at hnot
        cases hnot
    | use index op =>
        obtain ⟨observers, huse⟩ := use_eq s index op
        refine ⟨later, ?_, ?_⟩
        · simp only [LearningState.undergo]
          rw [huse]
          exact ⟨⟨hagreed.steady.sound, hagreed.steady.blank⟩, hagreed.held, hagreed.inStep⟩
        · simp only [LearningState.undergo]
          rw [huse]
          exact hlater
    | restart => exact hwork.elim

theorem AtWork.of_fresh {settings : LearnerSettings} {cutter : Option BlockCutter}
    {announces : Bool} {now : Instant}
    (hfresh : s.learner = Learner.fresh catalog h settings cutter announces now)
    (hsound : sound s.storage) (hheld : h.HoldsLogs logs s.storage) :
    AtWork catalog name sound h logs s := by
  refine ⟨?_, ?_, logs, ⟨.of_fresh hfresh hsound, ?_, ?_⟩, fun _ => rfl⟩
  · rw [hfresh]
    rfl
  · unfold Watches
    rw [hfresh]
    refine List.forall₂_same.mpr fun c _ => ⟨rfl, fun _ => ?_⟩
    exact .of_restores rfl (.nil _)
  · rw [hfresh]
    exact hheld
  · intro hbegun
    rw [hfresh] at hbegun
    cases hbegun

theorem AtWork.undergoAll (hnames : (catalog.map Pattern.name).Nodup) (hworks : h.Works sound fit)
    (hat : AtWork catalog name sound h logs s) {steps : List LifeStep}
    (hwork : ∀ step ∈ steps, step.IsWork)
    (hsafe : ∀ done step rest, steps = done ++ step :: rest →
      step.IsSafe sound fit (s.undergoAll done))
    (hstart : ∀ done rest, steps = done ++ rest → (s.undergoAll done).learner.initialized = false →
      ∀ c ∈ catalog, c.name = name →
        Unadapted (s.undergoAll done) c ∧ ∃ last, Restores c.textRule (logs name) last) :
    AtWork catalog name sound h logs (s.undergoAll steps) := by
  have hstep : ∀ (u : LearningState) (step : LifeStep), AtWork catalog name sound h logs u →
      (step.IsWork ∧ step.IsSafe sound fit u ∧ (u.learner.initialized = false →
        ∀ c ∈ catalog, c.name = name → Unadapted u c ∧ ∃ last, Restores c.textRule (logs name) last)) →
      AtWork catalog name sound h logs (u.undergo step) :=
    fun u step hu ⟨hwork, hsafe, hstart⟩ => hu.undergo hnames hworks hwork hsafe hstart
  refine forall_foldl hstep hat (fun done step rest hrun => ⟨?_, hsafe done step rest hrun,
    hstart done (step :: rest) hrun⟩) steps [] (List.append_nil steps).symm
  exact hwork step (hrun ▸ List.mem_append_right _ List.mem_cons_self)

/-- The pattern of the name as the next learner of the catalog has it once it has begun. -/
theorem AtWork.pattern?_restarted (hnames : (catalog.map Pattern.name).Nodup)
    (hat : AtWork catalog name sound h logs s) (hbegun : s.learner.initialized = true)
    (settings : LearnerSettings) (cutter : Option BlockCutter) (announces : Bool)
    {c : Pattern} (hc : c ∈ catalog) (hname : c.name = name) :
    ∃ p q, s.learner.pattern? name = some p ∧ Stands (s.learner.insights.improvementsOf name) c p ∧
      (s.undergo (.restart catalog settings cutter announces)).begin.learner.pattern? name = some q ∧
        q.textRule = c.unadaptedRule p := by
  obtain ⟨_, hwatches, later, hagreed, _⟩ := hat
  have hfound := forall₂_pattern? hnames (hwatches.imp fun _ _ hp => hp.1)
  obtain ⟨p, ⟨_, hstands⟩, hp⟩ := exists_of_mem_left (forall₂_and hwatches hfound) hc
  have hstands := hstands hname
  rw [hname] at hp hstands
  -- the next learner loads the log that is at hand here
  let next := s.undergo (.restart catalog settings cutter announces)
  have hsteady : Steady sound next := ⟨hagreed.steady.sound, fun _ => isBlank_empty _⟩
  have hloaded := improvementsOf_loaded (s := next) hsteady hagreed.held rfl
  rw [← hagreed.inStep hbegun] at hloaded
  have hall : List.Forall₂ (fun c q : Pattern => q.name = c.name) catalog
      next.begin.learner.patterns := by
    rw [patterns_begin rfl, List.forall₂_map_right_iff]
    refine List.forall₂_same.mpr fun d _ => ?_
    exact (name_perform _ (.offer _)).trans (name_perform d (.restore next.loaded))
  have hnext := forall₂_pattern? hnames hall
  rw [patterns_begin rfl, List.forall₂_map_right_iff] at hnext
  have hq := (List.forall₂_same (l := catalog)).mp hnext c hc
  rw [hloaded, hname] at hq
  obtain ⟨hrule, _⟩ := hstands.restores.restore (p := c) rfl
  exact ⟨p, _, hp, hstands, hq, (textRule_perform _ (.offer _)).trans hrule⟩

/-- In one life of a learner, in which nothing is installed from outside and the pattern did not adapt
before the learner had begun, the next learner of the catalog begins with the rule that the pattern
had before it first adapted.  This is the rule in place exactly if it never adapted. -/
theorem textRule_restarted_eq_iff {h : StoreHandle} (hworks : h.Works sound fit)
    {catalog : List Pattern} (hnames : (catalog.map Pattern.name).Nodup)
    {settings : LearnerSettings} {cutter : Option BlockCutter} {announces : Bool} {now : Instant}
    (hfresh : s.learner = Learner.fresh catalog h settings cutter announces now)
    (hsound : sound s.storage) (hheld : h.HoldsLogs logs s.storage)
    {steps : List LifeStep} (hwork : ∀ step ∈ steps, step.IsWork)
    (hsafe : ∀ done step rest, steps = done ++ step :: rest →
      step.IsSafe sound fit (s.undergoAll done))
    (hbegun : (s.undergoAll steps).learner.initialized = true)
    {c : Pattern} (hc : c ∈ catalog) (hlog : ∃ last, Restores c.textRule (logs c.name) last)
    (hearly : ∀ done rest, steps = done ++ rest → (s.undergoAll done).learner.initialized = false →
      Unadapted (s.undergoAll done) c) :
    let next := (s.undergoAll steps).undergo (.restart catalog settings cutter announces)
    ∃ p q, (s.undergoAll steps).learner.pattern? c.name = some p ∧
      next.begin.learner.pattern? c.name = some q ∧ q.textRule = c.unadaptedRule p ∧
        (q.textRule = p.textRule ↔ p.changes = c.changes) := by
  have hstart : ∀ d ∈ catalog, d.name = c.name → d = c := by
    intro d hd heq
    exact List.inj_on_of_nodup_map hnames hd hc heq
  have hfirst : AtWork catalog c.name sound h logs s := .of_fresh hfresh hsound hheld
  have hat := hfirst.undergoAll hnames hworks hwork hsafe fun done rest hrun hbefore d hd heq => by
      rw [hstart d hd heq]
      exact ⟨hearly done rest hrun hbefore, hlog⟩
  obtain ⟨p, q, hp, hstands, hq, hrule⟩ :=
    hat.pattern?_restarted hnames hbegun settings cutter announces hc rfl
  refine ⟨p, q, hp, hq, hrule, ?_⟩
  rw [hrule]
  exact hstands.unadaptedRule_eq_iff

/-! ### An improvement on top of an adaptation -/

def letterPattern : Pattern :=
  .adaptive
    { definition := .ofRule "w" "z"
      engine := .none
      body := .textual (.ofCore "z" (.set ⟨[(122, 122)]⟩))
      cutter := none
      maxMatches := RulePattern.standardMaxMatches
      metrics := .empty ⟨0, 0⟩
      cache := none }
    .standard

/-- A learner of that pattern whose store holds three variations for it. -/
def letterLearner : LearningState :=
  inMemory [letterPattern]
    (some ((Insights.empty ⟨0, 0⟩).addVariations "w" ["a", "bb", "c"]).1)

/-- The rule becomes `(?:z|bb)` by an improvement, and then `(?:(?:z|bb)|a)` by adaptation. -/
def letterSteps : List LifeStep :=
  [.operate (.improve none), .use 0 (.adapt (.ofFile "f.txt" "text" .custom) ⟨0, 0⟩)]

def letterRestart : LifeStep := .restart [letterPattern] ⟨⟨0, 0, 0⟩, 1, 1, false⟩ none false

theorem isWork_of_mem_letterSteps :
    ∀ step ∈ letterSteps ++ [.operate (.improve none)], step.IsWork := by
  intro step hstep
  simp only [letterSteps, List.cons_append, List.nil_append, List.mem_cons, List.not_mem_nil,
    or_false] at hstep
  rcases hstep with rfl | rfl | rfl
  · exact trivial
  · exact rfl
  · exact trivial

theorem timely_of_mem_letterSteps :
    ∀ op, .operate op ∈ letterSteps ++ [.operate (.improve none)] →
      op ≠ .reset ∧ op.savesAtOnce = false := by
  intro op hop
  simp only [letterSteps, List.cons_append, List.nil_append, List.mem_cons, List.not_mem_nil,
    LifeStep.operate.injEq, reduceCtorEq, false_or, or_false, or_self] at hop
  rw [hop]
  exact ⟨nofun, rfl⟩

/-- The rules before the last improvement, after it, and after the restart that follows. -/
theorem textRules_letterSteps :
    let s := letterLearner.undergoAll letterSteps
    let t := s.undergo (.operate (.improve none))
    (s.begin.learner.pattern? "w").map Pattern.textRule = some "(?:(?:z|bb)|a)" ∧
      (t.learner.pattern? "w").map Pattern.textRule = some "(?:(?:(?:z|bb)|a)|c)" ∧
      ((t.undergo letterRestart).begin.learner.pattern? "w").map Pattern.textRule =
        some "(?:z|bb)" ∧
      t.learner.initialized = true := by decide +kernel

/-- The learner begins with the first improvement, and no pattern has adapted until then. -/
theorem unadapted_of_unbegun_letterSteps :
    ∀ done rest, letterSteps ++ [.operate (.improve none)] = done ++ rest →
      (letterLearner.undergoAll done).learner.initialized = false →
        Unadapted (letterLearner.undergoAll done) letterPattern := by
  have hbegun : ∀ n < 4, 0 < n → (letterLearner.undergoAll
      ((letterSteps ++ [LifeStep.operate (.improve none)]).take n)).learner.initialized = true := by
    decide +kernel
  intro done rest hsteps hbefore p hp
  cases done with
  | nil =>
      obtain rfl : letterPattern = p := Option.some.inj hp
      rfl
  | cons step done =>
      have hsum : 3 = (step :: done).length + rest.length := by
        rw [← List.length_append, ← hsteps]
        rfl
      have hlater := hbegun (step :: done).length (by omega) Nat.succ_pos'
      rw [hsteps, List.take_left, hbefore] at hlater
      cases hlater

theorem textRule_restarted_eq_iff_letter :
    let t := letterLearner.undergoAll (letterSteps ++ [.operate (.improve none)])
    let next := t.undergo letterRestart
    (t.learner.pattern? "w").map Pattern.textRule = some "(?:(?:(?:z|bb)|a)|c)" ∧
      (next.begin.learner.pattern? "w").map Pattern.textRule = some "(?:z|bb)" ∧
      ∃ p q, t.learner.pattern? "w" = some p ∧ next.begin.learner.pattern? "w" = some q ∧
        q.textRule = letterPattern.unadaptedRule p ∧
          (q.textRule = p.textRule ↔ p.changes = letterPattern.changes) := by
  have hfresh : letterLearner.learner =
      .fresh [letterPattern] .memory ⟨⟨0, 0, 0⟩, 1, 1, false⟩ none false ⟨0, 0⟩ := rfl
  have hnames : ([letterPattern].map Pattern.name).Nodup := List.nodup_singleton _
  have hheld : StoreHandle.memory.HoldsLogs (fun _ => []) letterLearner.storage :=
    fun _ => Or.inr ⟨_, rfl, rfl⟩
  have hsafe := isSafe_of_memory (s := letterLearner) rfl timely_of_mem_letterSteps
  obtain ⟨_, hrule, hnext, hbegun⟩ := textRules_letterSteps
  have hiff := textRule_restarted_eq_iff StoreHandle.memory_works hnames hfresh trivial hheld
    isWork_of_mem_letterSteps hsafe hbegun (List.mem_singleton_self letterPattern)
    ⟨letterPattern.textRule, .nil _⟩ unadapted_of_unbegun_letterSteps
  exact ⟨hrule, hnext, hiff⟩

/-- An improvement is the last change of the rule, and is saved; but the rule that it replaced came
from adaptation, so the next learner does not restore it. -/
theorem improved_after_adapting_not_restored :
    ¬ ∀ (catalog : List Pattern) (kept : Option Insights) (steps : List LifeStep)
        (names : Option (List String)),
      (catalog.map Pattern.name).Nodup → (∀ c ∈ catalog, c.mode.adaptation?.isSome = true) →
      (∀ step ∈ steps ++ [.operate (.improve names)], step.IsWork) →
      (∀ op, .operate op ∈ steps ++ [.operate (.improve names)] →
        op ≠ .reset ∧ op.savesAtOnce = false) →
      let s := (inMemory catalog kept).undergoAll steps
      let t := s.undergo (.operate (.improve names))
      let next := t.undergo (.restart catalog ⟨⟨0, 0, 0⟩, 1, 1, false⟩ none false)
      ∀ name before rule, (s.begin.learner.pattern? name).map Pattern.textRule = some before →
        (t.learner.pattern? name).map Pattern.textRule = some rule → rule ≠ before →
          (next.begin.learner.pattern? name).map Pattern.textRule = some rule := by
  intro hrestored
  have hnames : ([letterPattern].map Pattern.name).Nodup := List.nodup_singleton _
  have hcatalog : ∀ c ∈ [letterPattern], c.mode.adaptation?.isSome = true :=
    List.forall_mem_singleton.mpr rfl
  obtain ⟨hbefore, hrule, hnext, _⟩ := textRules_letterSteps
  have hlast := hrestored [letterPattern] _ letterSteps none hnames hcatalog
    isWork_of_mem_letterSteps timely_of_mem_letterSteps "w" _ _ hbefore hrule (by decide)
  exact absurd (hnext.symm.trans hlast) (by decide)

end LearningState
end AdaptiveRules
