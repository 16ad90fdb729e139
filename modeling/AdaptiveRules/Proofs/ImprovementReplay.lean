import AdaptiveRules.Proofs.KnowledgeRetention
import AdaptiveRules.Proofs.RuleInstallation

/-!
# Improvements that survive a restart

Learners of one catalog follow each other on one store.  Their patterns have different names and
change their text rules by improvements only.  For each pattern the log in the insights leads from the
rule of the catalog to the rule in place, and the log in the store is that of the learner, as soon as
it has begun.  So the learner that comes next restores the rules that the last one had.
-/

namespace AdaptiveRules

open Insights LearningState

abbrev Logs := String → List Improvement

/-- A pattern whose rule is what the log of its name makes of the rule in the catalog. -/
structure Follows (logs : Logs) (c p : Pattern) : Prop where
  name : p.name = c.name
  fixed : p.IsFixed
  replays : Replays c.textRule (logs c.name) p.textRule

theorem Follows.of_keepsRule {logs : Logs} {c p q : Pattern} (hfollows : Follows logs c p)
    (hkeeps : p.KeepsRule q) : Follows logs c q :=
  ⟨hkeeps.name.trans hfollows.name, hkeeps.fixed hfollows.fixed,
    hkeeps.textRule ▸ hfollows.replays⟩

theorem Follows.congr {logs others : Logs} {c p : Pattern} (hfollows : Follows logs c p)
    (hsame : others c.name = logs c.name) : Follows others c p :=
  ⟨hfollows.name, hfollows.fixed, hsame ▸ hfollows.replays⟩

/-- The logs that a store holds; all are empty if it holds nothing. -/
def StoreHandle.HoldsLogs (h : StoreHandle) (logs : Logs) (storage : Storage) : Prop :=
  ∀ now, h.load now storage = .ok none ∧ (∀ name, logs name = []) ∨
    ∃ known, h.load now storage = .ok (some known) ∧ known.improvementsOf = logs

/-! ### What keeps the logs -/

namespace Insights

theorem improvements_addVariation (known : Insights) (pattern v : String) :
    (known.addVariation pattern v).improvements = known.improvements := by
  unfold addVariation
  split <;> rfl

end Insights

namespace LearningState

theorem improvements_addAll (known : Insights) (variations : List (String × List String)) :
    (addAll known variations).improvements = known.improvements :=
  addAll_keeps (P := fun grown => grown.improvements = known.improvements)
    (fun grown pattern v hgrown => (grown.improvements_addVariation pattern v).trans hgrown) rfl
    variations

theorem improvements_addDerived (settings : LearnerSettings) (known : Insights)
    (found : List (String × List String)) :
    (ProjectLearning.addDerived settings known found).1.improvements = known.improvements := by
  rw [addDerived_eq_addAll]
  exact improvements_addAll known _

/-- The log changes only when patterns are improved. -/
theorem Quiet.improvementsOf {s t : LearningState} (hquiet : Quiet s t)
    (hbegun : s.learner.initialized = true) :
    t.learner.insights.improvementsOf = s.learner.insights.improvementsOf := by
  cases hquiet with
  | search hsearch =>
      rw [hsearch.insights_eq]
  | begin => rw [begin_of_initialized hbegun]
  | note project files found =>
      have hderived := improvements_addDerived s.learner.settings
        { s.learner.insights with
          projects := s.learner.insights.projects.insert project
            ⟨files.length, found.map List.length, s.now⟩ }
        found.entries
      funext name
      exact congrArg (fun logs : Dict (List Improvement) => (logs.get? name).getD []) hderived
  | merge variations =>
      unfold merged
      rw [mergeAll_eq]
      funext name
      exact congrArg (fun logs : Dict (List Improvement) => (logs.get? name).getD [])
        (improvements_addAll ..)
  | stamp => rfl
  | tick time => rfl

/-! ### Patterns that follow the catalog -/

variable {catalog : List Pattern} {R : Pattern → Pattern → Prop}

theorem forall₂_set {patterns : List Pattern} (hall : List.Forall₂ R catalog patterns) {index : Nat}
    {p q : Pattern} (hp : patterns[index]? = some p) (hq : ∀ c, R c p → R c q) :
    List.Forall₂ R catalog (patterns.set index q) := by
  induction hall generalizing index with
  | nil => exact .nil
  | cons hfirst hrest ih =>
      cases index with
      | zero =>
          obtain rfl : _ = p := by simpa using hp
          exact .cons (hq _ hfirst) hrest
      | succ index => exact .cons hfirst (ih (by simpa using hp))

theorem forall₂_offerKnown (hoffer : ∀ c p vs, R c p → R c (p.offer vs)) {l : Learner}
    (hall : List.Forall₂ R catalog l.patterns) : List.Forall₂ R catalog l.offerKnown.patterns := by
  unfold Learner.offerKnown
  rw [List.forall₂_map_right_iff]
  exact hall.imp fun c p hp => hoffer c p _ hp

theorem forall₂_mergeAll (hoffer : ∀ c p vs, R c p → R c (p.offer vs)) {l : Learner}
    (hall : List.Forall₂ R catalog l.patterns) (variations : List (String × List String)) :
    List.Forall₂ R catalog (mergeAll l variations).1.patterns := by
  induction variations generalizing l with
  | nil => exact hall
  | cons v rest ih =>
      obtain ⟨pattern, vs⟩ := v
      have hfirst : List.Forall₂ R catalog (l.merge pattern vs).1.patterns := by
        simp only [Learner.merge]
        split
        · exact hall
        · exact forall₂_offerKnown hoffer hall
      exact ih hfirst

/-! ### Improved patterns -/

/-- The entries that improved patterns add to the log of a name. -/
def entriesOf (name : String) (outcomes : List (Pattern × Option Improvement)) :
    List Improvement :=
  outcomes.filterMap fun o => if o.1.name = name then o.2 else none

theorem entriesOf_cons (name : String) (o : Pattern × Option Improvement)
    (rest : List (Pattern × Option Improvement)) :
    entriesOf name (o :: rest) =
      (if o.1.name = name then o.2.toList else []) ++ entriesOf name rest := by
  obtain ⟨p, entry⟩ := o
  by_cases hname : p.name = name
  · cases entry <;> simp [entriesOf, hname]
  · simp [entriesOf, hname]

theorem entriesOf_eq_nil {name : String} {outcomes : List (Pattern × Option Improvement)}
    (hothers : ∀ o ∈ outcomes, o.1.name ≠ name) : entriesOf name outcomes = [] := by
  apply List.filterMap_eq_nil_iff.mpr
  intro o ho
  exact if_neg (hothers o ho)

theorem improvementsOf_logged (known : Insights) (outcomes : List (Pattern × Option Improvement))
    (name : String) :
    (logged known outcomes).improvementsOf name =
      known.improvementsOf name ++ entriesOf name outcomes := by
  induction outcomes generalizing known with
  | nil => exact (List.append_nil _).symm
  | cons o rest ih =>
      obtain ⟨p, entry⟩ := o
      rw [entriesOf_cons, ← List.append_assoc]
      cases entry with
      | none =>
          rw [Option.toList_none, ite_self, List.append_nil]
          exact ih known
      | some i =>
          have hadded : (known.addImprovement p.name i).improvementsOf name =
              known.improvementsOf name ++ if p.name = name then [i] else [] := by
            unfold Insights.addImprovement Insights.improvementsOf
            rw [Dict.get?_insert]
            by_cases hname : p.name = name
            · simp [hname]
            · simp [hname, Ne.symm hname]
          rw [Option.toList_some, ← hadded]
          exact ih (known.addImprovement p.name i)

theorem improvePatterns_cons (known : Insights) (now : Instant) (names : Option (List String))
    (p : Pattern) (rest : List Pattern) :
    improvePatterns known now names (p :: rest) =
      if isTarget names p then
        ((improvePattern known now p).1 :: (improvePatterns known now names rest).1,
          improvePattern known now p :: (improvePatterns known now names rest).2)
      else
        (p :: (improvePatterns known now names rest).1,
          (improvePatterns known now names rest).2) := rfl

theorem name_improvePattern (known : Insights) (now : Instant) (p : Pattern) :
    (improvePattern known now p).1.name = p.name := by
  unfold improvePattern
  rcases p.improve_cases (known.variationsOf p.name) with hsame | ⟨q, hother, _, hname, _⟩
  · rw [hsame]
  · rw [hother]
    exact hname

theorem name_mem_of_mem_outcomes {known : Insights} {now : Instant} {names : Option (List String)}
    {patterns : List Pattern} {o : Pattern × Option Improvement}
    (ho : o ∈ (improvePatterns known now names patterns).2) :
    o.1.name ∈ patterns.map Pattern.name := by
  induction patterns with
  | nil => cases ho
  | cons p rest ih =>
      rw [improvePatterns_cons] at ho
      split at ho
      · rcases List.mem_cons.mp ho with rfl | ho
        · rw [name_improvePattern]
          exact List.mem_cons_self
        · exact List.mem_cons_of_mem _ (ih ho)
      · exact List.mem_cons_of_mem _ (ih ho)

theorem follows_improvePattern {logs : Logs} {c p : Pattern} (hfollows : Follows logs c p)
    (known : Insights) (now : Instant) :
    Follows (fun name => logs name ++ (improvePattern known now p).2.toList) c
      (improvePattern known now p).1 := by
  unfold improvePattern
  rcases p.improve_cases (known.variationsOf p.name) with hsame | ⟨q, hother, hrule, hname, hmode⟩
  · rw [hsame]
    refine ⟨hfollows.name, hfollows.fixed, ?_⟩
    simpa using hfollows.replays
  · rw [hother]
    refine ⟨hname.trans hfollows.name, ?_, ?_⟩
    · intro a ha
      exact hfollows.fixed a (by rwa [hmode] at ha)
    · exact hfollows.replays.snoc (i := .ofRules p.textRule q.textRule now) rfl hrule

theorem names_of_forall₂ {patterns : List Pattern}
    (hall : List.Forall₂ (fun c p : Pattern => p.name = c.name) catalog patterns) :
    patterns.map Pattern.name = catalog.map Pattern.name := by
  induction hall with
  | nil => rfl
  | cons hfirst _ ih => rw [List.map_cons, List.map_cons, hfirst, ih]

/-- Where names differ, each pattern that is improved gets one entry in the log of its name.  So what
an improvement with its entry keeps holds of all patterns with their logs. -/
theorem forall₂_improvePatterns {R : List Improvement → Pattern → Pattern → Prop}
    (known : Insights) (now : Instant) (hname : ∀ {log c p}, R log c p → p.name = c.name)
    (hstep : ∀ {log c p}, R log c p →
      R (log ++ (improvePattern known now p).2.toList) c (improvePattern known now p).1)
    {logs : Logs} {patterns : List Pattern} (hnames : (catalog.map Pattern.name).Nodup)
    (hall : List.Forall₂ (fun c p => R (logs c.name) c p) catalog patterns)
    (names : Option (List String)) :
    List.Forall₂
      (fun c p => R (logs c.name ++ entriesOf c.name (improvePatterns known now names patterns).2) c p)
      catalog (improvePatterns known now names patterns).1 := by
  induction hall with
  | nil => exact .nil
  | @cons c p catalog patterns hfirst hrest ih =>
      obtain ⟨hother, hnames⟩ := List.nodup_cons.mp hnames
      have hnone : entriesOf c.name (improvePatterns known now names patterns).2 = [] := by
        apply entriesOf_eq_nil
        intro o ho heq
        have hmem := name_mem_of_mem_outcomes ho
        rw [heq, names_of_forall₂ (hrest.imp fun _ _ => hname)] at hmem
        exact hother hmem
      have hlater := ih hnames
      rw [improvePatterns_cons]
      split
      · have hhere : (improvePattern known now p).1.name = c.name :=
          (name_improvePattern known now p).trans (hname hfirst)
        refine .cons ?_ ?_
        · rw [entriesOf_cons, if_pos hhere, hnone, List.append_nil]
          exact hstep hfirst
        · have hdiffer : ∀ d ∈ catalog, d.name ≠ c.name := by
            intro d hd heq
            exact hother (heq ▸ List.mem_map_of_mem hd)
          refine ((List.forall₂_and_left _ _).mpr ⟨hdiffer, hlater⟩).imp ?_
          rintro d q ⟨hd, hq⟩
          rwa [entriesOf_cons, hhere, if_neg (Ne.symm hd), List.nil_append]
      · refine .cons ?_ hlater
        rwa [hnone, List.append_nil]

theorem follows_improvePatterns {logs : Logs} {patterns : List Pattern}
    (hnames : (catalog.map Pattern.name).Nodup)
    (hall : List.Forall₂ (Follows logs) catalog patterns) (known : Insights) (now : Instant)
    (names : Option (List String)) :
    List.Forall₂
      (Follows fun name => logs name ++ entriesOf name (improvePatterns known now names patterns).2)
      catalog (improvePatterns known now names patterns).1 := by
  have hcopies : List.Forall₂ (fun c p => Follows (fun _ => logs c.name) c p) catalog patterns :=
    hall.imp fun c p hp => hp.congr rfl
  exact (forall₂_improvePatterns (R := fun log => Follows fun _ => log) known now
    (fun hp => hp.name) (fun hp => follows_improvePattern hp known now) hnames hcopies names).imp
      fun c p hp => hp.congr rfl

/-! ### States of a learner on its store -/

variable {sound : Storage → Prop} {fit : Insights → Prop} {logs : Logs} {s t : LearningState}

/-- The patterns follow the log at hand, and the log in the store can be followed as well. -/
structure Chained (catalog : List Pattern) (sound : Storage → Prop) (logs : Logs)
    (s : LearningState) : Prop where
  steady : Steady sound s
  follows : List.Forall₂ (Follows s.learner.insights.improvementsOf) catalog s.learner.patterns
  held : s.learner.store.HoldsLogs logs s.storage
  replayable : ∀ c ∈ catalog, ∃ last, Replays c.textRule (logs c.name) last

/-- A learner that begins takes over the logs of the store. -/
theorem improvementsOf_loaded (hsteady : Steady sound s)
    (hheld : s.learner.store.HoldsLogs logs s.storage) (hbefore : s.learner.initialized = false) :
    s.loaded.improvementsOf = logs := by
  unfold LearningState.loaded
  rcases hheld s.now with ⟨hload, hnone⟩ | ⟨known, hload, hknown⟩
  · rw [hload]
    funext name
    rw [(hsteady.blank hbefore).improvements, hnone]
  · rw [hload]
    exact hknown

theorem Chained.improvementsOf_loaded (hchained : Chained catalog sound logs s)
    (hbefore : s.learner.initialized = false) : s.loaded.improvementsOf = logs :=
  LearningState.improvementsOf_loaded hchained.steady hchained.held hbefore

theorem patterns_begin (hbefore : s.learner.initialized = false) :
    s.begin.learner.patterns = s.learner.patterns.map fun p =>
      (Learner.restore p (s.loaded.improvementsOf p.name)).offer
        (s.loaded.variationsOf (Learner.restore p (s.loaded.improvementsOf p.name)).name) := by
  unfold LearningState.begin
  rw [hbefore]
  exact List.map_map

/-- The learner restores the rules to which the logs lead. -/
theorem Chained.follows_begin (hchained : Chained catalog sound logs s)
    (hbefore : s.learner.initialized = false) :
    List.Forall₂ (Follows s.begin.learner.insights.improvementsOf) catalog
      s.begin.learner.patterns := by
  have hloaded := hchained.improvementsOf_loaded hbefore
  have hblank := (hchained.steady.blank hbefore).improvements
  rw [patterns_begin hbefore, insights_begin hbefore, hloaded, List.forall₂_map_right_iff]
  refine ((List.forall₂_and_left _ _).mpr ⟨hchained.replayable, hchained.follows⟩).imp ?_
  rintro c p ⟨⟨last, hlast⟩, hp⟩
  have hrule : p.textRule = c.textRule := by
    have hnone := hp.replays
    rw [hblank] at hnone
    exact hnone.unique (.nil _)
  rw [← hp.name] at hlast
  obtain ⟨htext, hname, hmode⟩ := restore_of_replays hlast hrule
  refine Follows.of_keepsRule ⟨hname.trans hp.name, ?_, ?_⟩ (Pattern.keepsRule_offer _ _)
  · intro a ha
    exact hp.fixed a (by rwa [hmode] at ha)
  · rw [htext, ← hp.name]
    exact hlast

theorem Quiet.follows (hquiet : Quiet s t) (hchained : Chained catalog sound logs s) :
    List.Forall₂ (Follows t.learner.insights.improvementsOf) catalog t.learner.patterns := by
  have hoffer : ∀ c p vs, Follows s.learner.insights.improvementsOf c p →
      Follows s.learner.insights.improvementsOf c (p.offer vs) :=
    fun c p vs hp => hp.of_keepsRule (p.keepsRule_offer vs)
  have hlogs := hquiet.improvementsOf
  cases hquiet with
  | search hsearch =>
      cases hsearch with
      | attend => exact hchained.follows
      | apply index p file context hp =>
          exact forall₂_set hchained.follows hp fun c hc =>
            hc.of_keepsRule (Pattern.keepsRule_matchPattern hc.fixed file context s.time)
  | begin =>
      by_cases hbegun : s.learner.initialized = true
      · rw [begin_of_initialized hbegun]
        exact hchained.follows
      · exact hchained.follows_begin (by simpa using hbegun)
  | note project files found hbegun =>
      rw [hlogs hbegun]
      exact forall₂_offerKnown hoffer hchained.follows
  | merge variations hbegun =>
      rw [hlogs hbegun]
      exact forall₂_mergeAll hoffer hchained.follows variations
  | stamp => exact hchained.follows
  | tick time => exact hchained.follows

theorem Move.follows (hnames : (catalog.map Pattern.name).Nodup) (hmove : Move s t)
    (hchained : Chained catalog sound logs s) :
    List.Forall₂ (Follows t.learner.insights.improvementsOf) catalog t.learner.patterns := by
  cases hmove with
  | quiet hquiet => exact hquiet.follows hchained
  | improve names hbegun =>
      obtain ⟨observers, metrics, heq⟩ := improved_eq s names
      rw [heq]
      have himproved := follows_improvePatterns hnames hchained.follows s.learner.insights s.now names
      refine himproved.imp fun c p hp => hp.congr ?_
      exact improvementsOf_logged ..

theorem Chained.of_moves (hnames : (catalog.map Pattern.name).Nodup)
    (hchained : Chained catalog sound logs s) (hmoves : Moves s t) :
    Chained catalog sound logs t := by
  induction hmoves with
  | refl => exact hchained
  | tail _ hlast ih =>
      refine ⟨ih.steady.of_moves (.single hlast), hlast.follows hnames ih, ?_, ih.replayable⟩
      rw [hlast.frame.store, hlast.frame.storage]
      exact ih.held

/-- The log at hand is the one in the store. -/
def InStep (logs : Logs) (s : LearningState) : Prop :=
  s.learner.initialized = true → s.learner.insights.improvementsOf = logs

theorem InStep.of_quietMoves (hinstep : InStep logs s) (hsteady : Steady sound s)
    (hheld : s.learner.store.HoldsLogs logs s.storage) (hmoves : QuietMoves s t) :
    InStep logs t := by
  induction hmoves with
  | refl => exact hinstep
  | @tail u t hfirst hlast ih =>
      intro hbegun
      by_cases hbefore : u.learner.initialized = true
      · rw [hlast.improvementsOf hbefore]
        exact ih hbefore
      · have hnot : u.learner.initialized = false := by simpa using hbefore
        have hframe := frame_of_moves (QuietMoves.moves hfirst)
        rw [← hframe.store, ← hframe.storage] at hheld
        rw [Move.eq_begin (.quiet hlast) hnot hbegun, insights_begin hnot]
        exact LearningState.improvementsOf_loaded (hsteady.of_moves (QuietMoves.moves hfirst)) hheld
          hnot

theorem exists_of_mem_left {patterns : List Pattern} (hall : List.Forall₂ R catalog patterns)
    {c : Pattern} (hc : c ∈ catalog) : ∃ p, R c p := by
  induction hall with
  | nil => cases hc
  | cons hfirst _ ih =>
      rcases List.mem_cons.mp hc with rfl | hc
      · exact ⟨_, hfirst⟩
      · exact ih hc

/-- The learner and its store agree about some logs. -/
def Settled (catalog : List Pattern) (sound : Storage → Prop) (s : LearningState) : Prop :=
  ∃ logs, Chained catalog sound logs s ∧ InStep logs s

theorem Settled.perform (hnames : (catalog.map Pattern.name).Nodup)
    (hworks : s.learner.store.Works sound fit) (hsettled : Settled catalog sound s)
    {op : LearnerOperation} (hsuits : op.Suits sound fit s) :
    Settled catalog sound (s.perform op) := by
  obtain ⟨logs, hchained, hinstep⟩ := hsettled
  have hsteady := hchained.steady.perform hworks hsuits
  obtain ⟨t, hmoves, ⟨hquiet, hend⟩ | ⟨_, hsaved⟩ | ⟨hquiet, hwrites, files, hwritten⟩⟩ :=
    perform_cases s hsuits.keeps
  · rw [hend]
    exact ⟨logs, hchained.of_moves hnames hmoves, hinstep.of_quietMoves hchained.steady hchained.held hquiet⟩
  · have hthere := hchained.of_moves hnames hmoves
    have hfit := hsuits.fit
    rw [hsaved] at hfit hsteady ⊢
    rw [← (frame_of_moves hmoves).store] at hworks
    refine ⟨t.learner.insights.improvementsOf, ⟨hsteady, hthere.follows, ?_, ?_⟩, fun _ => rfl⟩
    · intro now
      obtain ⟨known, hload, hsame⟩ := hworks.load_save hthere.steady.sound hfit now
      exact Or.inr ⟨known, hload, funext hsame.improvements⟩
    · intro c hc
      obtain ⟨p, hp⟩ := exists_of_mem_left hthere.follows hc
      exact ⟨p.textRule, hp.replays⟩
  · have hthere := hchained.of_moves hnames hmoves
    have hlogs : InStep logs t := hinstep.of_quietMoves hchained.steady hchained.held hquiet
    have hsame := (hsuits.elsewhere hwrites).2
    rw [hwritten] at hsteady hsame ⊢
    refine ⟨logs, ⟨hsteady, hthere.follows, ?_, hthere.replayable⟩, hlogs⟩
    intro now
    have hload : t.learner.store.load now { t.storage with files } =
        s.learner.store.load now s.storage := by
      rw [(frame_of_moves hmoves).store]
      exact hsame now
    rw [hload]
    exact hchained.held now

end LearningState

/-! ### Restarts -/

inductive LearnerStep
  | operate (op : LearnerOperation)
  | restart

namespace LearningState

/-- Another learner of the catalog takes over the store. -/
def restarted (catalog : List Pattern) (s : LearningState) : LearningState :=
  s.withLearner fun l =>
    Learner.fresh catalog l.store l.settings l.cutter l.announces s.now

def advance (catalog : List Pattern) (s : LearningState) : LearnerStep → LearningState
  | .operate op => s.perform op
  | .restart => s.restarted catalog

def advanceAll (catalog : List Pattern) (s : LearningState) (steps : List LearnerStep) :
    LearningState := steps.foldl (advance catalog) s

def Admits (s : LearningState) (step : LearnerStep) (sound : Storage → Prop)
    (fit : Insights → Prop) : Prop := ∀ op, step = .operate op → op.Suits sound fit s

def textRules (s : LearningState) : List String := s.learner.patterns.map Pattern.textRule

variable {catalog : List Pattern} {sound : Storage → Prop} {fit : Insights → Prop} {logs : Logs}
  {s t : LearningState} {h : StoreHandle}

theorem follows_refl (hfixed : ∀ c ∈ catalog, c.IsFixed) (hlogs : ∀ name, logs name = []) :
    List.Forall₂ (Follows logs) catalog catalog := by
  rw [List.forall₂_same]
  intro c hc
  refine ⟨rfl, hfixed c hc, ?_⟩
  rw [hlogs]
  exact .nil _

theorem Chained.restarted (hfixed : ∀ c ∈ catalog, c.IsFixed)
    (hchained : Chained catalog sound logs s) :
    Chained catalog sound logs (s.restarted catalog) :=
  ⟨⟨hchained.steady.sound, fun _ => isBlank_empty _⟩, follows_refl hfixed fun _ => rfl,
    hchained.held, hchained.replayable⟩

theorem Settled.advance (hnames : (catalog.map Pattern.name).Nodup)
    (hfixed : ∀ c ∈ catalog, c.IsFixed) (hworks : h.Works sound fit) {step : LearnerStep}
    (hsettled : s.learner.store = h ∧ Settled catalog sound s)
    (hadmits : s.Admits step sound fit) :
    (s.advance catalog step).learner.store = h ∧
      Settled catalog sound (s.advance catalog step) := by
  obtain ⟨rfl, hsettled⟩ := hsettled
  cases step with
  | operate op =>
      exact ⟨store_perform s op, hsettled.perform hnames hworks (hadmits op rfl)⟩
  | restart =>
      obtain ⟨logs, hchained, _⟩ := hsettled
      exact ⟨rfl, logs, hchained.restarted hfixed, nofun⟩

theorem Settled.of_fresh (hfixed : ∀ c ∈ catalog, c.IsFixed) {settings : LearnerSettings}
    {cutter : Option BlockCutter} {announces : Bool} {now : Instant}
    (hfresh : s.learner = Learner.fresh catalog h settings cutter announces now)
    (hsound : sound s.storage) (hempty : ∀ now, h.load now s.storage = .ok none) :
    Settled catalog sound s := by
  refine ⟨fun _ => [], ⟨.of_fresh hfresh hsound, ?_, ?_, fun c _ => ⟨c.textRule, .nil _⟩⟩, ?_⟩
  · rw [hfresh]
    exact follows_refl hfixed fun _ => rfl
  · rw [hfresh]
    exact fun later => Or.inl ⟨hempty later, fun _ => rfl⟩
  · rw [InStep, hfresh]
    exact nofun

theorem Settled.advanceAll (hnames : (catalog.map Pattern.name).Nodup)
    (hfixed : ∀ c ∈ catalog, c.IsFixed) (hworks : h.Works sound fit)
    (hsettled : s.learner.store = h ∧ Settled catalog sound s) {steps : List LearnerStep}
    (hadmits : ∀ done step rest, steps = done ++ step :: rest →
      (s.advanceAll catalog done).Admits step sound fit) :
    Settled catalog sound (s.advanceAll catalog steps) := by
  have hstep : ∀ (u : LearningState) (step : LearnerStep),
      u.learner.store = h ∧ Settled catalog sound u → u.Admits step sound fit →
      (u.advance catalog step).learner.store = h ∧
        Settled catalog sound (u.advance catalog step) :=
    fun u step => Settled.advance hnames hfixed hworks
  exact (forall_foldl hstep hsettled hadmits steps [] (List.append_nil steps).symm).2

theorem textRules_eq_of_follows {patterns others : List Pattern}
    (hall : List.Forall₂ (Follows logs) catalog patterns)
    (hothers : List.Forall₂ (Follows logs) catalog others) :
    patterns.map Pattern.textRule = others.map Pattern.textRule := by
  induction hall generalizing others with
  | nil =>
      cases hothers
      rfl
  | cons hfirst _ ih =>
      cases hothers with
      | cons hother hrest =>
          rw [List.map_cons, List.map_cons, hfirst.replays.unique hother.replays, ih hrest]

/-- A learner that begins has the rules to which the logs of the store lead. -/
theorem Chained.follows_of_begin (hchained : Chained catalog sound logs s)
    (hinstep : InStep logs s) :
    List.Forall₂ (Follows logs) catalog s.begin.learner.patterns := by
  by_cases hbegun : s.learner.initialized = true
  · rw [begin_of_initialized hbegun, ← hinstep hbegun]
    exact hchained.follows
  · have hnot : s.learner.initialized = false := by simpa using hbegun
    have hfollows := hchained.follows_begin hnot
    rwa [insights_begin hnot, hchained.improvementsOf_loaded hnot] at hfollows

/-- After a restart a learner begins with the text rules that the one before it has, if that has
begun, and else with those with which it would begin. -/
theorem textRules_begin_restarted (hworks : h.Works sound fit)
    (hnames : (catalog.map Pattern.name).Nodup) (hfixed : ∀ c ∈ catalog, c.IsFixed)
    {settings : LearnerSettings} {cutter : Option BlockCutter} {announces : Bool} {now : Instant}
    (hfresh : s.learner = Learner.fresh catalog h settings cutter announces now)
    (hsound : sound s.storage) (hempty : ∀ now, h.load now s.storage = .ok none)
    {steps : List LearnerStep}
    (hadmits : ∀ done step rest, steps = done ++ step :: rest →
      (s.advanceAll catalog done).Admits step sound fit) :
    ((s.advanceAll catalog steps).restarted catalog).begin.textRules =
        (s.advanceAll catalog steps).begin.textRules ∧
      ((s.advanceAll catalog steps).learner.initialized = true →
        ((s.advanceAll catalog steps).restarted catalog).begin.textRules =
          (s.advanceAll catalog steps).textRules) := by
  have hstart : s.learner.store = h ∧ Settled catalog sound s :=
    ⟨by rw [hfresh]; rfl, .of_fresh hfixed hfresh hsound hempty⟩
  obtain ⟨logs, hchained, hinstep⟩ := Settled.advanceAll hnames hfixed hworks hstart hadmits
  have hsame : ((s.advanceAll catalog steps).restarted catalog).begin.textRules =
      (s.advanceAll catalog steps).begin.textRules :=
    textRules_eq_of_follows ((hchained.restarted hfixed).follows_of_begin nofun)
      (hchained.follows_of_begin hinstep)
  refine ⟨hsame, fun hbegun => ?_⟩
  rw [hsame, begin_of_initialized hbegun]

/-! ### A pattern that takes over a variation -/

def wordPattern : Pattern :=
  .plain
    { definition := .ofRule "w" "(word)"
      engine := .none
      body := .structural "(word)" none
      cutter := none
      maxMatches := RulePattern.standardMaxMatches
      metrics := .empty ⟨0, 0⟩
      cache := none }

def exchangedVariation : String :=
  "\x7b\"version\":\"1\",\"exported_at\":\"2024-01-01T00:00:00Z\"," ++
    "\"pattern_variations\":\x7b\"w\":[\"a\"]\x7d\x7d"

def wordSteps : List LearnerStep :=
  [.operate (.place "x" exchangedVariation), .operate (.importFrom "x"), .operate (.improve none)]

theorem isFixed_of_mem_wordPattern : ∀ c ∈ [wordPattern], c.IsFixed := by
  intro c hc a ha
  rw [List.mem_singleton.mp hc] at ha
  cases ha

/-- Whatever does not reset suits a store in memory. -/
theorem admits_of_memory (catalog : List Pattern) {s : LearningState}
    (hstore : s.learner.store = .memory) {steps : List LearnerStep}
    (hsteps : .operate .reset ∉ steps) :
    ∀ done step rest, steps = done ++ step :: rest →
      (s.advanceAll catalog done).Admits step (fun _ => True) fun _ => True := by
  have hkept : ∀ done : List LearnerStep,
      (s.advanceAll catalog done).learner.store = .memory := by
    intro done
    have hstep : ∀ (u : LearningState) (step : LearnerStep), u.learner.store = .memory → True →
        (u.advance catalog step).learner.store = .memory := by
      intro u step hu _
      cases step with
      | operate op => exact (store_perform u op).trans hu
      | restart => exact hu
    exact forall_foldl hstep hstore (fun _ _ _ _ => trivial) done [] (List.append_nil done).symm
  rintro done step rest hsplit op rfl
  apply LearnerOperation.suits_memory _ (hkept done)
  rintro rfl
  exact hsteps (hsplit ▸ List.mem_append_right _ List.mem_cons_self)

theorem textRules_begin_restarted_word :
    let s := (inMemory [wordPattern] none).advanceAll [wordPattern] wordSteps
    s.textRules = ["a"] ∧ (s.restarted [wordPattern]).begin.textRules = s.textRules := by
  have hkept : .operate .reset ∉ wordSteps := by simp [wordSteps]
  have hnames : ([wordPattern].map Pattern.name).Nodup := List.nodup_singleton _
  have hrestart := textRules_begin_restarted StoreHandle.memory_works hnames
    isFixed_of_mem_wordPattern rfl trivial (fun _ => rfl)
    (admits_of_memory [wordPattern] (s := inMemory [wordPattern] none) rfl hkept)
  exact ⟨by decide +kernel, hrestart.2 (by decide +kernel)⟩

/-- A learner that never begins has the rules of the catalog, and the next one that begins does not,
even if nothing was saved before its learner had begun. -/
theorem textRules_unbegun_ne_restarted :
    ¬ ∀ (catalog : List Pattern) (steps : List LearnerStep),
      (catalog.map Pattern.name).Nodup → (∀ c ∈ catalog, c.IsFixed) →
      (∀ op, .operate op ∈ steps → op ≠ .reset ∧ op.savesAtOnce = false) →
      (((inMemory catalog none).advanceAll catalog steps).restarted catalog).begin.textRules =
        ((inMemory catalog none).advanceAll catalog steps).textRules := by
  intro hrestored
  have hnames : ([wordPattern].map Pattern.name).Nodup := List.nodup_singleton _
  have hsteps : ∀ op, .operate op ∈ wordSteps ++ [.restart] →
      op ≠ .reset ∧ op.savesAtOnce = false := by
    intro op hop
    simp only [wordSteps, List.cons_append, List.nil_append, List.mem_cons, List.not_mem_nil,
      LearnerStep.operate.injEq, reduceCtorEq, or_false] at hop
    rcases hop with rfl | rfl | rfl
    · exact ⟨nofun, rfl⟩
    · exact ⟨nofun, rfl⟩
    · exact ⟨nofun, rfl⟩
  have hrules := hrestored [wordPattern] (wordSteps ++ [.restart]) hnames isFixed_of_mem_wordPattern
    hsteps
  revert hrules
  decide +kernel

end LearningState
end AdaptiveRules
