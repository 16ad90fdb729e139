import AdaptiveRules.Proofs.ImprovementReplay
import AdaptiveRules.Proofs.PatternRuns

/-!
# What is found in a project

A learner looks at every file in a context that follows from the file, and the key of that context
tells the path of the file.  So, as long as digests tell the contents apart, an entry that its work
has left in the cache of a pattern is what the pattern finds in that file, and the texts that are
found in a project depend on the rules in place only: not on caches, not on metrics, and not on what
was learned before.
-/

namespace AdaptiveRules

/-! ### The contexts of files -/

theorem FileLanguage.colon_notMem_ofPath (path : String) : ':' ∉ (ofPath path).toList := by
  have hknown : ∀ e ∈ extensions, ':' ∉ e.2.toList := by decide
  have hunknown : ':' ∉ unknown.toList := by decide
  unfold ofPath
  split
  · next ext _ =>
      cases hlookup : extensions.lookup (String.ofList (ext.map Char.toLower)) with
      | none => exact hunknown
      | some language =>
          obtain ⟨front, back, heq, _⟩ := List.lookup_eq_some_iff.mp hlookup
          exact hknown (_, language) (heq ▸ List.mem_append_right _ List.mem_cons_self)
  · exact hunknown

namespace ProjectLearning

theorem isPlain_contextOf (l : Learner) (file : SourceFile) : (contextOf l file).IsPlain := by
  have hplain := FileLanguage.colon_notMem_ofPath file.path
  unfold contextOf
  split <;> exact hplain

theorem file_contextOf (l : Learner) (file : SourceFile) : (contextOf l file).file = file.path := by
  unfold contextOf
  split <;> rfl

/-- Files are looked at in contexts whose keys tell their paths. -/
def TellsPaths (look : SourceFile → MatchContext) : Prop :=
  ∀ file other, (look file).key = (look other).key → file.path = other.path

theorem tellsPaths_contextOf (l : Learner) : TellsPaths (contextOf l) := by
  intro file other hkeys
  have hparts := (MatchContext.key_eq_key_iff (isPlain_contextOf l file)
    (isPlain_contextOf l other)).mp hkeys
  rw [← file_contextOf l file, ← file_contextOf l other]
  exact hparts.file

end ProjectLearning

open ProjectLearning

/-! ### Caches that hold what is found in files -/

variable {look : SourceFile → MatchContext} {contents : Set String} {file : SourceFile}

namespace RulePattern

/-- What the cache holds for a file is what the rule in place collects from it. -/
def Truthful (p : RulePattern) (look : SourceFile → MatchContext) (contents : Set String) : Prop :=
  ∀ c, p.cache = some c → c.Holds fun key found => ∀ file : SourceFile, file.content ∈ contents →
    p.callKey file.content (some (look file)) = key →
      p.collect file.content (some (look file)) = .ok (.ok found)

variable {p q : RulePattern}

theorem truthful_of_empty (hempty : ∀ c, p.cache = some c → c.entries = []) :
    p.Truthful look contents := by
  intro c hcache e he
  rw [hempty c hcache] at he
  exact absurd he List.not_mem_nil

theorem Truthful.installed (htruthful : p.Truthful look contents) (rule : String) :
    (p.installed rule).Truthful look contents := by
  rcases installed_cases p rule with heq | ⟨compiled, heq⟩
  · rwa [heq]
  · rw [heq]
    intro d hd
    obtain ⟨c, _, rfl⟩ := Option.map_eq_some_iff.mp hd
    exact MatchCache.holds_clear

/-- A file is answered as if there were no cache, and the cache stays as it should be. -/
theorem Truthful.run (htruthful : p.Truthful look contents) (hsha : Set.InjOn Sha256.hex contents)
    (hlook : TellsPaths look) (hfile : file.content ∈ contents) (time : MatchTime) :
    (p.run file.content (some (look file)) time).1 = p.collect file.content (some (look file)) ∧
      (p.run file.content (some (look file)) time).2.Truthful look contents := by
  have hsame : SameRule p (p.run file.content (some (look file)) time).2 := sameRule_run ..
  cases hcache : p.cache with
  | none =>
      obtain ⟨hanswer, hnone⟩ := run_uncached hcache file.content (some (look file)) time
      exact ⟨hanswer, fun d hd => by rw [hnone] at hd; cases hd⟩
  | some c =>
      have hkept := (htruthful c hcache).get (p.callKey file.content (some (look file))) time.now
      rcases run_cached hcache file.content (some (look file)) time with
        ⟨found, hget, hanswer, hafter⟩ | ⟨_, hanswer, hafter⟩
      · have hfound := (htruthful c hcache).of_get hget file hfile rfl
        refine ⟨hanswer.trans hfound.symm, fun d hd => ?_⟩
        rw [hafter] at hd
        cases hd
        rwa [hsame.callKey, hsame.collect]
      · refine ⟨hanswer, fun d hd => ?_⟩
        rw [hafter] at hd
        cases hd
        rw [hsame.callKey, hsame.collect]
        rcases hcollect : p.collect file.content (some (look file)) with i | failure | found
        · exact hkept
        · exact hkept
        · refine hkept.put (fun other hother hkeys => ?_) time.now
          -- the new entry answers for every file with its key, and that is this file only
          obtain ⟨hdigests, hcontexts, _⟩ := (MatchContext.cacheKey_eq_iff ..).mp hkeys
          have hcontent : other.content = file.content := hsha hother hfile hdigests
          have hpath : other.path = file.path := hlook other file hcontexts
          obtain rfl : other = file := by
            cases other
            cases file
            simp_all
          exact hcollect

end RulePattern

namespace MatchRecovery

theorem recover_eq {p q : RulePattern} (hsame : RulePattern.SameRule p q) (s : RecoverySettings)
    (kind : FailureKind) (source : String) : recover q s kind source = recover p s kind source := by
  have hrule : ∀ rule, withRule q rule source = withRule p rule source := by
    intro rule
    rw [hsame.eq_with]
    rfl
  unfold recover
  rw [hsame.textRule, hsame.byWindows, hrule, hrule]

end MatchRecovery

namespace Pattern

def recoverySettings? (p : Pattern) : Option RecoverySettings :=
  match p.mode with
  | .resilient _ r => some r.settings
  | _ => none

/-- Two patterns with one rule that recover alike, if they do. -/
structure Resembles (p q : Pattern) : Prop where
  cores : RulePattern.SameRule p.core q.core
  recovery : q.recoverySettings? = p.recoverySettings?

/-- What the rule of the pattern finds in a file, and recovers if the match fails. -/
def finds (p : Pattern) (file : SourceFile) (context : MatchContext) :
    Except Interruption (List MatchInstance) :=
  if FileLanguage.applies p.language context.language then
    match p.core.collect file.content (some context) with
    | .error i => .error i
    | .ok (.ok found) => .ok found
    | .ok (.error failure) => (p.afterFailure failure file.content).answer
  else .ok []

/-- The pattern does not adapt, and its cache holds what it finds in files. -/
structure Ready (p : Pattern) (look : SourceFile → MatchContext) (contents : Set String) : Prop where
  fixed : p.IsFixed
  truthful : p.core.Truthful look contents

variable {p q r : Pattern}

theorem Resembles.refl (p : Pattern) : Resembles p p := ⟨.refl _, rfl⟩

theorem Resembles.trans (hpq : Resembles p q) (hqr : Resembles q r) : Resembles p r :=
  ⟨hpq.cores.trans hqr.cores, hqr.recovery.trans hpq.recovery⟩

theorem answer_afterFailure (p : Pattern) (failure : MatchError) (source : String) :
    (p.afterFailure failure source).answer =
      match p.recoverySettings? with
      | none => .ok []
      | some s =>
          match MatchRecovery.recover p.core s failure.kind source with
          | .error i => .error i
          | .ok (.ok found) => .ok (found.map fun m => { m with recovered := true })
          | .ok (.error _) => .ok [] := by
  unfold afterFailure recoverySettings?
  cases p.mode with
  | plain => rfl
  | adaptive a => rfl
  | resilient a r =>
      simp only
      rcases MatchRecovery.recover p.core r.settings failure.kind source with i | e | found <;> rfl

theorem Resembles.answer_afterFailure (hresembles : Resembles p q) (failure : MatchError)
    (source : String) :
    (q.afterFailure failure source).answer = (p.afterFailure failure source).answer := by
  rw [Pattern.answer_afterFailure, Pattern.answer_afterFailure, hresembles.recovery]
  simp only [MatchRecovery.recover_eq hresembles.cores]

theorem Resembles.finds (hresembles : Resembles p q) : q.finds = p.finds := by
  have hlanguage : q.language = p.language :=
    congrArg PatternDefinition.language hresembles.cores.definition
  funext file context
  unfold Pattern.finds
  simp only [hlanguage, hresembles.cores.collect, hresembles.answer_afterFailure]

theorem resembles_afterFailure (p : Pattern) (failure : MatchError) (source : String) :
    Resembles p (p.afterFailure failure source).pattern := by
  rcases p.afterFailure_cases failure source with hsame | ⟨a, r, success, hmode, hcounted⟩
  · rw [hsame]
    exact .refl p
  · rw [hcounted]
    refine ⟨.refl _, ?_⟩
    simp only [recoverySettings?, hmode]
    rfl

theorem resembles_offer (p : Pattern) (variations : List String) :
    Resembles p (p.offer variations) := by
  obtain ⟨core, mode⟩ := p
  cases mode <;> exact ⟨.refl core, rfl⟩

/-- A pattern that is ready gives for a file what its rule finds, and stays ready. -/
theorem Ready.matchPattern (hready : p.Ready look contents) (hsha : Set.InjOn Sha256.hex contents)
    (hlook : TellsPaths look) (hfile : file.content ∈ contents) (time : MatchTime) :
    (matchPattern p file (look file) time).answer = p.finds file (look file) ∧
      p.Resembles (matchPattern p file (look file) time).pattern ∧
      (matchPattern p file (look file) time).pattern.Ready look contents := by
  unfold ProjectLearning.matchPattern Pattern.finds
  split
  case isFalse => exact ⟨rfl, .refl p, hready⟩
  case isTrue =>
    obtain ⟨hanswer, hafter⟩ := hready.truthful.run hsha hlook hfile time
    have hcores : RulePattern.SameRule p.core (p.core.run file.content (some (look file)) time).2 :=
      RulePattern.sameRule_run ..
    let ran : Pattern := { p with core := (p.core.run file.content (some (look file)) time).2 }
    have hran : p.Resembles ran := ⟨hcores, rfl⟩
    simp only [matchSource, beforeMatch_of_isFixed hready.fixed]
    rw [hanswer]
    rcases p.core.collect file.content (some (look file)) with i | failure | found
    · exact ⟨rfl, hran, hready.fixed, hafter⟩
    · refine ⟨hran.answer_afterFailure failure file.content,
        hran.trans (resembles_afterFailure ran failure file.content),
        (keepsRule_afterFailure ran failure file.content).fixed hready.fixed, ?_⟩
      rw [core_afterFailure]
      exact hafter
    · exact ⟨rfl, hran, hready.fixed, hafter⟩

end Pattern

/-! ### What is found in the files of a project -/

namespace ProjectLearning

variable {α β : Type} {patterns : List Pattern}

/-- What was found so far, with what a pattern finds in a file. -/
def gatherWith (file : SourceFile) (context : MatchContext) (found : Found) (p : Pattern) :
    Except Interruption Found :=
  match p.finds file context with
  | .error i => .error i
  | .ok [] => .ok found
  | .ok ms => .ok (found.alter p.name fun texts => texts.getD [] ++ ms.map MatchInstance.text)

def gatherFile (patterns : List Pattern) (look : SourceFile → MatchContext) (found : Found)
    (file : SourceFile) : Except Interruption Found :=
  if file.path.isEmpty || file.content.isEmpty then pure found
  else patterns.foldlM (gatherWith file (look file)) found

/-- What the rules of the patterns find in the files of a project. -/
def gathered (patterns : List Pattern) (look : SourceFile → MatchContext) (files : List SourceFile) :
    Except Interruption Found := files.foldlM (gatherFile patterns look) .empty

/-- The learner has the rules of the patterns, and looks at files in the given contexts. -/
structure Serves (patterns : List Pattern) (look : SourceFile → MatchContext) (contents : Set String)
    (s : LearningState) : Prop where
  looks : contextOf s.learner = look
  ready : List.Forall₂ (fun p q => p.Resembles q ∧ q.Ready look contents) patterns
    s.learner.patterns

/-- Work that comes to a value unless it is stopped, and keeps the rules. -/
def ComesTo (patterns : List Pattern) (look : SourceFile → MatchContext) (contents : Set String)
    (m : Learning α) (value : Except Interruption α) : Prop :=
  ∀ s, Serves patterns look contents s → Serves patterns look contents (m.run.run s).2 ∧
    (s.patience = none → (m.run.run s).1 = value ∧ (m.run.run s).2.patience = none)

theorem comesTo_pure (a : α) : ComesTo patterns look contents (pure a) (pure a) :=
  fun _ hserves => ⟨hserves, fun hpatience => ⟨rfl, hpatience⟩⟩

theorem comesTo_bind {m : Learning α} {f : α → Learning β} {value : Except Interruption α}
    {g : α → Except Interruption β} (hfirst : ComesTo patterns look contents m value)
    (hrest : ∀ a, ComesTo patterns look contents (f a) (g a)) :
    ComesTo patterns look contents (m >>= f) (value >>= g) := by
  intro s hserves
  obtain ⟨hthere, hvalue⟩ := hfirst s hserves
  rw [run_bind]
  rcases hm : m.run.run s with ⟨i | a, t⟩
  · rw [hm] at hthere hvalue
    refine ⟨hthere, fun hpatience => ?_⟩
    obtain ⟨rfl, hlast⟩ := hvalue hpatience
    exact ⟨rfl, hlast⟩
  · rw [hm] at hthere hvalue
    obtain ⟨hend, hmore⟩ := hrest a t hthere
    refine ⟨hend, fun hpatience => ?_⟩
    obtain ⟨rfl, hlast⟩ := hvalue hpatience
    exact hmore hlast

theorem comesTo_foldlM {f : β → α → Learning β} {g : β → α → Except Interruption β} {xs : List α}
    (hstep : ∀ b, ∀ x ∈ xs, ComesTo patterns look contents (f b x) (g b x)) (b : β) :
    ComesTo patterns look contents (xs.foldlM f b) (xs.foldlM g b) := by
  induction xs generalizing b with
  | nil => exact comesTo_pure b
  | cons x rest ih =>
      rw [List.foldlM_cons, List.foldlM_cons]
      exact comesTo_bind (hstep b x List.mem_cons_self)
        (ih fun b x hx => hstep b x (List.mem_cons_of_mem _ hx))

theorem rel_getElem? {R : α → β → Prop} {xs : List α} {ys : List β} (hall : List.Forall₂ R xs ys)
    (index : Nat) : Option.Rel R xs[index]? ys[index]? := by
  induction hall generalizing index with
  | nil => exact .none
  | cons hfirst _ ih =>
      cases index with
      | zero => exact .some hfirst
      | succ index => exact ih index

theorem pause_of_patient {s : LearningState} (hpatience : s.patience = none) :
    pause.run.run s = (.ok (), s) := by
  unfold pause
  rw [run_bind, run_get]
  simp only [hpatience]
  rfl

theorem comesTo_matchAt (hsha : Set.InjOn Sha256.hex contents) (hlook : TellsPaths look)
    (hfile : file.content ∈ contents) (index : Nat) (found : Found) :
    ComesTo patterns look contents (matchAt index file (look file) found)
      (patterns[index]?.elim (pure found) (gatherWith file (look file) found)) := by
  intro s hserves
  have hplaces := rel_getElem? hserves.ready index
  unfold matchAt
  rw [run_bind, run_get]
  simp only
  rcases hp : patterns[index]? with _ | p <;> rcases hq : s.learner.patterns[index]? with _ | q <;>
    rw [hp, hq] at hplaces
  · exact ⟨hserves, fun hpatience => ⟨rfl, hpatience⟩⟩
  · cases hplaces
  · cases hplaces
  obtain ⟨hresembles, hready⟩ : p.Resembles q ∧ q.Ready look contents := by
    cases hplaces
    assumption
  obtain ⟨hanswer, hstep, hstill⟩ := hready.matchPattern hsha hlook hfile s.time
  have hset : Serves patterns look contents (s.withLearner fun l => { l with
      patterns := l.patterns.set index (matchPattern q file (look file) s.time).pattern }) :=
    ⟨hserves.looks, LearningState.forall₂_set hserves.ready hq fun c hc => ⟨hc.1.trans hstep, hstill⟩⟩
  have hname : q.name = p.name := congrArg PatternDefinition.name hresembles.cores.definition
  simp only [run_bind]
  obtain ⟨patience, hpause | ⟨i, hpause⟩⟩ := pause_cases s
  · have hkeeps : s.patience = none → patience = none := by
      intro hpatience
      have hsame := (pause_of_patient hpatience).symm.trans hpause
      exact (congrArg (fun r : Except Interruption Unit × LearningState => r.2.patience) hsame).symm.trans
        hpatience
    simp only [hpause, setAt, run_modify, Option.elim_some]
    unfold gatherWith
    rw [← hresembles.finds, ← hanswer, ← hname]
    rcases (matchPattern q file (look file) s.time).answer with i | _ | _
    · exact ⟨⟨hset.looks, hset.ready⟩, fun hpatience => ⟨rfl, hkeeps hpatience⟩⟩
    · exact ⟨⟨hset.looks, hset.ready⟩, fun hpatience => ⟨rfl, hkeeps hpatience⟩⟩
    · exact ⟨⟨hset.looks, hset.ready⟩, fun hpatience => ⟨rfl, hkeeps hpatience⟩⟩
  · rw [hpause]
    refine ⟨⟨hserves.looks, hserves.ready⟩, fun hpatience => ?_⟩
    cases (pause_of_patient hpatience).symm.trans hpause

/-- Patterns taken up one after another by their places. -/
theorem foldlM_range_getElem? {γ : Type} (f : β → γ → Except Interruption β) (xs : List γ) (b : β) :
    ((List.range xs.length).foldlM (fun b index => xs[index]?.elim (pure b) (f b)) b) =
      xs.foldlM f b := by
  have hplaces : (List.range xs.length).map (fun index => xs[index]?) = xs.map some := by
    apply List.ext_getElem
    · simp
    · intro index _ _
      simp
  calc
    _ = ((List.range xs.length).map fun index => xs[index]?).foldlM
          (fun b place => place.elim (pure b) (f b)) b := by rw [List.foldlM_map]
    _ = xs.foldlM f b := by
      rw [hplaces, List.foldlM_map]
      rfl

theorem comesTo_matchFile (hsha : Set.InjOn Sha256.hex contents) (hlook : TellsPaths look)
    (hfile : file.content ∈ contents) (found : Found) :
    ComesTo patterns look contents (matchFile found file) (gatherFile patterns look found file) := by
  unfold matchFile gatherFile
  split
  · exact comesTo_pure found
  · intro s hserves
    have hcount := hserves.ready.length_eq
    have hfold : ComesTo patterns look contents
        ((List.range patterns.length).foldlM
          (fun found index => matchAt index file (look file) found) found)
        ((List.range patterns.length).foldlM
          (fun found index => patterns[index]?.elim (pure found) (gatherWith file (look file) found))
          found) :=
      comesTo_foldlM (fun found index _ => comesTo_matchAt hsha hlook hfile index found) found
    rw [foldlM_range_getElem? (gatherWith file (look file))] at hfold
    rw [run_bind, run_get]
    simp only
    rw [hserves.looks, ← hcount]
    exact hfold s hserves

/-- The files of a project give what the rules find in them. -/
theorem comesTo_extract (hsha : Set.InjOn Sha256.hex contents) (hlook : TellsPaths look)
    {files : List SourceFile} (hfiles : ∀ file ∈ files, file.content ∈ contents) :
    ComesTo patterns look contents (extract files) (gathered patterns look files) :=
  comesTo_foldlM (fun found _ hfile => comesTo_matchFile hsha hlook (hfiles _ hfile) found) _

end ProjectLearning
end AdaptiveRules
