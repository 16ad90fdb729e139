import AdaptiveRules.Pattern
import AdaptiveRules.Proofs.LiteralOccurrences
import AdaptiveRules.Proofs.OutermostSpans
import AdaptiveRules.Proofs.RuleApplication

/-!
# Recovery of literal matches by windows

Suppose a pattern, applied to a unit, fails or finds exactly the occurrences of a word.  If the match
of a source fails and its windows overlap by more than the word is long, then matching window by
window gives what the full match would have given.  Each occurrence lies in some window away from
the edges that another window overlaps, so it is not dropped there; all spans found have the same
length, so the merge drops nothing but repetitions.
-/

namespace AdaptiveRules

open TextLines

namespace MatchRecovery

def FindsLiteral (p : RulePattern) (word : String) : Prop :=
  ∀ text, (∃ e, p.matchUnit text = .ok (.error e)) ∨
    ∃ found, p.matchUnit text = .ok (.ok found) ∧ IsOccurrenceList word text found

/-- A span lies in a window and touches no edge of it that a neighbour overlaps. -/
structure Inside (w : Window) (before after : Option Window) (start stop : Nat) : Prop where
  start_le : w.start ≤ start
  stop_le : stop ≤ w.stop
  left : start = w.start → before.any (fun v => w.start < v.stop) = false
  right : stop = w.stop → after.any (fun v => v.start < w.stop) = false

/-- A span lies inside one of the windows that follow a given one. -/
def InsideSome : Option Window → List Window → Nat → Nat → Prop
  | _, [], _, _ => False
  | before, w :: rest, start, stop =>
      Inside w before rest.head? start stop ∨ InsideSome (some w) rest start stop

/-- Windows that overlap by more than the length of a span hold it away from their shared edges: the
last one that starts before the span does. -/
theorem insideSome_of_overlapping
    {length overlap start stop : Nat} {before : Option Window} {w : Window} {rest : List Window}
    (hover : Overlapping length overlap (w :: rest))
    (hshort : stop + 1 ≤ start + overlap) (hlength : stop ≤ length)
    (hstart : w.start < start ∨ w.start ≤ start ∧ before = none) :
    InsideSome before (w :: rest) start stop := by
  have hleft : start = w.start → before.any (fun v => w.start < v.stop) = false := by
    intro heq
    rcases hstart with hlt | ⟨_, rfl⟩
    · omega
    · rfl
  induction rest generalizing before w with
  | nil =>
      have hstop : w.stop = length := hover
      exact Or.inl ⟨by omega, by omega, hleft, fun _ => rfl⟩
  | cons v rest ih =>
      obtain ⟨hnext, hmore⟩ := hover
      by_cases hlater : v.start < start
      · exact Or.inr (ih hmore (Or.inl hlater) (fun heq => by omega))
      · exact Or.inl ⟨by omega, by omega, hleft, fun heq => by omega⟩

theorem mem_uncut {w : Window} {before after : Option Window} {found : List MatchInstance}
    {m : MatchInstance} :
    m ∈ uncut w before after found ↔ ∃ n ∈ found, m = n.shifted w.start ∧
      (n.start = 0 → before.any (fun v => w.start < v.stop) = false) ∧
      (n.stop = w.text.utf8ByteSize → after.any (fun v => v.start < w.stop) = false) := by
  have hkept : ∀ {cut near : Bool},
      (!(cut && near)) = true ↔ (near = true → cut = false) := by
    intro cut near
    cases cut <;> cases near <;> simp
  simp only [uncut, List.mem_map, List.mem_filter, Bool.and_eq_true, hkept, beq_iff_eq]
  constructor
  · rintro ⟨n, ⟨hn, hedges⟩, rfl⟩
    exact ⟨n, hn, rfl, hedges⟩
  · rintro ⟨n, hn, rfl, hedges⟩
    exact ⟨n, ⟨hn, hedges⟩, rfl⟩

theorem occurs_of_mem_uncut {word : String} {source : List Char} {w : Window}
    {before after : Option Window} {here : List MatchInstance} (hlies : w.LiesIn source)
    (hhere : IsOccurrenceList word w.text here) {m : MatchInstance}
    (hm : m ∈ uncut w before after here) :
    m.text = word ∧ m.stop = m.start + byteSize word.toList ∧ Occurs word.toList source m.start := by
  obtain ⟨left, right, hsource, hstart, _⟩ := hlies
  obtain ⟨n, hn, rfl, _⟩ := mem_uncut.mp hm
  obtain ⟨htext, hspan⟩ := hhere.span n hn
  refine ⟨htext, ?_, ?_⟩
  · simp only [MatchInstance.shifted]
    omega
  · have hoccurs := (hhere.mem_iff n.start).mp ⟨n, hn, rfl⟩
    have hshifted := hoccurs.of_stretch left right
    rw [← hsource, hstart] at hshifted
    simpa [MatchInstance.shifted, Nat.add_comm] using hshifted

theorem exists_mem_uncut {word : String} {source : List Char} {w : Window}
    {before after : Option Window} {here : List MatchInstance} (hlies : w.LiesIn source)
    (hhere : IsOccurrenceList word w.text here) {pos : Nat}
    (hoccurs : Occurs word.toList source pos)
    (hinside : Inside w before after pos (pos + byteSize word.toList)) :
    ∃ m ∈ uncut w before after here, m.start = pos := by
  obtain ⟨left, right, hsource, hstart, hstop⟩ := hlies
  have hlocal : Occurs word.toList w.text.toList (pos - byteSize left) := by
    apply hoccurs.in_stretch hsource
    · rw [hstart]
      exact hinside.start_le
    · rw [hstart, hstop]
      exact hinside.stop_le
  obtain ⟨n, hn, hplace⟩ := (hhere.mem_iff _).mpr hlocal
  have hspan := (hhere.span n hn).2
  have hle := hinside.start_le
  refine ⟨n.shifted w.start, mem_uncut.mpr ⟨n, hn, rfl, ?_, ?_⟩, ?_⟩
  · intro hzero
    exact hinside.left (by omega)
  · intro hend
    rw [utf8ByteSize_eq_byteSize] at hend
    exact hinside.right (by omega)
  · simp only [MatchInstance.shifted]
    omega

/-- What the windows of a text give together: only occurrences of the word, and each one that lies
inside some window. -/
theorem matchWindows_spec {p : RulePattern} {word : String} (hfinds : FindsLiteral p word)
    {source : List Char} {before : Option Window} {ws : List Window} {found : List MatchInstance}
    (hlies : ∀ w ∈ ws, w.LiesIn source)
    (hmatch : matchWindows p before ws = .ok (.ok found)) :
    (∀ m ∈ found, m.text = word ∧ m.stop = m.start + byteSize word.toList ∧
      Occurs word.toList source m.start) ∧
    ∀ pos, Occurs word.toList source pos →
      InsideSome before ws pos (pos + byteSize word.toList) → ∃ m ∈ found, m.start = pos := by
  induction ws generalizing before found with
  | nil =>
      have hnone : found = [] := by simpa [matchWindows] using hmatch.symm
      subst hnone
      exact ⟨by simp, fun _ _ hinside => hinside.elim⟩
  | cons w rest ih =>
      have hw := hlies w List.mem_cons_self
      unfold matchWindows at hmatch
      rcases hfinds w.text with ⟨e, herror⟩ | ⟨here, hok, hhere⟩
      · simp [herror] at hmatch
      cases hmore : matchWindows p (some w) rest with
      | error i => simp [hok, hmore] at hmatch
      | ok outcome =>
      cases outcome with
      | error e => simp [hok, hmore] at hmatch
      | ok more =>
      have hfound : found = uncut w before rest.head? here ++ more := by
        simpa [hok, hmore] using hmatch.symm
      subst hfound
      obtain ⟨hsound, hcomplete⟩ :=
        ih (fun v hv => hlies v (List.mem_cons_of_mem w hv)) hmore
      constructor
      · intro m hm
        rcases List.mem_append.mp hm with hm | hm
        · exact occurs_of_mem_uncut hw hhere hm
        · exact hsound m hm
      · intro pos hoccurs hinside
        rcases hinside with hinside | hinside
        · obtain ⟨m, hm, hplace⟩ := exists_mem_uncut hw hhere hoccurs hinside
          exact ⟨m, List.mem_append_left _ hm, hplace⟩
        · obtain ⟨m, hm, hplace⟩ := hcomplete pos hoccurs hinside
          exact ⟨m, List.mem_append_right _ hm, hplace⟩

/-- One attempt that succeeds gives all occurrences of a word that fits into the overlap. -/
theorem isOccurrenceList_keepOutermost {p : RulePattern} {word source : String}
    (hfinds : FindsLiteral p word) (hword : word.toList ≠ []) {overlap size : Nat}
    (hfits : byteSize word.toList + 1 ≤ min overlap (size - 1)) {found : List MatchInstance}
    (hmatch : matchWindows p none (TextWindows.split source size (min overlap (size - 1))) =
      .ok (.ok found)) :
    IsOccurrenceList word source (keepOutermost found) := by
  have hsize : 1 ≤ size := by omega
  have hlies : ∀ w ∈ TextWindows.split source size (min overlap (size - 1)),
      w.LiesIn source.toList := fun w hw => TextWindows.liesIn_of_mem_split hsize hw
  obtain ⟨hsound, hcomplete⟩ := matchWindows_spec hfinds hlies hmatch
  refine ⟨pairwise_start_keepOutermost found, ?_, ?_⟩
  · intro m hm
    obtain ⟨htext, hspan, _⟩ := hsound m (mem_of_mem_keepOutermost hm)
    exact ⟨htext, hspan⟩
  · intro pos
    constructor
    · rintro ⟨m, hm, rfl⟩
      exact (hsound m (mem_of_mem_keepOutermost hm)).2.2
    · intro hoccurs
      have hsource : source.toList ≠ [] := by
        intro hempty
        rw [hempty] at hoccurs
        exact not_occurs_nil hword pos hoccurs
      obtain ⟨w, rest, hsplit, hstart, _, hover⟩ :=
        TextWindows.split_spec hsource hsize (min overlap (size - 1))
      have hinside : InsideSome none (w :: rest) pos (pos + byteSize word.toList) := by
        apply insideSome_of_overlapping hover
        · omega
        · obtain ⟨before, after, hplace, hpos⟩ := hoccurs
          have hsize := congrArg byteSize hplace
          simp only [byteSize_append] at hsize
          omega
        · exact Or.inr ⟨by omega, rfl⟩
      rw [← hsplit] at hinside
      obtain ⟨m, hm, hplace⟩ := hcomplete pos hoccurs hinside
      obtain ⟨k, hk, hcovers⟩ := exists_covers_keepOutermost hm
      have hmspan := (hsound m hm).2.1
      have hkspan := (hsound k (mem_of_mem_keepOutermost hk)).2.1
      refine ⟨k, hk, ?_⟩
      have := hcovers.1
      have := hcovers.2
      omega

/-! ### The first attempt that succeeds -/

/-- The window size of an attempt, where the first one has number zero. -/
def attemptSize (s : RecoverySettings) (k : Nat) : Nat :=
  (fun size => max (size / 2) 1)^[k] (max s.windowSize 1)

def attempt (p : RulePattern) (overlap : Nat) (source : String) (size : Nat) :
    Attempt (List MatchInstance) :=
  matchWindows p none (TextWindows.split source size (min overlap (size - 1)))

/-- All windows of an attempt give something, if only nothing found. -/
def Succeeds (p : RulePattern) (s : RecoverySettings) (source : String) (k : Nat) : Prop :=
  ∃ found, attempt p s.overlap source (attemptSize s k) = .ok (.ok found)

/-- Of the attempts that are made the given one is the first that succeeds. -/
structure FirstSuccess (p : RulePattern) (s : RecoverySettings) (source : String) (k : Nat) :
    Prop where
  made : k < max s.retries 1
  succeeds : Succeeds p s source k
  earlier : ∀ j < k, ¬ Succeeds p s source j

/-- A pattern that finds a word is never interrupted. -/
theorem FindsLiteral.matchWindows_eq_ok {p : RulePattern} {word : String}
    (hfinds : FindsLiteral p word) (before : Option Window) (ws : List Window) :
    ∃ outcome, matchWindows p before ws = .ok outcome := by
  induction ws generalizing before with
  | nil => exact ⟨.ok [], rfl⟩
  | cons w rest ih =>
      unfold matchWindows
      rcases hfinds w.text with ⟨e, herror⟩ | ⟨here, hok, _⟩
      · exact ⟨.error e, by rw [herror]⟩
      · obtain ⟨outcome, hmore⟩ := ih (some w)
        rw [hok, hmore]
        cases outcome with
        | error e => exact ⟨.error e, rfl⟩
        | ok more => exact ⟨.ok (uncut w before rest.head? here ++ more), rfl⟩

/-- The attempts end with the first that succeeds; each one before it halves the size. -/
theorem attempts_eq {p : RulePattern} {word : String} (hfinds : FindsLiteral p word)
    {overlap : Nat} {source : String} {found : List MatchInstance} {k more size : Nat}
    (last : MatchError) (hmade : k < more)
    (hearlier : ∀ j < k, ∀ others,
      attempt p overlap source ((fun size => max (size / 2) 1)^[j] size) ≠ .ok (.ok others))
    (hfound : attempt p overlap source ((fun size => max (size / 2) 1)^[k] size) =
      .ok (.ok found)) :
    attempts p overlap source more size last = .ok (.ok (keepOutermost found)) := by
  induction k generalizing more size last with
  | zero =>
      obtain ⟨more, rfl⟩ := Nat.exists_eq_add_of_lt hmade
      rw [Nat.zero_add] at *
      unfold attempt at hfound
      unfold attempts
      simp only [Function.iterate_zero, id_eq] at hfound
      rw [hfound]
  | succ k ih =>
      obtain ⟨more, rfl⟩ : ∃ rest, more = rest + 1 := ⟨more - 1, by omega⟩
      obtain ⟨outcome, hfirst⟩ := hfinds.matchWindows_eq_ok none
        (TextWindows.split source size (min overlap (size - 1)))
      unfold attempts
      rw [hfirst]
      cases outcome with
      | ok others => exact absurd hfirst (hearlier 0 k.succ_pos others)
      | error e =>
          apply ih e (by omega)
          · intro j hj others
            have hlater := hearlier (j + 1) (by omega) others
            rwa [Function.iterate_succ_apply] at hlater
          · rwa [Function.iterate_succ_apply] at hfound

theorem isOccurrenceList_byWindows {p : RulePattern} {word source : String}
    (hfinds : FindsLiteral p word) (hword : word.toList ≠ []) {s : RecoverySettings} {k : Nat}
    (hfirst : FirstSuccess p s source k)
    (hfits : byteSize word.toList + 1 ≤ min s.overlap (attemptSize s k - 1)) :
    ∃ found, byWindows p s source = .ok (.ok found) ∧ IsOccurrenceList word source found := by
  obtain ⟨found, hfound⟩ := hfirst.succeeds
  refine ⟨keepOutermost found, ?_, isOccurrenceList_keepOutermost hfinds hword hfits hfound⟩
  apply attempts_eq hfinds _ hfirst.made _ hfound
  intro j hj others hothers
  exact hfirst.earlier j hj ⟨others, hothers⟩

/-- The failures after which the source is matched window by window. -/
def SentToWindows (p : RulePattern) (kind : FailureKind) : Prop :=
  p.textRule.isEmpty = true ∨ kind ≠ .syntaxError ∧ kind ≠ .ambiguous

theorem recover_eq_byWindows {p : RulePattern} {kind : FailureKind}
    (hsent : SentToWindows p kind) (s : RecoverySettings) (source : String) :
    recover p s kind source = byWindows p s source := by
  unfold recover
  rcases hsent with hempty | ⟨hreads, hambiguous⟩
  · rw [if_pos hempty]
  · cases kind <;> simp_all

/-! ### Engines that find a word -/

/-- A query without a learned rule and without extracted fields finds what its engine finds, as far
as the number of matches is allowed. -/
theorem matchUnit_of_engine {p : RulePattern} {query : String}
    {P : String → List MatchInstance → Prop}
    (hbody : p.body = .structural query none) (hextract : p.definition.extract = none)
    (hengine : ∀ text, (∃ e, p.engine.run p.language query text = .ok (.error e)) ∨
      ∃ found, p.engine.run p.language query text = .ok (.ok found) ∧ P text found)
    (text : String) :
    (∃ e, p.matchUnit text = .ok (.error e)) ∨
      ∃ found, p.matchUnit text = .ok (.ok found) ∧ P text found := by
  have hunit : p.matchUnit text = p.matchQuery query none text := by
    unfold RulePattern.matchUnit
    rw [hbody]
  rw [hunit]
  unfold RulePattern.matchQuery
  rcases hengine text with ⟨e, herror⟩ | ⟨found, hfound, hlist⟩
  · exact Or.inl ⟨e, by rw [herror]⟩
  · by_cases hfew : p.maxMatches < found.length
    · exact Or.inl ⟨.matchLimit p.maxMatches, by simp only [hfound, if_pos hfew]⟩
    · have hplain : p.extended = id := by
        funext m
        simp [RulePattern.extended, hextract]
      exact Or.inr ⟨found, by simp [hfound, hfew, hplain], hlist⟩

theorem findsLiteral_of_engine {p : RulePattern} {query word : String}
    (hbody : p.body = .structural query none) (hextract : p.definition.extract = none)
    (hengine : ∀ text, (∃ e, p.engine.run p.language query text = .ok (.error e)) ∨
      ∃ found, p.engine.run p.language query text = .ok (.ok found) ∧
        IsOccurrenceList word text found) :
    FindsLiteral p word :=
  matchUnit_of_engine hbody hextract hengine

/-- An engine that finds a word in short texts and fails on the others. -/
def shortSighted (word : String) (limit : Nat) : QueryEngine where
  name := "short-sighted"
  supports _ := true
  complaint? _ _ := none
  run _ _ text :=
    if text.utf8ByteSize ≤ limit then .ok (.ok (LiteralSearch.occurrences word text))
    else .ok (.error ⟨"time limit"⟩)

def shortSightedQuery (word : String) (limit : Nat) : RulePattern where
  definition := .ofRule word "(word)"
  engine := shortSighted word limit
  body := .structural "(word)" none
  cutter := none
  maxMatches := RulePattern.standardMaxMatches
  metrics := .empty ⟨0, 0⟩
  cache := none

theorem findsLiteral_shortSightedQuery {word : String} (hword : BorderFree word.toList)
    (limit : Nat) : FindsLiteral (shortSightedQuery word limit) word := by
  apply findsLiteral_of_engine rfl rfl
  intro text
  by_cases hshort : text.utf8ByteSize ≤ limit
  · exact Or.inr ⟨_, if_pos hshort, LiteralSearch.isOccurrenceList_occurrences hword text⟩
  · exact Or.inl ⟨_, if_neg hshort⟩

end MatchRecovery

/-! ### Resilient patterns -/

namespace Pattern

open MatchRecovery

/-- The rule that a match applies: the one in place after the adaptation before it. -/
def ruleFor (p : Pattern) (context : Option MatchContext) (time : MatchTime) : RulePattern :=
  (p.beforeMatch context time.now).pattern.core

theorem beforeMatch_resilient {p : Pattern} {a : Adaptation} {r : Recovery}
    (hmode : p.mode = .resilient a r) (context : Option MatchContext) (now : Instant) :
    ∃ b, (p.beforeMatch context now).pattern.mode = .resilient b r := by
  have hadapt : ∀ c, ∃ b, (p.adapt c now).pattern.mode = .resilient b r := by
    intro c
    simp only [adapt, hmode, PatternMode.adaptation?, PatternMode.withAdaptation]
    exact ⟨_, rfl⟩
  unfold beforeMatch
  split
  · split
    · exact hadapt _
    · exact ⟨a, hmode⟩
  · exact ⟨a, hmode⟩

/-- Where the match fails and is sent to the windows, the answer is what they give, recovered. -/
theorem matchSource_byWindows {p : Pattern} {a : Adaptation} {r : Recovery}
    (hmode : p.mode = .resilient a r) {source : String} {context : Option MatchContext}
    {time : MatchTime} {failure : MatchError}
    (hfails : ((p.ruleFor context time).run source context time).1 = .ok (.error failure))
    (hsent : SentToWindows (p.ruleFor context time) failure.kind)
    {found : List MatchInstance}
    (hfound : byWindows (p.ruleFor context time) r.settings source = .ok (.ok found)) :
    (p.matchSource source context time).answer =
      .ok (found.map fun m => { m with recovered := true }) := by
  obtain ⟨b, hbefore⟩ := beforeMatch_resilient hmode context time.now
  have hsame := RulePattern.sameRule_run (p := p.ruleFor context time) source context time
  cases hrun : (p.ruleFor context time).run source context time with
  | mk outcome core =>
      rw [hrun] at hfails hsame
      simp only at hfails hsame
      subst hfails
      have hrecover : recover core r.settings failure.kind source = .ok (.ok found) := by
        rw [recover_eq_byWindows (by rwa [SentToWindows, hsame.textRule])]
        rw [← hfound]
        exact hsame.byWindows r.settings source
      unfold ruleFor at hrun
      simp only [matchSource, hrun, afterFailure, hbefore, hrecover]

/-- Recovery by windows finds a word wherever the full match would have found it. -/
theorem matchSource_eq_all_occurrences {p : Pattern} {a : Adaptation} {r : Recovery}
    (hmode : p.mode = .resilient a r) {word : String} (hword : BorderFree word.toList)
    (context : Option MatchContext) (time : MatchTime)
    (hfinds : FindsLiteral (p.ruleFor context time) word) {source : String} {failure : MatchError}
    (hfails : ((p.ruleFor context time).run source context time).1 = .ok (.error failure))
    (hsent : SentToWindows (p.ruleFor context time) failure.kind)
    {k : Nat} (hfirst : FirstSuccess (p.ruleFor context time) r.settings source k)
    (hfits : byteSize word.toList + 1 ≤
      min r.settings.overlap (attemptSize r.settings k - 1)) :
    ∃ found, (p.matchSource source context time).answer = .ok found ∧
      IsOccurrenceList word source found ∧ ∀ m ∈ found, m.recovered = true := by
  obtain ⟨found, hwindows, hlist⟩ := isOccurrenceList_byWindows hfinds hword.1 hfirst hfits
  refine ⟨_, matchSource_byWindows hmode hfails hsent hwindows, hlist.map_recovered, ?_⟩
  intro m hm
  obtain ⟨n, _, rfl⟩ := List.mem_map.mp hm
  rfl

theorem matchSource_finds_ab :
    ∃ found, ((Pattern.resilient (shortSightedQuery "ab" 6) .standard ⟨8, 3, 3⟩).matchSource
        "xxabyyaxbzzab" none ⟨⟨0, 0⟩, 0⟩).answer = .ok found ∧
      IsOccurrenceList "ab" "xxabyyaxbzzab" found ∧ ∀ m ∈ found, m.recovered = true := by
  have hword : BorderFree "ab".toList := by
    refine ⟨by decide, ?_⟩
    intro part hbegins hends
    have hmem : part ∈ [[], ['a'], ['a', 'b']] := (List.mem_inits part ['a', 'b']).mpr hbegins
    simp only [List.mem_cons, List.not_mem_nil, or_false] at hmem
    rcases hmem with rfl | rfl | rfl
    · exact Or.inl rfl
    · revert hends
      decide
    · exact Or.inr rfl
  have hfirst : FirstSuccess (shortSightedQuery "ab" 6) ⟨8, 3, 3⟩ "xxabyyaxbzzab" 1 := by
    refine ⟨by decide, ⟨_, rfl⟩, ?_⟩
    intro j hj
    obtain rfl : j = 0 := by omega
    rintro ⟨found, hfound⟩
    have hfails : attempt (shortSightedQuery "ab" 6) 3 "xxabyyaxbzzab" 8 =
      .ok (.error ⟨"time limit"⟩) := rfl
    cases hfails.symm.trans hfound
  exact matchSource_eq_all_occurrences
    (p := Pattern.resilient (shortSightedQuery "ab" 6) .standard ⟨8, 3, 3⟩) rfl hword none
    ⟨⟨0, 0⟩, 0⟩ (findsLiteral_shortSightedQuery hword 6) rfl (Or.inl rfl) hfirst (by decide)

end Pattern
end AdaptiveRules
