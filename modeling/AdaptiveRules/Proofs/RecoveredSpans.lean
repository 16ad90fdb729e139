import AdaptiveRules.Proofs.LetterRunRecovery
import AdaptiveRules.Proofs.PatternRuns
import AdaptiveRules.Proofs.RegexSearching

/-!
# Recovered matches are spans of the source

A match is a span of a text if its bounds fall between characters of the text and its text is what
lies between them.  A search gives spans of what it searches, whatever the rule.  A span of a window
that is placed in the source is a span of the source, since the window is a slice of it; merging only
leaves matches out.  So if the engine gives spans of the units it is asked about, all that recovery
gives are spans of the source, whatever the failure was and however often the windows were halved.
-/

namespace AdaptiveRules

open TextLines

/-- Both bounds of the match fall between characters of the source, the first not after the second,
and its text is what lies between them. -/
structure MatchInstance.IsSpanOf (m : MatchInstance) (source : String) : Prop where
  ordered : m.start ≤ m.stop
  inside : m.stop ≤ source.utf8ByteSize
  slice : Window.IsSlice ⟨m.start, m.stop, m.text⟩ source

/-! ### Spans as splits of the text -/

theorem TextLines.exists_split_of_isValid {source : String} {pos : Nat}
    (hvalid : String.Pos.Raw.IsValid source ⟨pos⟩) :
    ∃ before after, source.toList = before ++ after ∧ byteSize before = pos := by
  obtain ⟨first, second, rfl, hpos⟩ := String.Pos.Raw.isValid_iff_exists_append.mp hvalid
  refine ⟨first.toList, second.toList, String.toList_append, ?_⟩
  rw [← utf8ByteSize_eq_byteSize]
  exact congrArg String.Pos.Raw.byteIdx hpos.symm

namespace MatchInstance

variable {m : MatchInstance} {source : String}

theorem isSpanOf_of_split {before after : List Char}
    (hsplit : source.toList = before ++ (m.text.toList ++ after)) (hstart : byteSize before = m.start)
    (hstop : m.start + byteSize m.text.toList = m.stop) : m.IsSpanOf source := by
  have hlies : Window.LiesIn ⟨m.start, m.stop, m.text⟩ source.toList :=
    ⟨before, after, hsplit, hstart, hstop⟩
  refine ⟨by omega, ?_, hlies.isSlice⟩
  rw [utf8ByteSize_eq_byteSize]
  exact hlies.stop_le

theorem IsSpanOf.exists_split (hm : m.IsSpanOf source) :
    ∃ before after, source.toList = before ++ (m.text.toList ++ after) ∧
      byteSize before = m.start ∧ m.start + byteSize m.text.toList = m.stop := by
  obtain ⟨hordered, _, hstart, hstop, htext⟩ := hm
  obtain ⟨before, rest, hsource, hbefore⟩ := exists_split_of_isValid hstart
  obtain ⟨front, after, hsource', hfront⟩ := exists_split_of_isValid hstop
  simp only at hbefore hfront htext
  obtain ⟨taken, rfl⟩ := isPrefix_of_byteSize_le (hsource.symm.trans hsource') (by omega)
  have hextract := String.extract_of_valid before taken after
  rw [utf8Len_eq_byteSize, utf8Len_eq_byteSize, ← hsource', String.ofList_toList,
    ← byteSize_append, hbefore, hfront, htext] at hextract
  rw [hextract, String.toList_ofList]
  rw [byteSize_append] at hfront
  exact ⟨before, after, by rw [hsource', List.append_assoc], hbefore, by omega⟩

/-- A span of a window, placed in the text of the window. -/
theorem IsSpanOf.shifted {w : Window} (hm : m.IsSpanOf w.text) (hlies : w.LiesIn source.toList) :
    (m.shifted w.start).IsSpanOf source := by
  obtain ⟨head, tail, hsource, hhead, _⟩ := hlies
  obtain ⟨before, after, hwindow, hbefore, hstop⟩ := hm.exists_split
  have hsplit : source.toList =
      head ++ before ++ ((m.shifted w.start).text.toList ++ (after ++ tail)) := by
    rw [hsource, hwindow]
    simp only [MatchInstance.shifted, List.append_assoc]
  refine isSpanOf_of_split hsplit ?_ ?_
  · rw [byteSize_append, hhead, hbefore, Nat.add_comm]
    rfl
  · simp only [MatchInstance.shifted]
    omega

end MatchInstance

/-! ### Searches give spans -/

namespace Regex

variable {p : Program} {text : List Char} {x stop : Cursor} {fuel : Nat}

theorem Program.Accepts.liesIn {a : Nat} (haccepts : p.Accepts a x stop) (hx : x.LiesIn text) :
    stop.LiesIn text ∧ x.offset ≤ stop.offset := by
  obtain ⟨n, hrun⟩ := haccepts
  induction hrun with
  | accept => exact ⟨hx, Nat.le_refl _⟩
  | step hstep _ ih =>
      cases hstep with
      | take _ hrest _ =>
          obtain ⟨hstop, hle⟩ := ih (hx.past hrest)
          exact ⟨hstop, (Nat.le_add_right _ _).trans hle⟩
      | _ => exact ih hx

/-- What was found starts and stops in the text, in this order. -/
structure Found.LiesIn (found : Found) (text : List Char) : Prop where
  start : found.start.LiesIn text
  stop : found.stop.LiesIn text
  ordered : found.start.offset ≤ found.stop.offset

theorem Found.liesIn_of_explore {origin : Nat} {seen : Visited} {slots : Slots} (hx : x.LiesIn text)
    (hexplore : explore p origin fuel [⟨0, x, []⟩] seen = .ok (stop, slots)) :
    Found.LiesIn ⟨x, stop, slots⟩ text := by
  obtain ⟨t, ht, haccepts⟩ := Program.accepts_of_explore hexplore
  obtain rfl := List.mem_singleton.mp ht
  obtain ⟨hstop, hle⟩ := haccepts.liesIn hx
  exact ⟨hx, hstop, hle⟩

variable {found : Found}

theorem liesIn_of_firstFrom {origin : Nat} {seen : Visited} {before : Option Char}
    {rest : List Char} {offset : Nat} (hplace : Cursor.LiesIn text ⟨before, rest, offset⟩)
    (hfound : firstFrom p fuel origin seen before rest offset = some found) :
    found.LiesIn text := by
  induction rest generalizing origin seen before offset with
  | nil =>
      unfold firstFrom at hfound
      simp only at hfound
      split at hfound
      · next hexplore =>
          cases hfound
          exact Found.liesIn_of_explore hplace hexplore
      · cases hfound
  | cons c rest ih =>
      unfold firstFrom at hfound
      simp only at hfound
      split at hfound
      · next hexplore =>
          cases hfound
          exact Found.liesIn_of_explore hplace hexplore
      · have hnext : Cursor.LiesIn text ⟨some c, rest, offset + c.utf8Size⟩ := hplace.past rfl
        split at hfound
        · exact ih hnext hfound
        · exact ih hnext hfound

theorem liesIn_of_nextFrom {last : Option Nat} (hx : x.LiesIn text)
    (hfound : nextFrom p fuel x last = some found) : found.LiesIn text := by
  unfold nextFrom at hfound
  split at hfound
  · cases hfound
  · next first hfirst =>
      split at hfound
      · obtain ⟨y, hadvance, hsecond⟩ := Option.bind_eq_some_iff.mp hfound
        unfold Cursor.advance at hadvance
        split at hadvance
        · cases hadvance
        · next hrest =>
            cases hadvance
            exact liesIn_of_firstFrom (hx.past hrest) hsecond
      · cases hfound
        exact liesIn_of_firstFrom hx hfirst

theorem liesIn_of_mem_allFrom {limit : Nat} {last : Option Nat} {all : List Found}
    (hx : x.LiesIn text) (hall : allFrom p fuel limit x last = some all) (hfound : found ∈ all) :
    found.LiesIn text := by
  induction limit generalizing x last all with
  | zero =>
      unfold allFrom at hall
      split at hall
      · cases hall
        cases hfound
      · cases hall
  | succ limit ih =>
      unfold allFrom at hall
      split at hall
      · cases hall
        cases hfound
      · next first hfirst =>
          have hlies := liesIn_of_nextFrom hx hfirst
          obtain ⟨more, hmore, rfl⟩ := Option.map_eq_some_iff.mp hall
          rcases List.mem_cons.mp hfound with rfl | hfound
          · exact hlies
          · exact ih hlies.stop hmore hfound

theorem Found.LiesIn.exists_split (hfound : found.LiesIn text) :
    ∃ before after, text = before ++ (found.text.toList ++ after) ∧
      byteSize before = found.start.offset ∧
      found.start.offset + byteSize found.text.toList = found.stop.offset := by
  obtain ⟨⟨before, htext, _, hstart⟩, ⟨front, htext', _, hstop⟩, hordered⟩ := hfound
  obtain ⟨taken, rfl⟩ := isPrefix_of_byteSize_le (htext.symm.trans htext') (by omega)
  have hrest : found.start.rest = taken ++ found.stop.rest := by
    rw [htext, List.append_assoc, List.append_cancel_left_eq] at htext'
    exact htext'
  rw [byteSize_append] at hstop
  have htaken : found.text = String.ofList taken := by
    have hsize : found.stop.offset - found.start.offset = byteSize taken := by omega
    rw [Found.text, Found.slice, Nat.sub_self, dropBytes_zero, hsize, hrest, takeBytes_append]
  rw [htaken, String.toList_ofList]
  exact ⟨before, found.stop.rest, by rw [htext, hrest], hstart.symm, by omega⟩

end Regex

/-- The engine gives spans of the texts it is asked about. -/
def QueryEngine.FindsSpans (e : QueryEngine) : Prop :=
  ∀ language query text found, e.run language query text = .ok (.ok found) →
    ∀ m ∈ found, m.IsSpanOf text

theorem TextRule.isSpanOf_of_findAll {rule : TextRule} {text : String} {limit : Nat}
    {found : List MatchInstance} (hfound : rule.findAll text limit = .ok found) {m : MatchInstance}
    (hm : m ∈ found) : m.IsSpanOf text := by
  unfold findAll at hfound
  simp only at hfound
  split at hfound
  · next all hall =>
      cases hfound
      obtain ⟨f, hf, rfl⟩ := List.mem_map.mp hm
      have hlies := Regex.liesIn_of_mem_allFrom (Regex.Cursor.liesIn_start text.toList) hall hf
      obtain ⟨before, after, hsplit, hstart, hstop⟩ := hlies.exists_split
      exact MatchInstance.isSpanOf_of_split hsplit hstart hstop
  · cases hfound

namespace RulePattern

variable {p : RulePattern} {text : String} {found : List MatchInstance} {m : MatchInstance}

theorem isSpanOf_extended (hm : m.IsSpanOf text) : (p.extended m).IsSpanOf text := by
  unfold extended
  split
  · exact ⟨hm.ordered, hm.inside, hm.slice⟩
  · exact hm

theorem isSpanOf_of_matchWith {rule : TextRule} (hmatch : p.matchWith rule text = .ok found)
    (hm : m ∈ found) : m.IsSpanOf text := by
  unfold matchWith at hmatch
  cases hall : rule.findAll text p.maxMatches with
  | error e =>
      rw [hall] at hmatch
      cases hmatch
  | ok all =>
      rw [hall] at hmatch
      cases hmatch
      obtain ⟨n, hn, rfl⟩ := List.mem_map.mp hm
      exact isSpanOf_extended (TextRule.isSpanOf_of_findAll hall hn)

theorem isSpanOf_of_matchUnit (hengine : p.engine.FindsSpans)
    (hmatch : p.matchUnit text = .ok (.ok found)) (hm : m ∈ found) : m.IsSpanOf text := by
  unfold matchUnit at hmatch
  split at hmatch
  · exact isSpanOf_of_matchWith (Except.ok.inj hmatch) hm
  · unfold matchQuery at hmatch
    split at hmatch
    · cases hmatch
    · cases hmatch
    · next all hrun =>
        split at hmatch
        · cases hmatch
        · split at hmatch
          · exact isSpanOf_of_matchWith (Except.ok.inj hmatch) hm
          · cases hmatch
            obtain ⟨n, hn, rfl⟩ := List.mem_map.mp hm
            exact isSpanOf_extended (hengine _ _ _ _ hrun n hn)

/-- Only the engine interrupts the match of a unit. -/
theorem exists_interrupted {i : Interruption} (hmatch : p.matchUnit text = .error i) :
    ∃ query, p.engine.run p.language query text = .error i := by
  unfold matchUnit at hmatch
  split at hmatch
  · cases hmatch
  · unfold matchQuery at hmatch
    split at hmatch
    · next hrun =>
        cases hmatch
        exact ⟨_, hrun⟩
    · cases hmatch
    · split at hmatch
      · cases hmatch
      · split at hmatch <;> cases hmatch

end RulePattern

namespace MatchRecovery

open TextWindows

variable {p : RulePattern} {source : String} {s : RecoverySettings} {found : List MatchInstance}
  {kind : FailureKind} {i : Interruption}

def windowsOf (s : RecoverySettings) (source : String) (k : Nat) : List Window :=
  split source (attemptSize s k) (min s.overlap (attemptSize s k - 1))

theorem liesIn_of_mem_windowsOf {k : Nat} {w : Window} (hw : w ∈ windowsOf s source k) :
    w.LiesIn source.toList :=
  liesIn_of_mem_split (attemptSize_pos s k) hw

theorem isSpanOf_of_mem_byWindows (hengine : p.engine.FindsSpans)
    (hfound : byWindows p s source = .ok (.ok found)) {m : MatchInstance} (hm : m ∈ found) :
    m.IsSpanOf source := by
  obtain ⟨k, _, ⟨all, hall, rfl⟩, _⟩ := exists_firstSuccess hfound
  -- Whatever is kept was found in one of the windows, and is shifted with it.
  obtain ⟨front, w, rest, here, hsplit, hhere, huncut⟩ :=
    exists_uncut_of_mem hall (mem_of_mem_keepOutermost hm)
  obtain ⟨n, hn, rfl, _⟩ := mem_uncut.mp huncut
  have hw : w ∈ windowsOf s source k := by
    rw [show windowsOf s source k = front ++ w :: rest from hsplit]
    exact List.mem_append_right front List.mem_cons_self
  have hspan := RulePattern.isSpanOf_of_matchUnit hengine hhere hn
  exact hspan.shifted (liesIn_of_mem_windowsOf hw)

theorem pairwise_byWindows (hfound : byWindows p s source = .ok (.ok found)) :
    found.Pairwise fun m n => m.start < n.start ∧ m.stop < n.stop := by
  obtain ⟨k, _, ⟨all, _, rfl⟩, _⟩ := exists_firstSuccess hfound
  exact (pairwise_start_keepOutermost all).and (pairwise_stop_keepOutermost all)

theorem exists_interrupted_of_matchWindows {before : Option Window} {ws : List Window}
    (hmatch : matchWindows p before ws = .error i) :
    ∃ w ∈ ws, p.matchUnit w.text = .error i := by
  induction ws generalizing before with
  | nil => cases hmatch
  | cons w rest ih =>
      unfold matchWindows at hmatch
      split at hmatch
      · next hunit =>
          cases hmatch
          exact ⟨w, List.mem_cons_self, hunit⟩
      · cases hmatch
      · split at hmatch
        · next hmore =>
            cases hmatch
            obtain ⟨v, hv, hunit⟩ := ih hmore
            exact ⟨v, List.mem_cons_of_mem w hv, hunit⟩
        · cases hmatch
        · cases hmatch

theorem exists_interrupted_of_attempts {overlap more size : Nat} {last : MatchError}
    (hattempts : attempts p overlap source more size last = .error i) :
    ∃ k < more, attempt p overlap source ((fun size => max (size / 2) 1)^[k] size) = .error i := by
  induction more generalizing size last with
  | zero => cases hattempts
  | succ more ih =>
      unfold attempts at hattempts
      split at hattempts
      · next hfirst =>
          cases hattempts
          exact ⟨0, Nat.succ_pos more, hfirst⟩
      · cases hattempts
      · obtain ⟨k, hk, hlater⟩ := ih hattempts
        exact ⟨k + 1, Nat.succ_lt_succ hk, by rwa [Function.iterate_succ_apply]⟩

/-- Recovery is interrupted by the engine only, while it works at one of the windows. -/
theorem exists_interrupted_of_recover (hrecover : recover p s kind source = .error i) :
    ∃ k < max s.retries 1, ∃ w ∈ windowsOf s source k, ∃ query,
      p.engine.run p.language query w.text = .error i := by
  have hwindows : byWindows p s source = .error i := by
    unfold recover at hrecover
    split at hrecover
    · exact hrecover
    · split at hrecover
      · cases hrecover
      · cases hrecover
      · exact hrecover
  obtain ⟨k, hk, hattempt⟩ := exists_interrupted_of_attempts hwindows
  obtain ⟨w, hw, hunit⟩ := exists_interrupted_of_matchWindows hattempt
  exact ⟨k, hk, w, hw, RulePattern.exists_interrupted hunit⟩

theorem isSpanOf_of_withRule {rule : String} (hfound : withRule p rule source = .ok found)
    {m : MatchInstance} (hm : m ∈ found) : m.IsSpanOf source := by
  unfold withRule at hfound
  split at hfound
  · exact RulePattern.isSpanOf_of_matchWith hfound hm
  · cases hfound

theorem isSpanOf_of_mem_recover (hengine : p.engine.FindsSpans)
    (hfound : recover p s kind source = .ok (.ok found)) {m : MatchInstance} (hm : m ∈ found) :
    m.IsSpanOf source := by
  unfold recover at hfound
  split at hfound
  · exact isSpanOf_of_mem_byWindows hengine hfound hm
  · split at hfound
    · exact isSpanOf_of_withRule (Except.ok.inj hfound) hm
    · exact isSpanOf_of_withRule (Except.ok.inj hfound) hm
    · exact isSpanOf_of_mem_byWindows hengine hfound hm

theorem findsSpans_shortSightedReader (limit : Nat) : (shortSightedReader limit).FindsSpans := by
  intro language query text found hrun m hm
  simp only [shortSightedReader] at hrun
  split at hrun
  · cases hrun
    obtain ⟨before, after, hspells, _⟩ :=
      (LiteralSearch.isRunList_lowercaseRuns text).sound m hm
    exact MatchInstance.isSpanOf_of_split hspells.split hspells.start_eq.symm hspells.stop_eq.symm
  · cases hrun

end MatchRecovery

namespace Pattern

open MatchRecovery

variable {p : Pattern} {a : Adaptation} {r : Recovery}

/-- What a resilient pattern answers where the match of a source failed are spans of the source, and
where it was matched by windows their bounds advance.  The answer is missing only if the engine was
interrupted at one of the windows, and all windows that are tried are slices of the source. -/
theorem recovered_are_spans (hmode : p.mode = .resilient a r)
    (hengine : p.core.engine.FindsSpans) {source : String} {context : Option MatchContext}
    {time : MatchTime} {failure : MatchError}
    (hfails : ((p.ruleFor context time).run source context time).1 = .ok (.error failure)) :
    (∀ found, (p.matchSource source context time).answer = .ok found →
      (∀ m ∈ found, m.IsSpanOf source ∧ m.recovered = true) ∧
        (SentToWindows (p.ruleFor context time) failure.kind →
          found.Pairwise fun m n => m.start < n.start ∧ m.stop < n.stop)) ∧
      (∀ i, (p.matchSource source context time).answer = .error i →
        ∃ k < max r.settings.retries 1, ∃ w ∈ windowsOf r.settings source k, ∃ language query,
          p.core.engine.run language query w.text = .error i) ∧
      ∀ k, ∀ w ∈ windowsOf r.settings source k, w.start ≤ w.stop ∧ w.IsSlice source := by
  obtain ⟨b, hbefore⟩ := beforeMatch_resilient hmode context time.now
  have hsame := RulePattern.sameRule_run (p := p.ruleFor context time) source context time
  have hready : (p.ruleFor context time).engine = p.core.engine := by
    rw [ruleFor, core_beforeMatch p source context time]
    exact RulePattern.engine_foldl_installed _ _
  have hwindows : ∀ k, ∀ w ∈ windowsOf r.settings source k, w.start ≤ w.stop ∧ w.IsSlice source := by
    intro k w hw
    have hlies := liesIn_of_mem_windowsOf hw
    obtain ⟨_, _, _, _, hstop⟩ := id hlies
    exact ⟨by omega, hlies.isSlice⟩
  cases hrun : (p.ruleFor context time).run source context time with
  | mk outcome core =>
      rw [hrun] at hfails hsame
      simp only at hfails hsame
      subst hfails
      have hcore : core.engine = p.core.engine := hsame.engine.trans hready
      unfold ruleFor at hrun
      simp only [matchSource, hrun, afterFailure, hbefore]
      rcases hrecover : recover core r.settings failure.kind source with i | e | found
      · refine ⟨by simp, ?_, hwindows⟩
        rintro _ ⟨⟩
        obtain ⟨k, hk, w, hw, query, hengine⟩ := exists_interrupted_of_recover hrecover
        exact ⟨k, hk, w, hw, core.language, query, hcore ▸ hengine⟩
      · exact ⟨by simp, by simp, hwindows⟩
      · refine ⟨?_, by simp, hwindows⟩
        rintro _ ⟨⟩
        refine ⟨fun m hm => ?_, fun hsent => ?_⟩
        · obtain ⟨n, hn, rfl⟩ := List.mem_map.mp hm
          have hspan := isSpanOf_of_mem_recover (hcore ▸ hengine) hrecover hn
          exact ⟨⟨hspan.ordered, hspan.inside, hspan.slice⟩, rfl⟩
        · rw [recover_eq_byWindows (by rwa [SentToWindows, hsame.textRule])] at hrecover
          exact List.pairwise_map.mpr (pairwise_byWindows hrecover)

theorem recovered_are_spans_wide :
    ∃ found, ((Pattern.resilient (shortSightedReading 6) .standard ⟨8, 2, 2⟩).matchSource
        "é ab ef ü gh" none ⟨⟨0, 0⟩, 0⟩).answer = .ok found ∧ found ≠ [] ∧
      (∀ m ∈ found, m.IsSpanOf "é ab ef ü gh" ∧ m.recovered = true) ∧
      found.Pairwise fun m n => m.start < n.start ∧ m.stop < n.stop := by
  have hengine : (shortSightedReading 6).engine.FindsSpans := findsSpans_shortSightedReader 6
  have hfails : (((Pattern.resilient (shortSightedReading 6) .standard ⟨8, 2, 2⟩).ruleFor none
      ⟨⟨0, 0⟩, 0⟩).run "é ab ef ü gh" none ⟨⟨0, 0⟩, 0⟩).1 = .ok (.error _) := rfl
  obtain ⟨hfound, _⟩ := recovered_are_spans (r := ⟨⟨8, 2, 2⟩, .empty⟩) rfl hengine hfails
  let kept := keepOutermost [.plain "ab" 3 5, .plain "gh" 12 14]
  have hanswer : ((Pattern.resilient (shortSightedReading 6) .standard ⟨8, 2, 2⟩).matchSource
      "é ab ef ü gh" none ⟨⟨0, 0⟩, 0⟩).answer =
        .ok (kept.map fun m => { m with recovered := true }) := rfl
  obtain ⟨hspans, hadvance⟩ := hfound _ hanswer
  refine ⟨_, hanswer, ?_, hspans, hadvance (Or.inl rfl)⟩
  have hmem : MatchInstance.plain "ab" 3 5 ∈ [.plain "ab" 3 5, .plain "gh" 12 14] :=
    List.mem_cons_self
  obtain ⟨k, hk, _⟩ := exists_covers_keepOutermost hmem
  exact List.ne_nil_of_mem (List.mem_map_of_mem hk)

end Pattern
end AdaptiveRules
