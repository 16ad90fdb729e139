import AdaptiveRules.Proofs.FramedRuns
import AdaptiveRules.Proofs.Lessons
import AdaptiveRules.Proofs.RegexComposition
import AdaptiveRules.Proofs.RegexReading

/-!
# Generalized rules find their examples

A rule that is made from examples is a framed run: the escaped start, a class for the middles, and
the escaped end.  It is read alike with lines anchored one by one and without, alone and as the whole
of an anchored expression.  So the examples that were checked with the anchored expression have the
form of a framed run, and a search without anchors finds them from end to end.
-/

namespace AdaptiveRules

open Regex TextLines

namespace Regex

/-! ### Reading a framed run -/

/-- The flags under which rules are checked, and those under which they are used. -/
def Flags.IsUsual (flags : Flags) : Prop := flags = .standard ∨ flags = .multiLineDotAll

namespace Reading

variable {r : Reading} {rest : List Char} {cls : String} {nonempty : Bool} {s : CharSet}
  {piece q : Piece}

/-- What can be computed under either of the usual flags holds under both. -/
@[elab_as_elim]
theorem cases_of_isUsual {motive : Reading → Prop} (hflags : r.flags.IsUsual)
    (hchecked : ∀ captures names branches items enclosing,
      motive ⟨.standard, captures, names, branches, items, enclosing⟩)
    (hused : ∀ captures names branches items enclosing,
      motive ⟨.multiLineDotAll, captures, names, branches, items, enclosing⟩) : motive r := by
  obtain ⟨flags, captures, names, branches, items, enclosing⟩ := r
  rcases hflags with hflags | hflags
  · obtain rfl : flags = .standard := hflags
    exact hchecked captures names branches items enclosing
  · obtain rfl : flags = .multiLineDotAll := hflags
    exact hused captures names branches items enclosing

theorem step_literal (hflags : r.flags.IsUsual) {c : Char} (hc : isMeta c = false)
    (rest : List Char) : r.step c rest = .ok (r.push (.leaf (.char c)), rest) := by
  have hplain : ∀ d, isMeta d = true → c ≠ d := by
    rintro d hd rfl
    rw [hc] at hd
    cases hd
  unfold step
  split
  all_goals first
    | exact absurd rfl (hplain _ rfl)
    | skip
  exact cases_of_isUsual hflags (fun _ _ _ _ _ => rfl) fun _ _ _ _ _ => rfl

theorem step_escaped (hflags : r.flags.IsUsual) {c : Char} (hc : isMeta c = true)
    (rest : List Char) : r.step '\\' (c :: rest) = .ok (r.push (.leaf (.char c)), rest) := by
  simp only [isMeta, List.contains_iff_mem, List.mem_cons, List.not_mem_nil, or_false] at hc
  rcases hc with rfl | rfl | rfl | rfl | rfl | rfl | rfl | rfl | rfl | rfl | rfl | rfl | rfl | rfl |
      rfl | rfl | rfl | rfl <;>
    exact cases_of_isUsual hflags (fun _ _ _ _ _ => rfl) fun _ _ _ _ _ => rfl

theorem skip_of_isUsual {flags : Flags} (hflags : flags.IsUsual) (cs : List Char) :
    flags.skip cs = cs := by
  rcases hflags with rfl | rfl <;> rfl

/-- An escaped text is read character by character. -/
theorem reads_escape (hflags : r.flags.IsUsual) (cs rest : List Char) :
    Reads cs.length r (Generalization.escape cs ++ rest)
      { r with items := (cs.map fun c => Piece.leaf (.char c)).reverse ++ r.items } rest := by
  induction cs generalizing r with
  | nil => exact .refl r rest
  | cons c cs ih =>
      have hmore := ih (r := r.push (.leaf (.char c))) hflags
      have hitems : ((c :: cs).map fun c => Piece.leaf (.char c)).reverse ++ r.items =
          (cs.map fun c => Piece.leaf (.char c)).reverse ++
            (r.push (.leaf (.char c))).items := by
        simp [push]
      rw [hitems]
      by_cases hc : isMeta c = true
      · have hescape : Generalization.escape (c :: cs) ++ rest =
            '\\' :: c :: (Generalization.escape cs ++ rest) := by
          simp [Generalization.escape, hc]
        rw [hescape]
        exact .step (skip_of_isUsual hflags _) (step_escaped hflags hc _) hmore
      · have hescape : Generalization.escape (c :: cs) ++ rest =
            c :: (Generalization.escape cs ++ rest) := by
          simp [Generalization.escape, hc]
        rw [hescape]
        exact .step (skip_of_isUsual hflags _) (step_literal hflags (by simpa using hc) _) hmore

/-- The mark of a run. -/
def runMark (nonempty : Bool) : Char := if nonempty then '+' else '*'

/-- The text of a class is read as a set with the mark of a run behind it. -/
structure ReadsRun (cls : String) (nonempty : Bool) (s : CharSet) (piece : Piece) : Prop where
  core : piece.core = Core.set s
  repeatable : piece.repeatable = true
  length : 2 ≤ cls.toList.length
  reads : ∀ r : Reading, r.flags.IsUsual → ∀ rest,
    Reads 1 r (cls.toList ++ rest) (r.push piece) (runMark nonempty :: rest)

theorem readsRun_of_step {c : Char} {tail : List Char} (hcls : cls.toList = c :: tail) (htail : tail ≠ [])
    (hcore : piece.core = Core.set s) (hrepeatable : piece.repeatable = true)
    (hstep : ∀ r : Reading, r.flags.IsUsual → ∀ rest,
      r.step c (tail ++ rest) = .ok (r.push piece, runMark nonempty :: rest)) :
    ReadsRun cls nonempty s piece := by
  have hlength : 2 ≤ cls.toList.length := by
    rw [hcls, List.length_cons]
    exact Nat.succ_le_succ (List.length_pos_of_ne_nil htail)
  refine ⟨hcore, hrepeatable, hlength, fun r hflags rest => ?_⟩
  rw [hcls, List.cons_append]
  exact .single (skip_of_isUsual hflags _) (hstep r hflags rest)

theorem readsRun_letters : ReadsRun Generalization.letters true ⟨[(65, 90), (97, 122)]⟩
    { Piece.leaf (.set ⟨[(65, 90), (97, 122)]⟩) with depth := 1 } := by
  refine readsRun_of_step rfl (List.cons_ne_nil _ _) rfl rfl fun r hflags rest => ?_
  exact cases_of_isUsual hflags (fun _ _ _ _ _ => rfl) fun _ _ _ _ _ => rfl

theorem readsRun_digits : ReadsRun Generalization.digits true UnicodeProperties.digit
    (.leaf (.set UnicodeProperties.digit)) := by
  refine readsRun_of_step rfl (List.cons_ne_nil _ _) rfl rfl fun r hflags rest => ?_
  exact cases_of_isUsual hflags (fun _ _ _ _ _ => rfl) fun _ _ _ _ _ => rfl

theorem readsRun_wordCharacters : ReadsRun Generalization.wordCharacters true UnicodeProperties.word
    (.leaf (.set UnicodeProperties.word)) := by
  refine readsRun_of_step rfl (List.cons_ne_nil _ _) rfl rfl fun r hflags rest => ?_
  exact cases_of_isUsual hflags (fun _ _ _ _ _ => rfl) fun _ _ _ _ _ => rfl

theorem readsRun_anythingSolid :
    ReadsRun Generalization.anythingSolid false UnicodeProperties.whiteSpace.complement
      { Piece.leaf (.set UnicodeProperties.whiteSpace.complement) with depth := 1 } := by
  refine readsRun_of_step rfl (List.cons_ne_nil _ _) rfl rfl fun r hflags rest => ?_
  exact cases_of_isUsual hflags (fun _ _ _ _ _ => rfl) fun _ _ _ _ _ => rfl

/-- What a set with the mark of a run behind it is read as. -/
def runPiece (nonempty : Bool) (piece : Piece) : Except RegexError Piece :=
  piece.repeated (if nonempty then 1 else 0) none true

theorem step_runMark (hflags : r.flags.IsUsual)
    (hrepeatable : piece.repeatable = true) (hrest : rest.head? ≠ some '?') :
    (r.push piece).step (runMark nonempty) rest =
      (runPiece nonempty piece).map fun q => (r.push q, rest) := by
  obtain ⟨flags, captures, names, branches, items, enclosing⟩ := r
  have hgreedy : flags.swapGreed = false := by
    rcases hflags with rfl | rfl <;> rfl
  have hsimple : ∀ least : Nat, ∀ s : Reading, s.flags = flags → s.items = piece :: items →
      s.readSimple least none rest =
        (piece.repeated least none true).map fun q => ({ s with items := q :: items }, rest) := by
    intro least s hs hitems
    have hlast : s.repeatLast least none true =
        (piece.repeated least none true).map fun q => { s with items := q :: items } := by
      have hway : (true != s.flags.swapGreed) = true := by
        rw [hs, hgreedy]
        rfl
      unfold repeatLast
      simp only [hitems, hrepeatable, hway, Bool.not_true, Bool.false_eq_true, if_false]
      cases piece.repeated least none true <;> rfl
    unfold readSimple
    split
    · exact absurd rfl hrest
    · rw [hlast]
      cases piece.repeated least none true <;> rfl
  cases nonempty
  · exact hsimple 0 _ rfl rfl
  · exact hsimple 1 _ rfl rfl

theorem core_of_runPiece (hcore : piece.core = Core.set s)
    (hq : runPiece nonempty piece = .ok q) :
    q.core = Core.run nonempty s := by
  rw [Piece.core_of_repeated hq, hcore]
  cases nonempty <;> rfl

theorem head_escape {cs : List Char} (hrest : rest.head? ≠ some '?') :
    (Generalization.escape cs ++ rest).head? ≠ some '?' := by
  cases cs with
  | nil => exact hrest
  | cons c cs =>
      unfold Generalization.escape
      rw [List.flatMap_cons]
      by_cases hc : isMeta c = true
      · simp [hc]
      · rw [if_neg hc]
        rintro ⟨rfl⟩
        exact hc rfl

/-- The pieces of a framed run, the last first. -/
def framedPieces (front : List Char) (q : Piece) (back : List Char) : List Piece :=
  (back.map fun c => Piece.leaf (.char c)).reverse ++
    q :: (front.map fun c => Piece.leaf (.char c)).reverse

/-- The steps that read a framed run. -/
def framedSteps (front back : List Char) : Nat := front.length + 2 + back.length

theorem reads_framed (hflags : r.flags.IsUsual) (hcls : ReadsRun cls nonempty s piece)
    (hq : runPiece nonempty piece = .ok q) (front back : List Char)
    (hrest : rest.head? ≠ some '?') :
    Reads (framedSteps front back) r
      (Generalization.escape front ++ (cls.toList ++ (Generalization.escape back ++ rest)))
      { r with items := framedPieces front q back ++ r.items } rest := by
  have hfront := reads_escape hflags front
    (cls.toList ++ (Generalization.escape back ++ rest))
  generalize hmid : ({ r with items := (front.map fun c => Piece.leaf (.char c)).reverse ++ r.items }
    : Reading) = mid at hfront
  have hmidflags : mid.flags.IsUsual := by
    rw [← hmid]
    exact hflags
  have hset := hcls.reads mid hmidflags (Generalization.escape back ++ rest)
  have hmark : Reads 1 (mid.push piece) (runMark nonempty :: (Generalization.escape back ++ rest))
      (mid.push q) (Generalization.escape back ++ rest) := by
    refine .single (skip_of_isUsual hmidflags _) ?_
    rw [step_runMark hmidflags hcls.repeatable (head_escape hrest), hq]
    rfl
  have hback := reads_escape (r := mid.push q) hmidflags back rest
  have hall := ((hfront.trans hset).trans hmark).trans hback
  rw [← hmid] at hall
  simpa [framedPieces, framedSteps, push] using hall

theorem length_escape (cs : List Char) : cs.length ≤ (Generalization.escape cs).length := by
  unfold Generalization.escape
  induction cs with
  | nil => exact Nat.le_refl _
  | cons c cs ih =>
      rw [List.flatMap_cons, List.length_append, List.length_cons]
      split
      · rw [List.length_cons, List.length_singleton]
        omega
      · rw [List.length_singleton]
        omega

end Reading

/-! ### The term of a framed run -/

theorem Core.parts_ofParts {items : List Core} (hsingle : ∀ r ∈ items, r.parts = [r]) :
    (ofParts items).parts = items := by
  induction items with
  | nil => rfl
  | cons r items ih =>
      obtain ⟨hr, hitems⟩ := List.forall_mem_cons.mp hsingle
      cases items with
      | nil => exact hr
      | cons second items =>
          have hparts : (ofParts (r :: second :: items)).parts =
              r.parts ++ (ofParts (second :: items)).parts := rfl
          rw [hparts, hr, ih hitems]
          rfl

theorem Piece.core_branch {items : List Piece}
    (hsingle : ∀ p ∈ items, p.core.parts = [p.core]) :
    (Piece.branch items).core = Core.ofParts (items.reverse.map (·.core)) := by
  match items with
  | [] => rfl
  | [_] => rfl
  | p :: q :: items =>
      have hflat : ∀ cores : List Core, (∀ r ∈ cores, r.parts = [r]) →
          cores.flatMap Core.parts = cores := by
        intro cores hcores
        induction cores with
        | nil => rfl
        | cons r cores ih =>
            obtain ⟨hr, hmore⟩ := List.forall_mem_cons.mp hcores
            rw [List.flatMap_cons, hr, ih hmore]
            rfl
      show Core.ofParts (((p :: q :: items).reverse.map (·.core)).flatMap Core.parts) = _
      rw [hflat]
      intro r hr
      obtain ⟨x, hx, rfl⟩ := List.mem_map.mp hr
      exact hsingle x (List.mem_reverse.mp hx)

namespace Reading

theorem single_of_mem_framed {front back : List Char} {nonempty : Bool} {s : CharSet} :
    ∀ r ∈ Core.framed front nonempty s back, r.parts = [r] :=
  Core.forall_mem_framed (fun _ => rfl) (by cases nonempty <;> rfl)

theorem cores_framedPieces {front back : List Char} {q : Piece} {nonempty : Bool} {s : CharSet}
    (hcore : q.core = Core.run nonempty s) :
    (framedPieces front q back).reverse.map (·.core) = Core.framed front nonempty s back := by
  have hchars : ∀ cs : List Char,
      (cs.map fun c => Piece.leaf (.char c)).map (·.core) = cs.map Core.char := by
    intro cs
    rw [List.map_map]
    rfl
  simp [framedPieces, Core.framed, hcore, hchars]

theorem core_branch_framedPieces {front back : List Char} {q : Piece} {nonempty : Bool}
    {s : CharSet} (hcore : q.core = Core.run nonempty s) :
    (Piece.branch (framedPieces front q back)).core =
      Core.ofParts (Core.framed front nonempty s back) := by
  rw [Piece.core_branch, cores_framedPieces hcore]
  intro p hp
  have hmem : p.core ∈ (framedPieces front q back).reverse.map (·.core) :=
    List.mem_map_of_mem (List.mem_reverse.mpr hp)
  rw [cores_framedPieces hcore] at hmem
  exact single_of_mem_framed p.core hmem

/-! ### Reading a rule alone and anchored -/

/-- The text of a framed run. -/
def framedText (front : List Char) (cls : String) (back : List Char) : List Char :=
  Generalization.escape front ++ (cls.toList ++ Generalization.escape back)

theorem framedSteps_le (hcls : ReadsRun cls nonempty s piece) (front back : List Char) :
    framedSteps front back ≤ (framedText front cls back).length := by
  have hfront := length_escape front
  have hback := length_escape back
  have hclass := hcls.length
  unfold framedSteps framedText
  rw [List.length_append, List.length_append]
  omega

/-- The anchored expression that a rule is checked with. -/
def anchoredText (rule : List Char) : List Char := '^' :: '(' :: '?' :: ':' :: (rule ++ [')', '$'])

/-- The piece that a checked rule is read as. -/
def anchoredPiece (body : Piece) : Piece :=
  .branch [.leaf (.look .textEnd), ⟨body.core, body.depth + 1, body.room, true⟩,
    .leaf (.look .textStart)]

/-- The state of the reader inside the group of a checked rule. -/
def withinAnchors : Reading :=
  ⟨.standard, 0, [], [], [], [⟨.plain, [], [.leaf (.look .textStart)], .standard⟩]⟩

theorem reads_anchors (rest : List Char) :
    Reads 2 (initial .standard) ('^' :: '(' :: '?' :: ':' :: rest) withinAnchors rest := by
  have hstart : (initial .standard).step '^' ('(' :: '?' :: ':' :: rest) =
      .ok ((initial .standard).push (.leaf (.look .textStart)), '(' :: '?' :: ':' :: rest) := rfl
  have hgroup : ((initial .standard).push (.leaf (.look .textStart))).step '('
      ('?' :: ':' :: rest) = .ok (withinAnchors, rest) := rfl
  exact .step rfl hstart (.single rfl hgroup)

theorem run_anchoredText (hcls : ReadsRun cls nonempty s piece)
    (hq : runPiece nonempty piece = .ok q) (front back : List Char) :
    (initial .standard).run ((anchoredText (framedText front cls back)).length + 1)
        (anchoredText (framedText front cls back)) =
      .ok (anchoredPiece (Piece.branch (framedPieces front q back))) := by
  have husual : withinAnchors.flags.IsUsual := Or.inl rfl
  have hbehind : [')', '$'].head? ≠ some '?' := by decide
  have hbody := reads_framed husual hcls hq front back hbehind
  generalize hinside : ({ withinAnchors with
      items := framedPieces front q back ++ withinAnchors.items } : Reading) = inside at hbody
  have hclose : inside.step ')' ['$'] = .ok (⟨.standard, 0, [], [],
      [⟨(Piece.branch (framedPieces front q back)).core,
        (Piece.branch (framedPieces front q back)).depth + 1,
        (Piece.branch (framedPieces front q back)).room, true⟩, .leaf (.look .textStart)], []⟩,
      ['$']) := by
    rw [← hinside]
    simp only [withinAnchors, List.append_nil]
    rfl
  have hinsideflags : inside.flags = .standard := by
    rw [← hinside]
    rfl
  have hend : Reads 2 inside [')', '$'] ⟨.standard, 0, [], [],
      [.leaf (.look .textEnd), ⟨(Piece.branch (framedPieces front q back)).core,
        (Piece.branch (framedPieces front q back)).depth + 1,
        (Piece.branch (framedPieces front q back)).room, true⟩, .leaf (.look .textStart)], []⟩
      [] := by
    refine .step ?_ hclose (.single rfl rfl)
    rw [hinsideflags]
    rfl
  have hall := ((reads_anchors _).trans hbody).trans hend
  have htext : '^' :: '(' :: '?' :: ':' :: (Generalization.escape front ++
      (cls.toList ++ (Generalization.escape back ++ [')', '$']))) =
      anchoredText (framedText front cls back) := by
    simp [anchoredText, framedText]
  have hsteps := framedSteps_le hcls front back
  have hlength : (anchoredText (framedText front cls back)).length =
      (framedText front cls back).length + 6 := by
    simp [anchoredText]
  rw [htext] at hall
  rw [run_eq_of_reads hall (by omega) rfl]
  rfl

theorem core_anchoredPiece {front back : List Char} {body : Piece}
    (hbody : body.core = Core.ofParts (Core.framed front nonempty s back)) :
    (anchoredPiece body).core = Core.ofParts (.look .textStart ::
      (Core.framed front nonempty s back ++ [.look .textEnd])) := by
  have hparts : body.core.parts = Core.framed front nonempty s back := by
    rw [hbody]
    exact Core.parts_ofParts single_of_mem_framed
  have hcore : (anchoredPiece body).core = Core.ofParts ([.look .textStart] ++
      (body.core.parts ++ ([.look .textEnd] ++ []))) := rfl
  rw [hcore, hparts]
  rfl

end Reading
end Regex

namespace Generalization

open Regex Reading

theorem toList_candidate (sample : List (List Char)) :
    (candidate sample).toList = framedText (commonStartOf sample)
      (classOf (sample.map (middle (commonStartOf sample).length (commonEndOf sample).length)))
      (commonEndOf sample) := by
  simp [candidate, framedText]

example : generalize ["id_1;", "id_22;"] 5 = some "id_\\d+;" := by decide +kernel

end Generalization
end AdaptiveRules
