import AdaptiveRules.Proofs.RegexInclusion
import AdaptiveRules.Proofs.RegexSearching

/-!
# Relaxed rules

Relaxing a rule rewrites its text: `+` and `{2,}` become `*`, and anchors are dropped.  Where these
characters are operators, each of them a sign of its own, and no anchor is repeated, the relaxed rule
is read side by side with the rule itself, and finds something wherever the rule does.
-/

namespace AdaptiveRules

open Regex TextLines

namespace Regex

def Token.IsAnchor (t : Token) : Prop := t.sign = '^' ∨ t.sign = '$'

instance (t : Token) : Decidable t.IsAnchor := inferInstanceAs (Decidable (_ ∨ _))

/-- The text that stands for the sign in a relaxed rule. -/
def Token.relaxed (t : Token) : List Char :=
  match t.sign, t.tail with
  | '+', tail => '*' :: tail
  | '{', '2' :: ',' :: '}' :: tail => '*' :: tail
  | '^', _ => []
  | '$', _ => []
  | c, tail => c :: tail

theorem Token.relaxed_cases (t : Token) :
    (t.IsAnchor ∧ t.relaxed = []) ∨
      (∃ tail, t.relaxed = '*' :: tail ∧
        (t.text = '+' :: tail ∨ t.text = '{' :: '2' :: ',' :: '}' :: tail)) ∨
      t.relaxed = t.text := by
  unfold relaxed
  split
  · next heq => exact Or.inr (Or.inl ⟨_, rfl, Or.inl (by rw [text, heq])⟩)
  · next heq htail => exact Or.inr (Or.inl ⟨_, rfl, Or.inr (by rw [text, heq, htail])⟩)
  · next heq => exact Or.inl ⟨Or.inl heq, rfl⟩
  · next heq => exact Or.inl ⟨Or.inr heq, rfl⟩
  · exact Or.inr (Or.inr rfl)

/-- The signs, read one by one without blanks, where no anchor is repeated. -/
structure RelaxesSigns (signs : List Token) : Prop where
  unspaced : ∀ t ∈ signs, t.flags.spaced = false
  unrepeated : signs.IsChain fun t next => t.IsAnchor → ¬ next.Repeats

instance (signs : List Token) : Decidable (RelaxesSigns signs) :=
  decidable_of_iff (_ ∧ _)
    ⟨fun hboth => ⟨hboth.1, hboth.2⟩, fun hsigns => ⟨hsigns.unspaced, hsigns.unrepeated⟩⟩

theorem RelaxesSigns.tail {t : Token} {signs : List Token} (hsigns : RelaxesSigns (t :: signs)) :
    RelaxesSigns signs :=
  ⟨fun u hu => hsigns.unspaced u (List.mem_cons_of_mem t hu), hsigns.unrepeated.tail⟩

/-- Where the first sign repeats nothing, the relaxed text does not begin with a repetition. -/
theorem RelaxesSigns.head_ne {signs : List Token} (hsigns : RelaxesSigns signs)
    (hfirst : ∀ t ∈ signs.head?, ¬ t.Repeats) {c : Char} (hc : c ∈ repeatSigns) :
    (signs.flatMap Token.relaxed).head? ≠ some c := by
  induction signs with
  | nil => simp
  | cons t signs ih =>
      have hrepeats := hfirst t rfl
      rw [List.flatMap_cons]
      rcases t.relaxed_cases with ⟨hanchor, heq⟩ | ⟨tail, -, hplus | hcount⟩ | heq
      · rw [heq, List.nil_append]
        refine ih hsigns.tail fun next hnext => ?_
        obtain ⟨more, rfl⟩ := List.head?_eq_some_iff.mp hnext
        exact hsigns.unrepeated.rel hanchor
      · exact absurd (show t.sign ∈ repeatSigns by rw [(List.cons.inj hplus).1]; decide) hrepeats
      · exact absurd (show t.sign ∈ repeatSigns by rw [(List.cons.inj hcount).1]; decide) hrepeats
      · rw [heq]
        intro hhead
        exact hrepeats (show t.sign ∈ repeatSigns from Option.some.inj hhead ▸ hc)

namespace Reading

variable {r s a b u : Reading} {cs rest rest' tail : List Char} {c : Char}
  {least : Nat} {most : Option Nat}

/-! ### Counts without an upper bound -/

theorem endsRepetition_of_readCountEnd {flags : Flags} (hspaced : flags.spaced = false)
    {greedy : Bool} (hread : readCountEnd flags ('}' :: (tail ++ rest)) = .ok (greedy, rest)) :
    EndsRepetition tail rest := by
  have hskip := Flags.skip_of_not_spaced hspaced
  by_cases hhead : (tail ++ rest).head? = some '?'
  · obtain ⟨more, hcs⟩ := List.head?_eq_some_iff.mp hhead
    rw [hcs] at hread
    unfold readCountEnd at hread
    simp only [hskip] at hread
    exact endsRepetition_of_lazy hcs (congrArg Prod.snd (Except.ok.inj hread))
  · rw [readCountEnd_greedy (by rwa [hskip]), hskip] at hread
    exact endsRepetition_of_greedy hhead (congrArg Prod.snd (Except.ok.inj hread))

theorem readCount_two {flags : Flags} (hspaced : flags.spaced = false) :
    readCount flags ('2' :: ',' :: cs) = .ok (some 2, ',' :: cs) := by
  have hdigit : UnicodeProperties.isWhiteSpace '2' = false := by decide +kernel
  have hcomma : UnicodeProperties.isWhiteSpace ',' = false := by decide +kernel
  rw [readCount_eq hspaced, List.dropWhile_cons_of_neg (by simp [hdigit])]
  show countOf ['2'] ((',' :: cs).dropWhile UnicodeProperties.isWhiteSpace) = _
  rw [List.dropWhile_cons_of_neg (by simp [hcomma])]
  rfl

theorem endsRepetition_of_readCounted (hspaced : r.flags.spaced = false)
    (hread : r.readCounted ('2' :: ',' :: '}' :: (tail ++ rest)) = .ok (s, rest)) :
    EndsRepetition tail rest := by
  have hskip := Flags.skip_of_not_spaced hspaced
  obtain ⟨_, _, hitem, hcs, -, -⟩ := exists_of_readCounted hread
  rw [readCounted_eq hitem hcs (by rw [hskip]; exact readCount_two hspaced)] at hread
  have hend : r.endCount 2 none ('}' :: (tail ++ rest)) = .ok (s, rest) := by
    rw [← hread]
    show _ = r.readMost 2 (r.flags.skip _)
    rw [hskip]
    rfl
  obtain ⟨⟨greedy, left⟩, hbrace, hlast⟩ := exists_of_bind_eq_ok hend
  obtain ⟨-, rfl⟩ := exists_of_map_eq_ok hlast
  exact endsRepetition_of_readCountEnd hspaced hbrace

/-! ### Side by side -/

theorem alike_relaxed {signs : List Token} (hreads : ReadsSigns r cs signs s)
    (hsigns : RelaxesSigns signs) : Alike cs (signs.flatMap Token.relaxed) := by
  cases hreads with
  | nil => exact .nil cs
  | @cons _ s _ c tail rest signs hspaced hstep hmore =>
      obtain ⟨action, hacts, -⟩ := exists_performed hspaced hstep
      rw [List.flatMap_cons]
      rcases Token.relaxed_cases ⟨r.flags, c, tail⟩ with ⟨hanchor, heq⟩ | ⟨tail, heq, -⟩ | heq
      · have hnext : ∀ t ∈ signs.head?, ¬ t.Repeats := by
          intro t ht
          obtain ⟨more, rfl⟩ := List.head?_eq_some_iff.mp ht
          exact hsigns.unrepeated.rel hanchor
        rw [heq, List.nil_append]
        refine ⟨fun hhead => absurd hhead ?_, fun hopens => absurd hopens.1 ?_⟩
        · exact hsigns.tail.head_ne hnext (by decide)
        · exact hsigns.tail.head_ne hnext (by decide)
      · rw [heq]
        exact .of_head (by decide) (by decide) _
      · rw [heq]
        exact .of_sign hacts.braced rest _

theorem exists_step_anchor {t : Token} (hanchor : t.IsAnchor) (r : Reading) (cs : List Char) :
    ∃ a, r.step t.sign cs = .ok (r.push (.leaf (.look a)), cs) := by
  rcases hanchor with hsign | hsign
  · rw [hsign]
    exact ⟨_, rfl⟩
  · rw [hsign]
    exact ⟨_, rfl⟩

/-- A place that is looked at takes nothing away if it is dropped. -/
theorem Within.of_look (hwithin : a.Within b) (assertion : Assertion) :
    (a.push (.leaf (.look assertion))).Within b where
  flags := hwithin.flags
  branches := hwithin.branches
  items := by
    intro x z hmatches
    obtain ⟨y, hrow, _, rfl⟩ := Piece.matches_branch_cons.mp hmatches
    exact hwithin.items x y hrow
  enclosing := hwithin.enclosing

/-- The sign that the star stands for is a repetition whose end the star takes over. -/
theorem endsRepetition_of_text {t : Token} (hspaced : r.flags.spaced = false)
    (hstep : r.step t.sign (t.tail ++ rest) = .ok (s, rest))
    (htext : t.text = '+' :: tail ∨ t.text = '{' :: '2' :: ',' :: '}' :: tail) :
    t.Repeats ∧ EndsRepetition tail rest := by
  obtain ⟨flags, sign, more⟩ := t
  rcases htext with htext | htext
  · obtain ⟨rfl, rfl⟩ := List.cons.inj htext
    exact ⟨show '+' ∈ repeatSigns by decide, endsRepetition_of_readSimple hstep⟩
  · obtain ⟨rfl, rfl⟩ := List.cons.inj htext
    exact ⟨show '{' ∈ repeatSigns by decide, endsRepetition_of_readCounted hspaced hstep⟩

/-- What a rule reads lies within what the relaxed rule reads, sign by sign. -/
theorem within_of_readsSigns {signs : List Token} {fuel : Nat} (hreads : ReadsSigns a cs signs s)
    (hfinish : finish fuel b (signs.flatMap Token.relaxed) = .ok u) (hsigns : RelaxesSigns signs)
    (hwithin : a.Within b)
    (haligned : ∀ t ∈ signs.head?, t.Repeats → Aligned a.items b.items) : s.Within u := by
  induction hreads generalizing fuel b with
  | nil =>
      obtain rfl := eq_of_finish_nil b.flags.skip_nil hfinish
      exact hwithin
  | @cons a a' s c tail rest signs hspaced hstep hmore ih =>
      obtain ⟨action, hacts, hperform⟩ := exists_performed hspaced hstep
      have halike := alike_relaxed hmore hsigns.tail
      have hskip : ∀ text, b.flags.skip text = text :=
        Flags.skip_of_not_spaced (hwithin.flags ▸ hspaced)
      rw [List.flatMap_cons] at hfinish
      rcases Token.relaxed_cases ⟨a.flags, c, tail⟩ with ⟨hanchor, heq⟩ | ⟨end', heq, htext⟩ | heq
      · -- The anchor is dropped, and no repetition follows that would look for it.
        rw [heq, List.nil_append] at hfinish
        obtain ⟨assertion, hpush⟩ := exists_step_anchor hanchor a (tail ++ rest)
        obtain ⟨rfl, -⟩ := Prod.mk.inj (Except.ok.inj (hstep.symm.trans hpush))
        refine ih hfinish hsigns.tail (hwithin.of_look assertion) fun next hnext hrepeats => ?_
        obtain ⟨more, rfl⟩ := List.head?_eq_some_iff.mp hnext
        exact absurd hrepeats (hsigns.unrepeated.rel hanchor)
      · rw [heq, List.cons_append] at hfinish
        obtain ⟨hrepeats, hends⟩ := endsRepetition_of_text hspaced hstep htext
        obtain ⟨b', left, fuel', hstar, hfinish⟩ := exists_of_finish_cons (hskip _) hfinish
        obtain ⟨greedy, hread⟩ := exists_step_star hends halike.questions b
        rw [hread] at hstar
        obtain ⟨hlast, rfl⟩ := exists_of_map_eq_ok hstar
        cases action with
        | again least most greedy' =>
            obtain ⟨hwithin', haligned'⟩ := hwithin.repeatLast (haligned _ rfl hrepeats) hperform
              hlast (Nat.zero_le least) (Or.inl rfl)
            exact ih hfinish hsigns.tail hwithin' fun _ _ _ => haligned'
        | _ => exact (hacts.repeats.mpr hrepeats).elim
      · rw [heq, Token.text, List.cons_append] at hfinish
        obtain ⟨b', fuel', hperform', hfinish⟩ :=
          hacts.exists_performed hspaced hwithin.flags.symm halike hfinish
        obtain ⟨hwithin', haligned'⟩ := hwithin.perform
          (fun hrepeats => haligned _ rfl (hacts.repeats.mp hrepeats)) hperform hperform'
        exact ih hfinish hsigns.tail hwithin' fun _ _ _ => haligned'

end Reading
end Regex

namespace TextRule

/-- Relaxing the rule rewrites its operators and nothing else. -/
structure RelaxesOperators (source : String) : Prop where
  signs : RelaxesSigns (signsOf source)
  rewritten : (relaxed source).toList = (signsOf source).flatMap Token.relaxed

instance (source : String) : Decidable (RelaxesOperators source) :=
  decidable_of_iff (RelaxesSigns (signsOf source) ∧ _)
    ⟨fun hboth => ⟨hboth.1, hboth.2⟩, fun hrelaxes => ⟨hrelaxes.signs, hrelaxes.rewritten⟩⟩

variable {source : String} {rule loose : TextRule}

/-- Where nothing but operators is rewritten, a relaxed rule finds something in every text in which the
rule does. -/
theorem relaxed_finds (hrule : compile source = .ok rule) (hloose : compile (relaxed source) = .ok loose)
    (hrelaxes : RelaxesOperators source) {text : String} (hfinds : rule.Finds text) :
    loose.Finds text := by
  obtain ⟨s, hfinish, -, hcore⟩ := exists_finish_of_compileWith hrule
  obtain ⟨u, hfinish', -, hcore'⟩ := exists_finish_of_compileWith hloose
  have hreads : Reading.ReadsSigns _ _ (signsOf source) s :=
    Reading.readsSigns_of_finish hfinish (Nat.lt_succ_self _) hrelaxes.signs.unspaced
  rw [hrelaxes.rewritten] at hfinish'
  have hwithin := Reading.within_of_readsSigns hreads hfinish' hrelaxes.signs (.refl _)
    fun _ _ _ => .nil
  obtain ⟨x, y, hx, hmatches⟩ := (finds_iff_matches hrule).mp hfinds
  rw [← hcore] at hmatches
  exact (finds_iff_matches hloose).mpr ⟨x, y, hx, hcore' ▸ hwithin.whole x y hmatches⟩

theorem relaxed_finds_heading :
    ∃ rule loose, compile "^(?:[a-c]+|x{2,})\\.?$" = .ok rule ∧
      compile (relaxed "^(?:[a-c]+|x{2,})\\.?$") = .ok loose ∧ rule.Finds "ab." ∧
      loose.Finds "ab." := by
  obtain ⟨rule, hrule, hfinds⟩ := exists_of_any_isMatch
    (show (compile "^(?:[a-c]+|x{2,})\\.?$").toOption.any (·.isMatch "ab.") = true by decide +kernel)
  obtain ⟨loose, hloose, -⟩ := exists_of_any_isMatch
    (show (compile (relaxed "^(?:[a-c]+|x{2,})\\.?$")).toOption.any (·.isMatch "") = true by
      decide +kernel)
  have hrelaxes : RelaxesOperators "^(?:[a-c]+|x{2,})\\.?$" := by decide +kernel
  exact ⟨rule, loose, hrule, hloose, hfinds, relaxed_finds hrule hloose hrelaxes hfinds⟩

/-- Within brackets `^` is no operator, and without it the set is another one. -/
example : ¬ RelaxesOperators "[^a]" ∧ (compile "[^a]").toOption.any (·.isMatch "b") = true ∧
    (compile (relaxed "[^a]")).toOption.all (·.isMatch "b") = false := by
  decide +kernel

end TextRule
end AdaptiveRules
