import AdaptiveRules.Proofs.RegexInclusion
import AdaptiveRules.Proofs.RegexSearching

/-!
# More specific rules

A more specific rule keeps the wildcards that are repeated on their line, and its runs of word
characters are identifiers.  Where these are signs of the rule, and not characters within brackets or
behind a backslash, it is read side by side with the rule, and finds something only where the rule
does.
-/

namespace AdaptiveRules

open Regex TextLines

namespace CharSet

/-- Every member of the one set is tried in the other. -/
def isWithin (s t : CharSet) : Bool :=
  s.ranges.all fun r => (List.range' r.1 (r.2 + 1 - r.1)).all (inRanges t.ranges)

theorem exists_of_inRanges {ranges : List (Nat × Nat)} {n : Nat} (hmem : inRanges ranges n = true) :
    ∃ r ∈ ranges, r.1 ≤ n ∧ n ≤ r.2 := by
  induction ranges with
  | nil => cases hmem
  | cons r ranges ih =>
      unfold inRanges at hmem
      split at hmem
      · cases hmem
      · split at hmem
        · exact ⟨r, List.mem_cons_self, by omega, by omega⟩
        · obtain ⟨q, hq, hbounds⟩ := ih hmem
          exact ⟨q, List.mem_cons_of_mem r hq, hbounds⟩

theorem contains_of_isWithin {s t : CharSet} (hwithin : s.isWithin t = true) {c : Char}
    (hc : s.contains c = true) : t.contains c = true := by
  obtain ⟨r, hr, hlow, hhigh⟩ := exists_of_inRanges hc
  exact List.all_eq_true.mp (List.all_eq_true.mp hwithin r hr) c.toNat
    (List.mem_range'_1.mpr (by omega))

theorem contains_complement_empty (c : Char) : empty.complement.contains c = true := by
  have hbound : c.toNat ≤ maxCodePoint := by
    have hvalid : c.toNat < 0xd800 ∨ 0xdfff < c.toNat ∧ c.toNat < 0x110000 := c.valid
    unfold maxCodePoint
    omega
  show inRanges [(0, maxCodePoint)] c.toNat = true
  unfold inRanges
  rw [if_neg (Nat.not_lt_zero _), if_pos hbound]

end CharSet

namespace Regex

/-! ### The sets of a more specific rule -/

def identifierStart : CharSet := ⟨[(65, 90), (95, 95), (97, 122)]⟩

/-- Under these flags the text behind a bracket stands for a set, whatever comes behind it. -/
def Flags.Spells (flags : Flags) (text : List Char) (s : CharSet) (negated : Bool) : Prop :=
  ∀ n rest, readSet flags (n + (text.length + 2)) 0 0 .empty [] ('[' :: (text ++ rest)) =
    (flags.finishSet s negated).map fun x => (x, 1, rest)

section Sets

variable {flags : Flags} {s x : CharSet} {negated : Bool}

theorem spells_notNewline (hspaced : flags.spaced = false) :
    flags.Spells "^\\n]".toList (.range 10 10) true := by
  intro n rest
  obtain ⟨caseless, _, _, _, unicode, _, _⟩ := flags
  obtain rfl := hspaced
  cases unicode <;> rfl

theorem spells_identifierStart (hspaced : flags.spaced = false) :
    flags.Spells "a-zA-Z_]".toList identifierStart false := by
  intro n rest
  obtain ⟨caseless, _, _, _, unicode, _, _⟩ := flags
  obtain rfl := hspaced
  cases unicode
  · cases caseless <;> rfl
  · rfl

theorem spells_identifier (hspaced : flags.spaced = false) :
    flags.Spells "a-zA-Z0-9_]".toList asciiWord false := by
  intro n rest
  obtain ⟨caseless, _, _, _, unicode, _, _⟩ := flags
  obtain rfl := hspaced
  cases unicode
  · cases caseless <;> rfl
  · rfl

theorem finishSet_eq (hset : flags.finishSet s negated = .ok x) :
    x = if negated then (flags.closeUnderCase s).complement else flags.closeUnderCase s := by
  unfold Flags.finishSet at hset
  simp only at hset
  split at hset
  · cases hset
    rfl
  · split at hset
    · cases hset
    · next hplain =>
        cases hset
        rw [Bool.or_eq_true, not_or] at hplain
        rw [if_neg hplain.1]

theorem closeUnderCase_newline (flags : Flags) :
    flags.closeUnderCase (.range 10 10) = .range 10 10 := by
  obtain ⟨caseless, _, _, _, unicode, _, _⟩ := flags
  cases caseless
  · rfl
  cases unicode
  · exact (by decide +kernel : CharSet.closeUnder asciiCaseClasses (.range 10 10) = .range 10 10)
  · exact (by decide +kernel : UnicodeProperties.closeUnderCase (.range 10 10) = .range 10 10)

/-- What does not end a line is among what a dot stands for. -/
theorem dot_contains {dot : CharSet} (hdot : flags.dot = .ok dot)
    (hlines : flags.dotAll = true ∨ flags.crlf = false)
    (hset : flags.finishSet (.range 10 10) true = .ok x) {c : Char} (hc : x.contains c = true) :
    dot.contains c = true := by
  obtain rfl := finishSet_eq hset
  rw [if_pos rfl, closeUnderCase_newline] at hc
  unfold Flags.dot at hdot
  split at hdot
  · cases hdot
  split at hdot
  · cases hdot
    exact CharSet.contains_complement_empty c
  · next hall =>
      rw [if_neg (by simpa [hall] using hlines)] at hdot
      cases hdot
      exact hc

/-- Letters and the underscore are word characters, also with what they become under case. -/
theorem isWithin_word_start (flags : Flags) :
    (flags.closeUnderCase identifierStart).isWithin flags.word = true := by
  obtain ⟨caseless, _, _, _, unicode, _, _⟩ := flags
  cases caseless <;> cases unicode
  · exact (by decide +kernel : identifierStart.isWithin asciiWord = true)
  · exact (by decide +kernel : identifierStart.isWithin UnicodeProperties.word = true)
  · exact (by decide +kernel :
      (identifierStart.closeUnder asciiCaseClasses).isWithin asciiWord = true)
  · exact (by decide +kernel :
      (UnicodeProperties.closeUnderCase identifierStart).isWithin UnicodeProperties.word = true)

theorem isWithin_word (flags : Flags) :
    (flags.closeUnderCase asciiWord).isWithin flags.word = true := by
  obtain ⟨caseless, _, _, _, unicode, _, _⟩ := flags
  cases caseless <;> cases unicode
  · exact (by decide +kernel : asciiWord.isWithin asciiWord = true)
  · exact (by decide +kernel : asciiWord.isWithin UnicodeProperties.word = true)
  · exact (by decide +kernel : (asciiWord.closeUnder asciiCaseClasses).isWithin asciiWord = true)
  · exact (by decide +kernel :
      (UnicodeProperties.closeUnderCase asciiWord).isWithin UnicodeProperties.word = true)

theorem word_contains (hset : flags.finishSet s false = .ok x)
    (hwithin : (flags.closeUnderCase s).isWithin flags.word = true) (c : Char)
    (hc : x.contains c = true) : flags.word.contains c = true := by
  obtain rfl := finishSet_eq hset
  exact CharSet.contains_of_isWithin hwithin hc

end Sets

/-! ### The text of a more specific rule -/

namespace Token

/-- The sign is a dot for which nothing ends a line but a line feed, if anything. -/
def IsWildcard (t : Token) : Prop :=
  t.sign = '.' ∧ (t.flags.dotAll = true ∨ t.flags.crlf = false)

instance (t : Token) : Decidable t.IsWildcard := inferInstanceAs (Decidable (_ ∧ _))

def IsLoop (t : Token) : Prop := t.sign = '*' ∨ t.sign = '+'

instance (t : Token) : Decidable t.IsLoop := inferInstanceAs (Decidable (_ ∨ _))

end Token

/-- The text that stands for the signs in a more specific rule, where wildcards in a loop and runs of
word characters that are not repeated themselves are rewritten. -/
def specific : List Token → List Char
  | t :: next :: signs =>
      if t.IsWildcard ∧ next.IsLoop then "[^\\n]".toList ++ specific (next :: signs)
      else if t.text = "\\w".toList ∧ next.sign = '+' ∧ ∀ u ∈ signs.head?, ¬ u.Repeats then
        "[a-zA-Z_][a-zA-Z0-9_]*".toList ++ (next.tail ++ specific signs)
      else t.text ++ specific (next :: signs)
  | [t] => t.text
  | [] => []

theorem text_notNewline (more : List Char) :
    "[^\\n]".toList ++ more = '[' :: ("^\\n]".toList ++ more) := by
  simp

theorem text_identifier (more : List Char) : "[a-zA-Z_][a-zA-Z0-9_]*".toList ++ more =
    '[' :: ("a-zA-Z_]".toList ++ '[' :: ("a-zA-Z0-9_]".toList ++ '*' :: more)) := by
  simp

namespace Reading

variable {r s a b u : Reading} {cs rest text : List Char} {signs : List Token} {fuel : Nat}

theorem alike_specific (hreads : ReadsSigns r cs signs s) : Alike cs (specific signs) := by
  cases hreads with
  | nil => exact .nil cs
  | @cons _ s _ c tail rest signs hspaced hstep hmore =>
      obtain ⟨action, hacts, -⟩ := exists_performed hspaced hstep
      cases signs with
      | nil =>
          have hsign := Alike.of_sign hacts.braced rest []
          rwa [List.append_nil] at hsign
      | cons next signs =>
          unfold specific
          split
          · exact .of_head (by decide) (by decide) _
          · split
            · exact .of_head (by decide) (by decide) _
            · exact .of_sign hacts.braced rest _

def setPiece (x : CharSet) : Piece := { Piece.leaf (.set x) with depth := 1 }

theorem exists_of_finish_set {set : CharSet} {negated : Bool} (hspaced : b.flags.spaced = false)
    (hspells : b.flags.Spells text set negated)
    (hfinish : finish fuel b ('[' :: (text ++ rest)) = .ok u) :
    ∃ x fuel', b.flags.finishSet set negated = .ok x ∧
      finish fuel' (b.push (setPiece x)) rest = .ok u := by
  obtain ⟨b', left, fuel', hstep, hmore⟩ :=
    exists_of_finish_cons (Flags.skip_of_not_spaced hspaced _) hfinish
  obtain ⟨⟨x, deepest, more⟩, hset, hpush⟩ := exists_of_bind_eq_ok hstep
  have hfuel : (text ++ rest).length + 2 = rest.length + (text.length + 2) := by
    rw [List.length_append]
    omega
  rw [hfuel, hspells] at hset
  cases hfinished : b.flags.finishSet set negated with
  | error e =>
      rw [hfinished] at hset
      cases hset
  | ok y =>
      rw [hfinished] at hset
      cases hset
      cases hpush
      exact ⟨x, fuel', rfl, hmore⟩

theorem within_set {x y : CharSet} {p q : Piece} (hp : p.core = .set x) (hq : q.core = .set y)
    (hsets : ∀ c, x.contains c = true → y.contains c = true) : p.Within q := by
  intro v w hmatches
  rw [hp] at hmatches
  rw [hq]
  obtain ⟨c, rest, hrest, hc, hw⟩ := hmatches
  exact ⟨c, rest, hrest, hsets c hc, hw⟩

theorem exists_of_readSimple {least : Nat} {most : Option Nat}
    (hread : r.readSimple least most cs = .ok (s, rest)) :
    ∃ greedy, r.repeatLast least most greedy = .ok s := by
  by_cases hlazy : cs.head? = some '?'
  · obtain ⟨more, rfl⟩ := List.head?_eq_some_iff.mp hlazy
    rw [readSimple_lazy] at hread
    exact ⟨false, (exists_of_map_eq_ok hread).1⟩
  · rw [readSimple_of_ne hlazy] at hread
    exact ⟨true, (exists_of_map_eq_ok hread).1⟩

/-- An identifier is a run of word characters. -/
theorem Within.identifier (hwithin : b.Within a) {x y w : CharSet} {a' b' : Reading}
    {greedy greedy' : Bool} (hx : ∀ c, x.contains c = true → w.contains c = true)
    (hy : ∀ c, y.contains c = true → w.contains c = true)
    (hrun : (a.push (.leaf (.set w))).repeatLast 1 none greedy = .ok a')
    (hloop : ((b.push (setPiece x)).push (setPiece y)).repeatLast 0 none greedy' = .ok b') :
    b'.Within a' := by
  obtain ⟨_, p, _, hlast, hp, rfl⟩ := exists_of_repeatLast hrun
  obtain ⟨rfl, rfl⟩ := List.cons.inj hlast
  obtain ⟨_, q, _, hlast', hq, rfl⟩ := exists_of_repeatLast hloop
  obtain ⟨rfl, rfl⟩ := List.cons.inj hlast'
  refine ⟨hwithin.flags, hwithin.branches, ?_, hwithin.enclosing⟩
  intro v z hmatches
  obtain ⟨k, hfront, htail⟩ := Piece.matches_branch_cons.mp hmatches
  obtain ⟨j, hrow, hstart⟩ := Piece.matches_branch_cons.mp hfront
  rw [Piece.core_of_repeated hq, Core.matches_repeated] at htail
  obtain ⟨n, -, -, htimes⟩ := htail
  have hfirst : (Core.set w).Matches j k :=
    within_set (p := setPiece x) (q := .leaf (.set w)) rfl rfl hx j k hstart
  have hmore : (Core.set w).Times n k z :=
    htimes.mono (within_set (p := setPiece y) (q := .leaf (.set w)) rfl rfl hy)
  refine Piece.matches_branch_cons.mpr ⟨j, hwithin.items v j hrow, ?_⟩
  rw [Piece.core_of_repeated hp, Core.matches_repeated]
  exact ⟨n + 1, by omega, nofun, k, hfirst, hmore⟩

/-- An identifier is read as two sets, and the second one is repeated. -/
theorem exists_of_finish_identifier {tail rest' : List Char} (hspaced : b.flags.spaced = false)
    (hends : EndsRepetition tail rest) (halike : QuestionsAlike rest rest')
    (hfinish : finish fuel b ('[' :: ("a-zA-Z_]".toList ++
      '[' :: ("a-zA-Z0-9_]".toList ++ '*' :: (tail ++ rest')))) = .ok u) :
    ∃ x y b' greedy fuel', b.flags.finishSet identifierStart false = .ok x ∧
      b.flags.finishSet asciiWord false = .ok y ∧
      ((b.push (setPiece x)).push (setPiece y)).repeatLast 0 none greedy = .ok b' ∧
      finish fuel' b' rest' = .ok u := by
  obtain ⟨x, _, hx, hsecond⟩ :=
    exists_of_finish_set hspaced (spells_identifierStart hspaced) hfinish
  obtain ⟨y, _, hy, hloop⟩ := exists_of_finish_set (b := b.push (setPiece x)) hspaced
    (spells_identifier hspaced) hsecond
  obtain ⟨b', left, fuel', hstar, hmore⟩ :=
    exists_of_finish_cons (r := (b.push (setPiece x)).push (setPiece y))
      (Flags.skip_of_not_spaced hspaced _) hloop
  obtain ⟨greedy, hread⟩ := exists_step_star hends halike _
  rw [hread] at hstar
  obtain ⟨hrepeat, rfl⟩ := exists_of_map_eq_ok hstar
  exact ⟨x, y, b', greedy, fuel', hx, hy, hrepeat, hmore⟩

theorem step_word (r : Reading) (cs : List Char) :
    r.step '\\' ('w' :: cs) = .ok (r.push (.leaf (.set r.flags.word)), cs) := rfl

theorem exists_step_dot (hstep : r.step '.' cs = .ok (s, rest)) :
    ∃ dot, r.flags.dot = .ok dot ∧ s = r.push (.leaf (.set dot)) := by
  obtain ⟨dot, hdot, hpush⟩ := exists_of_bind_eq_ok hstep
  cases hpush
  exact ⟨dot, hdot, rfl⟩

theorem exists_same_sign {c : Char} {tail rest' : List Char} {a' : Reading}
    (hspaced : a.flags.spaced = false) (hstep : a.step c (tail ++ rest) = .ok (a', rest))
    (halike : Alike rest rest') (hfinish : finish fuel b (c :: (tail ++ rest')) = .ok u)
    (hwithin : b.Within a) (haligned : c ∈ repeatSigns → Aligned b.items a.items) :
    ∃ b' fuel', finish fuel' b' rest' = .ok u ∧ b'.Within a' ∧ Aligned b'.items a'.items := by
  obtain ⟨action, hacts, hperform⟩ := exists_performed hspaced hstep
  obtain ⟨b', fuel', hperform', hmore⟩ :=
    hacts.exists_performed hspaced hwithin.flags halike hfinish
  exact ⟨b', fuel', hmore,
    hwithin.perform (fun hrepeats => haligned (hacts.repeats.mp hrepeats)) hperform' hperform⟩

/-- What a more specific rule reads lies within what the rule reads, sign by sign. -/
theorem within_of_specific (hreads : ReadsSigns a cs signs s)
    (hfinish : finish fuel b (specific signs) = .ok u) (hwithin : b.Within a)
    (haligned : ∀ t ∈ signs.head?, t.Repeats → Aligned b.items a.items) : u.Within s := by
  induction signs using specific.induct generalizing a b cs fuel with
  | case1 t next signs hwild ih =>
      -- The loop behind the wildcard is read next, and finds pieces that are aligned.
      rw [specific, if_pos hwild, text_notNewline] at hfinish
      obtain ⟨⟨hdot, hlines⟩, -⟩ := hwild
      cases hreads with
      | cons hspaced hstep hmore =>
          obtain rfl := hdot
          have hspaced' := hwithin.flags ▸ hspaced
          obtain ⟨dot, hdot, rfl⟩ := exists_step_dot hstep
          obtain ⟨x, fuel', hset, hfinish⟩ :=
            exists_of_finish_set hspaced' (spells_notNewline hspaced') hfinish
          rw [hwithin.flags] at hset
          have hpieces : (setPiece x).Within (.leaf (.set dot)) :=
            within_set rfl rfl fun c => dot_contains hdot hlines hset
          exact ih hmore hfinish (hwithin.push hpieces) fun _ _ _ => .cons hpieces hwithin.items
  | case2 t next signs hwild hword ih =>
      -- The pieces differ behind a run of words, so no repetition may follow.
      rw [specific, if_neg hwild, if_pos hword, text_identifier] at hfinish
      obtain ⟨htext, hplus, hlast⟩ := hword
      cases hreads with
      | cons hspaced hstep hmore =>
      cases hmore with
      | cons _ hrun hmore =>
          obtain ⟨rfl, rfl⟩ := List.cons.inj htext
          obtain rfl := hplus
          have hspaced' := hwithin.flags ▸ hspaced
          obtain ⟨rfl, -⟩ := Prod.mk.inj (Except.ok.inj ((step_word _ _).symm.trans hstep))
          obtain ⟨greedy, hrepeat⟩ := exists_of_readSimple hrun
          obtain ⟨x, y, b', greedy', fuel', hx, hy, hloop, hfinish⟩ :=
            exists_of_finish_identifier hspaced' (endsRepetition_of_readSimple hrun)
              (alike_specific hmore).questions hfinish
          rw [hwithin.flags] at hx hy
          have hidentifier : b'.Within _ :=
            hwithin.identifier (word_contains hx (isWithin_word_start a.flags))
              (word_contains hy (isWithin_word a.flags)) hrepeat hloop
          exact ih hmore hfinish hidentifier fun u hu hrepeats => absurd hrepeats (hlast u hu)
  | case3 t next signs hwild hword ih =>
      rw [specific, if_neg hwild, if_neg hword] at hfinish
      cases hreads with
      | cons hspaced hstep hmore =>
          obtain ⟨b', fuel', hfinish, hwithin', haligned'⟩ :=
            exists_same_sign hspaced hstep (alike_specific hmore) hfinish hwithin (haligned _ rfl)
          exact ih hmore hfinish hwithin' fun _ _ _ => haligned'
  | case4 t =>
      cases hreads with
      | @cons _ _ _ c tail rest _ hspaced hstep hmore =>
          have htext : specific [⟨a.flags, c, tail⟩] = c :: (tail ++ []) := by
            rw [List.append_nil]
            rfl
          rw [htext] at hfinish
          obtain ⟨b', fuel', hfinish, hwithin', -⟩ :=
            exists_same_sign hspaced hstep (.nil rest) hfinish hwithin (haligned _ rfl)
          obtain rfl := eq_of_finish_nil b'.flags.skip_nil hfinish
          cases hmore
          exact hwithin'
  | case5 =>
      cases hreads
      obtain rfl := eq_of_finish_nil b.flags.skip_nil hfinish
      exact hwithin

end Reading
end Regex

namespace TextRule

/-- Making the rule more specific rewrites wildcards and runs of words and nothing else. -/
structure SpecifiesOperators (source : String) : Prop where
  unspaced : ∀ t ∈ signsOf source, t.flags.spaced = false
  rewritten : (moreSpecific source).toList = specific (signsOf source)

instance (source : String) : Decidable (SpecifiesOperators source) :=
  decidable_of_iff (_ ∧ _)
    ⟨fun hboth => ⟨hboth.1, hboth.2⟩,
      fun hspecifies => ⟨hspecifies.unspaced, hspecifies.rewritten⟩⟩

variable {source : String} {rule narrow : TextRule}

/-- Where nothing but wildcards and runs of words is rewritten, a more specific rule finds something
only in texts in which the rule does. -/
theorem moreSpecific_narrows (hrule : compile source = .ok rule)
    (hnarrow : compile (moreSpecific source) = .ok narrow) (hspecifies : SpecifiesOperators source)
    {text : String} (hfinds : narrow.Finds text) : rule.Finds text := by
  obtain ⟨s, hfinish, -, hcore⟩ := exists_finish_of_compileWith hrule
  obtain ⟨u, hfinish', -, hcore'⟩ := exists_finish_of_compileWith hnarrow
  have hreads : Reading.ReadsSigns _ _ (signsOf source) s :=
    Reading.readsSigns_of_finish hfinish (Nat.lt_succ_self _) hspecifies.unspaced
  rw [hspecifies.rewritten] at hfinish'
  have hwithin := Reading.within_of_specific hreads hfinish' (.refl _) fun _ _ _ => .nil
  obtain ⟨x, y, hx, hmatches⟩ := (finds_iff_matches hnarrow).mp hfinds
  rw [← hcore'] at hmatches
  exact (finds_iff_matches hrule).mpr ⟨x, y, hx, hcore ▸ hwithin.whole x y hmatches⟩

theorem moreSpecific_narrows_binding :
    ∃ rule narrow, compile "let (?-u:\\w+) = .*;" = .ok rule ∧
      compile (moreSpecific "let (?-u:\\w+) = .*;") = .ok narrow ∧
      narrow.Finds "let x1 = y;" ∧ rule.Finds "let x1 = y;" := by
  obtain ⟨narrow, hnarrow, hfinds⟩ := exists_of_any_isMatch
    (show (compile (moreSpecific "let (?-u:\\w+) = .*;")).toOption.any (·.isMatch "let x1 = y;") = true
      by decide +kernel)
  obtain ⟨rule, hrule, -⟩ := exists_of_any_isMatch
    (show (compile "let (?-u:\\w+) = .*;").toOption.any (·.isMatch "let 1 = ;") = true by
      decide +kernel)
  have hspecifies : SpecifiesOperators "let (?-u:\\w+) = .*;" := by decide +kernel
  exact ⟨rule, narrow, hrule, hnarrow, hfinds,
    moreSpecific_narrows hrule hnarrow hspecifies hfinds⟩

/-- Within brackets `\w+` is no run of words, and what is written for it there is another set. -/
example : ¬ SpecifiesOperators "(?-u:[\\w+])" ∧
    (compile (moreSpecific "(?-u:[\\w+])")).toOption.any (·.isMatch "*") = true ∧
    (compile "(?-u:[\\w+])").toOption.all (·.isMatch "*") = false := by
  decide +kernel

end TextRule
end AdaptiveRules
