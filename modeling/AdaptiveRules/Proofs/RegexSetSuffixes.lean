import AdaptiveRules.Proofs.RegexSuffixes

/-!
# Reading bracketed sets with more text behind

A bracketed set ends with its bracket, so what stands behind it is never looked at; while it is read,
looking ahead stays within it, or the set is not closed and is refused.
-/

namespace AdaptiveRules
namespace Regex

section Sets

variable {flags : Flags} {cs raw rest suffix : List Char}

theorem readHyphens_of_ne {fuel : Nat} {s : CharSet} {c : Char} {tail : List Char} (hc : c ≠ '-') :
    readHyphens flags (fuel + 1) s (c :: tail) = (s, c :: tail) := by
  unfold readHyphens
  split
  · next hzero => cases hzero
  · next htext => exact absurd (List.cons.inj htext).1 hc
  · rfl

theorem readHyphens_append {fuel fuel' : Nat} {s s' : CharSet}
    (hread : readHyphens flags fuel s (flags.skip raw) = (s', rest)) (hrest : rest ≠ [])
    (hfuel : (flags.skip raw).length < fuel)
    (hfuel' : (flags.skip (raw ++ suffix)).length < fuel') :
    readHyphens flags fuel' s (flags.skip (raw ++ suffix)) = (s', rest ++ suffix) := by
  induction fuel generalizing s raw fuel' with
  | zero => omega
  | succ fuel ih =>
      obtain ⟨fuel', rfl⟩ : ∃ k, fuel' = k + 1 := ⟨fuel' - 1, by omega⟩
      cases hskip : flags.skip raw with
      | nil =>
          rw [hskip] at hread
          exact absurd (congrArg Prod.snd hread).symm hrest
      | cons c tail =>
          have hmore := Flags.skip_append hskip suffix
          rw [hskip] at hread hfuel
          rw [hmore] at hfuel' ⊢
          rw [List.length_cons] at hfuel hfuel'
          have hshort := flags.length_skip_le tail
          have hshort' := flags.length_skip_le (tail ++ suffix)
          by_cases hc : c = '-'
          · subst hc
            exact ih hread (by omega) (by omega)
          · rw [readHyphens_of_ne hc] at hread ⊢
            cases hread
            rfl

theorem posixSet_eq_none {name : String} (hname : '|' ∈ name.toList ∨ ')' ∈ name.toList) :
    posixSet name = none := by
  unfold posixSet
  split
  case h_15 => rfl
  all_goals
    revert hname
    decide

/-- Reads the name of a set and its end. -/
def posixTail (negated : Bool) (cs : List Char) : Option (CharSet × Bool × List Char) :=
  match cs.dropWhile (· != ':') with
  | ':' :: ']' :: more =>
      (posixSet (String.ofList (cs.takeWhile (· != ':')))).map fun s => (s, negated, more)
  | _ => none

theorem posixTail_append (hsuffix : GoesOn suffix) (negated : Bool) (cs : List Char) :
    posixTail negated (cs ++ suffix) =
      (posixTail negated cs).map fun p => (p.1, p.2.1, p.2.2 ++ suffix) := by
  obtain ⟨e, more, rfl, he⟩ := hsuffix.exists_cons
  unfold posixTail
  rw [List.dropWhile_append, List.takeWhile_append]
  cases hdrop : cs.dropWhile (· != ':') with
  | nil =>
      -- The name would take in the bar or the bracket that stands behind.
      have hcolon : e ≠ ':' := by rcases he with rfl | rfl <;> decide
      have hall : (cs.takeWhile (· != ':')).length = cs.length := by
        have hsplit := congrArg List.length (cs.takeWhile_append_dropWhile (p := (· != ':')))
        rwa [hdrop, List.append_nil] at hsplit
      have hnone : posixSet (String.ofList (cs ++ (e :: more).takeWhile (· != ':'))) = none := by
        apply posixSet_eq_none
        rw [String.toList_ofList, List.takeWhile_cons_of_pos (by simpa using hcolon)]
        rcases he with rfl | rfl
        · exact Or.inl (by simp)
        · exact Or.inr (by simp)
      simp only [List.isEmpty_nil, if_true, hall]
      split
      · rw [hnone]
        rfl
      · rfl
  | cons d tail =>
      have hshort : (cs.takeWhile (· != ':')).length ≠ cs.length := by
        intro hall
        have hsplit := congrArg List.length (cs.takeWhile_append_dropWhile (p := (· != ':')))
        rw [hdrop, List.length_append, hall, List.length_cons] at hsplit
        omega
      have hd : d = ':' := by
        have hstop := List.head?_dropWhile_not (· != ':') cs
        rw [hdrop] at hstop
        simpa using hstop
      subst hd
      simp only [List.isEmpty_cons, Bool.false_eq_true, if_false, hshort, List.cons_append]
      have hbracket : e ≠ ']' := by rcases he with rfl | rfl <;> decide
      cases tail with
      | nil =>
          rw [List.nil_append]
          split
          · next heq => exact absurd (List.cons.inj (List.cons.inj heq).2).1 hbracket
          · rfl
      | cons f tail =>
          by_cases hf : f = ']'
          · subst hf
            simp only [List.cons_append, Option.map_map]
            rfl
          · simp only [List.cons_append]
            split
            · next heq => exact absurd (List.cons.inj (List.cons.inj heq).2).1 hf
            · split
              · next heq => exact absurd (List.cons.inj (List.cons.inj heq).2).1 hf
              · rfl

theorem posixTail_eq (negated : Bool) (cs : List Char) :
    posixTail negated cs = (match cs.dropWhile (· != ':') with
      | ':' :: ']' :: more => do
          let s ← posixSet (String.ofList (cs.takeWhile (· != ':')))
          return (s, negated, more)
      | _ => none) := by
  unfold posixTail
  split
  · cases posixSet (String.ofList (cs.takeWhile (· != ':'))) <;> rfl
  · rfl

theorem readPosix_negated (cs : List Char) :
    readPosix (':' :: '^' :: cs) = posixTail true cs := (posixTail_eq true cs).symm

theorem readPosix_plain {cs : List Char} (hcs : cs.head? ≠ some '^') :
    readPosix (':' :: cs) = posixTail false cs := by
  rw [posixTail_eq]
  unfold readPosix
  rcases cs with _ | ⟨c, more⟩
  · rfl
  · have hc : c ≠ '^' := fun hc => hcs (congrArg some hc)
    simp only [List.cons.injEq, hc, false_and, imp_self, implies_true]
    all_goals rfl

theorem readPosix_of_ne {cs : List Char} (hcs : cs.head? ≠ some ':') : readPosix cs = none := by
  unfold readPosix
  split
  · exact absurd rfl hcs
  · rfl

theorem readPosix_append (hsuffix : GoesOn suffix) (cs : List Char) :
    readPosix (cs ++ suffix) = (readPosix cs).map fun p => (p.1, p.2.1, p.2.2 ++ suffix) := by
  have hapart : ∀ d, d ≠ '|' → d ≠ ')' → suffix.head? ≠ some d := by
    intro d hbar hclose hhead
    rcases hsuffix with hfirst | hfirst
    · exact hbar (Option.some.inj (hhead.symm.trans hfirst))
    · exact hclose (Option.some.inj (hhead.symm.trans hfirst))
  rcases cs with _ | ⟨c, rest⟩
  · exact readPosix_of_ne (hapart ':' (by decide) (by decide))
  · rw [List.cons_append]
    by_cases hc : c = ':'
    · subst hc
      rcases rest with _ | ⟨d, more⟩
      · rw [List.nil_append, readPosix_plain (hapart '^' (by decide) (by decide))]
        exact posixTail_append hsuffix false []
      · by_cases hd : d = '^'
        · subst hd
          rw [List.cons_append, readPosix_negated, readPosix_negated]
          exact posixTail_append hsuffix true more
        · rw [List.cons_append, readPosix_plain (by simpa using hd),
            readPosix_plain (by simpa using hd)]
          exact posixTail_append hsuffix false (d :: more)
    · rw [readPosix_of_ne (by simpa using hc), readPosix_of_ne (by simpa using hc)]
      rfl

/-- Reads a bracket that stands first in a set, after the hyphens in the set so far. -/
def bracketFirst (flags : Flags) (negated : Bool) (s : CharSet) (cs : List Char) :
    Except RegexError (Bool × CharSet × List Char) :=
  match cs with
  | [] => .error .classUnclosed
  | ']' :: rest =>
      if s.isEmpty then
        let rest := flags.skip rest
        if rest.isEmpty then .error .classUnclosed
        else .ok (negated, .singleton ']', rest)
      else .ok (negated, s, cs)
  | cs => .ok (negated, s, cs)

def bracketTail (flags : Flags) (negated : Bool) (cs : List Char) :
    Except RegexError (Bool × CharSet × List Char) :=
  let (s, cs) := readHyphens flags (cs.length + 1) .empty cs
  bracketFirst flags negated s cs

theorem bracketFirst_of_ne {negated : Bool} {s : CharSet} {c : Char} (hc : c ≠ ']') :
    bracketFirst flags negated s (c :: cs) = .ok (negated, s, c :: cs) := by
  unfold bracketFirst
  split
  · next htext => cases htext
  · next htext => exact absurd (List.cons.inj htext).1 hc
  · rfl

theorem bracketFirst_append {negated negated' : Bool} {s s' : CharSet}
    (hread : bracketFirst flags negated s' cs = .ok (negated', s, rest)) (suffix : List Char) :
    rest ≠ [] ∧ bracketFirst flags negated s' (cs ++ suffix) = .ok (negated', s, rest ++ suffix) := by
  rcases cs with _ | ⟨c, left⟩
  · cases hread
  · rw [List.cons_append]
    by_cases hc : c = ']'
    · subst hc
      unfold bracketFirst at hread ⊢
      cases hs : s'.isEmpty with
      | false =>
          simp only [hs, Bool.false_eq_true, if_false] at hread ⊢
          cases hread
          exact ⟨List.cons_ne_nil _ _, rfl⟩
      | true =>
          simp only [hs, if_true] at hread ⊢
          cases hskip : flags.skip left with
          | nil =>
              rw [hskip] at hread
              cases hread
          | cons d tail =>
              rw [hskip] at hread
              rw [Flags.skip_append hskip]
              cases hread
              exact ⟨List.cons_ne_nil _ _, rfl⟩
    · rw [bracketFirst_of_ne hc] at hread ⊢
      cases hread
      exact ⟨List.cons_ne_nil _ _, rfl⟩

theorem bracketTail_append {negated negated' : Bool} {s : CharSet}
    (hread : bracketTail flags negated (flags.skip raw) = .ok (negated', s, rest))
    (suffix : List Char) : rest ≠ [] ∧
      bracketTail flags negated (flags.skip (raw ++ suffix)) = .ok (negated', s, rest ++ suffix) := by
  unfold bracketTail at hread ⊢
  cases hhyphens : readHyphens flags ((flags.skip raw).length + 1) .empty (flags.skip raw) with
  | mk s' left =>
      rw [hhyphens] at hread
      have hleft : left ≠ [] := by
        rintro rfl
        cases hread
      rw [readHyphens_append hhyphens hleft (Nat.lt_succ_self _)
        (Nat.lt_succ_self (flags.skip (raw ++ suffix)).length)]
      exact bracketFirst_append hread suffix

theorem readBracketStart_negated (hskip : flags.skip cs = '^' :: raw) :
    readBracketStart flags cs = bracketTail flags true (flags.skip raw) := by
  unfold readBracketStart
  rw [hskip]
  rfl

theorem readBracketStart_plain (hskip : (flags.skip cs).head? ≠ some '^') :
    readBracketStart flags cs = bracketTail flags false (flags.skip cs) := by
  unfold readBracketStart
  generalize flags.skip cs = text at hskip ⊢
  rcases text with _ | ⟨c, more⟩
  · rfl
  · have hc : c ≠ '^' := fun hc => hskip (congrArg some hc)
    simp only [List.cons.injEq, hc, false_and, imp_self, implies_true]
    rfl

theorem readBracketStart_append {negated : Bool} {s : CharSet}
    (hread : readBracketStart flags cs = .ok (negated, s, rest)) (suffix : List Char) :
    rest ≠ [] ∧ readBracketStart flags (cs ++ suffix) = .ok (negated, s, rest ++ suffix) := by
  cases hskip : flags.skip cs with
  | nil =>
      rw [readBracketStart_plain (by rw [hskip]; nofun), hskip] at hread
      cases hread
  | cons c tail =>
      have hmore := Flags.skip_append hskip suffix
      by_cases hc : c = '^'
      · subst hc
        rw [readBracketStart_negated hskip] at hread
        rw [readBracketStart_negated hmore]
        exact bracketTail_append hread suffix
      · rw [readBracketStart_plain (by rw [hskip]; simpa using hc)] at hread
        rw [readBracketStart_plain (by rw [hmore]; simpa using hc)]
        exact bracketTail_append hread suffix

theorem extends_readSetItem (hsuffix : GoesOn suffix) (hcs : cs ≠ []) :
    flags.Extends suffix (readSetItem flags cs) (readSetItem flags (cs ++ suffix)) := by
  cases cs with
  | nil => exact absurd rfl hcs
  | cons c tail =>
      rw [List.cons_append]
      by_cases hc : c = '\\'
      · subst hc
        exact extends_readEscape hsuffix tail
      · unfold readSetItem
        simp only
        exact .ok _ _ _

/-- What looking ahead sees where blanks are skipped. -/
def peekSpaced (ds : List Char) : Option Char :=
  match ds.dropWhile UnicodeProperties.isWhiteSpace with
  | '#' :: past =>
      match past.dropWhile UnicodeProperties.isWhiteSpace with
      | [] => ds.head?
      | d :: _ => some d
  | [] => ds.head?
  | d :: _ => some d

theorem Flags.peek_of_spaced {flags : Flags} (hspaced : flags.spaced = true) (c : Char)
    (ds : List Char) : flags.peek (c :: ds) = peekSpaced ds := by
  unfold Flags.peek
  rw [hspaced]
  rfl

/-- Blanks, perhaps with a comment behind them, do not begin with another solid character. -/
theorem head?_ne_of_dropWhile {more : List Char} {d : Char}
    (hsolid : UnicodeProperties.isWhiteSpace d = false) (hother : d ≠ '#')
    (hdrop : more.dropWhile UnicodeProperties.isWhiteSpace = [] ∨
      (more.dropWhile UnicodeProperties.isWhiteSpace).head? = some '#') : more.head? ≠ some d := by
  intro hfirst
  obtain ⟨rest, rfl⟩ := List.head?_eq_some_iff.mp hfirst
  rw [List.dropWhile_cons, if_neg (by simp [hsolid])] at hdrop
  rcases hdrop with hdrop | hdrop
  · cases hdrop
  · exact hother (Option.some.inj hdrop)

theorem Flags.peekSpaced_append {flags : Flags} (hspaced : flags.spaced = true)
    (more suffix : List Char) :
    peekSpaced (more ++ suffix) = peekSpaced more ∨
      flags.skip more = [] ∧ peekSpaced more ≠ some ']' ∧ peekSpaced more ≠ some '-' := by
  have hbracket : _ → more.head? ≠ some ']' :=
    head?_ne_of_dropWhile (by decide +kernel) (by decide)
  have hhyphen : _ → more.head? ≠ some '-' :=
    head?_ne_of_dropWhile (by decide +kernel) (by decide)
  unfold peekSpaced
  rw [List.dropWhile_append]
  rcases hdrop : more.dropWhile UnicodeProperties.isWhiteSpace with _ | ⟨d, past⟩
  · rw [hdrop] at hbracket hhyphen
    exact Or.inr ⟨Flags.skip_of_blank hspaced hdrop, hbracket (Or.inl rfl), hhyphen (Or.inl rfl)⟩
  · simp only [List.isEmpty_cons, Bool.false_eq_true, if_false, List.cons_append]
    by_cases hd : d = '#'
    · subst hd
      simp only
      rw [List.dropWhile_append]
      rcases hpast : past.dropWhile UnicodeProperties.isWhiteSpace with _ | ⟨e, beyond⟩
      · rw [hdrop] at hbracket hhyphen
        refine Or.inr ⟨?_, hbracket (Or.inr rfl), hhyphen (Or.inr rfl)⟩
        have hsolid : UnicodeProperties.isWhiteSpace '#' = false := by decide +kernel
        rw [← Flags.skip_dropWhile hspaced, hdrop, Flags.skip_cons hspaced,
          if_neg (by simp [hsolid]), if_pos rfl]
        exact Flags.skip_of_blank hspaced (Flags.dropWhile_dropComment hpast)
      · simp
    · refine Or.inl ?_
      simp only

/-- Looking ahead sees the same with more text behind, unless nothing but blanks and a comment is
left; then it sees neither the end of a set nor a hyphen. -/
theorem Flags.peek_append (flags : Flags) (c : Char) (more suffix : List Char) :
    flags.peek (c :: (more ++ suffix)) = flags.peek (c :: more) ∨
      flags.skip more = [] ∧ flags.peek (c :: more) ≠ some ']' ∧
        flags.peek (c :: more) ≠ some '-' := by
  cases hspaced : flags.spaced with
  | false =>
      have hpeek : ∀ ds, flags.peek (c :: ds) = ds.head? := by
        intro ds
        unfold Flags.peek
        rw [hspaced]
        rfl
      rw [hpeek, hpeek]
      cases more with
      | nil => exact Or.inr ⟨flags.skip_nil, nofun, nofun⟩
      | cons d rest => exact Or.inl rfl
  | true =>
      rw [peek_of_spaced hspaced, peek_of_spaced hspaced]
      exact peekSpaced_append hspaced more suffix

/-- The set for a single member. -/
def memberSet (flags : Flags) : Escape → Except RegexError CharSet
  | .literal ch byteForm => (flags.member ch byteForm).map fun n => .range n n
  | .set s => .ok s
  | .look _ => .error .classEscape

/-- The set for a range between two members. -/
def rangeSet (flags : Flags) : Escape → Escape → Except RegexError CharSet
  | .literal a aByte, .literal b bByte => do
      let lo ← flags.member a aByte
      let hi ← flags.member b bByte
      if hi < lo then .error .classRange else .ok (.range lo hi)
  | _, _ => .error .classRange

/-- What follows a member is not the middle of a range. -/
def endsMember (flags : Flags) (rest : List Char) : Bool :=
  rest.head? != some '-' || flags.peek rest = some ']' || flags.peek rest = some '-'

theorem endsMember_append {c : Char} {more : List Char}
    (hknown : endsMember flags (c :: more) = true ∨ flags.skip more ≠ []) :
    endsMember flags (c :: (more ++ suffix)) = endsMember flags (c :: more) := by
  unfold endsMember at hknown ⊢
  rcases flags.peek_append c more suffix with hpeek | ⟨hnone, hbracket, hhyphen⟩
  · rw [hpeek]
    rfl
  · rcases hknown with hends | hsome
    · have hfirst : c ≠ '-' := by simpa [hbracket, hhyphen] using hends
      have hother : ∀ ds : List Char, ((c :: ds).head? != some '-') = true := by
        intro ds
        simpa using hfirst
      rw [hother, hother]
      rfl
    · exact absurd hnone hsome

theorem readSetRange_single {first : Escape} {left more : List Char} {c : Char}
    (hitem : readSetItem flags cs = .ok (first, left)) (hskip : flags.skip left = c :: more)
    (hends : endsMember flags (c :: more) = true) :
    readSetRange flags cs = (memberSet flags first).map (·, c :: more) := by
  have hcond : (c != '-' || decide (flags.peek (c :: more) = some ']') ||
      decide (flags.peek (c :: more) = some '-')) = true := by
    simpa [endsMember] using hends
  unfold readSetRange
  rw [hitem, ok_bind]
  simp only [hskip]
  simp only [hcond, if_true]
  cases first with
  | literal ch byteForm =>
      simp only [memberSet]
      cases flags.member ch byteForm <;> rfl
  | set s => rfl
  | look a => rfl

theorem readSetRange_range {first : Escape} {left more : List Char} {c : Char}
    (hitem : readSetItem flags cs = .ok (first, left)) (hskip : flags.skip left = c :: more)
    (hends : endsMember flags (c :: more) = false) :
    readSetRange flags cs =
      if (flags.skip more).isEmpty then .error .classUnclosed
      else readSetItem flags (flags.skip more) >>= fun p =>
        (rangeSet flags first p.1).map (·, p.2) := by
  have hcond : (c != '-' || decide (flags.peek (c :: more) = some ']') ||
      decide (flags.peek (c :: more) = some '-')) = false := by
    simpa [endsMember] using hends
  unfold readSetRange
  rw [hitem, ok_bind]
  simp only [hskip]
  simp only [hcond, Bool.false_eq_true, if_false]
  split
  · rfl
  · refine congrArg _ (funext ?_)
    rintro ⟨last, rest⟩
    cases first with
    | set s => rfl
    | look a => rfl
    | literal a aByte =>
        cases last with
        | set s => rfl
        | look b => rfl
        | literal b bByte =>
            simp only [rangeSet]
            cases flags.member a aByte with
            | error e => rfl
            | ok lo =>
                cases flags.member b bByte with
                | error e => rfl
                | ok hi =>
                    simp only [bind, Except.bind]
                    split <;> rfl

theorem extends_readSetRange (hsuffix : GoesOn suffix) (hcs : cs ≠ []) :
    flags.Extends suffix (readSetRange flags cs) (readSetRange flags (cs ++ suffix)) := by
  intro x rest hread hbears
  have hparts := hread
  unfold readSetRange at hparts
  obtain ⟨⟨first, left⟩, hitem, hnext⟩ := exists_of_bind_eq_ok hparts
  cases hskip : flags.skip left with
  | nil =>
      simp only [hskip] at hnext
      cases hnext
  | cons c more =>
      have hleft : left ≠ [] := by
        rintro rfl
        rw [Flags.skip_nil] at hskip
        cases hskip
      obtain ⟨left', hitem', hleaves⟩ := extends_readSetItem hsuffix hcs first left hitem
        fun hnil => absurd hnil hleft
      have hmore := hleaves.cons hskip
      cases hends : endsMember flags (c :: more) with
      | true =>
          rw [readSetRange_single hitem hskip hends] at hread
          rw [readSetRange_single hitem' hmore ((endsMember_append (Or.inl hends)).trans hends)]
          obtain ⟨hset, rfl⟩ := exists_of_map_eq_ok hread
          refine ⟨c :: (more ++ suffix), ?_, .append flags suffix (c :: more)⟩
          rw [hset]
          rfl
      | false =>
          rw [readSetRange_range hitem hskip hends] at hread
          cases hlast : flags.skip more with
          | nil =>
              rw [hlast] at hread
              cases hread
          | cons d tail =>
              have hlast' := Flags.skip_append hlast suffix
              have hnext : flags.skip more ≠ [] := by
                rw [hlast]
                exact List.cons_ne_nil d tail
              rw [readSetRange_range hitem' hmore ((endsMember_append (Or.inr hnext)).trans hends)]
              rw [hlast] at hread
              rw [hlast']
              have hitems : flags.Extends suffix (readSetItem flags (d :: tail))
                  (readSetItem flags (d :: (tail ++ suffix))) :=
                extends_readSetItem hsuffix (List.cons_ne_nil d tail)
              exact hitems.bind_map (rangeSet flags first) x rest hread hbears

theorem readSet_nil {fuel depth deepest : Nat} {s : CharSet} {frames : List SetFrame} :
    readSet flags fuel depth deepest s frames [] = .error .classUnclosed := by
  cases fuel with
  | zero => rfl
  | succ fuel =>
      unfold readSet
      rw [Flags.skip_nil]
      rfl

/-- The text starts with a member, and with neither a bracket nor an operation. -/
structure StartsMember (text : List Char) : Prop where
  opens : ∀ more, text ≠ '[' :: more
  closes : ∀ more, text ≠ ']' :: more
  intersects : ∀ more, text ≠ '&' :: '&' :: more
  subtracts : ∀ more, text ≠ '-' :: '-' :: more
  differs : ∀ more, text ≠ '~' :: '~' :: more

/-- What stands behind makes no other construct of the beginning. -/
theorem StartsMember.append {c : Char} {tail : List Char} (hmember : StartsMember (c :: tail))
    (hsuffix : GoesOn suffix) : StartsMember (c :: (tail ++ suffix)) where
  opens := by
    rintro more htext
    cases htext
    exact hmember.opens _ rfl
  closes := by
    rintro more htext
    cases htext
    exact hmember.closes _ rfl
  intersects := by
    intro more htext
    obtain ⟨left, hdouble⟩ := hsuffix.exists_double (by decide) (by decide) htext
    exact hmember.intersects left hdouble
  subtracts := by
    intro more htext
    obtain ⟨left, hdouble⟩ := hsuffix.exists_double (by decide) (by decide) htext
    exact hmember.subtracts left hdouble
  differs := by
    intro more htext
    obtain ⟨left, hdouble⟩ := hsuffix.exists_double (by decide) (by decide) htext
    exact hmember.differs left hdouble

theorem readSet_of_member {fuel depth deepest : Nat} {s : CharSet} {frames : List SetFrame}
    {text : List Char} (hskip : flags.skip cs = text) (hsome : text ≠ [])
    (hmember : StartsMember text) :
    readSet flags (fuel + 1) depth deepest s frames cs =
      readSetRange flags text >>= fun p =>
        readSet flags fuel depth deepest (s.union p.1) frames p.2 := by
  rw [readSet]
  simp only [hskip]
  split
  · exact absurd rfl hsome
  · exact absurd rfl (hmember.opens _)
  · exact absurd rfl (hmember.closes _)
  · exact absurd rfl (hmember.intersects _)
  · exact absurd rfl (hmember.subtracts _)
  · exact absurd rfl (hmember.differs _)
  · rfl

theorem readSet_append (hsuffix : GoesOn suffix) {fuel fuel' depth deepest deepest' : Nat}
    {s x : CharSet} {frames : List SetFrame} {cs' : List Char}
    (hread : readSet flags fuel depth deepest s frames cs = .ok (x, deepest', rest))
    (hleaves : flags.Leaves suffix cs cs') (hfuel : fuel ≤ fuel') :
    readSet flags fuel' depth deepest s frames cs' = .ok (x, deepest', rest ++ suffix) := by
  induction fuel generalizing fuel' depth deepest s frames cs cs' with
  | zero => cases hread
  | succ fuel ih =>
      obtain ⟨fuel', rfl⟩ : ∃ k, fuel' = k + 1 := ⟨fuel' - 1, by omega⟩
      have hless : fuel ≤ fuel' := by omega
      have hnext : ∀ {depth deepest : Nat} {s : CharSet} {frames : List SetFrame}
          {left : List Char}, readSet flags fuel depth deepest s frames left =
            .ok (x, deepest', rest) →
          readSet flags fuel' depth deepest s frames (left ++ suffix) =
            .ok (x, deepest', rest ++ suffix) := fun hread =>
        ih hread (.append flags suffix _) hless
      cases hskip : flags.skip cs with
      | nil =>
          unfold readSet at hread
          simp only [hskip] at hread
          cases hread
      | cons c tail =>
      have hmore := hleaves.cons hskip
      by_cases hmember : StartsMember (c :: tail)
      · rw [readSet_of_member hskip (List.cons_ne_nil c tail) hmember] at hread
        rw [readSet_of_member hmore (List.cons_ne_nil c _) (hmember.append hsuffix)]
        obtain ⟨⟨item, left⟩, hitem, hread⟩ := exists_of_bind_eq_ok hread
        have hleft : left ≠ [] := by
          rintro rfl
          rw [readSet_nil] at hread
          cases hread
        obtain ⟨left', hitem', hleaves'⟩ := extends_readSetRange hsuffix
          (List.cons_ne_nil c tail) item left hitem fun hnil => absurd hnil hleft
        rw [← List.cons_append, hitem']
        exact ih hread hleaves' hless
      · unfold readSet at hread ⊢
        simp only [hskip] at hread
        simp only [hmore]
        split at hread
        · next htext => cases htext
        · next htext =>
            cases htext
            simp only
            have hposix : (if frames.isEmpty then none else readPosix (tail ++ suffix)) =
                (if frames.isEmpty then none else readPosix tail).map fun p =>
                  (p.1, p.2.1, p.2.2 ++ suffix) := by
              rw [readPosix_append hsuffix]
              split <;> rfl
            rw [hposix]
            cases hnamed : (if frames.isEmpty then none else readPosix tail) with
            | some p =>
                obtain ⟨named, negated, left⟩ := p
                simp only [hnamed] at hread
                simp only [Option.map_some]
                obtain ⟨done, hdone, hread⟩ := exists_of_bind_eq_ok hread
                rw [hdone]
                exact hnext hread
            | none =>
                simp only [hnamed] at hread
                simp only [Option.map_none]
                obtain ⟨⟨negated, first, left⟩, hstart, hread⟩ := exists_of_bind_eq_ok hread
                rw [(readBracketStart_append hstart suffix).2]
                exact hnext hread
        · next htext =>
            cases htext
            simp only
            generalize applyPending flags s frames = pending at hread ⊢
            obtain ⟨whole, frames'⟩ := pending
            rcases frames' with _ | ⟨outer | _, frames'⟩
            · cases hread
            · simp only at hread ⊢
              obtain ⟨done, hdone, hread⟩ := exists_of_bind_eq_ok hread
              rw [hdone]
              split at hread
              · next hempty =>
                  cases hread
                  exact if_pos hempty
              · next hmany => exact (if_neg hmany).trans (hnext hread)
            · cases hread
        · next htext =>
            cases htext
            exact hnext hread
        · next htext =>
            cases htext
            exact hnext hread
        · next htext =>
            cases htext
            exact hnext hread
        · next hopen hclose hinter hminus htilde =>
            exact absurd ⟨hopen, hclose, hinter, hminus, htilde⟩ hmember

end Sets

end Regex
end AdaptiveRules
