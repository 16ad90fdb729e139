import AdaptiveRules.Proofs.RegexFronts

/-!
# Bracketed sets are taken off the front

Whatever is read of a bracketed set, the rest of the set stands behind it, with the bracket that ends
it.  So looking ahead never goes beyond the set, and a set is read off the front of any text that
begins with it.
-/

namespace AdaptiveRules
namespace Regex

section Sets

variable {flags : Flags} {cs rest : List Char}

/-- Both texts begin with the same stretch, and there is a closing bracket in it. -/
def BracketsAlike (rest rest' : List Char) : Prop :=
  ∃ shared, ']' ∈ shared ∧ shared <+: rest ∧ shared <+: rest'

namespace BracketsAlike

variable {rest' : List Char}

theorem of_mem {front : List Char} (hmem : ']' ∈ front) (rest rest' : List Char) :
    BracketsAlike (front ++ rest) (front ++ rest') :=
  ⟨front, hmem, List.prefix_append _ _, List.prefix_append _ _⟩

theorem append (halike : BracketsAlike rest rest') (front : List Char) :
    BracketsAlike (front ++ rest) (front ++ rest') := by
  obtain ⟨shared, hmem, hrest, hrest'⟩ := halike
  exact ⟨front ++ shared, List.mem_append_right front hmem,
    (List.prefix_append_right_inj front).mpr hrest, (List.prefix_append_right_inj front).mpr hrest'⟩

theorem exists_cons (halike : BracketsAlike rest rest') :
    ∃ c more more', rest = c :: more ∧ rest' = c :: more' ∧
      (c ≠ ']' → BracketsAlike more more') := by
  obtain ⟨shared, hmem, ⟨more, rfl⟩, ⟨more', rfl⟩⟩ := halike
  rcases shared with _ | ⟨c, shared⟩
  · cases hmem
  · refine ⟨c, _, _, rfl, rfl, fun hc => .of_mem ?_ _ _⟩
    exact (List.mem_cons.mp hmem).resolve_left (Ne.symm hc)

theorem namesAlike (halike : BracketsAlike rest rest') : NamesAlike rest rest' := by
  obtain ⟨c, more, more', rfl, rfl, hmore⟩ := halike.exists_cons
  rintro ⟨hhead, hname⟩
  obtain rfl : c = '{' := Option.some.inj hhead
  obtain ⟨d, _, _, rfl, rfl, -⟩ := (hmore (by decide)).exists_cons
  exact ⟨rfl, hname⟩

end BracketsAlike

/-! ### Members -/

theorem exists_front_readSetItem (hspaced : flags.spaced = false) {item : Escape}
    (hread : readSetItem flags cs = .ok (item, rest)) :
    ∃ c taken, cs = c :: taken ++ rest ∧ ∀ rest', BracketsAlike rest rest' →
      readSetItem flags (c :: taken ++ rest') = .ok (item, rest') := by
  rcases cs with _ | ⟨c, tail⟩
  · cases hread
  by_cases hc : c = '\\'
  · subst hc
    have heq : ∀ text, readSetItem flags ('\\' :: text) = readEscape flags text := fun _ => rfl
    obtain ⟨taken, hsplit, hmore⟩ := (readsFront_readEscape hspaced).exists_cons heq hread
    exact ⟨'\\', taken, hsplit, fun rest' halike => hmore rest' halike.namesAlike⟩
  · have heq : ∀ text, readSetItem flags (c :: text) = .ok (.literal c false, text) := by
      intro text
      unfold readSetItem
      simp only
      rfl
    rw [heq] at hread
    cases hread
    exact ⟨c, [], rfl, fun rest' _ => heq rest'⟩

theorem endsMember_congr (hspaced : flags.spaced = false) {rest' : List Char}
    (halike : BracketsAlike rest rest') : endsMember flags rest' = endsMember flags rest := by
  obtain ⟨c, more, more', rfl, rfl, hmore⟩ := halike.exists_cons
  have hpeek : ∀ text, flags.peek (c :: text) = text.head? := by
    intro text
    unfold Flags.peek
    rw [hspaced]
    rfl
  unfold endsMember
  rw [hpeek, hpeek]
  by_cases hc : c = ']'
  · subst hc
    rfl
  · obtain ⟨d, _, _, rfl, rfl, -⟩ := (hmore hc).exists_cons
    rfl

theorem exists_front_readSetRange (hspaced : flags.spaced = false) {s : CharSet}
    (hread : readSetRange flags cs = .ok (s, rest)) :
    ∃ c taken, cs = c :: taken ++ rest ∧ ∀ rest', BracketsAlike rest rest' →
      readSetRange flags (c :: taken ++ rest') = .ok (s, rest') := by
  have hskip := Flags.skip_of_not_spaced hspaced
  have hparts := hread
  unfold readSetRange at hparts
  obtain ⟨⟨first, left⟩, hitem, hnext⟩ := exists_of_bind_eq_ok hparts
  obtain ⟨c, taken, rfl, hmore⟩ := exists_front_readSetItem hspaced hitem
  rcases left with _ | ⟨d, tail⟩
  · simp only [Flags.skip_nil] at hnext
    cases hnext
  refine ⟨c, ?_⟩
  cases hends : endsMember flags (d :: tail) with
  | true =>
      rw [readSetRange_single hitem (hskip _) hends] at hread
      obtain ⟨hset, rfl⟩ := exists_of_map_eq_ok hread
      refine ⟨taken, rfl, fun rest' halike => ?_⟩
      have hends' := (endsMember_congr hspaced halike).trans hends
      obtain ⟨_, _, _, _, rfl, -⟩ := halike.exists_cons
      rw [readSetRange_single (hmore _ halike) (hskip _) hends', hset]
      rfl
  | false =>
      rw [readSetRange_range hitem (hskip _) hends, hskip] at hread
      split at hread
      · cases hread
      obtain ⟨⟨last, left⟩, hlast, hmade⟩ := exists_of_bind_eq_ok hread
      obtain ⟨hset, rfl⟩ := exists_of_map_eq_ok hmade
      obtain ⟨e, taken', rfl, hmore'⟩ := exists_front_readSetItem hspaced hlast
      refine ⟨taken ++ d :: e :: taken', by simp, fun rest' halike => ?_⟩
      have halike' : BracketsAlike (d :: (e :: taken' ++ rest)) (d :: (e :: taken' ++ rest')) :=
        halike.append (d :: e :: taken')
      have htext : c :: (taken ++ d :: e :: taken') ++ rest' =
          c :: taken ++ d :: (e :: taken' ++ rest') := by simp
      rw [htext, readSetRange_range (hmore _ halike') (hskip _)
        ((endsMember_congr hspaced halike').trans hends), hskip, hmore' rest' halike]
      show (if _ then _ else _) = _
      rw [if_neg (by simp), ok_bind]
      rw [show rangeSet flags first last = .ok s from hset]
      rfl

/-! ### The beginning of a bracket -/

theorem exists_front_readHyphens (hspaced : flags.spaced = false) {fuel : Nat} {s s' : CharSet}
    (hread : readHyphens flags fuel s cs = (s', rest)) (hfuel : cs.length < fuel) :
    ∃ taken, cs = taken ++ rest ∧ ∀ fuel' rest', rest'.head? = rest.head? →
      (taken ++ rest').length < fuel' → readHyphens flags fuel' s (taken ++ rest') = (s', rest') := by
  induction fuel generalizing s cs with
  | zero => omega
  | succ fuel ih =>
      rcases cs with _ | ⟨c, tail⟩
      · cases hread
        refine ⟨[], rfl, fun fuel' rest' hhead _ => ?_⟩
        obtain rfl : rest' = [] := List.head?_eq_none_iff.mp hhead
        cases fuel' <;> rfl
      by_cases hc : c = '-'
      · subst hc
        have heq : ∀ fuel text, readHyphens flags (fuel + 1) s ('-' :: text) =
            readHyphens flags fuel (s.union (.singleton '-')) text := by
          intro fuel text
          rw [readHyphens, Flags.skip_of_not_spaced hspaced]
        rw [heq] at hread
        obtain ⟨taken, rfl, hmore⟩ := ih hread (Nat.succ_lt_succ_iff.mp hfuel)
        refine ⟨'-' :: taken, rfl, fun fuel' rest' hhead hlong => ?_⟩
        rw [List.cons_append, List.length_cons] at hlong
        obtain ⟨fuel', rfl⟩ : ∃ k, fuel' = k + 1 := ⟨fuel' - 1, by omega⟩
        exact (heq _ _).trans (hmore fuel' rest' hhead (by omega))
      · rw [readHyphens_of_ne hc] at hread
        cases hread
        refine ⟨[], rfl, fun fuel' rest' hhead hlong => ?_⟩
        obtain ⟨more, rfl⟩ := List.head?_eq_some_iff.mp hhead
        obtain ⟨fuel', rfl⟩ : ∃ k, fuel' = k + 1 := ⟨fuel' - 1, by omega⟩
        exact readHyphens_of_ne hc

theorem exists_front_bracketFirst (hspaced : flags.spaced = false) {negated negated' : Bool}
    {s s' : CharSet} (hread : bracketFirst flags negated s cs = .ok (negated', s', rest)) :
    ∃ taken, cs = taken ++ rest ∧ ∀ rest', BracketsAlike rest rest' →
      bracketFirst flags negated s (taken ++ rest') = .ok (negated', s', rest') := by
  rcases cs with _ | ⟨c, tail⟩
  · cases hread
  by_cases hc : c = ']'
  · subst hc
    cases hs : s.isEmpty with
    | false =>
        have heq : ∀ text, bracketFirst flags negated s (']' :: text) =
            .ok (negated, s, ']' :: text) := by
          intro text
          unfold bracketFirst
          simp only [hs, Bool.false_eq_true, if_false]
        rw [heq] at hread
        cases hread
        refine ⟨[], rfl, fun rest' halike => ?_⟩
        obtain ⟨c, _, more', hcons, rfl, -⟩ := halike.exists_cons
        obtain ⟨rfl, -⟩ := List.cons.inj hcons
        exact heq more'
    | true =>
        have heq : ∀ text, bracketFirst flags negated s (']' :: text) =
            if text.isEmpty then .error .classUnclosed
            else .ok (negated, .singleton ']', text) := by
          intro text
          unfold bracketFirst
          simp only [hs, if_true, Flags.skip_of_not_spaced hspaced]
        rw [heq] at hread
        split at hread
        · cases hread
        cases hread
        refine ⟨[']'], rfl, fun rest' halike => (heq rest').trans ?_⟩
        obtain ⟨_, _, _, _, rfl, -⟩ := halike.exists_cons
        exact if_neg (by simp)
  · rw [bracketFirst_of_ne hc] at hread
    cases hread
    refine ⟨[], rfl, fun rest' halike => ?_⟩
    obtain ⟨d, _, more', hcons, rfl, -⟩ := halike.exists_cons
    obtain ⟨rfl, -⟩ := List.cons.inj hcons
    exact bracketFirst_of_ne hc

theorem exists_front_bracketTail (hspaced : flags.spaced = false) {negated negated' : Bool}
    {s : CharSet} (hread : bracketTail flags negated cs = .ok (negated', s, rest)) :
    ∃ taken, cs = taken ++ rest ∧ ∀ rest', BracketsAlike rest rest' →
      bracketTail flags negated (taken ++ rest') = .ok (negated', s, rest') := by
  unfold bracketTail at hread
  cases hhyphens : readHyphens flags (cs.length + 1) .empty cs with
  | mk s' left =>
      rw [hhyphens] at hread
      obtain ⟨hyphens, rfl, hbehind⟩ :=
        exists_front_readHyphens hspaced hhyphens (Nat.lt_succ_self _)
      obtain ⟨first, rfl, hmore⟩ := exists_front_bracketFirst hspaced hread
      refine ⟨hyphens ++ first, (List.append_assoc _ _ _).symm, fun rest' halike => ?_⟩
      have hhead : (first ++ rest').head? = (first ++ rest).head? := by
        obtain ⟨c, more, more', hcons, hcons', -⟩ := (halike.append first).exists_cons
        rw [hcons, hcons']
        rfl
      unfold bracketTail
      rw [List.append_assoc, hbehind _ _ hhead (Nat.lt_succ_self _)]
      exact hmore rest' halike

theorem exists_front_readBracketStart (hspaced : flags.spaced = false) {negated : Bool}
    {s : CharSet} (hread : readBracketStart flags cs = .ok (negated, s, rest)) :
    ∃ taken, cs = taken ++ rest ∧ ∀ rest', BracketsAlike rest rest' →
      readBracketStart flags (taken ++ rest') = .ok (negated, s, rest') := by
  have hskip := Flags.skip_of_not_spaced hspaced
  by_cases hhead : cs.head? = some '^'
  · obtain ⟨tail, rfl⟩ := List.head?_eq_some_iff.mp hhead
    rw [readBracketStart_negated (hskip _), hskip] at hread
    obtain ⟨taken, rfl, hmore⟩ := exists_front_bracketTail hspaced hread
    refine ⟨'^' :: taken, rfl, fun rest' halike => ?_⟩
    rw [List.cons_append, readBracketStart_negated (hskip _), hskip]
    exact hmore rest' halike
  · rw [readBracketStart_plain (by rwa [hskip]), hskip] at hread
    obtain ⟨taken, rfl, hmore⟩ := exists_front_bracketTail hspaced hread
    refine ⟨taken, rfl, fun rest' halike => ?_⟩
    have hother : (taken ++ rest').head? ≠ some '^' := by
      obtain ⟨c, more, more', hcons, hcons', -⟩ := (halike.append taken).exists_cons
      rw [hcons] at hhead
      rwa [hcons']
    rw [readBracketStart_plain (by rwa [hskip]), hskip]
    exact hmore rest' halike

/-! ### Sets with names -/

theorem not_mem_of_posixSet {name : String} {s : CharSet} (hset : posixSet name = some s) :
    ']' ∉ name.toList := by
  unfold posixSet at hset
  split at hset
  case h_15 => cases hset
  all_goals decide

theorem exists_front_posixTail {negated negated' : Bool} {s : CharSet}
    (hread : posixTail negated cs = some (s, negated', rest)) :
    ∃ front, ']' ∉ front ∧ cs = front ++ ']' :: rest ∧
      ∀ rest', posixTail negated (front ++ ']' :: rest') = some (s, negated', rest') := by
  have hparts := hread
  unfold posixTail at hparts
  split at hparts
  swap
  · cases hparts
  next more hdrop =>
  obtain ⟨named, hnamed, heq⟩ := Option.map_eq_some_iff.mp hparts
  cases heq
  have hsplit := cs.takeWhile_append_dropWhile (p := (· != ':'))
  rw [hdrop] at hsplit
  have htext : ∀ text, (cs.takeWhile (· != ':') ++ [':']) ++ ']' :: text =
      cs.takeWhile (· != ':') ++ ':' :: ']' :: text := fun text => by simp
  refine ⟨cs.takeWhile (· != ':') ++ [':'], ?_, (htext rest ▸ hsplit).symm, fun rest' => ?_⟩
  · have hname := not_mem_of_posixSet hnamed
    rw [String.toList_ofList] at hname
    simpa using hname
  · have hfront := dropWhile_front [] hdrop (']' :: rest')
    rw [List.nil_append] at hfront
    rw [htext]
    unfold posixTail
    rw [hfront.1, hfront.2, hnamed]
    rfl

theorem exists_front_readPosix {negated : Bool} {s : CharSet}
    (hread : readPosix cs = some (s, negated, rest)) :
    ∃ front, ']' ∉ front ∧ cs = front ++ ']' :: rest ∧
      ∀ rest', readPosix (front ++ ']' :: rest') = some (s, negated, rest') := by
  by_cases hcolon : cs.head? = some ':'
  swap
  · rw [readPosix_of_ne hcolon] at hread
    cases hread
  obtain ⟨tail, rfl⟩ := List.head?_eq_some_iff.mp hcolon
  by_cases hhat : tail.head? = some '^'
  · obtain ⟨more, rfl⟩ := List.head?_eq_some_iff.mp hhat
    rw [readPosix_negated] at hread
    obtain ⟨front, hnone, rfl, hmore⟩ := exists_front_posixTail hread
    exact ⟨':' :: '^' :: front, by simpa using hnone, rfl, fun rest' =>
      (readPosix_negated _).trans (hmore rest')⟩
  · rw [readPosix_plain hhat] at hread
    obtain ⟨front, hnone, rfl, hmore⟩ := exists_front_posixTail hread
    refine ⟨':' :: front, by simpa using hnone, rfl, fun rest' => ?_⟩
    have hother : (front ++ ']' :: rest').head? ≠ some '^' := by
      rcases front with _ | ⟨c, front⟩
      · simp
      · exact hhat
    exact (readPosix_plain hother).trans (hmore rest')

/-- No set with a name is opened where none was, as long as the first closing bracket stays. -/
theorem readPosix_eq_none_of_alike {rest' : List Char} (halike : BracketsAlike rest rest')
    (hnone : readPosix rest = none) : readPosix rest' = none := by
  obtain ⟨shared, hmem, ⟨more, rfl⟩, ⟨more', rfl⟩⟩ := halike
  rcases hread : readPosix (shared ++ more') with _ | ⟨s, negated, left⟩
  · rfl
  obtain ⟨front, hfront, hsplit, hmore⟩ := exists_front_readPosix hread
  have hend : front ++ [']'] <+: shared ++ more' := by
    rw [hsplit]
    exact ⟨left, by simp⟩
  rcases List.prefix_or_prefix_of_prefix hend (List.prefix_append shared more') with hshort | hlong
  · obtain ⟨behind, rfl⟩ := hshort
    rw [List.append_assoc, List.append_assoc, List.singleton_append, hmore] at hnone
    cases hnone
  · rcases List.prefix_concat_iff.mp hlong with rfl | hwithin
    · rw [List.append_assoc, List.singleton_append, hmore] at hnone
      cases hnone
    · exact absurd (hwithin.subset hmem) hfront

/-! ### Whole sets -/

theorem StartsMember.of_alike {text text' : List Char} (hmember : StartsMember text)
    (halike : BracketsAlike text text') : StartsMember text' := by
  obtain ⟨c, more, more', rfl, rfl, hmore⟩ := halike.exists_cons
  have hsecond : ∀ d left, d ≠ ']' → c :: more' = d :: d :: left →
      ∃ left', c :: more = d :: d :: left' := by
    intro d left hd hcons
    obtain ⟨rfl, rfl⟩ := List.cons.inj hcons
    obtain ⟨e, left', _, rfl, hcons', -⟩ := (hmore hd).exists_cons
    obtain ⟨rfl, -⟩ := List.cons.inj hcons'
    exact ⟨left', rfl⟩
  refine ⟨?_, ?_, ?_, ?_, ?_⟩
  · intro left hcons
    exact hmember.opens more (by rw [(List.cons.inj hcons).1])
  · intro left hcons
    exact hmember.closes more (by rw [(List.cons.inj hcons).1])
  · intro left hcons
    obtain ⟨left', hcons'⟩ := hsecond _ left (by decide) hcons
    exact hmember.intersects left' hcons'
  · intro left hcons
    obtain ⟨left', hcons'⟩ := hsecond _ left (by decide) hcons
    exact hmember.subtracts left' hcons'
  · intro left hcons
    obtain ⟨left', hcons'⟩ := hsecond _ left (by decide) hcons
    exact hmember.differs left' hcons'

/-- What the reader of a set has read, and how deep in brackets it is. -/
structure SetReader where
  depth : Nat
  deepest : Nat
  members : CharSet
  frames : List SetFrame

namespace SetReader

variable {r : SetReader} {fuel : Nat} {c : Char} {tail : List Char}
  {out : CharSet × Nat × List Char}

def run (r : SetReader) (flags : Flags) (fuel : Nat) (cs : List Char) :
    Except RegexError (CharSet × Nat × List Char) :=
  readSet flags fuel r.depth r.deepest r.members r.frames cs

/-- The reader takes some text off the front, and goes on with what is behind it.  It takes the same
text where something else is behind, as long as the first closing bracket stays. -/
structure Takes (r : SetReader) (flags : Flags) (text left : List Char) (next : SetReader) :
    Prop where
  some : text ≠ []
  step : ∀ fuel left', BracketsAlike left left' →
    r.run flags (fuel + 1) (text ++ left') = next.run flags fuel left'

/-- The reader takes some text off the front, and what comes out is read behind it. -/
def Advances (r : SetReader) (flags : Flags) (fuel : Nat) (cs : List Char)
    (out : CharSet × Nat × List Char) : Prop :=
  ∃ text left next, cs = text ++ left ∧ r.Takes flags text left next ∧
    next.run flags fuel left = .ok out

theorem advances_member (hspaced : flags.spaced = false) (hcs : cs ≠ [])
    (hmember : StartsMember cs) (hread : r.run flags (fuel + 1) cs = .ok out) :
    r.Advances flags fuel cs out := by
  have hskip := Flags.skip_of_not_spaced hspaced
  rw [run, readSet_of_member (hskip _) hcs hmember] at hread
  obtain ⟨⟨item, left⟩, hitem, hnext⟩ := exists_of_bind_eq_ok hread
  obtain ⟨c, front, hsplit, hmore⟩ := exists_front_readSetRange hspaced hitem
  refine ⟨c :: front, left, ⟨r.depth, r.deepest, r.members.union item, r.frames⟩, hsplit,
    ⟨List.cons_ne_nil c front, fun fuel' left' halike => ?_⟩, hnext⟩
  have hmember' : StartsMember (c :: front ++ left') :=
    hmember.of_alike (hsplit ▸ halike.append (c :: front))
  rw [run, readSet_of_member (hskip _) (by simp) hmember', hmore left' halike]
  rfl

/-- Behind an opening bracket stands the name of a set, or a set of its own begins. -/
theorem advances_open (hspaced : flags.spaced = false)
    (hread : r.run flags (fuel + 1) ('[' :: tail) = .ok out) :
    r.Advances flags fuel ('[' :: tail) out := by
  have hskip := Flags.skip_of_not_spaced hspaced
  unfold run readSet at hread
  simp only [hskip] at hread
  cases hnamed : (if r.frames.isEmpty then none else readPosix tail) with
  | some p =>
      obtain ⟨named, negated, left⟩ := p
      simp only [hnamed] at hread
      obtain ⟨done, hdone, hnext⟩ := exists_of_bind_eq_ok hread
      split at hnamed
      · cases hnamed
      next hframes =>
      obtain ⟨front, -, rfl, hfront⟩ := exists_front_readPosix hnamed
      refine ⟨'[' :: (front ++ [']']), left,
        ⟨r.depth, r.deepest, r.members.union done, r.frames⟩, by simp,
        ⟨List.cons_ne_nil _ _, fun fuel' left' _ => ?_⟩, hnext⟩
      have htext : '[' :: (front ++ [']']) ++ left' = '[' :: (front ++ ']' :: left') := by simp
      rw [htext, run]
      conv_lhs => unfold readSet
      simp only [hskip, if_neg hframes, hfront, hdone]
      rfl
  | none =>
      simp only [hnamed] at hread
      obtain ⟨⟨negated, first, left⟩, hstart, hnext⟩ := exists_of_bind_eq_ok hread
      obtain ⟨front, rfl, hfront⟩ := exists_front_readBracketStart hspaced hstart
      refine ⟨'[' :: front, left, ⟨r.depth + 1, max r.deepest (r.depth + 1), first,
        .bracket r.members negated :: r.frames⟩, rfl,
        ⟨List.cons_ne_nil _ _, fun fuel' left' halike => ?_⟩, hnext⟩
      have hnamed' : (if r.frames.isEmpty then none else readPosix (front ++ left')) = none := by
        split at hnamed
        · next hframes => exact if_pos hframes
        · next hframes =>
            exact (if_neg hframes).trans
              (readPosix_eq_none_of_alike (halike.append front) hnamed)
      rw [run, List.cons_append]
      conv_lhs => unfold readSet
      simp only [hskip, hnamed', hfront left' halike]
      rfl

theorem ends_or_advances (hspaced : flags.spaced = false)
    (hread : r.run flags (fuel + 1) (']' :: tail) = .ok out) :
    (out.2.2 = tail ∧ ∀ fuel rest',
        r.run flags (fuel + 1) (']' :: rest') = .ok (out.1, out.2.1, rest')) ∨
      r.Advances flags fuel (']' :: tail) out := by
  have hskip := Flags.skip_of_not_spaced hspaced
  unfold run readSet at hread
  simp only [hskip] at hread
  generalize hpending : applyPending flags r.members r.frames = pending at hread
  obtain ⟨whole, _ | ⟨⟨outer, negated⟩ | _, frames⟩⟩ := pending
  · cases hread
  · simp only at hread
    obtain ⟨done, hdone, hread⟩ := exists_of_bind_eq_ok hread
    split at hread
    · next hempty =>
        cases hread
        refine Or.inl ⟨rfl, fun fuel' rest' => ?_⟩
        rw [run]
        conv_lhs => unfold readSet
        simp only [hskip, hpending, hdone]
        exact if_pos hempty
    · next hmany =>
        refine Or.inr ⟨[']'], tail, ⟨r.depth - 1, r.deepest, outer.union done, frames⟩, rfl,
          ⟨List.cons_ne_nil _ _, fun fuel' left' _ => ?_⟩, hread⟩
        rw [run, List.singleton_append]
        conv_lhs => unfold readSet
        simp only [hskip, hpending, hdone]
        exact if_neg hmany
  · cases hread

/-- The reader behind the sign of an operation. -/
def operation (r : SetReader) (flags : Flags) (op : SetOperation) : SetReader :=
  ⟨r.depth, r.deepest, .empty, .operation op (applyPending flags r.members r.frames).1 ::
    (applyPending flags r.members r.frames).2⟩

/-- The sign of an operation, which is one character twice. -/
def IsOperator (c : Char) (op : SetOperation) : Prop :=
  (c = '&' ∧ op = .inter) ∨ (c = '-' ∧ op = .difference) ∨ (c = '~' ∧ op = .symmetricDifference)

theorem run_operation (hspaced : flags.spaced = false) {op : SetOperation}
    (hop : IsOperator c op) (fuel : Nat) (rest : List Char) :
    r.run flags (fuel + 1) (c :: c :: rest) = (r.operation flags op).run flags fuel rest := by
  have hskip := Flags.skip_of_not_spaced hspaced
  rw [run]
  conv_lhs => unfold readSet
  rcases hop with ⟨rfl, rfl⟩ | ⟨rfl, rfl⟩ | ⟨rfl, rfl⟩ <;>
  · simp only [hskip]
    rfl

theorem advances_operation (hspaced : flags.spaced = false) {op : SetOperation}
    (hop : IsOperator c op) (hread : r.run flags (fuel + 1) (c :: c :: tail) = .ok out) :
    r.Advances flags fuel (c :: c :: tail) out := by
  rw [run_operation hspaced hop] at hread
  exact ⟨[c, c], tail, r.operation flags op, rfl,
    ⟨List.cons_ne_nil _ _, fun fuel' left' _ => run_operation hspaced hop fuel' left'⟩, hread⟩

/-- One step ends the set, or takes some of its text. -/
theorem step_cases (hspaced : flags.spaced = false)
    (hread : r.run flags (fuel + 1) cs = .ok out) :
    (cs = ']' :: out.2.2 ∧ ∀ fuel rest',
        r.run flags (fuel + 1) (']' :: rest') = .ok (out.1, out.2.1, rest')) ∨
      r.Advances flags fuel cs out := by
  by_cases hopens : ∃ tail, cs = '[' :: tail
  · obtain ⟨tail, rfl⟩ := hopens
    exact Or.inr (advances_open hspaced hread)
  by_cases hcloses : ∃ tail, cs = ']' :: tail
  · obtain ⟨tail, rfl⟩ := hcloses
    refine (ends_or_advances hspaced hread).imp_left fun ⟨hrest, hends⟩ => ⟨?_, hends⟩
    rw [hrest]
  by_cases hoperation : ∃ c op tail, IsOperator c op ∧ cs = c :: c :: tail
  · obtain ⟨c, op, tail, hop, rfl⟩ := hoperation
    exact Or.inr (advances_operation hspaced hop hread)
  have hmember : StartsMember cs :=
    { opens := fun tail hcs => hopens ⟨tail, hcs⟩
      closes := fun tail hcs => hcloses ⟨tail, hcs⟩
      intersects := fun tail hcs => hoperation ⟨_, _, tail, Or.inl ⟨rfl, rfl⟩, hcs⟩
      subtracts := fun tail hcs => hoperation ⟨_, _, tail, Or.inr (Or.inl ⟨rfl, rfl⟩), hcs⟩
      differs := fun tail hcs => hoperation ⟨_, _, tail, Or.inr (Or.inr ⟨rfl, rfl⟩), hcs⟩ }
  have hsome : cs ≠ [] := by
    rintro rfl
    rw [run, readSet_nil] at hread
    cases hread
  exact Or.inr (advances_member hspaced hsome hmember hread)

/-- A set is read off the front of the text, with the bracket that ends it. -/
theorem exists_front (hspaced : flags.spaced = false) (hread : r.run flags fuel cs = .ok out) :
    ∃ taken, ']' ∈ taken ∧ cs = taken ++ out.2.2 ∧ ∀ fuel' rest', taken.length ≤ fuel' →
      r.run flags fuel' (taken ++ rest') = .ok (out.1, out.2.1, rest') := by
  induction fuel generalizing r cs with
  | zero => cases hread
  | succ fuel ih =>
      rcases step_cases hspaced hread with ⟨hend, hstep⟩ | ⟨text, left, next, rfl, htakes, hnext⟩
      · refine ⟨[']'], List.mem_singleton_self _, hend, fun fuel' rest' hfuel => ?_⟩
        obtain ⟨fuel', rfl⟩ := Nat.exists_eq_add_one.mpr hfuel
        exact hstep fuel' rest'
      · obtain ⟨taken, hmem, rfl, hmore⟩ := ih hnext
        have hlength := List.length_pos_iff.mpr htakes.some
        refine ⟨text ++ taken, List.mem_append_right text hmem, (List.append_assoc _ _ _).symm,
          fun fuel' rest' hfuel => ?_⟩
        -- Each step takes some text, so the fuel lasts as long as the text does.
        rw [List.length_append] at hfuel
        obtain ⟨fuel', rfl⟩ := Nat.exists_eq_add_one.mpr (show 0 < fuel' by omega)
        rw [List.append_assoc, htakes.step fuel' _ (.of_mem hmem out.2.2 rest')]
        exact hmore fuel' rest' (by omega)

end SetReader

end Sets

end Regex
end AdaptiveRules
