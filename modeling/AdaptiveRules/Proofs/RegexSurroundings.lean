import AdaptiveRules.Proofs.RegexSetSuffixes
import AdaptiveRules.Proofs.RegexShift

/-!
# Reading inside other text

A text that is read alone is read in the same steps where it stands inside other text: behind groups
and branches that were read before, and before a bar or the end of a group.  The numbers of its groups
move on, and a name that is taken is refused.
-/

namespace AdaptiveRules
namespace Regex

/-- What was read before: groups with their names, branches of the group that is open, and the groups
around it. -/
structure Surroundings where
  captures : Nat
  names : List String
  branches : List Piece
  enclosing : List OpenGroup

def GroupKind.shift (k : Nat) : GroupKind → GroupKind
  | plain => plain
  | capture index name => capture (index + k) name

namespace Surroundings

variable (w : Surroundings)

/-- The branches and the open groups of a text, put inside.  The outermost branches of the text join
those that were there before. -/
def around : List Piece → List OpenGroup → List Piece × List OpenGroup
  | branches, [] => (branches.map (.shift w.captures) ++ w.branches, w.enclosing)
  | branches, g :: enclosing =>
      (branches.map (.shift w.captures),
        ⟨g.kind.shift w.captures, (around g.branches enclosing).1,
          g.items.map (.shift w.captures), g.flags⟩ :: (around g.branches enclosing).2)

theorem around_cons (b : Piece) (branches : List Piece) (enclosing : List OpenGroup) :
    w.around (b :: branches) enclosing =
      (b.shift w.captures :: (w.around branches enclosing).1, (w.around branches enclosing).2) := by
  cases enclosing <;> rfl

end Surroundings

namespace Reading

/-- The reader at the same place of a text that stands inside. -/
def inside (r : Reading) (w : Surroundings) : Reading where
  flags := r.flags
  captures := r.captures + w.captures
  names := r.names ++ w.names
  branches := (w.around r.branches r.enclosing).1
  items := r.items.map (.shift w.captures)
  enclosing := (w.around r.branches r.enclosing).2

variable {r s : Reading} {w : Surroundings} {cs rest suffix : List Char}

theorem push_inside (p : Piece) : (r.inside w).push (p.shift w.captures) = (r.push p).inside w := rfl

/-- A bar ends a branch inside as it does alone. -/
theorem bar_inside :
    ({ r.inside w with
      branches := Piece.branch (r.inside w).items :: (r.inside w).branches
      items := [] } : Reading) =
      ({ r with branches := Piece.branch r.items :: r.branches, items := [] } : Reading).inside w := by
  unfold inside
  simp only [Surroundings.around_cons, Piece.branch_map]
  rfl

theorem closeGroup_inside (hclose : r.closeGroup = .ok s) :
    (r.inside w).closeGroup = .ok (s.inside w) := by
  obtain ⟨flags, captures, names, branches, items, enclosing⟩ := r
  cases enclosing with
  | nil => cases hclose
  | cons g enclosing =>
      cases hclose
      have hbody : Piece.choice (Piece.branch (items.map (.shift w.captures)) ::
          branches.map (.shift w.captures)) =
          (Piece.choice (Piece.branch items :: branches)).shift w.captures := by
        rw [Piece.branch_map, ← List.map_cons, Piece.choice_map]
      unfold closeGroup inside whole
      simp only [Surroundings.around]
      rw [hbody]
      cases g.kind <;> rfl

theorem repeatLast_inside {least : Nat} {most : Option Nat} {greedy : Bool} :
    (r.inside w).repeatLast least most greedy =
      (r.repeatLast least most greedy).map fun s => s.inside w := by
  obtain ⟨flags, captures, names, branches, items, enclosing⟩ := r
  cases items with
  | nil => rfl
  | cons p items =>
      unfold repeatLast inside
      simp only [List.map_cons]
      rw [Piece.repeated_shift]
      have hrepeatable : (p.shift w.captures).repeatable = p.repeatable := rfl
      rw [hrepeatable]
      cases p.repeatable with
      | false => rfl
      | true => cases p.repeated least most (greedy != flags.swapGreed) <;> rfl

/-! ### Groups -/

/-- The letters of a group are read off the front of the text. -/
theorem exists_front_readFlags {flags flags' : Flags} {value : Bool} {seen : List Char}
    {last : Option Char} {stop : Char} {bare : Bool}
    (hread : readFlags flags value seen last cs = .ok (flags', stop, bare, rest)) :
    ∃ taken, cs = taken ++ rest ∧ ∀ rest',
      readFlags flags value seen last (taken ++ rest') = .ok (flags', stop, bare, rest') := by
  induction cs generalizing flags value seen last with
  | nil => cases hread
  | cons c cs ih =>
      unfold readFlags at hread
      by_cases hstop : c = ':' ∨ c = ')'
      · rw [if_pos hstop] at hread
        by_cases hlast : last = some '-'
        · rw [if_pos hlast] at hread
          cases hread
        · rw [if_neg hlast] at hread
          cases hread
          refine ⟨[stop], rfl, fun rest' => ?_⟩
          exact (if_pos hstop).trans (if_neg hlast)
      · rw [if_neg hstop] at hread
        by_cases hminus : c = '-'
        · rw [if_pos hminus] at hread
          by_cases hseen : seen.contains '-' = true
          · rw [if_pos hseen] at hread
            cases hread
          · rw [if_neg hseen] at hread
            obtain ⟨taken, rfl, hmore⟩ := ih hread
            refine ⟨c :: taken, rfl, fun rest' => ?_⟩
            rw [List.cons_append, readFlags, if_neg hstop, if_pos hminus, if_neg hseen]
            exact hmore rest'
        · rw [if_neg hminus] at hread
          cases hassign : flags.assign c value with
          | none =>
              rw [hassign] at hread
              cases hread
          | some assigned =>
              simp only [hassign] at hread
              by_cases hseen : seen.contains c = true
              · rw [if_pos hseen] at hread
                cases hread
              · rw [if_neg hseen] at hread
                obtain ⟨taken, rfl, hmore⟩ := ih hread
                refine ⟨c :: taken, rfl, fun rest' => ?_⟩
                rw [List.cons_append, readFlags, if_neg hstop, if_neg hminus, hassign]
                simp only [if_neg hseen]
                exact hmore rest'

theorem readFlags_append {flags flags' : Flags} {value : Bool} {seen : List Char}
    {last : Option Char} {stop : Char} {bare : Bool}
    (hread : readFlags flags value seen last cs = .ok (flags', stop, bare, rest))
    (suffix : List Char) :
    readFlags flags value seen last (cs ++ suffix) = .ok (flags', stop, bare, rest ++ suffix) := by
  obtain ⟨taken, rfl, hfront⟩ := exists_front_readFlags hread
  rw [List.append_assoc]
  exact hfront (rest ++ suffix)

/-- The name of a group is read off the front of the text. -/
theorem exists_front_readGroupName {name : String} (hread : readGroupName cs = .ok (name, rest)) :
    ∃ taken, cs = taken ++ rest ∧ ∀ rest', readGroupName (taken ++ rest') = .ok (name, rest') := by
  unfold readGroupName at hread
  cases hdrop : cs.dropWhile (· != '>') with
  | nil =>
      simp only [hdrop] at hread
      cases hread
  | cons d more =>
      have hd : d = '>' := by
        have hstop := List.head?_dropWhile_not (· != '>') cs
        rw [hdrop] at hstop
        simpa using hstop
      subst hd
      have hopen : ∀ e ∈ cs.takeWhile (· != '>'), (e != '>') = true :=
        List.all_eq_true.mp List.all_takeWhile
      have hsplit := cs.takeWhile_append_dropWhile (p := (· != '>'))
      simp only [hdrop] at hread hsplit
      generalize cs.takeWhile (· != '>') = letters at hread hopen hsplit
      rcases letters with _ | ⟨c, letters⟩
      · cases hread
      simp only at hread
      split at hread
      · next hvalid =>
          cases hread
          refine ⟨c :: letters ++ ['>'], by rw [← hsplit]; simp, fun rest' => ?_⟩
          have htext : c :: letters ++ ['>'] ++ rest' = (c :: letters) ++ '>' :: rest' := by simp
          rw [htext]
          unfold readGroupName
          rw [List.takeWhile_append_of_pos hopen, List.dropWhile_append_of_pos hopen,
            List.takeWhile_cons_of_neg (by simp), List.dropWhile_cons_of_neg (by simp),
            List.append_nil]
          exact if_pos hvalid
      · cases hread

theorem readGroupName_append {name : String}
    (hread : readGroupName cs = .ok (name, rest)) (suffix : List Char) :
    readGroupName (cs ++ suffix) = .ok (name, rest ++ suffix) := by
  obtain ⟨taken, rfl, hfront⟩ := exists_front_readGroupName hread
  rw [List.append_assoc]
  exact hfront (rest ++ suffix)

/-- Opens a group with a name, after its `<`. -/
def openNamed (r : Reading) (cs : List Char) : Except RegexError (Reading × List Char) := do
  let (name, rest) ← readGroupName cs
  if r.names.contains name then throw .groupNameDuplicate
  let index := r.captures + 1
  let r := { r with captures := index, names := name :: r.names }
  return (r.enter (.capture index (some name)) r.flags, rest)

/-- Opens a group that is not captured, or obeys a directive, after its `?`. -/
def openFlags (r : Reading) (cs : List Char) : Except RegexError (Reading × List Char) := do
  let (flags, stop, bare, rest) ← readFlags r.flags true [] none cs
  if stop = ':' then return (r.enter .plain flags, rest)
  else if bare then throw .repetitionMissing
  else return ({ r with flags := flags }.push .directive, rest)

/-- Opens a group that is numbered only. -/
def openNumbered (r : Reading) : Reading :=
  { r with captures := r.captures + 1 }.enter (.capture (r.captures + 1) none) r.flags

theorem openNumbered_inside : (r.inside w).openNumbered = r.openNumbered.inside w := by
  have hindex : r.captures + w.captures + 1 = r.captures + 1 + w.captures := by omega
  unfold openNumbered enter inside
  simp only [Surroundings.around, GroupKind.shift, List.map_nil]
  rw [hindex]

theorem openFlags_inside (hopen : r.openFlags cs = .ok (s, rest)) (suffix : List Char) :
    (r.inside w).openFlags (cs ++ suffix) = .ok (s.inside w, rest ++ suffix) := by
  obtain ⟨⟨flags, stop, bare, left⟩, hflags, hopen⟩ := exists_of_bind_eq_ok hopen
  have hmore : readFlags (r.inside w).flags true [] none (cs ++ suffix) =
      .ok (flags, stop, bare, left ++ suffix) := readFlags_append hflags suffix
  unfold openFlags
  rw [hmore]
  simp only [bind, Except.bind] at hopen ⊢
  by_cases hstop : stop = ':'
  · rw [if_pos hstop] at hopen ⊢
    cases hopen
    rfl
  · rw [if_neg hstop] at hopen ⊢
    by_cases hbare : bare = true
    · rw [if_pos hbare] at hopen
      cases hopen
    · rw [if_neg hbare] at hopen ⊢
      cases hopen
      rfl

theorem openNamed_inside (hopen : r.openNamed cs = .ok (s, rest)) (suffix : List Char) :
    (r.inside w).openNamed (cs ++ suffix) = .ok (s.inside w, rest ++ suffix) ∨
      ∃ e, (r.inside w).openNamed (cs ++ suffix) = .error e := by
  obtain ⟨⟨name, left⟩, hname, hopen⟩ := exists_of_bind_eq_ok hopen
  have hindex : r.captures + w.captures + 1 = r.captures + 1 + w.captures := by omega
  unfold openNamed
  rw [readGroupName_append hname suffix]
  simp only [bind, Except.bind] at hopen ⊢
  by_cases hknown : r.names.contains name = true
  · rw [if_pos hknown] at hopen
    cases hopen
  · rw [if_neg hknown] at hopen
    cases hopen
    by_cases htaken : (r.inside w).names.contains name = true
    · rw [if_pos htaken]
      exact Or.inr ⟨_, rfl⟩
    · rw [if_neg htaken]
      refine Or.inl (congrArg Except.ok (Prod.ext ?_ rfl))
      unfold enter inside
      simp only [Surroundings.around, GroupKind.shift, List.map_nil, List.cons_append]
      rw [hindex]

/-- A step inside other text takes the same from the text, unless a name is taken. -/
def StaysInside (w : Surroundings) (suffix : List Char)
    (outcome outcome' : Except RegexError (Reading × List Char)) : Prop :=
  ∀ s rest, outcome = .ok (s, rest) → (rest = [] → s.flags.Bears suffix) →
    (∃ rest', outcome' = .ok (s.inside w, rest') ∧ s.flags.Leaves suffix rest rest') ∨
      ∃ e, outcome' = .error e

theorem StaysInside.of_flags (hopen : r.openFlags cs = .ok (s, rest)) (suffix : List Char) :
    (∃ rest', (r.inside w).openFlags (cs ++ suffix) = .ok (s.inside w, rest') ∧
      s.flags.Leaves suffix rest rest') ∨
      ∃ e, (r.inside w).openFlags (cs ++ suffix) = .error e :=
  Or.inl ⟨_, openFlags_inside hopen suffix, .append _ suffix rest⟩

theorem StaysInside.of_named (hopen : r.openNamed cs = .ok (s, rest)) (suffix : List Char) :
    (∃ rest', (r.inside w).openNamed (cs ++ suffix) = .ok (s.inside w, rest') ∧
      s.flags.Leaves suffix rest rest') ∨
      ∃ e, (r.inside w).openNamed (cs ++ suffix) = .error e :=
  (openNamed_inside hopen suffix).imp (fun hmore => ⟨_, hmore, .append _ suffix rest⟩) id

/-- What an open bracket opens, by what stands behind it. -/
def openBy (r : Reading) : List Char → Except RegexError (Reading × List Char)
  | '?' :: '=' :: _ => .error .lookAround
  | '?' :: '!' :: _ => .error .lookAround
  | '?' :: '<' :: '=' :: _ => .error .lookAround
  | '?' :: '<' :: '!' :: _ => .error .lookAround
  | '?' :: 'P' :: '<' :: rest => r.openNamed rest
  | '?' :: '<' :: rest => r.openNamed rest
  | '?' :: rest => r.openFlags rest
  | rest => .ok (r.openNumbered, rest)

theorem openGroup_eq : r.openGroup cs = r.openBy (r.flags.skip cs) := rfl

theorem openBy_of_ne (hcs : cs.head? ≠ some '?') : r.openBy cs = .ok (r.openNumbered, cs) := by
  unfold openBy
  split
  case h_8 => rfl
  all_goals exact absurd rfl hcs

theorem openBy_name {e : Char} (hequal : e ≠ '=') (hnot : e ≠ '!') :
    r.openBy ('?' :: '<' :: e :: cs) = r.openNamed (e :: cs) := by
  unfold openBy
  split <;> simp_all
  next hless heq => exact (hless _ heq.symm).elim

theorem openBy_flags {d : Char} (hequal : d ≠ '=') (hnot : d ≠ '!') (hless : d ≠ '<')
    (hname : d = 'P' → cs.head? ≠ some '<') : r.openBy ('?' :: d :: cs) = r.openFlags (d :: cs) := by
  unfold openBy
  split <;> simp_all

theorem openQuestion_inside (hsuffix : GoesOn suffix) (hopen : r.openBy ('?' :: cs) = .ok (s, rest)) :
    (∃ rest', (r.inside w).openBy ('?' :: (cs ++ suffix)) = .ok (s.inside w, rest') ∧
      s.flags.Leaves suffix rest rest') ∨
      ∃ e, (r.inside w).openBy ('?' :: (cs ++ suffix)) = .error e := by
  rcases cs with _ | ⟨d, cs⟩
  · cases hopen
  rw [List.cons_append]
  by_cases hequal : d = '='
  · subst hequal
    cases hopen
  by_cases hnot : d = '!'
  · subst hnot
    cases hopen
  by_cases hless : d = '<'
  · subst hless
    rcases cs with _ | ⟨e, cs⟩
    · cases hopen
    rw [List.cons_append]
    by_cases hequal : e = '='
    · subst hequal
      cases hopen
    by_cases hnot : e = '!'
    · subst hnot
      cases hopen
    rw [openBy_name hequal hnot] at hopen ⊢
    exact StaysInside.of_named hopen suffix
  by_cases hname : d = 'P' ∧ cs.head? = some '<'
  · obtain ⟨rfl, hhead⟩ := hname
    obtain ⟨more, rfl⟩ := List.head?_eq_some_iff.mp hhead
    exact StaysInside.of_named hopen suffix
  · have hother : d = 'P' → cs.head? ≠ some '<' := fun hd hhead => hname ⟨hd, hhead⟩
    have hmore : d = 'P' → (cs ++ suffix).head? ≠ some '<' := by
      intro hd
      rcases cs with _ | ⟨e, cs⟩
      · obtain ⟨c, more, rfl, rfl | rfl⟩ := hsuffix.exists_cons <;> simp
      · exact hother hd
    rw [openBy_flags hequal hnot hless hother] at hopen
    rw [openBy_flags hequal hnot hless hmore]
    exact StaysInside.of_flags hopen suffix

theorem openGroup_inside (hsuffix : GoesOn suffix) :
    StaysInside w suffix (r.openGroup cs) ((r.inside w).openGroup (cs ++ suffix)) := by
  intro s rest hopen hbears
  rw [openGroup_eq] at hopen ⊢
  have hflags : (r.inside w).flags = r.flags := rfl
  rw [hflags]
  cases hskip : r.flags.skip cs with
  | nil =>
      rw [hskip] at hopen
      cases hopen
      have hhead : (r.flags.skip (cs ++ suffix)).head? ≠ some '?' := by
        rcases hsuffix.skip_append (hbears rfl) hskip with hmore | hmore
        · rw [show r.flags.skip (cs ++ suffix) = suffix from hmore]
          exact hsuffix.head?_ne_question
        · rw [show r.flags.skip (cs ++ suffix) = [] from hmore]
          simp
      rw [openBy_of_ne hhead, openNumbered_inside]
      refine Or.inl ⟨_, rfl, cs, ?_, ?_⟩
      · show r.flags.skip [] = r.flags.skip cs
        rw [hskip, Flags.skip_nil]
      · exact Flags.skip_skip _ _
  | cons c tail =>
      have hmore := Flags.skip_append hskip suffix
      rw [hskip] at hopen
      rw [hmore]
      by_cases hc : c = '?'
      · subst hc
        exact openQuestion_inside hsuffix hopen
      · rw [openBy_of_ne (by simpa using hc)] at hopen ⊢
        cases hopen
        rw [openNumbered_inside]
        exact Or.inl ⟨_, rfl, .append _ suffix (c :: tail)⟩

/-! ### Repetition -/

theorem readDigits_append {flags : Flags} {fuel fuel' : Nat} {taken ds : List Char}
    (hread : readDigits flags fuel taken cs = (ds, rest)) (hrest : rest ≠ [])
    (hfuel : cs.length < fuel) (hfuel' : (cs ++ suffix).length < fuel') :
    readDigits flags fuel' taken (cs ++ suffix) = (ds, rest ++ suffix) := by
  induction fuel generalizing fuel' taken cs with
  | zero => omega
  | succ fuel ih =>
      obtain ⟨fuel', rfl⟩ : ∃ k, fuel' = k + 1 := ⟨fuel' - 1, by omega⟩
      rcases cs with _ | ⟨c, tail⟩
      · exact absurd (congrArg Prod.snd hread).symm hrest
      · rw [List.cons_append] at hfuel' ⊢
        rw [List.length_cons] at hfuel hfuel'
        unfold readDigits at hread ⊢
        by_cases hdigit : c.isDigit = true
        · rw [if_pos hdigit] at hread ⊢
          have hshort := flags.length_skip_le tail
          rw [List.length_append] at hfuel'
          cases hskip : flags.skip tail with
          | nil =>
              rw [hskip] at hread
              have hnone : (readDigits flags fuel (c :: taken) []).2 = [] := by cases fuel <;> rfl
              rw [hread] at hnone
              exact absurd hnone hrest
          | cons d more =>
              rw [hskip] at hread hshort
              rw [Flags.skip_append hskip]
              refine ih hread (by omega) ?_
              rw [List.length_append]
              omega
        · rw [if_neg hdigit] at hread ⊢
          cases hread
          rfl

theorem readDigits_nil (flags : Flags) (fuel : Nat) (taken : List Char) :
    readDigits flags fuel taken [] = (taken.reverse, []) := by
  cases fuel <;> rfl

/-- What the digits make, with what is left behind them. -/
def countOf (ds rest : List Char) : Except RegexError (Option Nat × List Char) :=
  if ds.isEmpty then .ok (none, rest)
  else if natOfDigits ds < UInt32.size then .ok (some (natOfDigits ds), rest)
  else .error .countTooLarge

theorem countOf_eq {ds left : List Char} {count : Option Nat}
    (hcount : countOf ds left = .ok (count, rest)) (other : List Char) :
    left = rest ∧ countOf ds other = .ok (count, other) := by
  unfold countOf at hcount ⊢
  by_cases hnone : ds.isEmpty = true
  · rw [if_pos hnone] at hcount ⊢
    cases hcount
    exact ⟨rfl, rfl⟩
  · rw [if_neg hnone] at hcount ⊢
    by_cases hsmall : natOfDigits ds < UInt32.size
    · rw [if_pos hsmall] at hcount ⊢
      cases hcount
      exact ⟨rfl, rfl⟩
    · rw [if_neg hsmall] at hcount
      cases hcount

theorem readCount_append {flags : Flags} {count : Option Nat}
    (hread : readCount flags cs = .ok (count, rest)) (hrest : rest ≠ []) (suffix : List Char) :
    readCount flags (cs ++ suffix) = .ok (count, rest ++ suffix) := by
  have heq : ∀ text : List Char, readCount flags text =
      let digits := text.dropWhile UnicodeProperties.isWhiteSpace
      let p := readDigits flags (digits.length + 1) [] digits
      countOf p.1 (p.2.dropWhile UnicodeProperties.isWhiteSpace) := fun _ => rfl
  have hdrop : ∀ ds : List Char, ds.dropWhile UnicodeProperties.isWhiteSpace ≠ [] →
      (ds ++ suffix).dropWhile UnicodeProperties.isWhiteSpace =
        ds.dropWhile UnicodeProperties.isWhiteSpace ++ suffix := by
    intro ds hds
    rw [List.dropWhile_append, if_neg (by simpa using hds)]
  rw [heq] at hread ⊢
  simp only at hread ⊢
  cases hdigits : readDigits flags
      ((cs.dropWhile UnicodeProperties.isWhiteSpace).length + 1) []
      (cs.dropWhile UnicodeProperties.isWhiteSpace) with
  | mk ds left =>
      rw [hdigits] at hread
      obtain ⟨hend, hmore⟩ := countOf_eq hread (rest ++ suffix)
      have hleft : left ≠ [] := by
        rintro rfl
        exact hrest hend.symm
      have htext : cs.dropWhile UnicodeProperties.isWhiteSpace ≠ [] := by
        intro hnone
        rw [hnone, readDigits_nil] at hdigits
        exact hleft (congrArg Prod.snd hdigits).symm
      rw [hdrop cs htext, readDigits_append hdigits hleft (Nat.lt_succ_self _) (Nat.lt_succ_self _)]
      rw [← hend] at hrest
      simp only
      rw [hdrop left hrest, hend]
      exact hmore

theorem readCountEnd_of_ne {flags : Flags} {cs : List Char} (hcs : cs.head? ≠ some '}') :
    readCountEnd flags cs = .error .countUnclosed := by
  unfold readCountEnd
  split
  · exact absurd rfl hcs
  · rfl

theorem readCountEnd_greedy {flags : Flags} {cs : List Char} (hcs : (flags.skip cs).head? ≠ some '?') :
    readCountEnd flags ('}' :: cs) = .ok (true, flags.skip cs) := by
  unfold readCountEnd
  simp only
  split
  · next htext =>
      rw [htext] at hcs
      exact absurd rfl hcs
  · rfl

theorem extends_readCountEnd {flags : Flags} (hsuffix : GoesOn suffix) (hcs : cs ≠ []) :
    flags.Extends suffix (readCountEnd flags cs) (readCountEnd flags (cs ++ suffix)) := by
  intro greedy rest hread hbears
  obtain ⟨c, tail, rfl⟩ := List.exists_cons_of_ne_nil hcs
  rw [List.cons_append]
  by_cases hc : c = '}'
  · subst hc
    cases hskip : flags.skip tail with
    | nil =>
        rw [readCountEnd_greedy (by simp [hskip]), hskip] at hread
        cases hread
        have hhead : (flags.skip (tail ++ suffix)).head? ≠ some '?' := by
          rcases hsuffix.skip_append (hbears rfl) hskip with hmore | hmore
          · rw [hmore]
            exact hsuffix.head?_ne_question
          · rw [hmore]
            simp
        rw [readCountEnd_greedy hhead]
        refine ⟨_, rfl, tail, ?_, Flags.skip_skip _ _⟩
        rw [hskip, Flags.skip_nil]
    | cons d more =>
        have hmore := Flags.skip_append hskip suffix
        by_cases hd : d = '?'
        · subst hd
          unfold readCountEnd at hread ⊢
          simp only [hskip] at hread
          simp only [hmore]
          cases hread
          exact ⟨_, rfl, .append flags suffix _⟩
        · rw [readCountEnd_greedy (by rw [hskip]; simpa using hd), hskip] at hread
          rw [readCountEnd_greedy (by rw [hmore]; simpa using hd), hmore]
          cases hread
          exact ⟨_, rfl, .append flags suffix (d :: more)⟩
  · rw [readCountEnd_of_ne (by simpa using hc)] at hread
    cases hread

/-- Ends a count whose numbers are known. -/
def endCount (r : Reading) (least : Nat) (most : Option Nat) (cs : List Char) :
    Except RegexError (Reading × List Char) :=
  readCountEnd r.flags cs >>= fun p =>
    if most.any (· < least) then .error .countReversed
    else (r.repeatLast least most p.1).map (·, p.2)

/-- Reads what stands behind a comma. -/
def readMost (r : Reading) (least : Nat) (cs : List Char) :
    Except RegexError (Reading × List Char) :=
  match cs with
  | [] => .error .countUnclosed
  | '}' :: _ => r.endCount least none cs
  | _ =>
      readCount r.flags cs >>= fun p =>
        match p.1 with
        | none => .error .countMissing
        | some m => r.endCount least (some m) p.2

/-- Reads what stands behind the first number of a count. -/
def readBounds (r : Reading) (least : Nat) (cs : List Char) :
    Except RegexError (Reading × List Char) :=
  match cs with
  | [] => .error .countUnclosed
  | ',' :: rest => r.readMost least (r.flags.skip rest)
  | _ => r.endCount least (some least) cs

theorem flags_of_repeatLast {least : Nat} {most : Option Nat} {greedy : Bool}
    (hlast : r.repeatLast least most greedy = .ok s) : s.flags = r.flags := by
  unfold repeatLast at hlast
  split at hlast
  · cases hlast
  · next p items hitems =>
      split at hlast
      · cases hlast
      · obtain ⟨q, -, hq⟩ := exists_of_bind_eq_ok hlast
        cases hq
        rfl

theorem endCount_inside (hsuffix : GoesOn suffix) (hcs : cs ≠ []) {least : Nat}
    {most : Option Nat} :
    StaysInside w suffix (r.endCount least most cs)
      ((r.inside w).endCount least most (cs ++ suffix)) := by
  intro s rest hread hbears
  obtain ⟨⟨greedy, left⟩, hend, hlast⟩ := exists_of_bind_eq_ok hread
  simp only at hlast
  split at hlast
  · cases hlast
  next horder =>
  obtain ⟨hrepeat, rfl⟩ := exists_of_map_eq_ok hlast
  rw [flags_of_repeatLast hrepeat] at hbears ⊢
  obtain ⟨rest', hend', hleaves⟩ := extends_readCountEnd hsuffix hcs greedy rest hend hbears
  refine Or.inl ⟨rest', ?_, hleaves⟩
  unfold endCount
  rw [show readCountEnd (r.inside w).flags (cs ++ suffix) = _ from hend']
  show (if _ then _ else _) = _
  rw [if_neg horder, repeatLast_inside, hrepeat]
  rfl

theorem readMost_of_ne (hcs : cs ≠ []) (hclose : cs.head? ≠ some '}') (least : Nat) :
    r.readMost least cs =
      readCount r.flags cs >>= fun p =>
        match p.1 with
        | none => .error .countMissing
        | some m => r.endCount least (some m) p.2 := by
  unfold readMost
  split
  · exact absurd rfl hcs
  · exact absurd rfl hclose
  · rfl

theorem readMost_inside (hsuffix : GoesOn suffix) (hcs : cs ≠ []) {least : Nat} :
    StaysInside w suffix (r.readMost least cs) ((r.inside w).readMost least (cs ++ suffix)) := by
  obtain ⟨c, tail, rfl⟩ := List.exists_cons_of_ne_nil hcs
  by_cases hc : c = '}'
  · subst hc
    exact endCount_inside hsuffix hcs
  · rw [readMost_of_ne hcs (by simpa using hc),
      readMost_of_ne (List.append_ne_nil_of_left_ne_nil hcs suffix) (by simpa using hc)]
    intro s rest hread hbears
    obtain ⟨⟨count, left⟩, hcount, hend⟩ := exists_of_bind_eq_ok hread
    cases count with
    | none => cases hend
    | some m =>
        have hleft : left ≠ [] := by
          rintro rfl
          cases hend
        rw [show readCount (r.inside w).flags (c :: tail ++ suffix) = _ from
          readCount_append hcount hleft suffix]
        exact endCount_inside hsuffix hleft s rest hend hbears

theorem readBounds_of_ne (hcs : cs ≠ []) (hcomma : cs.head? ≠ some ',') (least : Nat) :
    r.readBounds least cs = r.endCount least (some least) cs := by
  unfold readBounds
  split
  · exact absurd rfl hcs
  · exact absurd rfl hcomma
  · rfl

theorem readBounds_inside (hsuffix : GoesOn suffix) (hcs : cs ≠ []) {least : Nat} :
    StaysInside w suffix (r.readBounds least cs)
      ((r.inside w).readBounds least (cs ++ suffix)) := by
  obtain ⟨c, tail, rfl⟩ := List.exists_cons_of_ne_nil hcs
  by_cases hc : c = ','
  · subst hc
    show StaysInside w suffix (r.readMost least (r.flags.skip tail))
      ((r.inside w).readMost least (r.flags.skip (tail ++ suffix)))
    cases hskip : r.flags.skip tail with
    | nil =>
        intro s rest hread
        cases hread
    | cons d more =>
        rw [Flags.skip_append hskip]
        exact readMost_inside hsuffix (List.cons_ne_nil d more)
  · rw [readBounds_of_ne hcs (by simpa using hc),
      readBounds_of_ne (List.append_ne_nil_of_left_ne_nil hcs suffix) (by simpa using hc)]
    exact endCount_inside hsuffix hcs

/-- A count is read if there is something to repeat and the count has a first number. -/
theorem readCounted_eq {least : Nat} {left : List Char}
    (hitem : r.items.head?.any (·.repeatable) = true) (hcs : r.flags.skip cs ≠ [])
    (hcount : readCount r.flags (r.flags.skip cs) = .ok (some least, left)) :
    r.readCounted cs = r.readBounds least left := by
  have hsome : (r.flags.skip cs).isEmpty = false := by simpa using hcs
  have hrepeat : ∀ (outcome : Except RegexError Reading) (rest : List Char),
      (outcome >>= fun s => pure (s, rest)) = outcome.map (·, rest) := by
    rintro (e | s) rest <;> rfl
  have hend : ∀ (most : Option Nat) (text : List Char), most.any (· < least) = false →
      (readCountEnd r.flags text >>= fun p =>
        r.repeatLast least most p.1 >>= fun s => pure (s, p.2)) = r.endCount least most text := by
    intro most text horder
    unfold endCount
    simp only [hrepeat, horder, Bool.false_eq_true, if_false]
  unfold readCounted
  simp only [hitem, hsome, hcount, ok_bind, Bool.not_true, Bool.false_eq_true, if_false]
  rcases left with _ | ⟨c, tail⟩
  · rfl
  by_cases hc : c = ','
  · subst hc
    show _ = r.readMost least (r.flags.skip tail)
    simp only
    generalize r.flags.skip tail = text
    rcases text with _ | ⟨d, more⟩
    · rfl
    · by_cases hd : d = '}'
      · subst hd
        exact hend none _ rfl
      · rw [readMost_of_ne (List.cons_ne_nil d more) (by simpa using hd)]
        split
        · next heq => cases heq
        · next heq => exact absurd (List.cons.inj heq).1 hd
        · refine congrArg _ (funext ?_)
          rintro ⟨_ | m, left⟩
          · rfl
          · simp only
            by_cases horder : m < least
            · unfold endCount
              simp only [horder, Option.any_some, decide_true, if_true]
              rfl
            · simp only [if_neg horder]
              exact hend (some m) left (by simpa using horder)
  · rw [readBounds_of_ne (List.cons_ne_nil c tail) (by simpa using hc)]
    split
    · next heq => cases heq
    · next heq => exact absurd (List.cons.inj heq).1 hc
    · exact hend (some least) _ (by simp)

theorem exists_of_readCounted (hread : r.readCounted cs = .ok (s, rest)) :
    ∃ least left, r.items.head?.any (·.repeatable) = true ∧ r.flags.skip cs ≠ [] ∧
      readCount r.flags (r.flags.skip cs) = .ok (some least, left) ∧ left ≠ [] := by
  cases hitem : r.items.head?.any (·.repeatable) with
  | false =>
      unfold readCounted at hread
      simp only [hitem] at hread
      cases hread
  | true =>
  by_cases hcs : r.flags.skip cs = []
  · unfold readCounted at hread
    simp only [hitem, hcs] at hread
    cases hread
  cases hcount : readCount r.flags (r.flags.skip cs) with
  | error e =>
      have hsome : (r.flags.skip cs).isEmpty = false := by simpa using hcs
      unfold readCounted at hread
      simp only [hitem, hsome, hcount] at hread
      cases hread
  | ok p =>
  obtain ⟨count, left⟩ := p
  have hsome : (r.flags.skip cs).isEmpty = false := by simpa using hcs
  cases count with
  | none =>
      unfold readCounted at hread
      simp only [hitem, hsome, hcount, Bool.not_true, Bool.false_eq_true, if_false, bind,
        Except.bind, throw, throwThe, MonadExceptOf.throw] at hread
      split at hread
      · cases hread
      · split at hread
        all_goals cases hread
      · cases hread
  | some least =>
      refine ⟨least, left, rfl, hcs, rfl, ?_⟩
      rintro rfl
      rw [readCounted_eq hitem hcs hcount] at hread
      cases hread

theorem readCounted_inside (hsuffix : GoesOn suffix) :
    StaysInside w suffix (r.readCounted cs) ((r.inside w).readCounted (cs ++ suffix)) := by
  intro s rest hread hbears
  obtain ⟨least, left, hitem, hcs, hcount, hleft⟩ := exists_of_readCounted hread
  obtain ⟨c, tail, hskip⟩ := List.exists_cons_of_ne_nil hcs
  have hmore : (r.inside w).flags.skip (cs ++ suffix) = r.flags.skip cs ++ suffix := by
    rw [hskip]
    exact Flags.skip_append hskip suffix
  have hitem' : (r.inside w).items.head?.any (·.repeatable) = true := by
    show (r.items.map (Piece.shift w.captures)).head?.any _ = true
    rw [List.head?_map, Option.any_map]
    exact hitem
  rw [readCounted_eq hitem hcs hcount] at hread
  rw [readCounted_eq hitem' (by rw [hmore, hskip]; exact List.cons_ne_nil _ _)
    (by rw [hmore]; exact readCount_append hcount hleft suffix)]
  exact readBounds_inside hsuffix hleft s rest hread hbears

end Reading
end Regex
end AdaptiveRules
