import AdaptiveRules.Proofs.RegexSetFronts

/-!
# Signs and what they do

Without blanks between the signs, a step takes one sign off the front of the text and does one thing
to what was read before.  What it does is told by the sign and the flags, so two readers that agree in
their flags do the same where they come upon the same sign.
-/

namespace AdaptiveRules
namespace Regex

/-- What a step does to the state of the reader. -/
inductive Action
  | push (piece : Piece)
  | bar
  | close
  | openNumbered
  | openNamed (name : String)
  | openPlain (flags : Flags)
  | setFlags (flags : Flags)
  | again (least : Nat) (most : Option Nat) (greedy : Bool)

namespace Action

def perform (r : Reading) : Action → Except RegexError Reading
  | push piece => .ok (r.push piece)
  | bar => .ok { r with branches := Piece.branch r.items :: r.branches, items := [] }
  | close => r.closeGroup
  | openNumbered => .ok r.openNumbered
  | openNamed name =>
      if r.names.contains name then .error .groupNameDuplicate
      else
        let index := r.captures + 1
        .ok ({ r with captures := index, names := name :: r.names }.enter
          (.capture index (some name)) r.flags)
  | openPlain flags => .ok (r.enter .plain flags)
  | setFlags flags => .ok ({ r with flags := flags }.push .directive)
  | again least most greedy => r.repeatLast least most greedy

def Repeats : Action → Prop
  | again _ _ _ => True
  | _ => False

end Action

/-- The first characters of the signs that repeat the piece before them. -/
def repeatSigns : List Char := ['?', '*', '+', '{']

/-- Looking ahead sees nothing new. -/
structure Alike (rest rest' : List Char) : Prop where
  questions : QuestionsAlike rest rest'
  names : NamesAlike rest rest'

namespace Alike

theorem refl (rest : List Char) : Alike rest rest := ⟨id, id⟩

theorem nil (rest : List Char) : Alike rest [] := ⟨nofun, fun hopens => nomatch hopens.1⟩

/-- Only a question mark or a brace could be something new. -/
theorem of_head {rest : List Char} {c : Char} (hquestion : c ≠ '?') (hbrace : c ≠ '{')
    (more : List Char) : Alike rest (c :: more) :=
  ⟨fun hhead => absurd (Option.some.inj hhead) hquestion,
    fun hopens => absurd (Option.some.inj hopens.1) hbrace⟩

theorem of_sign {c : Char} {tail : List Char} (hbrace : c = '{' → tail ≠ []) (rest rest' : List Char) :
    Alike (c :: tail ++ rest) (c :: tail ++ rest') := by
  refine ⟨id, ?_⟩
  rintro ⟨hhead, hname⟩
  obtain rfl : c = '{' := Option.some.inj hhead
  obtain ⟨d, more, rfl⟩ := List.exists_cons_of_ne_nil (hbrace rfl)
  exact ⟨rfl, hname⟩

end Alike

/-- Readers with these flags perform the action where they come upon the sign, if the text goes on
alike. -/
structure Acts (flags : Flags) (c : Char) (tail rest : List Char) (action : Action) : Prop where
  repeats : action.Repeats ↔ c ∈ repeatSigns
  braced : c = '{' → tail ≠ []
  step : ∀ (r : Reading) (rest' : List Char), r.flags = flags → Alike rest rest' →
    r.step c (tail ++ rest') = (action.perform r).map (·, rest')

namespace Reading

variable {r s : Reading} {cs rest rest' tail : List Char} {c : Char} {least : Nat}
  {most : Option Nat}

/-! ### Groups -/

theorem openNamed_eq {name : String} (hname : readGroupName cs = .ok (name, rest)) :
    r.openNamed cs = ((Action.openNamed name).perform r).map (·, rest) := by
  unfold openNamed Action.perform
  rw [hname]
  simp only [bind, Except.bind]
  split <;> rfl

theorem exists_front_openNamed (hopen : r.openNamed (c :: cs) = .ok (s, rest)) :
    ∃ name taken, cs = taken ++ rest ∧ ∀ (r' : Reading) rest',
      r'.openNamed (c :: taken ++ rest') = ((Action.openNamed name).perform r').map (·, rest') := by
  obtain ⟨⟨name, left⟩, hname, -⟩ := exists_of_bind_eq_ok hopen
  rw [openNamed_eq hname] at hopen
  obtain ⟨-, rfl⟩ := exists_of_map_eq_ok hopen
  obtain ⟨taken, hsplit, hmore⟩ := exists_front_readGroupName hname
  rcases taken with _ | ⟨d, taken⟩
  · cases hmore []
  · obtain ⟨rfl, rfl⟩ := List.cons.inj hsplit
    exact ⟨name, taken, rfl, fun r' rest' => openNamed_eq (hmore rest')⟩

theorem exists_front_openFlags (hopen : r.openFlags (c :: cs) = .ok (s, rest)) :
    ∃ (action : Action) (taken : List Char), ¬ action.Repeats ∧ cs = taken ++ rest ∧
      ∀ (r' : Reading) rest', r'.flags = r.flags →
        r'.openFlags (c :: taken ++ rest') = (action.perform r').map (·, rest') := by
  obtain ⟨⟨flags, stop, bare, left⟩, hflags, hnext⟩ := exists_of_bind_eq_ok hopen
  obtain ⟨taken, hsplit, hmore⟩ := exists_front_readFlags hflags
  rcases taken with _ | ⟨d, taken⟩
  · cases hmore []
  obtain ⟨rfl, rfl⟩ := List.cons.inj hsplit
  simp only at hnext
  by_cases hstop : stop = ':'
  · rw [if_pos hstop] at hnext
    cases hnext
    refine ⟨.openPlain flags, taken, id, rfl, fun r' rest' hsame => ?_⟩
    unfold openFlags
    rw [hsame, hmore rest']
    exact if_pos hstop
  · rw [if_neg hstop] at hnext
    by_cases hbare : bare = true
    · rw [if_pos hbare] at hnext
      cases hnext
    · rw [if_neg hbare] at hnext
      cases hnext
      refine ⟨.setFlags flags, taken, id, rfl, fun r' rest' hsame => ?_⟩
      unfold openFlags
      rw [hsame, hmore rest']
      exact (if_neg hstop).trans (if_neg hbare)

theorem exists_action_question (hopen : r.openBy ('?' :: cs) = .ok (s, rest)) :
    ∃ (action : Action) (taken : List Char), ¬ action.Repeats ∧ cs = taken ++ rest ∧
      ∀ (r' : Reading) rest', r'.flags = r.flags →
        r'.openBy ('?' :: (taken ++ rest')) = (action.perform r').map (·, rest') := by
  rcases cs with _ | ⟨d, cs⟩
  · cases hopen
  have hequal : d ≠ '=' := by
    rintro rfl
    cases hopen
  have hnot : d ≠ '!' := by
    rintro rfl
    cases hopen
  by_cases hless : d = '<'
  · subst hless
    rcases cs with _ | ⟨e, cs⟩
    · cases hopen
    have hahead : e ≠ '=' := by
      rintro rfl
      cases hopen
    have hbehind : e ≠ '!' := by
      rintro rfl
      cases hopen
    rw [openBy_name hahead hbehind] at hopen
    obtain ⟨name, taken, rfl, hmore⟩ := exists_front_openNamed hopen
    refine ⟨.openNamed name, '<' :: e :: taken, id, rfl, fun r' rest' _ => ?_⟩
    exact (openBy_name hahead hbehind).trans (hmore r' rest')
  by_cases hname : d = 'P' ∧ cs.head? = some '<'
  · obtain ⟨rfl, hhead⟩ := hname
    obtain ⟨_ | ⟨e, more⟩, rfl⟩ := List.head?_eq_some_iff.mp hhead
    · cases hopen
    obtain ⟨name, taken, rfl, hmore⟩ := exists_front_openNamed hopen
    exact ⟨.openNamed name, 'P' :: '<' :: e :: taken, id, rfl, fun r' rest' _ => hmore r' rest'⟩
  · rw [openBy_flags hequal hnot hless fun hd hhead => hname ⟨hd, hhead⟩] at hopen
    have hletter : d ≠ 'P' := by
      rintro rfl
      cases hopen
    obtain ⟨action, taken, hrepeats, rfl, hmore⟩ := exists_front_openFlags hopen
    refine ⟨action, d :: taken, hrepeats, rfl, fun r' rest' hsame => ?_⟩
    exact (openBy_flags hequal hnot hless fun hd => absurd hd hletter).trans (hmore r' rest' hsame)

/-! ### Steps -/

theorem exists_action_open (hspaced : r.flags.spaced = false)
    (hopen : r.step '(' cs = .ok (s, rest)) :
    ∃ action tail, cs = tail ++ rest ∧ Acts r.flags '(' tail rest action := by
  have heq : ∀ (r' : Reading) text, r'.flags = r.flags → r'.step '(' text = r'.openBy text := by
    intro r' text hflags
    have hskip := Flags.skip_of_not_spaced (hflags ▸ hspaced) text
    show r'.openBy (r'.flags.skip text) = _
    rw [hskip]
  rw [heq r cs rfl] at hopen
  by_cases hquestion : cs.head? = some '?'
  · obtain ⟨more, rfl⟩ := List.head?_eq_some_iff.mp hquestion
    obtain ⟨action, taken, hrepeats, rfl, hmore⟩ := exists_action_question hopen
    refine ⟨action, '?' :: taken, rfl, iff_of_false hrepeats (by decide),
      fun hc => absurd hc (by decide), ?_⟩
    intro r' rest' hflags _
    exact (heq r' _ hflags).trans (hmore r' rest' hflags)
  · rw [openBy_of_ne hquestion] at hopen
    cases hopen
    refine ⟨.openNumbered, [], rfl, iff_of_false id (by decide),
      fun hc => absurd hc (by decide), ?_⟩
    intro r' rest' hflags halike
    rw [heq r' _ hflags]
    exact openBy_of_ne fun hhead => hquestion (halike.questions hhead)

theorem exists_action_set (hspaced : r.flags.spaced = false)
    (hread : r.step '[' cs = .ok (s, rest)) :
    ∃ action tail, cs = tail ++ rest ∧ Acts r.flags '[' tail rest action := by
  obtain ⟨⟨x, deepest, left⟩, hset, hpush⟩ := exists_of_bind_eq_ok hread
  cases hpush
  obtain ⟨taken, hmem, hsplit, hmore⟩ :=
    SetReader.exists_front (r := ⟨0, 0, .empty, []⟩) hspaced hset
  rcases taken with _ | ⟨c, tail⟩
  · cases hmem
  obtain ⟨rfl, rfl⟩ := List.cons.inj hsplit
  refine ⟨.push { Piece.leaf (.set x) with depth := deepest }, tail, rfl,
    iff_of_false id (by decide), fun hc => absurd hc (by decide), ?_⟩
  intro r' rest' hflags _
  have hfuel : ('[' :: tail).length ≤ (tail ++ rest').length + 2 := by
    rw [List.length_cons, List.length_append]
    omega
  have hmore' : readSet r.flags ((tail ++ rest').length + 2) 0 0 .empty [] ('[' :: tail ++ rest') =
      .ok (x, deepest, rest') := hmore _ rest' hfuel
  rw [← hflags] at hmore'
  show (readSet r'.flags _ 0 0 .empty [] _ >>= _) = _
  rw [← List.cons_append, hmore']
  rfl

theorem exists_action_escape (hspaced : r.flags.spaced = false)
    (hread : r.step '\\' cs = .ok (s, rest)) :
    ∃ action tail, cs = tail ++ rest ∧ Acts r.flags '\\' tail rest action := by
  rw [step_escape] at hread
  obtain ⟨⟨escape, left⟩, hescape, hpush⟩ := exists_of_bind_eq_ok hread
  cases hpiece : pieceOf r.flags escape with
  | error e =>
      simp only [hpiece] at hpush
      cases hpush
  | ok piece =>
      simp only [hpiece] at hpush
      cases hpush
      obtain ⟨tail, rfl, hmore⟩ := readsFront_readEscape hspaced cs escape rest hescape
      refine ⟨.push piece, tail, rfl, iff_of_false id (by decide),
      fun hc => absurd hc (by decide), ?_⟩
      intro r' rest' hflags halike
      rw [step_escape, hflags, hmore rest' halike.names, ok_bind]
      simp only [hpiece]
      rfl

theorem exists_action_count (hspaced : r.flags.spaced = false)
    (hread : r.step '{' cs = .ok (s, rest)) :
    ∃ action tail, cs = tail ++ rest ∧ Acts r.flags '{' tail rest action := by
  obtain ⟨least, most, greedy, d, taken, rfl, hmore⟩ := repeatsFront_readCounted hspaced hread
  refine ⟨.again least most greedy, d :: taken, rfl, iff_of_true trivial (by decide),
    fun _ => List.cons_ne_nil d taken, ?_⟩
  intro r' rest' hflags halike
  exact hmore r' rest' hflags halike.questions

theorem exists_action_simple (hsign : c ∈ repeatSigns)
    (hbrace : c ≠ '{') (heq : ∀ (r : Reading) text, r.step c text = r.readSimple least most text)
    (hread : r.step c cs = .ok (s, rest)) :
    ∃ action tail, cs = tail ++ rest ∧ Acts r.flags c tail rest action := by
  rw [heq] at hread
  by_cases hlazy : cs.head? = some '?'
  · obtain ⟨more, rfl⟩ := List.head?_eq_some_iff.mp hlazy
    rw [readSimple_lazy] at hread
    obtain ⟨-, rfl⟩ := exists_of_map_eq_ok hread
    refine ⟨.again least most false, ['?'], rfl, iff_of_true trivial hsign,
      fun hc => absurd hc hbrace, fun r' rest' _ _ => (heq r' _).trans readSimple_lazy⟩
  · rw [readSimple_of_ne hlazy] at hread
    obtain ⟨-, rfl⟩ := exists_of_map_eq_ok hread
    refine ⟨.again least most true, [], rfl, iff_of_true trivial hsign,
      fun hc => absurd hc hbrace, fun r' rest' _ halike => ?_⟩
    exact (heq r' _).trans (readSimple_of_ne fun hhead => hlazy (halike.questions hhead))

/-- A step that makes a piece of the sign alone. -/
theorem exists_action_piece (outcome : Except RegexError Piece) (hsign : c ∉ repeatSigns)
    (heq : ∀ (r' : Reading) text, r'.flags = r.flags →
      r'.step c text = outcome.map fun piece => (r'.push piece, text))
    (hread : r.step c cs = .ok (s, rest)) :
    ∃ action tail, cs = tail ++ rest ∧ Acts r.flags c tail rest action := by
  have hbrace : c ≠ '{' := by
    rintro rfl
    exact hsign (by decide)
  cases outcome with
  | error e =>
      rw [heq r cs rfl] at hread
      cases hread
  | ok piece =>
      rw [heq r cs rfl] at hread
      cases hread
      exact ⟨.push piece, [], rfl, iff_of_false id hsign, fun hc => absurd hc hbrace,
        fun r' rest' hflags _ => heq r' rest' hflags⟩

/-- What a step does is told by the sign that it takes off the front of the text. -/
theorem exists_action (hspaced : r.flags.spaced = false) (hstep : r.step c cs = .ok (s, rest)) :
    ∃ action tail, cs = tail ++ rest ∧ Acts r.flags c tail rest action := by
  by_cases hopen : c = '('
  · subst hopen
    exact exists_action_open hspaced hstep
  by_cases hclose : c = ')'
  · subst hclose
    have heq : ∀ (r' : Reading) text, r'.step ')' text = r'.closeGroup.map (·, text) := by
      intro r' text
      show (r'.closeGroup >>= _) = _
      cases r'.closeGroup <;> rfl
    rw [heq] at hstep
    obtain ⟨-, rfl⟩ := exists_of_map_eq_ok hstep
    exact ⟨.close, [], rfl, iff_of_false id (by decide),
      fun hc => absurd hc (by decide), fun r' rest' _ _ => heq r' rest'⟩
  by_cases hbar : c = '|'
  · subst hbar
    cases hstep
    exact ⟨.bar, [], rfl, iff_of_false id (by decide),
      fun hc => absurd hc (by decide), fun _ _ _ _ => rfl⟩
  by_cases hset : c = '['
  · subst hset
    exact exists_action_set hspaced hstep
  by_cases hescape : c = '\\'
  · subst hescape
    exact exists_action_escape hspaced hstep
  by_cases hquestion : c = '?'
  · subst hquestion
    exact exists_action_simple (by decide) (by decide) (fun _ _ => rfl) hstep
  by_cases hstar : c = '*'
  · subst hstar
    exact exists_action_simple (by decide) (by decide) (fun _ _ => rfl) hstep
  by_cases hplus : c = '+'
  · subst hplus
    exact exists_action_simple (by decide) (by decide) (fun _ _ => rfl) hstep
  by_cases hcount : c = '{'
  · subst hcount
    exact exists_action_count hspaced hstep
  have hsign : c ∉ repeatSigns := by
    simp [repeatSigns, hquestion, hstar, hplus, hcount]
  by_cases hdot : c = '.'
  · subst hdot
    refine exists_action_piece (r.flags.dot.map fun s => .leaf (.set s)) hsign ?_ hstep
    intro r' text hflags
    rw [← hflags]
    show (r'.flags.dot >>= _) = _
    cases r'.flags.dot <;> rfl
  by_cases hstart : c = '^'
  · subst hstart
    refine exists_action_piece (.ok (.leaf (.look r.flags.lineStart))) hsign ?_ hstep
    intro r' text hflags
    rw [← hflags]
    rfl
  by_cases hend : c = '$'
  · subst hend
    refine exists_action_piece (.ok (.leaf (.look r.flags.lineEnd))) hsign ?_ hstep
    intro r' text hflags
    rw [← hflags]
    rfl
  refine exists_action_piece ((r.flags.literal c false).map .leaf) hsign ?_ hstep
  intro r' text hflags
  rw [← hflags]
  unfold step
  split
  all_goals first
    | exact absurd rfl ‹_›
    | skip
  cases r'.flags.literal c false <;> rfl

/-! ### The ends of repetitions -/

/-- The end of a repetition is nothing but the question mark that makes it lazy, if there is one. -/
def EndsRepetition (tail rest : List Char) : Prop :=
  tail = ['?'] ∨ tail = [] ∧ rest.head? ≠ some '?'

theorem endsRepetition_of_lazy {more : List Char} (hcs : tail ++ rest = '?' :: more)
    (hrest : more = rest) : EndsRepetition tail rest := by
  subst hrest
  exact Or.inl (List.append_cancel_right (hcs.trans (List.singleton_append).symm))

theorem endsRepetition_of_greedy (hhead : (tail ++ rest).head? ≠ some '?')
    (hrest : tail ++ rest = rest) : EndsRepetition tail rest := by
  obtain rfl := List.append_left_eq_self.mp hrest
  exact Or.inr ⟨rfl, hhead⟩

theorem endsRepetition_of_readSimple (hread : r.readSimple least most (tail ++ rest) = .ok (s, rest)) :
    EndsRepetition tail rest := by
  by_cases hhead : (tail ++ rest).head? = some '?'
  · obtain ⟨more, hcs⟩ := List.head?_eq_some_iff.mp hhead
    rw [hcs, readSimple_lazy] at hread
    exact endsRepetition_of_lazy hcs (exists_of_map_eq_ok hread).2.symm
  · rw [readSimple_of_ne hhead] at hread
    exact endsRepetition_of_greedy hhead (exists_of_map_eq_ok hread).2.symm

/-- A star takes the same end as any other repetition. -/
theorem exists_step_star (hends : EndsRepetition tail rest) (halike : QuestionsAlike rest rest')
    (r : Reading) : ∃ greedy,
      r.step '*' (tail ++ rest') = (r.repeatLast 0 none greedy).map (·, rest') := by
  rcases hends with rfl | ⟨rfl, hhead⟩
  · exact ⟨false, readSimple_lazy⟩
  · exact ⟨true, readSimple_of_ne fun hhead' => hhead (halike hhead')⟩

end Reading

/-- Where one reader has taken the sign, another one that goes on alike takes it as well. -/
theorem Acts.exists_performed {flags : Flags} {c : Char} {tail rest rest' : List Char}
    {action : Action} {b u : Reading} {fuel : Nat} (hacts : Acts flags c tail rest action)
    (hspaced : flags.spaced = false) (hflags : b.flags = flags) (halike : Alike rest rest')
    (hfinish : Reading.finish fuel b (c :: (tail ++ rest')) = .ok u) :
    ∃ b' fuel', action.perform b = .ok b' ∧ Reading.finish fuel' b' rest' = .ok u := by
  obtain ⟨b', left, fuel', hstep, hmore⟩ :=
    Reading.exists_of_finish_cons (Flags.skip_of_not_spaced (hflags ▸ hspaced) _) hfinish
  rw [hacts.step b rest' hflags halike] at hstep
  obtain ⟨hperform, rfl⟩ := exists_of_map_eq_ok hstep
  exact ⟨b', fuel', hperform, hmore⟩

/-! ### The signs of a text -/

/-- A sign, by its first character and the others, with the flags under which it is read. -/
structure Token where
  flags : Flags
  sign : Char
  tail : List Char
  deriving DecidableEq

namespace Token

def text (t : Token) : List Char := t.sign :: t.tail

def Repeats (t : Token) : Prop := t.sign ∈ repeatSigns

instance (t : Token) : Decidable t.Repeats := inferInstanceAs (Decidable (_ ∈ _))

end Token

namespace Reading

variable {r s : Reading} {cs rest tail : List Char} {c : Char}

/-- The signs that are taken off the text one after another. -/
def tokens : Nat → Reading → List Char → List Token
  | 0, _, _ => []
  | fuel + 1, r, cs =>
      match r.flags.skip cs with
      | [] => []
      | c :: more =>
          match r.step c more with
          | .ok (s, rest) => ⟨r.flags, c, more.take (more.length - rest.length)⟩ :: s.tokens fuel rest
          | .error _ => []

theorem tokens_nil (hskip : r.flags.skip cs = []) (fuel : Nat) : r.tokens fuel cs = [] := by
  cases fuel with
  | zero => rfl
  | succ fuel => rw [tokens, hskip]

theorem tokens_cons (hskip : r.flags.skip cs = c :: (tail ++ rest))
    (hstep : r.step c (tail ++ rest) = .ok (s, rest)) (fuel : Nat) :
    r.tokens (fuel + 1) cs = ⟨r.flags, c, tail⟩ :: s.tokens fuel rest := by
  have hlength : (tail ++ rest).length - rest.length = tail.length := by
    rw [List.length_append, Nat.add_sub_cancel]
  rw [tokens, hskip]
  simp only [hstep, hlength]
  rw [List.take_left]

/-- The signs lead from one state of the reader to another and to the end of the text, and there are
no blanks between them. -/
inductive ReadsSigns : Reading → List Char → List Token → Reading → Prop
  | nil {r : Reading} {cs : List Char} (hskip : r.flags.skip cs = []) : ReadsSigns r cs [] r
  | cons {r s u : Reading} {c : Char} {tail rest : List Char} {signs : List Token}
      (hspaced : r.flags.spaced = false) (hstep : r.step c (tail ++ rest) = .ok (s, rest))
      (hmore : ReadsSigns s rest signs u) :
      ReadsSigns r (c :: (tail ++ rest)) (⟨r.flags, c, tail⟩ :: signs) u

theorem readsSigns_of_finish {fuel n : Nat} (hfinish : finish fuel r cs = .ok s) (hn : cs.length < n)
    (hspaced : ∀ t ∈ r.tokens n cs, t.flags.spaced = false) : ReadsSigns r cs (r.tokens n cs) s := by
  induction n generalizing r cs fuel with
  | zero => omega
  | succ n ih =>
      cases hskip : r.flags.skip cs with
      | nil =>
          obtain rfl := eq_of_finish_nil hskip hfinish
          rw [tokens_nil hskip]
          exact .nil hskip
      | cons c more =>
          obtain ⟨s', rest, fuel', hstep, hfinish'⟩ := exists_of_finish_cons hskip hfinish
          have hhere : r.flags.spaced = false := by
            rw [tokens, hskip] at hspaced
            simp only [hstep] at hspaced
            exact hspaced _ List.mem_cons_self
          obtain ⟨-, tail, rfl, -⟩ := exists_action hhere hstep
          rw [Flags.skip_of_not_spaced hhere] at hskip
          subst hskip
          rw [tokens_cons (Flags.skip_of_not_spaced hhere _) hstep] at hspaced ⊢
          refine .cons hhere hstep (ih hfinish' ?_ fun t ht => hspaced t (List.mem_cons_of_mem _ ht))
          rw [List.length_cons, List.length_append] at hn
          omega

theorem exists_performed (hspaced : r.flags.spaced = false)
    (hstep : r.step c (tail ++ rest) = .ok (s, rest)) :
    ∃ action, Acts r.flags c tail rest action ∧ action.perform r = .ok s := by
  obtain ⟨action, front, hsplit, hacts⟩ := exists_action hspaced hstep
  obtain rfl := List.append_cancel_right hsplit
  refine ⟨action, hacts, ?_⟩
  rw [hacts.step r rest rfl (.refl rest)] at hstep
  exact (exists_of_map_eq_ok hstep).1

end Reading

def signsOf (source : String) : List Token :=
  (Reading.initial .multiLineDotAll).tokens (source.toList.length + 1) source.toList

end Regex
end AdaptiveRules
