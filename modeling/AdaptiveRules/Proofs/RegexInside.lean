import AdaptiveRules.Proofs.RegexSurroundings

/-!
# Steps inside other text

Every step of the reader, whatever character it starts with, does inside other text what it does
alone; so does a row of steps, up to blanks and comments at its end.
-/

namespace AdaptiveRules
namespace Regex
namespace Reading

variable {r s u v : Reading} {w : Surroundings} {cs cs' rest more suffix : List Char} {c : Char}
  {n fuel : Nat}

/-! ### One step -/

/-- Pieces without groups are the same inside. -/
theorem StaysInside.of_piece {α : Type} (outcome : Except RegexError α) (piece : α → Piece)
    (hpiece : ∀ a, outcome = .ok a → (piece a).shift w.captures = piece a) (cs suffix : List Char) :
    StaysInside w suffix (outcome >>= fun a => pure (r.push (piece a), cs))
      (outcome >>= fun a => pure ((r.inside w).push (piece a), cs ++ suffix)) := by
  intro s rest hread _
  obtain ⟨a, ha, hpush⟩ := exists_of_bind_eq_ok hread
  cases hpush
  refine Or.inl ⟨cs ++ suffix, ?_, .append _ suffix cs⟩
  rw [ha, ← push_inside, hpiece a ha]
  rfl

theorem shift_of_literal {flags : Flags} {byteForm : Bool} {core : Core} {k : Nat}
    (hliteral : flags.literal c byteForm = .ok core) : (Piece.leaf core).shift k = .leaf core := by
  unfold Flags.literal at hliteral
  split at hliteral
  · cases hliteral
  · cases hliteral
    rfl

theorem step_close_inside :
    StaysInside w suffix (r.step ')' cs) ((r.inside w).step ')' (cs ++ suffix)) := by
  intro s rest hread _
  obtain ⟨t, hclose, ht⟩ := exists_of_bind_eq_ok hread
  cases ht
  refine Or.inl ⟨cs ++ suffix, ?_, .append _ suffix cs⟩
  show ((r.inside w).closeGroup >>= fun t => pure (t, cs ++ suffix)) = _
  rw [closeGroup_inside hclose]
  rfl

theorem step_bar_inside :
    StaysInside w suffix (r.step '|' cs) ((r.inside w).step '|' (cs ++ suffix)) := by
  intro s rest hread _
  cases hread
  refine Or.inl ⟨cs ++ suffix, ?_, .append _ suffix cs⟩
  rw [← bar_inside]
  rfl

theorem step_set_inside (hsuffix : GoesOn suffix) :
    StaysInside w suffix (r.step '[' cs) ((r.inside w).step '[' (cs ++ suffix)) := by
  intro s rest hread _
  obtain ⟨⟨x, deepest, left⟩, hset, hpush⟩ := exists_of_bind_eq_ok hread
  cases hpush
  refine Or.inl ⟨rest ++ suffix, ?_, .append _ suffix rest⟩
  have hmore : readSet (r.inside w).flags ((cs ++ suffix).length + 2) 0 0 .empty []
      ('[' :: (cs ++ suffix)) = .ok (x, deepest, rest ++ suffix) :=
    readSet_append hsuffix hset (.append r.flags suffix ('[' :: cs)) (by simp)
  show (readSet (r.inside w).flags _ 0 0 .empty [] _ >>= _) = _
  rw [hmore]
  rfl

theorem readSimple_of_ne {least : Nat} {most : Option Nat} (hcs : cs.head? ≠ some '?') :
    r.readSimple least most cs = (r.repeatLast least most true).map (·, cs) := by
  unfold readSimple
  split
  · exact absurd rfl hcs
  · cases r.repeatLast least most true <;> rfl

theorem readSimple_lazy {least : Nat} {most : Option Nat} :
    r.readSimple least most ('?' :: cs) = (r.repeatLast least most false).map (·, cs) := by
  unfold readSimple
  cases r.repeatLast least most false <;> rfl

theorem StaysInside.of_repeatLast {least : Nat} {most : Option Nat} {greedy : Bool}
    (cs suffix : List Char) :
    StaysInside w suffix ((r.repeatLast least most greedy).map (·, cs))
      (((r.inside w).repeatLast least most greedy).map (·, cs ++ suffix)) := by
  intro s rest hread _
  obtain ⟨hrepeat, rfl⟩ := exists_of_map_eq_ok hread
  refine Or.inl ⟨rest ++ suffix, ?_, .append _ suffix rest⟩
  rw [repeatLast_inside, hrepeat]
  rfl

theorem readSimple_inside (hsuffix : GoesOn suffix) {least : Nat} {most : Option Nat} :
    StaysInside w suffix (r.readSimple least most cs)
      ((r.inside w).readSimple least most (cs ++ suffix)) := by
  rcases cs with _ | ⟨c, tail⟩
  · rw [List.nil_append, readSimple_of_ne (by simp), readSimple_of_ne hsuffix.head?_ne_question]
    exact .of_repeatLast [] suffix
  · by_cases hc : c = '?'
    · subst hc
      rw [List.cons_append, readSimple_lazy, readSimple_lazy]
      exact .of_repeatLast tail suffix
    · rw [readSimple_of_ne (by simpa using hc), readSimple_of_ne (by simpa using hc)]
      exact .of_repeatLast (c :: tail) suffix

/-- The piece that an escape stands for. -/
def pieceOf (flags : Flags) : Escape → Except RegexError Piece
  | .literal ch byteForm => (flags.literal ch byteForm).map .leaf
  | .set s => .ok (.leaf (.set s))
  | .look a => .ok (.leaf (.look a))

theorem step_escape : r.step '\\' cs =
    readEscape r.flags cs >>= fun p => (pieceOf r.flags p.1).map fun piece => (r.push piece, p.2) := by
  show (readEscape r.flags cs >>= _) = _
  refine congrArg _ (funext ?_)
  rintro ⟨escape, rest⟩
  cases escape with
  | literal ch byteForm =>
      unfold pieceOf
      simp only
      cases r.flags.literal ch byteForm <;> rfl
  | set s => rfl
  | look a => rfl

theorem shift_of_pieceOf {flags : Flags} {escape : Escape} {piece : Piece} {k : Nat}
    (hpiece : pieceOf flags escape = .ok piece) : piece.shift k = piece := by
  cases escape with
  | literal ch byteForm =>
      cases hliteral : flags.literal ch byteForm with
      | error e =>
          simp only [pieceOf, hliteral] at hpiece
          cases hpiece
      | ok core =>
          simp only [pieceOf, hliteral] at hpiece
          cases hpiece
          exact shift_of_literal hliteral
  | set s =>
      cases hpiece
      rfl
  | look a =>
      cases hpiece
      rfl

theorem step_escape_inside (hsuffix : GoesOn suffix) :
    StaysInside w suffix (r.step '\\' cs) ((r.inside w).step '\\' (cs ++ suffix)) := by
  intro s rest hread hbears
  rw [step_escape] at hread ⊢
  obtain ⟨⟨escape, left⟩, hescape, hpush⟩ := exists_of_bind_eq_ok hread
  cases hpiece : pieceOf r.flags escape with
  | error e =>
      simp only [hpiece] at hpush
      cases hpush
  | ok piece =>
      simp only [hpiece] at hpush
      cases hpush
      obtain ⟨rest', hmore, hleaves⟩ := extends_readEscape hsuffix cs escape rest hescape hbears
      refine Or.inl ⟨rest', ?_, hleaves⟩
      rw [show readEscape (r.inside w).flags (cs ++ suffix) = _ from hmore]
      show (pieceOf r.flags escape).map _ = _
      rw [hpiece, ← push_inside, shift_of_pieceOf hpiece]
      rfl

theorem step_inside (hsuffix : GoesOn suffix) (c : Char) (cs : List Char) :
    StaysInside w suffix (r.step c cs) ((r.inside w).step c (cs ++ suffix)) := by
  by_cases hopen : c = '('
  · subst hopen
    exact openGroup_inside hsuffix
  by_cases hclose : c = ')'
  · subst hclose
    exact step_close_inside
  by_cases hbar : c = '|'
  · subst hbar
    exact step_bar_inside
  by_cases hset : c = '['
  · subst hset
    exact step_set_inside hsuffix
  by_cases hcount : c = '{'
  · subst hcount
    exact readCounted_inside hsuffix
  by_cases hescape : c = '\\'
  · subst hescape
    exact step_escape_inside hsuffix
  unfold step
  split
  all_goals first
    | exact absurd rfl ‹_›
    | exact readSimple_inside hsuffix
    | exact .of_piece (.ok ()) (fun _ => .leaf (.look _)) (fun _ _ => rfl) cs suffix
    | skip
  · exact .of_piece r.flags.dot (fun s => .leaf (.set s)) (fun _ _ => rfl) cs suffix
  · exact .of_piece (r.flags.literal c false) .leaf (fun _ => shift_of_literal) cs suffix

/-! ### A row of steps -/

/-- Where the text around it is accepted, what is read to its end alone is read inside as well. -/
theorem finish_inside (hreads : Reads n r cs s rest) (hsuffix : GoesOn suffix)
    (hend : s.flags.skip rest = []) (hbears : s.flags.Bears suffix)
    (hleaves : r.flags.Leaves suffix cs cs') (hfinish : finish fuel (r.inside w) cs' = .ok v) :
    ∃ fuel' rest', finish fuel' (s.inside w) rest' = .ok v ∧ s.flags.Leaves suffix rest rest' := by
  induction hreads generalizing fuel cs' with
  | refl r cs => exact ⟨fuel, cs', hfinish, hleaves⟩
  | @step n r s u cs tail rest more c hskip hstep hmore ih =>
      have hskip' : (r.inside w).flags.skip cs' = c :: (tail ++ suffix) := hleaves.cons hskip
      -- A comment takes in what follows only at the very end of the text.
      have hbears' : rest = [] → s.flags.Bears suffix := by
        rintro rfl
        cases hmore with
        | refl => exact hbears
        | step hskip =>
            rw [Flags.skip_nil] at hskip
            cases hskip
      obtain ⟨t, left, fuel', hstep', hfinish'⟩ := exists_of_finish_cons hskip' hfinish
      rcases step_inside hsuffix c tail s rest hstep hbears' with ⟨rest', hinside, hleft⟩ | ⟨e, he⟩
      · obtain ⟨rfl, rfl⟩ := Prod.mk.inj (Except.ok.inj (hinside.symm.trans hstep'))
        exact ih hend hbears hleft hfinish'
      · rw [he] at hstep'
        cases hstep'

/-! ### At the end of the text -/

/-- Where no more text follows, a step inside leaves what it leaves alone. -/
def KeepsInside (w : Surroundings) (outcome outcome' : Except RegexError (Reading × List Char)) :
    Prop :=
  ∀ s rest, outcome = .ok (s, rest) →
    outcome' = .ok (s.inside w, rest) ∨ ∃ e, outcome' = .error e

theorem KeepsInside.of_map {outcome : Except RegexError Reading} (cs : List Char)
    {outcome' : Except RegexError Reading} (hmap : outcome' = outcome.map (·.inside w)) :
    KeepsInside w (outcome.map (·, cs)) (outcome'.map (·, cs)) := by
  intro s rest hread
  obtain ⟨hstep, rfl⟩ := exists_of_map_eq_ok hread
  rw [hmap, hstep]
  exact Or.inl rfl

/-- What an open bracket does is decided by the text behind it. -/
theorem openBy_cases (text : List Char) :
    (∃ e, ∀ r : Reading, r.openBy text = .error e) ∨
      (∃ rest, ∀ r : Reading, r.openBy text = r.openNamed rest) ∨
      (∃ rest, ∀ r : Reading, r.openBy text = r.openFlags rest) ∨
      ∀ r : Reading, r.openBy text = .ok (r.openNumbered, text) := by
  by_cases hquestion : text.head? = some '?'
  swap
  · exact Or.inr (Or.inr (Or.inr fun r => openBy_of_ne hquestion))
  obtain ⟨cs, rfl⟩ := List.head?_eq_some_iff.mp hquestion
  rcases cs with _ | ⟨d, cs⟩
  · exact Or.inr (Or.inr (Or.inl ⟨[], fun r => rfl⟩))
  by_cases hequal : d = '='
  · subst hequal
    exact Or.inl ⟨_, fun r => rfl⟩
  by_cases hnot : d = '!'
  · subst hnot
    exact Or.inl ⟨_, fun r => rfl⟩
  by_cases hless : d = '<'
  · subst hless
    rcases cs with _ | ⟨e, cs⟩
    · exact Or.inr (Or.inl ⟨[], fun r => rfl⟩)
    by_cases hequal : e = '='
    · subst hequal
      exact Or.inl ⟨_, fun r => rfl⟩
    by_cases hnot : e = '!'
    · subst hnot
      exact Or.inl ⟨_, fun r => rfl⟩
    exact Or.inr (Or.inl ⟨e :: cs, fun r => openBy_name hequal hnot⟩)
  by_cases hname : d = 'P' ∧ cs.head? = some '<'
  · obtain ⟨rfl, hhead⟩ := hname
    obtain ⟨more, rfl⟩ := List.head?_eq_some_iff.mp hhead
    exact Or.inr (Or.inl ⟨more, fun r => rfl⟩)
  · exact Or.inr (Or.inr (Or.inl ⟨d :: cs, fun r =>
      openBy_flags hequal hnot hless fun hd hhead => hname ⟨hd, hhead⟩⟩))

theorem openGroup_keeps : KeepsInside w (r.openGroup cs) ((r.inside w).openGroup cs) := by
  intro s rest hopen
  rw [openGroup_eq] at hopen ⊢
  show (r.inside w).openBy (r.flags.skip cs) = _ ∨
    ∃ e, (r.inside w).openBy (r.flags.skip cs) = .error e
  rcases openBy_cases (r.flags.skip cs) with ⟨e, hall⟩ | ⟨text, hall⟩ | ⟨text, hall⟩ | hall
  · rw [hall] at hopen
    cases hopen
  · rw [hall] at hopen ⊢
    simpa using openNamed_inside (w := w) hopen []
  · rw [hall] at hopen ⊢
    exact Or.inl (by simpa using openFlags_inside (w := w) hopen [])
  · rw [hall] at hopen ⊢
    cases hopen
    rw [openNumbered_inside]
    exact Or.inl rfl

theorem repeatLast_keeps {least : Nat} {most : Option Nat} {greedy : Bool} (cs : List Char) :
    KeepsInside w ((r.repeatLast least most greedy).map (·, cs))
      (((r.inside w).repeatLast least most greedy).map (·, cs)) :=
  .of_map cs repeatLast_inside

theorem readSimple_keeps {least : Nat} {most : Option Nat} :
    KeepsInside w (r.readSimple least most cs) ((r.inside w).readSimple least most cs) := by
  by_cases hlazy : cs.head? = some '?'
  · obtain ⟨tail, rfl⟩ := List.head?_eq_some_iff.mp hlazy
    rw [readSimple_lazy, readSimple_lazy]
    exact repeatLast_keeps tail
  · rw [readSimple_of_ne hlazy, readSimple_of_ne hlazy]
    exact repeatLast_keeps cs

theorem endCount_keeps {least : Nat} {most : Option Nat} :
    KeepsInside w (r.endCount least most cs) ((r.inside w).endCount least most cs) := by
  intro s rest hread
  obtain ⟨⟨greedy, left⟩, hend, hlast⟩ := exists_of_bind_eq_ok hread
  unfold endCount
  rw [show readCountEnd (r.inside w).flags cs = _ from hend]
  simp only [ok_bind] at hlast ⊢
  split at hlast
  · cases hlast
  · next horder =>
      rw [if_neg horder]
      exact repeatLast_keeps left s rest hlast

theorem readMost_keeps {least : Nat} :
    KeepsInside w (r.readMost least cs) ((r.inside w).readMost least cs) := by
  unfold readMost
  split
  · intro s rest hread
    cases hread
  · exact endCount_keeps
  · intro s rest hread
    obtain ⟨⟨count, left⟩, hcount, hend⟩ := exists_of_bind_eq_ok hread
    rw [show readCount (r.inside w).flags cs = _ from hcount]
    cases count with
    | none => cases hend
    | some m => exact endCount_keeps s rest hend

theorem readBounds_keeps {least : Nat} :
    KeepsInside w (r.readBounds least cs) ((r.inside w).readBounds least cs) := by
  unfold readBounds
  split
  · intro s rest hread
    cases hread
  · exact readMost_keeps
  · exact endCount_keeps

theorem readCounted_keeps : KeepsInside w (r.readCounted cs) ((r.inside w).readCounted cs) := by
  intro s rest hread
  obtain ⟨least, left, hitem, hcs, hcount, _⟩ := exists_of_readCounted hread
  have hitem' : (r.inside w).items.head?.any (·.repeatable) = true := by
    show (r.items.map (Piece.shift w.captures)).head?.any _ = true
    rw [List.head?_map, Option.any_map]
    exact hitem
  rw [readCounted_eq hitem hcs hcount] at hread
  rw [readCounted_eq (r := r.inside w) hitem' hcs hcount]
  exact readBounds_keeps s rest hread

/-- Pieces without groups are the same inside. -/
theorem KeepsInside.of_piece {α : Type} (outcome : Except RegexError α) (piece : α → Piece)
    (left : α → List Char)
    (hpiece : ∀ a, outcome = .ok a → (piece a).shift w.captures = piece a) :
    KeepsInside w (outcome >>= fun a => pure (r.push (piece a), left a))
      (outcome >>= fun a => pure ((r.inside w).push (piece a), left a)) := by
  intro s rest hread
  obtain ⟨a, ha, hpush⟩ := exists_of_bind_eq_ok hread
  cases hpush
  rw [ha, ← push_inside, hpiece a ha]
  exact Or.inl rfl

theorem step_close_keeps : KeepsInside w (r.step ')' cs) ((r.inside w).step ')' cs) := by
  intro s rest hread
  obtain ⟨t, hclosed, ht⟩ := exists_of_bind_eq_ok hread
  cases ht
  refine Or.inl ?_
  show ((r.inside w).closeGroup >>= fun t => pure (t, cs)) = _
  rw [closeGroup_inside hclosed]
  rfl

theorem step_bar_keeps : KeepsInside w (r.step '|' cs) ((r.inside w).step '|' cs) := by
  intro s rest hread
  cases hread
  rw [← bar_inside]
  exact Or.inl rfl

theorem step_escape_keeps : KeepsInside w (r.step '\\' cs) ((r.inside w).step '\\' cs) := by
  intro s rest hread
  rw [step_escape] at hread ⊢
  obtain ⟨⟨escape, left⟩, hread, hpush⟩ := exists_of_bind_eq_ok hread
  rw [show readEscape (r.inside w).flags cs = _ from hread]
  cases hpiece : pieceOf r.flags escape with
  | error e =>
      simp only [hpiece] at hpush
      cases hpush
  | ok piece =>
      simp only [hpiece] at hpush
      cases hpush
      refine Or.inl ?_
      show (pieceOf r.flags escape).map _ = _
      rw [hpiece, ← push_inside, shift_of_pieceOf hpiece]
      rfl

theorem step_keeps (c : Char) (cs : List Char) :
    KeepsInside w (r.step c cs) ((r.inside w).step c cs) := by
  by_cases hopen : c = '('
  · subst hopen
    exact openGroup_keeps
  by_cases hclose : c = ')'
  · subst hclose
    exact step_close_keeps
  by_cases hbar : c = '|'
  · subst hbar
    exact step_bar_keeps
  by_cases hset : c = '['
  · subst hset
    exact .of_piece (readSet r.flags (cs.length + 2) 0 0 .empty [] ('[' :: cs))
      (fun a => { Piece.leaf (.set a.1) with depth := a.2.1 }) (fun a => a.2.2) (fun _ _ => rfl)
  by_cases hcount : c = '{'
  · subst hcount
    exact readCounted_keeps
  by_cases hescape : c = '\\'
  · subst hescape
    exact step_escape_keeps
  unfold step
  split
  all_goals first
    | exact absurd rfl ‹_›
    | exact readSimple_keeps
    | exact .of_piece (.ok ()) (fun _ => .leaf (.look _)) (fun _ => cs) (fun _ _ => rfl)
    | skip
  · exact .of_piece r.flags.dot (fun s => .leaf (.set s)) (fun _ => cs) (fun _ _ => rfl)
  · exact .of_piece (r.flags.literal c false) .leaf (fun _ => cs) (fun _ => shift_of_literal)

/-- What is read to the end of the text alone is read to its end inside as well. -/
theorem finish_inside_last (hreads : Reads n r cs s rest) (hend : s.flags.skip rest = [])
    (hfinish : finish fuel (r.inside w) cs = .ok v) : v = s.inside w := by
  induction hreads generalizing fuel with
  | refl r cs => exact eq_of_finish_nil (r := r.inside w) hend hfinish
  | @step n r s u cs tail rest more c hskip hstep hmore ih =>
      obtain ⟨t, left, fuel', hstep', hfinish'⟩ :=
        exists_of_finish_cons (r := r.inside w) hskip hfinish
      rcases step_keeps c tail s rest hstep with hinside | ⟨e, he⟩
      · obtain ⟨rfl, rfl⟩ := Prod.mk.inj (Except.ok.inj (hinside.symm.trans hstep'))
        exact ih hend hfinish'
      · rw [he] at hstep'
        cases hstep'

end Reading
end Regex
end AdaptiveRules
