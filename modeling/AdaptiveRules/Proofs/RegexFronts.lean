import AdaptiveRules.Proofs.RegexInside

/-!
# What is read is taken off the front

Without blanks between the signs, whatever is read is the front of the text, and it is read as well
where the text goes on in another way.  Looking ahead matters in two places only: a question mark
makes the repetition before it a lazy one and turns a bracket into a directive, and a brace that opens
the name of a boundary belongs to the `\b` before it.
-/

namespace AdaptiveRules
namespace Regex

/-- The text goes on with a brace that a boundary takes for the start of a name. -/
def OpensName (cs : List Char) : Prop :=
  cs.head? = some '{' ∧ ∀ c ∈ cs.tail.head?, isBoundaryNameChar c = true

/-- What a reader returns is read off the front of the text, and off the front of any text that goes
on alike. -/
def ReadsFront {α : Type} (alike : List Char → List Char → Prop)
    (read : List Char → Except RegexError (α × List Char)) : Prop :=
  ∀ cs x rest, read cs = .ok (x, rest) →
    ∃ taken, cs = taken ++ rest ∧ ∀ rest', alike rest rest' → read (taken ++ rest') = .ok (x, rest')

/-- No matter how the text goes on. -/
def Anyhow (_ _ : List Char) : Prop := True

/-- A brace that opens a name stands behind only if it did before. -/
def NamesAlike (rest rest' : List Char) : Prop := OpensName rest' → OpensName rest

namespace ReadsFront

variable {α β : Type} {alike : List Char → List Char → Prop}
  {read : List Char → Except RegexError (α × List Char)}

theorem of_anyhow (hread : ReadsFront Anyhow read) : ReadsFront alike read := by
  intro cs x rest hok
  obtain ⟨taken, hsplit, hmore⟩ := hread cs x rest hok
  exact ⟨taken, hsplit, fun rest' _ => hmore rest' trivial⟩

theorem ok (x : α) : ReadsFront alike fun cs => .ok (x, cs) := by
  rintro cs y rest ⟨⟩
  exact ⟨[], rfl, fun _ _ => rfl⟩

theorem error (e : RegexError) : ReadsFront (α := α) alike fun _ => .error e := nofun

theorem bind_map (hread : ReadsFront alike read) (next : α → Except RegexError β) :
    ReadsFront alike fun cs => read cs >>= fun p => (next p.1).map (·, p.2) := by
  intro cs y rest hok
  obtain ⟨⟨x, left⟩, hfirst, hnext⟩ := exists_of_bind_eq_ok hok
  obtain ⟨hx, rfl⟩ := exists_of_map_eq_ok hnext
  obtain ⟨taken, hsplit, hmore⟩ := hread cs x rest hfirst
  refine ⟨taken, hsplit, fun rest' halike => ?_⟩
  simp only [hmore rest' halike, ok_bind]
  rw [show next x = .ok y from hx]
  rfl

theorem exists_cons {sub : List Char → Except RegexError (α × List Char)} {c : Char}
    {tail rest : List Char} {x : α} (hsub : ReadsFront alike sub)
    (heq : ∀ text, read (c :: text) = sub text) (hread : read (c :: tail) = .ok (x, rest)) :
    ∃ taken, c :: tail = c :: taken ++ rest ∧
      ∀ rest', alike rest rest' → read (c :: taken ++ rest') = .ok (x, rest') := by
  rw [heq] at hread
  obtain ⟨taken, rfl, hmore⟩ := hsub tail x rest hread
  exact ⟨taken, rfl, fun rest' halike => (heq _).trans (hmore rest' halike)⟩

end ReadsFront

/-! ### Escapes -/

section Escapes

variable {flags : Flags} {cs rest : List Char}

theorem readsFront_readHexDigits (hspaced : flags.spaced = false) (n value : Nat) :
    ReadsFront Anyhow (readHexDigits flags n value) := by
  induction n generalizing value with
  | zero => exact .ok value
  | succ n ih =>
      intro cs x rest hread
      rcases cs with _ | ⟨c, tail⟩
      · cases hread
      cases hd : hexValue c with
      | none =>
          simp only [readHexDigits, hd] at hread
          cases hread
      | some d =>
          simp only [readHexDigits, hd, Flags.skip_of_not_spaced hspaced] at hread
          obtain ⟨taken, rfl, hmore⟩ := ih _ _ _ _ hread
          refine ⟨c :: taken, rfl, fun rest' halike => ?_⟩
          simp only [List.cons_append, readHexDigits, hd, Flags.skip_of_not_spaced hspaced]
          exact hmore rest' halike

theorem exists_front_readHexBraced (hspaced : flags.spaced = false) {fuel value x : Nat}
    {any : Bool} (hread : readHexBraced flags fuel value any cs = .ok (x, rest)) :
    ∃ taken, cs = taken ++ rest ∧ ∀ fuel' rest', taken.length ≤ fuel' →
      readHexBraced flags fuel' value any (taken ++ rest') = .ok (x, rest') := by
  induction fuel generalizing value any cs with
  | zero => cases hread
  | succ fuel ih =>
      rcases cs with _ | ⟨c, tail⟩
      · cases hread
      unfold readHexBraced at hread
      rw [Flags.skip_of_not_spaced hspaced] at hread
      by_cases hc : c = '}'
      · rw [if_pos hc] at hread
        cases any with
        | false => cases hread
        | true =>
            cases hread
            refine ⟨[c], rfl, fun fuel' rest' hfuel => ?_⟩
            obtain ⟨fuel', rfl⟩ := Nat.exists_eq_add_of_le' hfuel
            simp [readHexBraced, hc, Flags.skip_of_not_spaced hspaced]
            rfl
      · rw [if_neg hc] at hread
        cases hd : hexValue c with
        | none =>
            rw [hd] at hread
            cases hread
        | some d =>
            simp only [hd] at hread
            obtain ⟨taken, rfl, hmore⟩ := ih hread
            refine ⟨c :: taken, rfl, fun fuel' rest' hfuel => ?_⟩
            rw [List.length_cons] at hfuel
            obtain ⟨fuel', rfl⟩ : ∃ k, fuel' = k + 1 := ⟨fuel' - 1, by omega⟩
            simp only [List.cons_append, readHexBraced, if_neg hc, hd,
              Flags.skip_of_not_spaced hspaced]
            exact hmore fuel' rest' (by omega)

theorem readsFront_readHex (hspaced : flags.spaced = false) (n : Nat) :
    ReadsFront Anyhow (readHex flags (n + 1)) := by
  intro cs x rest hread
  have hskip := Flags.skip_of_not_spaced hspaced
  rcases cs with _ | ⟨c, tail⟩
  · unfold readHex at hread
    rw [Flags.skip_nil] at hread
    cases hread
  by_cases hc : c = '{'
  · subst hc
    rw [readHex_of_brace (hskip _), hskip] at hread
    obtain ⟨⟨value, left⟩, hdigits, hnext⟩ := exists_of_bind_eq_ok hread
    obtain ⟨hx, rfl⟩ := exists_of_map_eq_ok hnext
    obtain ⟨taken, rfl, hmore⟩ := exists_front_readHexBraced hspaced hdigits
    refine ⟨'{' :: taken, rfl, fun rest' _ => ?_⟩
    rw [List.cons_append, readHex_of_brace (hskip _), hskip,
      hmore _ rest' (by rw [List.length_append]; omega), ok_bind]
    rw [show hexEscape false value = .ok x from hx]
    rfl
  · cases hd : hexValue c with
    | none =>
        rw [readHex_of_digit (hskip _) hc, hskip, readHexDigits] at hread
        simp only [hd] at hread
        cases hread
    | some d =>
        obtain ⟨taken, hsplit, hmore⟩ := ((readsFront_readHexDigits hspaced n (0 * 16 + d)).bind_map
          (hexEscape (n + 1 == 2))).exists_cons (fun text => by
            rw [readHex_of_digit (hskip _) hc, hskip, readHexDigits]
            simp only [hd, hskip]) hread
        exact ⟨c :: taken, hsplit, hmore⟩

theorem exists_front_readBraced (hspaced : flags.spaced = false) {fuel : Nat}
    {seen : List Char} {x : String} (hread : readBraced flags fuel seen cs = .ok (x, rest)) :
    ∃ taken, cs = taken ++ rest ∧ ∀ fuel' rest', taken.length ≤ fuel' →
      readBraced flags fuel' seen (taken ++ rest') = .ok (x, rest') := by
  induction fuel generalizing seen cs with
  | zero => cases hread
  | succ fuel ih =>
      rcases cs with _ | ⟨c, tail⟩
      · cases hread
      unfold readBraced at hread
      rw [Flags.skip_of_not_spaced hspaced] at hread
      by_cases hc : c = '}'
      · rw [if_pos hc] at hread
        cases hread
        refine ⟨[c], rfl, fun fuel' rest' hfuel => ?_⟩
        obtain ⟨fuel', rfl⟩ := Nat.exists_eq_add_of_le' hfuel
        exact if_pos hc
      · rw [if_neg hc] at hread
        obtain ⟨taken, rfl, hmore⟩ := ih hread
        refine ⟨c :: taken, rfl, fun fuel' rest' hfuel => ?_⟩
        rw [List.length_cons] at hfuel
        obtain ⟨fuel', rfl⟩ : ∃ k, fuel' = k + 1 := ⟨fuel' - 1, by omega⟩
        rw [List.cons_append, readBraced, if_neg hc, Flags.skip_of_not_spaced hspaced]
        exact hmore fuel' rest' (by omega)

theorem readsFront_readProperty (hspaced : flags.spaced = false) (negated : Bool) :
    ReadsFront Anyhow (readProperty flags negated) := by
  have hskip := Flags.skip_of_not_spaced hspaced
  have hquery : ReadsFront Anyhow (readQuery flags) := by
    intro cs x rest hread
    unfold readQuery at hread
    rw [hskip] at hread
    split at hread
    · cases hread
    · rw [hskip] at hread
      obtain ⟨taken, rfl, hmore⟩ := exists_front_readBraced hspaced hread
      refine ⟨'{' :: taken, rfl, fun rest' _ => ?_⟩
      unfold readQuery
      rw [hskip, List.cons_append]
      simp only [hskip]
      exact hmore _ rest' (by rw [List.length_append]; omega)
    · cases hread
    · next c tail hbrace hslash =>
        rw [hskip] at hread
        cases hread
        refine ⟨[c], rfl, fun rest' _ => ?_⟩
        unfold readQuery
        rw [hskip, List.cons_append, List.nil_append]
        split
        · next heq => cases heq
        · next heq => exact absurd (List.cons.inj heq).1 hbrace
        · next heq => exact absurd (List.cons.inj heq).1 hslash
        · next heq =>
            cases heq
            rw [hskip]
  have heq : readProperty flags negated = fun cs => readQuery flags cs >>= fun p =>
      (propertyEscape flags negated p.1).map (·, p.2) := funext (readProperty_eq negated)
  rw [heq]
  exact hquery.bind_map _

theorem exists_front_readBoundaryName (hspaced : flags.spaced = false) {fuel : Nat}
    {seen : List Char} {x : String} (hread : readBoundaryName flags fuel seen cs = .ok (x, rest)) :
    ∃ taken, cs = taken ++ rest ∧ ∀ fuel' rest', taken.length ≤ fuel' →
      readBoundaryName flags fuel' seen (taken ++ rest') = .ok (x, rest') := by
  induction fuel generalizing seen cs with
  | zero => cases hread
  | succ fuel ih =>
      rcases cs with _ | ⟨c, tail⟩
      · cases hread
      unfold readBoundaryName at hread
      rw [Flags.skip_of_not_spaced hspaced] at hread
      by_cases hname : isBoundaryNameChar c = true
      · rw [if_pos hname] at hread
        obtain ⟨taken, rfl, hmore⟩ := ih hread
        refine ⟨c :: taken, rfl, fun fuel' rest' hfuel => ?_⟩
        rw [List.length_cons] at hfuel
        obtain ⟨fuel', rfl⟩ : ∃ k, fuel' = k + 1 := ⟨fuel' - 1, by omega⟩
        rw [List.cons_append, readBoundaryName, if_pos hname, Flags.skip_of_not_spaced hspaced]
        exact hmore fuel' rest' (by omega)
      · rw [if_neg hname] at hread
        by_cases hc : c = '}'
        · rw [if_pos hc] at hread
          cases hread
          refine ⟨[c], rfl, fun fuel' rest' hfuel => ?_⟩
          obtain ⟨fuel', rfl⟩ := Nat.exists_eq_add_of_le' hfuel
          exact (if_neg hname).trans (if_pos hc)
        · rw [if_neg hc] at hread
          cases hread

/-- Where no name is opened, the text behind `\b` is not looked at any further. -/
theorem readBoundary_of_not_opensName (hspaced : flags.spaced = false) (hnone : ¬ OpensName cs) :
    readBoundary flags cs = .ok (.look (.word .boundary flags.word), cs) := by
  rcases cs with _ | ⟨c, tail⟩
  · rfl
  by_cases hc : c = '{'
  · subst hc
    unfold readBoundary
    simp only [Flags.skip_of_not_spaced hspaced]
    rcases tail with _ | ⟨d, more⟩
    · exact absurd ⟨rfl, by simp⟩ hnone
    · have hd : isBoundaryNameChar d ≠ true := fun hd => hnone ⟨rfl, by simpa using hd⟩
      simp only [hd, Bool.not_false, if_true]
      rfl
  · exact readBoundary_of_ne (by simpa using hc)

theorem readsFront_readBoundary (hspaced : flags.spaced = false) :
    ReadsFront NamesAlike (readBoundary flags) := by
  intro cs x rest hread
  by_cases hopens : OpensName cs
  · obtain ⟨hhead, hname⟩ := hopens
    obtain ⟨raw, rfl⟩ := List.head?_eq_some_iff.mp hhead
    have hskip := Flags.skip_of_not_spaced hspaced
    rcases raw with _ | ⟨d, more⟩
    · unfold readBoundary at hread
      simp only [hskip] at hread
      cases hread
    · have hd : isBoundaryNameChar d = true := hname d rfl
      rw [readBoundary_of_name (hskip _) hd, hskip] at hread
      obtain ⟨⟨name, left⟩, hletters, hnext⟩ := exists_of_bind_eq_ok hread
      obtain ⟨hx, rfl⟩ := exists_of_map_eq_ok hnext
      obtain ⟨taken, hsplit, hmore⟩ := exists_front_readBoundaryName hspaced hletters
      rcases taken with _ | ⟨e, taken⟩
      · cases hmore 1 [] (Nat.zero_le 1)
      · obtain ⟨rfl, rfl⟩ := List.cons.inj hsplit
        refine ⟨'{' :: d :: taken, rfl, fun rest' _ => ?_⟩
        show readBoundary flags ('{' :: d :: (taken ++ rest')) = _
        rw [readBoundary_of_name (hskip _) hd, hskip, ← List.cons_append,
          hmore _ rest' (by simp only [List.length_cons, List.length_append]; omega), ok_bind]
        rw [show boundaryEscape flags name = .ok x from hx]
        rfl
  · rw [readBoundary_of_not_opensName hspaced hopens] at hread
    cases hread
    refine ⟨[], rfl, fun rest' halike => ?_⟩
    exact readBoundary_of_not_opensName hspaced fun hopens' => hopens (halike hopens')

theorem readsFront_readEscape (hspaced : flags.spaced = false) :
    ReadsFront NamesAlike (readEscape flags) := by
  intro cs x rest hread
  rcases cs with _ | ⟨c, tail⟩
  · cases hread
  have hlead : ∀ {sub}, ReadsFront NamesAlike sub →
      (∀ text, readEscape flags (c :: text) = sub text) →
      ∃ taken, c :: tail = taken ++ rest ∧
        ∀ rest', NamesAlike rest rest' → readEscape flags (taken ++ rest') = .ok (x, rest') := by
    intro sub hsub heq
    obtain ⟨taken, hsplit, hmore⟩ := hsub.exists_cons heq hread
    exact ⟨c :: taken, hsplit, hmore⟩
  have hset : ∀ s negated, ReadsFront NamesAlike fun text =>
      flags.shorthand s negated >>= fun set => pure (Escape.set set, text) := by
    intro s negated
    cases flags.shorthand s negated with
    | error e => exact .error e
    | ok set => exact .ok (Escape.set set)
  have hcopy := hread
  unfold readEscape at hcopy
  simp only at hcopy
  by_cases hdigit : c.isDigit = true
  · rw [if_pos hdigit] at hcopy
    cases hcopy
  rw [if_neg hdigit] at hcopy
  split at hcopy
  case h_1 => exact hlead (readsFront_readHex hspaced 1).of_anyhow fun _ => rfl
  case h_2 => exact hlead (readsFront_readHex hspaced 3).of_anyhow fun _ => rfl
  case h_3 => exact hlead (readsFront_readHex hspaced 7).of_anyhow fun _ => rfl
  case h_4 => exact hlead (readsFront_readProperty hspaced false).of_anyhow fun _ => rfl
  case h_5 => exact hlead (readsFront_readProperty hspaced true).of_anyhow fun _ => rfl
  case h_20 => exact hlead (readsFront_readBoundary hspaced) fun _ => rfl
  case h_24 =>
    split at hcopy
    · next hescapable =>
        cases hcopy
        refine ⟨[c], rfl, fun rest' _ => ?_⟩
        unfold readEscape
        simp only [List.cons_append, List.nil_append, if_neg hdigit]
        exact if_pos hescapable
    · cases hcopy
  all_goals first
    | exact hlead (hset _ _) fun _ => rfl
    | exact hlead (.ok _) fun _ => rfl

end Escapes

/-! ### Repetition -/

/-- A question mark stands behind only if it did before. -/
def QuestionsAlike (rest rest' : List Char) : Prop :=
  rest'.head? = some '?' → rest.head? = some '?'

/-- Up to a character that stays, a text is split at the same place whatever follows. -/
theorem dropWhile_front {p : Char → Bool} {cs more : List Char} {c : Char} (front : List Char)
    (hdrop : cs.dropWhile p = front ++ c :: more) (more' : List Char) :
    (cs.takeWhile p ++ (front ++ c :: more')).takeWhile p = cs.takeWhile p ∧
      (cs.takeWhile p ++ (front ++ c :: more')).dropWhile p = front ++ c :: more' := by
  have hall : ∀ d ∈ cs.takeWhile p, p d = true := List.all_eq_true.mp List.all_takeWhile
  have hstop := List.head?_dropWhile_not p cs
  rw [List.takeWhile_append_of_pos hall, List.dropWhile_append_of_pos hall]
  rw [hdrop] at hstop
  rcases front with _ | ⟨d, front⟩
  · have hc : ¬ p c = true := by simpa using hstop
    rw [List.nil_append, List.takeWhile_cons_of_neg hc, List.dropWhile_cons_of_neg hc]
    exact ⟨List.append_nil _, rfl⟩
  · have hd : ¬ p d = true := by simpa using hstop
    rw [List.cons_append, List.takeWhile_cons_of_neg hd, List.dropWhile_cons_of_neg hd]
    exact ⟨List.append_nil _, rfl⟩

theorem readDigits_eq {flags : Flags} (hspaced : flags.spaced = false) {fuel : Nat}
    {cs : List Char} (hfuel : cs.length < fuel) (seen : List Char) :
    readDigits flags fuel seen cs =
      (seen.reverse ++ cs.takeWhile Char.isDigit, cs.dropWhile Char.isDigit) := by
  induction fuel generalizing seen cs with
  | zero => omega
  | succ fuel ih =>
      rcases cs with _ | ⟨c, tail⟩
      · simp [readDigits]
      rw [List.length_cons] at hfuel
      unfold readDigits
      by_cases hc : c.isDigit = true
      · rw [if_pos hc, Flags.skip_of_not_spaced hspaced, ih (by omega),
          List.takeWhile_cons_of_pos hc, List.dropWhile_cons_of_pos hc]
        simp
      · rw [if_neg hc, List.takeWhile_cons_of_neg hc, List.dropWhile_cons_of_neg hc,
          List.append_nil]

theorem readCount_eq {flags : Flags} (hspaced : flags.spaced = false) (cs : List Char) :
    readCount flags cs =
      Reading.countOf
        ((cs.dropWhile UnicodeProperties.isWhiteSpace).takeWhile Char.isDigit)
        (((cs.dropWhile UnicodeProperties.isWhiteSpace).dropWhile Char.isDigit).dropWhile
          UnicodeProperties.isWhiteSpace) := by
  unfold readCount
  simp only [readDigits_eq hspaced (Nat.lt_succ_self _), List.reverse_nil, List.nil_append]
  rfl

/-- A number is read off the front of the text up to the character that ends it. -/
theorem exists_front_readCount {flags : Flags} (hspaced : flags.spaced = false)
    {cs more : List Char} {c : Char} {count : Option Nat}
    (hread : readCount flags cs = .ok (count, c :: more)) :
    ∃ taken, cs = taken ++ c :: more ∧
      ∀ more', readCount flags (taken ++ c :: more') = .ok (count, c :: more') := by
  rw [readCount_eq hspaced] at hread
  obtain ⟨hend, hcount⟩ := Reading.countOf_eq hread (c :: more)
  have hfirst := cs.takeWhile_append_dropWhile (p := UnicodeProperties.isWhiteSpace)
  generalize hblank : cs.dropWhile UnicodeProperties.isWhiteSpace = digits at hread hend hfirst hcount
  have hsecond := digits.takeWhile_append_dropWhile (p := Char.isDigit)
  generalize hnumber : digits.dropWhile Char.isDigit = behind at hread hend hsecond
  have hthird := behind.takeWhile_append_dropWhile (p := UnicodeProperties.isWhiteSpace)
  rw [hend] at hthird
  rw [← hthird] at hnumber hsecond
  rw [← hsecond] at hblank hfirst
  rw [← List.append_assoc] at hblank
  refine ⟨cs.takeWhile UnicodeProperties.isWhiteSpace ++ (digits.takeWhile Char.isDigit ++
    behind.takeWhile UnicodeProperties.isWhiteSpace),
    by rw [List.append_assoc, List.append_assoc, hfirst], fun more' => ?_⟩
  have hlast := (dropWhile_front [] hend more').2
  rw [List.nil_append] at hlast
  rw [readCount_eq hspaced, List.append_assoc, (dropWhile_front _ hblank more').2, List.append_assoc,
    (dropWhile_front _ hnumber more').1, (dropWhile_front _ hnumber more').2, hlast]
  exact (Reading.countOf_eq hread _).2

namespace Reading

variable {r s : Reading} {cs rest : List Char} {least : Nat} {most : Option Nat}

theorem readsFront_readCountEnd {flags : Flags} (hspaced : flags.spaced = false) {greedy : Bool}
    (hread : readCountEnd flags cs = .ok (greedy, rest)) :
    ∃ taken, cs = '}' :: taken ++ rest ∧ ∀ rest', QuestionsAlike rest rest' →
      readCountEnd flags ('}' :: taken ++ rest') = .ok (greedy, rest') := by
  have hskip := Flags.skip_of_not_spaced hspaced
  by_cases hc : cs.head? = some '}'
  swap
  · rw [readCountEnd_of_ne hc] at hread
    cases hread
  obtain ⟨tail, rfl⟩ := List.head?_eq_some_iff.mp hc
  by_cases hlazy : tail.head? = some '?'
  · obtain ⟨more, rfl⟩ := List.head?_eq_some_iff.mp hlazy
    have heq : ∀ text, readCountEnd flags ('}' :: '?' :: text) = .ok (false, text) := by
      intro text
      unfold readCountEnd
      simp only [hskip]
      rfl
    rw [heq] at hread
    cases hread
    exact ⟨['?'], rfl, fun rest' _ => heq rest'⟩
  · rw [readCountEnd_greedy (by rwa [hskip]), hskip] at hread
    cases hread
    refine ⟨[], rfl, fun rest' halike => ?_⟩
    have hgreedy : (flags.skip rest').head? ≠ some '?' := by
      rw [hskip]
      exact fun hhead => hlazy (halike hhead)
    rw [List.cons_append, List.nil_append, readCountEnd_greedy hgreedy, hskip]

/-- What is read repeats the last piece, in all texts that go on alike and whatever that piece is. -/
def RepeatsFront (flags : Flags) (read : Reading → List Char → Except RegexError (Reading × List Char))
    (cs rest : List Char) : Prop :=
  ∃ least most greedy c taken, cs = c :: taken ++ rest ∧
    ∀ (r : Reading) (rest' : List Char), r.flags = flags → QuestionsAlike rest rest' →
      read r (c :: taken ++ rest') = (r.repeatLast least most greedy).map (·, rest')

theorem repeatsFront_endCount (hspaced : r.flags.spaced = false)
    (hread : r.endCount least most cs = .ok (s, rest)) :
    RepeatsFront r.flags (fun r => r.endCount least most) cs rest := by
  obtain ⟨⟨greedy, left⟩, hend, hlast⟩ := exists_of_bind_eq_ok hread
  simp only at hlast
  split at hlast
  · cases hlast
  next horder =>
  obtain ⟨-, rfl⟩ := exists_of_map_eq_ok hlast
  obtain ⟨taken, hsplit, hmore⟩ := readsFront_readCountEnd hspaced hend
  refine ⟨least, most, greedy, '}', taken, hsplit, fun r' rest' hflags halike => ?_⟩
  show readCountEnd r'.flags _ >>= _ = _
  rw [hflags, hmore rest' halike, ok_bind, if_neg horder]

theorem RepeatsFront.of_count {flags : Flags} (hspaced : flags.spaced = false) {tail left : List Char}
    {c : Char} {m : Nat} {read sub : Reading → List Char → Except RegexError (Reading × List Char)}
    (hread : ∀ (r : Reading) (text left rest' : List Char) least most greedy, r.flags = flags →
      readCount flags (c :: text) = .ok (some m, left) →
      sub r left = (r.repeatLast least most greedy).map (·, rest') →
      read r (c :: text) = (r.repeatLast least most greedy).map (·, rest'))
    (hcount : readCount flags (c :: tail) = .ok (some m, left))
    (hsub : RepeatsFront flags sub left rest) : RepeatsFront flags read (c :: tail) rest := by
  obtain ⟨least, most, greedy, d, taken, rfl, hmore⟩ := hsub
  obtain ⟨front, hsplit, hfront⟩ := exists_front_readCount hspaced hcount
  obtain ⟨more, hhead⟩ : ∃ more, front ++ d :: taken = c :: more := by
    rcases front with _ | ⟨e, front⟩
    · exact ⟨taken, by rw [(List.cons.inj hsplit).1]; rfl⟩
    · exact ⟨front ++ d :: taken, by rw [(List.cons.inj hsplit).1]; rfl⟩
  have htext : ∀ text, c :: more ++ text = front ++ d :: (taken ++ text) := by
    intro text
    rw [← hhead, List.append_assoc]
    rfl
  refine ⟨least, most, greedy, c, more, hsplit.trans (htext rest).symm, fun r rest' hflags halike => ?_⟩
  have hcount' : readCount flags (c :: (more ++ rest')) = .ok (some m, d :: (taken ++ rest')) := by
    rw [← List.cons_append, htext]
    exact hfront _
  exact hread r _ _ rest' _ _ _ hflags hcount' (hmore r rest' hflags halike)

theorem repeatsFront_readMost (hspaced : r.flags.spaced = false)
    (hread : r.readMost least cs = .ok (s, rest)) :
    RepeatsFront r.flags (fun r => r.readMost least) cs rest := by
  rcases cs with _ | ⟨c, tail⟩
  · cases hread
  by_cases hc : c = '}'
  · subst hc
    obtain ⟨_, most, greedy, c, taken, hsplit, hmore⟩ := repeatsFront_endCount hspaced hread
    obtain ⟨rfl, -⟩ := List.cons.inj hsplit
    exact ⟨_, most, greedy, '}', taken, hsplit, hmore⟩
  · have hother : ∀ (r : Reading) text, r.readMost least (c :: text) = _ := fun r text =>
      readMost_of_ne (List.cons_ne_nil c text) (by simpa using hc) least
    rw [hother] at hread
    obtain ⟨⟨_ | m, left⟩, hcount, hend⟩ := exists_of_bind_eq_ok hread
    · cases hend
    · refine .of_count hspaced ?_ hcount (repeatsFront_endCount hspaced hend)
      intro r text left rest' _ _ _ hflags hcount hsub
      rw [hother, hflags, hcount]
      exact hsub

theorem repeatsFront_readBounds (hspaced : r.flags.spaced = false)
    (hread : r.readBounds least cs = .ok (s, rest)) :
    RepeatsFront r.flags (fun r => r.readBounds least) cs rest := by
  rcases cs with _ | ⟨c, tail⟩
  · cases hread
  by_cases hc : c = ','
  · subst hc
    have hcomma : ∀ {r' : Reading} {text : List Char}, r'.flags = r.flags →
        r'.readBounds least (',' :: text) = r'.readMost least text := by
      intro r' text hflags
      show r'.readMost least (r'.flags.skip text) = _
      rw [Flags.skip_of_not_spaced (hflags ▸ hspaced)]
    rw [hcomma rfl] at hread
    obtain ⟨least', most, greedy, d, taken, rfl, hmore⟩ := repeatsFront_readMost hspaced hread
    refine ⟨least', most, greedy, ',', d :: taken, rfl, fun r' rest' hflags halike => ?_⟩
    exact (hcomma hflags).trans (hmore r' rest' hflags halike)
  · have hother : ∀ (r : Reading) text, r.readBounds least (c :: text) = _ := fun r text =>
      readBounds_of_ne (List.cons_ne_nil c text) (by simpa using hc) least
    rw [hother] at hread
    obtain ⟨least', most, greedy, d, taken, hsplit, hmore⟩ := repeatsFront_endCount hspaced hread
    obtain ⟨rfl, -⟩ := List.cons.inj hsplit
    refine ⟨least', most, greedy, c, taken, hsplit, fun r' rest' hflags halike => ?_⟩
    exact (hother r' _).trans (hmore r' rest' hflags halike)

theorem repeatLast_of_not_repeatable {greedy : Bool}
    (hnone : r.items.head?.any (·.repeatable) ≠ true) :
    r.repeatLast least most greedy = .error .repetitionMissing := by
  unfold repeatLast
  split
  · rfl
  · next hitems =>
      rw [hitems] at hnone
      exact if_pos (by simpa using hnone)

theorem repeatsFront_readCounted (hspaced : r.flags.spaced = false)
    (hread : r.readCounted cs = .ok (s, rest)) : RepeatsFront r.flags readCounted cs rest := by
  have hskip := Flags.skip_of_not_spaced hspaced
  obtain ⟨least, left, hitem, hcs, hcount, -⟩ := exists_of_readCounted hread
  rw [readCounted_eq hitem hcs hcount] at hread
  rw [hskip] at hcs hcount
  obtain ⟨c, tail, rfl⟩ := List.exists_cons_of_ne_nil hcs
  refine .of_count hspaced ?_ hcount (repeatsFront_readBounds hspaced hread)
  intro r' text left rest' _ _ _ hflags hcount hsub
  have hsame : r'.flags.skip (c :: text) = c :: text := by rw [hflags, hskip]
  cases hrepeatable : r'.items.head?.any (·.repeatable) with
  | true =>
      rw [readCounted_eq hrepeatable (by rw [hsame]; exact List.cons_ne_nil c text)
        (by rw [hsame, hflags]; exact hcount)]
      exact hsub
  | false =>
      rw [repeatLast_of_not_repeatable (by rw [hrepeatable]; decide)]
      unfold readCounted
      rw [hrepeatable]
      rfl

end Reading

end Regex
end AdaptiveRules
