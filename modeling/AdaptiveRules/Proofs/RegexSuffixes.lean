import AdaptiveRules.Proofs.RegexReading

/-!
# Reading with more text behind

What is read from a text is read from it as well when more text stands behind it, provided that text
begins as one does after a branch: with a bar or the end of a group.  Only blanks and comments at the
very end need care, as a comment that is not closed takes in what follows.
-/

namespace AdaptiveRules
namespace Regex

theorem ok_bind {ε α β : Type} (a : α) (f : α → Except ε β) : (Except.ok a >>= f) = f a := rfl

theorem exists_of_bind_eq_ok {ε α β : Type} {x : Except ε α} {f : α → Except ε β} {b : β}
    (hbind : x >>= f = .ok b) : ∃ a, x = .ok a ∧ f a = .ok b := by
  cases x with
  | error e => cases hbind
  | ok a => exact ⟨a, rfl, hbind⟩

/-! ### Blanks and comments -/

theorem length_dropComment_le (cs : List Char) : (dropComment cs).length ≤ cs.length := by
  induction cs with
  | nil => exact Nat.le_refl _
  | cons c rest ih =>
      unfold dropComment
      split
      · exact Nat.le_succ _
      · exact ih.trans (Nat.le_succ _)

theorem dropComment_append {cs more : List Char} (hline : dropComment cs ≠ [] ∨ '\n' ∈ cs) :
    dropComment (cs ++ more) = dropComment cs ++ more := by
  induction cs with
  | nil => simp [dropComment] at hline
  | cons c rest ih =>
      rw [List.cons_append]
      unfold dropComment at hline ⊢
      by_cases hc : c = '\n'
      · rw [if_pos hc, if_pos hc]
      · rw [if_neg hc] at hline ⊢
        rw [if_neg hc]
        apply ih
        rcases hline with hline | hline
        · exact Or.inl hline
        · exact Or.inr ((List.mem_cons.mp hline).resolve_left (Ne.symm hc))

theorem dropComment_of_notMem {cs : List Char} (hline : '\n' ∉ cs) : dropComment cs = [] := by
  induction cs with
  | nil => rfl
  | cons c rest ih =>
      rw [List.mem_cons, not_or] at hline
      unfold dropComment
      rw [if_neg (Ne.symm hline.1), ih hline.2]

/-- Enough fuel is enough. -/
theorem dropSpace_congr {n m : Nat} {cs : List Char} (hn : cs.length < n) (hm : cs.length < m) :
    dropSpace n cs = dropSpace m cs := by
  induction n generalizing m cs with
  | zero => omega
  | succ n ih =>
      obtain ⟨m, rfl⟩ : ∃ k, m = k + 1 := ⟨m - 1, by omega⟩
      cases cs with
      | nil => rfl
      | cons c rest =>
          rw [List.length_cons] at hn hm
          have hcomment := length_dropComment_le rest
          have hrest : dropSpace n rest = dropSpace m rest := ih (by omega) (by omega)
          have hpast : dropSpace n (dropComment rest) = dropSpace m (dropComment rest) :=
            ih (by omega) (by omega)
          unfold dropSpace
          rw [hrest, hpast]

namespace Flags

variable {flags : Flags} {c : Char} {cs tail more suffix : List Char}

theorem skip_of_not_spaced (hspaced : flags.spaced = false) (cs : List Char) :
    flags.skip cs = cs := by
  unfold skip
  rw [hspaced]
  rfl

@[simp] theorem skip_nil (flags : Flags) : flags.skip [] = [] := by
  unfold skip
  split <;> rfl

theorem skip_cons (hspaced : flags.spaced = true) (c : Char) (rest : List Char) :
    flags.skip (c :: rest) =
      if UnicodeProperties.isWhiteSpace c then flags.skip rest
      else if c = '#' then flags.skip (dropComment rest)
      else c :: rest := by
  have hcomment := length_dropComment_le rest
  have hpast : dropSpace (rest.length + 1) (dropComment rest) =
      dropSpace ((dropComment rest).length + 1) (dropComment rest) :=
    dropSpace_congr (by omega) (Nat.lt_succ_self _)
  unfold skip
  rw [if_pos hspaced, if_pos hspaced, if_pos hspaced, ← hpast]
  rfl

/-- Induction on what is left to skip. -/
theorem skip_induction (flags : Flags) (motive : List Char → Prop)
    (plain : flags.spaced = false → ∀ cs, motive cs) (nil : motive [])
    (blank : flags.spaced = true → ∀ c rest, UnicodeProperties.isWhiteSpace c = true →
      motive rest → motive (c :: rest))
    (comment : flags.spaced = true → ∀ rest, UnicodeProperties.isWhiteSpace '#' = false →
      motive (dropComment rest) → motive ('#' :: rest))
    (other : flags.spaced = true → ∀ c rest, UnicodeProperties.isWhiteSpace c = false →
      c ≠ '#' → motive (c :: rest)) (cs : List Char) : motive cs := by
  cases hspaced : flags.spaced with
  | false => exact plain hspaced cs
  | true =>
      induction hlength : cs.length using Nat.strong_induction_on generalizing cs with
      | h n ih =>
          cases cs with
          | nil => exact nil
          | cons c rest =>
              rw [List.length_cons] at hlength
              cases hwhite : UnicodeProperties.isWhiteSpace c with
              | true => exact blank hspaced c rest hwhite (ih rest.length (by omega) rest rfl)
              | false =>
                  by_cases hc : c = '#'
                  · subst hc
                    have hcomment := length_dropComment_le rest
                    exact comment hspaced rest hwhite
                      (ih (dropComment rest).length (by omega) (dropComment rest) rfl)
                  · exact other hspaced c rest hwhite hc

theorem skip_append (hskip : flags.skip cs = c :: tail) (more : List Char) :
    flags.skip (cs ++ more) = c :: (tail ++ more) := by
  revert hskip
  induction cs using flags.skip_induction with
  | plain hspaced cs =>
      rw [skip_of_not_spaced hspaced, skip_of_not_spaced hspaced]
      rintro rfl
      rfl
  | nil =>
      rw [skip_nil]
      intro hskip
      cases hskip
  | blank hspaced d rest hd ih =>
      rw [List.cons_append, skip_cons hspaced, skip_cons hspaced, if_pos hd, if_pos hd]
      exact ih
  | comment hspaced rest hd ih =>
      rw [List.cons_append, skip_cons hspaced, skip_cons hspaced, if_neg (by simp [hd]), if_pos rfl,
        if_neg (by simp [hd]), if_pos rfl]
      intro hskip
      have hline : dropComment rest ≠ [] := by
        intro hnone
        rw [hnone, skip_nil] at hskip
        cases hskip
      rw [dropComment_append (Or.inl hline)]
      exact ih hskip
  | other hspaced d rest hd hc =>
      rw [List.cons_append, skip_cons hspaced, skip_cons hspaced, if_neg (by simp [hd]), if_neg hc,
        if_neg (by simp [hd]), if_neg hc]
      intro hskip
      cases hskip
      rfl

@[simp] theorem skip_skip (flags : Flags) (cs : List Char) :
    flags.skip (flags.skip cs) = flags.skip cs := by
  induction cs using flags.skip_induction with
  | plain hspaced cs => rw [skip_of_not_spaced hspaced]
  | nil => rw [skip_nil, skip_nil]
  | blank hspaced d rest hd ih => rwa [skip_cons hspaced, if_pos hd]
  | comment hspaced rest hd ih => rwa [skip_cons hspaced, if_neg (by simp [hd]), if_pos rfl]
  | other hspaced d rest hd hc =>
      rw [skip_cons hspaced, if_neg (by simp [hd]), if_neg hc, skip_cons hspaced,
        if_neg (by simp [hd]), if_neg hc]

theorem length_skip_le (flags : Flags) (cs : List Char) : (flags.skip cs).length ≤ cs.length := by
  induction cs using flags.skip_induction with
  | plain hspaced cs => rw [skip_of_not_spaced hspaced]
  | nil => rw [skip_nil]
  | blank hspaced d rest hd ih =>
      rw [skip_cons hspaced, if_pos hd]
      exact ih.trans (Nat.le_succ _)
  | comment hspaced rest hd ih =>
      rw [skip_cons hspaced, if_neg (by simp [hd]), if_pos rfl]
      exact (ih.trans (length_dropComment_le rest)).trans (Nat.le_succ _)
  | other hspaced d rest hd hc => rw [skip_cons hspaced, if_neg (by simp [hd]), if_neg hc]

theorem skip_dropWhile (hspaced : flags.spaced = true) (cs : List Char) :
    flags.skip (cs.dropWhile UnicodeProperties.isWhiteSpace) = flags.skip cs := by
  induction cs with
  | nil => rfl
  | cons c rest ih =>
      rw [skip_cons hspaced, List.dropWhile_cons]
      by_cases hc : UnicodeProperties.isWhiteSpace c = true
      · rw [if_pos hc, if_pos hc, ih]
      · rw [if_neg hc, if_neg hc, skip_cons hspaced, if_neg hc]

theorem skip_of_blank (hspaced : flags.spaced = true)
    (hblank : cs.dropWhile UnicodeProperties.isWhiteSpace = []) : flags.skip cs = [] := by
  rw [← skip_dropWhile hspaced, hblank, skip_nil]

theorem dropWhile_dropComment (hblank : cs.dropWhile UnicodeProperties.isWhiteSpace = []) :
    (dropComment cs).dropWhile UnicodeProperties.isWhiteSpace = [] := by
  induction cs with
  | nil => rfl
  | cons c rest ih =>
      rw [List.dropWhile_cons] at hblank
      split at hblank
      · unfold dropComment
        split
        · exact hblank
        · exact ih hblank
      · cases hblank

end Flags

/-! ### What stands behind -/

/-- The text begins as one does after a branch. -/
def GoesOn (suffix : List Char) : Prop := suffix.head? = some '|' ∨ suffix.head? = some ')'

/-- A comment at the end takes in all of the text that stands behind. -/
def Flags.Bears (flags : Flags) (suffix : List Char) : Prop :=
  flags.spaced = true → '\n' ∉ suffix

/-- Up to blanks and comments, what is left is what was left with more text behind. -/
def Flags.Leaves (flags : Flags) (suffix rest rest' : List Char) : Prop :=
  ∃ raw, flags.skip rest = flags.skip raw ∧ flags.skip rest' = flags.skip (raw ++ suffix)

namespace GoesOn

variable {suffix : List Char}

theorem exists_cons (hsuffix : GoesOn suffix) :
    ∃ c more, suffix = c :: more ∧ (c = '|' ∨ c = ')') := by
  cases suffix with
  | nil => rcases hsuffix with hhead | hhead <;> cases hhead
  | cons c more =>
      refine ⟨c, more, rfl, ?_⟩
      rcases hsuffix with hhead | hhead
      · exact Or.inl (Option.some.inj hhead)
      · exact Or.inr (Option.some.inj hhead)

theorem head?_ne_question (hsuffix : GoesOn suffix) : suffix.head? ≠ some '?' := by
  rcases hsuffix with hhead | hhead <;> simp [hhead]

/-- A doubled character at the start is there without the text behind, too. -/
theorem exists_double (hsuffix : GoesOn suffix) {c d : Char} {tail left : List Char}
    (hbar : d ≠ '|') (hclose : d ≠ ')') (htext : c :: (tail ++ suffix) = d :: d :: left) :
    ∃ more, c :: tail = d :: d :: more := by
  obtain ⟨e, more, rfl, he⟩ := hsuffix.exists_cons
  rcases tail with _ | ⟨f, tail⟩
  · obtain ⟨_, hsecond⟩ := List.cons.inj htext
    obtain rfl := (List.cons.inj hsecond).1
    rcases he with he | he
    · exact absurd he hbar
    · exact absurd he hclose
  · cases htext
    exact ⟨tail, rfl⟩

theorem skip_eq (hsuffix : GoesOn suffix) (flags : Flags) : flags.skip suffix = suffix := by
  obtain ⟨c, more, rfl, hc⟩ := hsuffix.exists_cons
  cases hspaced : flags.spaced with
  | false => exact Flags.skip_of_not_spaced hspaced _
  | true =>
      have hsolid : UnicodeProperties.isWhiteSpace c = false ∧ c ≠ '#' := by
        rcases hc with rfl | rfl <;> decide +kernel
      rw [Flags.skip_cons hspaced, if_neg (by simp [hsolid.1]), if_neg hsolid.2]

/-- Behind blanks and comments that are left at the end, either the text stands as it is, or a
comment takes it in. -/
theorem skip_append (hsuffix : GoesOn suffix) {flags : Flags} {cs : List Char}
    (hbears : flags.Bears suffix) (hskip : flags.skip cs = []) :
    flags.skip (cs ++ suffix) = suffix ∨ flags.skip (cs ++ suffix) = [] := by
  revert hskip
  induction cs using flags.skip_induction with
  | plain hspaced cs =>
      rw [Flags.skip_of_not_spaced hspaced, Flags.skip_of_not_spaced hspaced]
      rintro rfl
      exact Or.inl rfl
  | nil => exact fun _ => Or.inl (hsuffix.skip_eq flags)
  | blank hspaced d rest hd ih =>
      rw [List.cons_append, Flags.skip_cons hspaced, Flags.skip_cons hspaced, if_pos hd, if_pos hd]
      exact ih
  | comment hspaced rest hd ih =>
      rw [List.cons_append, Flags.skip_cons hspaced, Flags.skip_cons hspaced,
        if_neg (by simp [hd]), if_pos rfl, if_neg (by simp [hd]), if_pos rfl]
      by_cases hline : '\n' ∈ rest
      · rw [dropComment_append (Or.inr hline)]
        exact ih
      · intro _
        have hnone : '\n' ∉ rest ++ suffix := by
          rw [List.mem_append, not_or]
          exact ⟨hline, hbears hspaced⟩
        rw [dropComment_of_notMem hnone]
        exact Or.inr (Flags.skip_nil flags)
  | other hspaced d rest hd hc =>
      rw [Flags.skip_cons hspaced, if_neg (by simp [hd]), if_neg hc]
      intro hskip
      cases hskip

end GoesOn

namespace Flags.Leaves

variable {flags : Flags} {c : Char} {suffix rest rest' tail : List Char}

theorem append (flags : Flags) (suffix rest : List Char) :
    flags.Leaves suffix rest (rest ++ suffix) := ⟨rest, rfl, rfl⟩

theorem skip (flags : Flags) (suffix raw : List Char) :
    flags.Leaves suffix (flags.skip raw) (flags.skip (raw ++ suffix)) :=
  ⟨raw, flags.skip_skip raw, flags.skip_skip _⟩

theorem cons (hleaves : flags.Leaves suffix rest rest') (hskip : flags.skip rest = c :: tail) :
    flags.skip rest' = c :: (tail ++ suffix) := by
  obtain ⟨raw, hrest, hrest'⟩ := hleaves
  rw [hrest']
  exact skip_append (hrest.symm.trans hskip) suffix

theorem nil (hleaves : flags.Leaves suffix rest rest') (hsuffix : GoesOn suffix)
    (hbears : flags.Bears suffix) (hskip : flags.skip rest = []) :
    flags.skip rest' = suffix ∨ flags.skip rest' = [] := by
  obtain ⟨raw, hrest, hrest'⟩ := hleaves
  rw [hrest']
  exact hsuffix.skip_append hbears (hrest.symm.trans hskip)

theorem eq_append (hleaves : flags.Leaves suffix rest rest') (hspaced : flags.spaced = false) :
    rest' = rest ++ suffix := by
  obtain ⟨raw, hrest, hrest'⟩ := hleaves
  simp only [skip_of_not_spaced hspaced] at hrest hrest'
  rw [hrest', hrest]

end Flags.Leaves

/-- With more text behind the same is read, and the same is left up to blanks and comments. -/
def Flags.Extends {α : Type} (flags : Flags) (suffix : List Char)
    (outcome outcome' : Except RegexError (α × List Char)) : Prop :=
  ∀ x rest, outcome = .ok (x, rest) → (rest = [] → flags.Bears suffix) →
    ∃ rest', outcome' = .ok (x, rest') ∧ flags.Leaves suffix rest rest'

theorem exists_of_map_eq_ok {ε α : Type} {outcome : Except ε α} {rest rest' : List Char} {x : α}
    (hmap : outcome.map (·, rest) = .ok (x, rest')) : outcome = .ok x ∧ rest' = rest := by
  cases outcome with
  | error e => cases hmap
  | ok a =>
      cases hmap
      exact ⟨rfl, rfl⟩

namespace Flags.Extends

variable {α β : Type} {flags : Flags} {suffix : List Char}
  {outcome outcome' : Except RegexError (α × List Char)}

theorem error (e : RegexError) : flags.Extends suffix (.error e) outcome' := nofun

theorem ok (x : α) (rest suffix : List Char) :
    flags.Extends suffix (.ok (x, rest)) (.ok (x, rest ++ suffix)) := by
  intro y left hok _
  cases hok
  exact ⟨_, rfl, .append flags suffix rest⟩

theorem ok_skip (x : α) (raw suffix : List Char) :
    flags.Extends suffix (.ok (x, flags.skip raw)) (.ok (x, flags.skip (raw ++ suffix))) := by
  intro y left hok _
  cases hok
  exact ⟨_, rfl, .skip flags suffix raw⟩

theorem of_append
    (happend : ∀ x rest, outcome = .ok (x, rest) → outcome' = .ok (x, rest ++ suffix)) :
    flags.Extends suffix outcome outcome' := by
  intro x rest hread _
  exact ⟨_, happend x rest hread, .append flags suffix rest⟩

theorem of_skip (hskip : ∀ x rest, outcome = .ok (x, rest) → ∃ raw, rest = flags.skip raw ∧
      outcome' = .ok (x, flags.skip (raw ++ suffix))) :
    flags.Extends suffix outcome outcome' := by
  intro x rest hread _
  obtain ⟨raw, rfl, hread'⟩ := hskip x rest hread
  exact ⟨_, hread', .skip flags suffix raw⟩

/-- What is made of the result does not touch what is left. -/
theorem bind_map (hextends : flags.Extends suffix outcome outcome')
    (next : α → Except RegexError β) :
    flags.Extends suffix (outcome >>= fun p => (next p.1).map (·, p.2))
      (outcome' >>= fun p => (next p.1).map (·, p.2)) := by
  intro y rest hread hbears
  obtain ⟨⟨x, left⟩, hfirst, hnext⟩ := exists_of_bind_eq_ok hread
  obtain ⟨hx, rfl⟩ := exists_of_map_eq_ok hnext
  obtain ⟨rest', hfirst', hleaves⟩ := hextends x rest hfirst hbears
  refine ⟨rest', ?_, hleaves⟩
  rw [hfirst']
  show (next x).map (·, rest') = _
  rw [show next x = .ok y from hx]
  rfl

end Flags.Extends

/-! ### Escapes -/

section Escapes

variable {flags : Flags} {cs raw rest suffix : List Char}

theorem readHexDigits_append {n value x : Nat}
    (hread : readHexDigits flags n value (flags.skip raw) = .ok (x, rest)) (suffix : List Char) :
    ∃ raw', rest = flags.skip raw' ∧
      readHexDigits flags n value (flags.skip (raw ++ suffix)) =
        .ok (x, flags.skip (raw' ++ suffix)) := by
  induction n generalizing value raw with
  | zero =>
      cases hread
      exact ⟨raw, rfl, rfl⟩
  | succ n ih =>
      cases hskip : flags.skip raw with
      | nil =>
          rw [hskip] at hread
          cases hread
      | cons c tail =>
          rw [hskip] at hread
          rw [Flags.skip_append hskip]
          unfold readHexDigits at hread ⊢
          cases hd : hexValue c with
          | none =>
              rw [hd] at hread
              cases hread
          | some d =>
              simp only [hd] at hread ⊢
              exact ih hread

theorem readHexBraced_append {fuel fuel' value x : Nat} {any : Bool}
    (hread : readHexBraced flags fuel value any (flags.skip raw) = .ok (x, rest))
    (hfuel : fuel ≤ fuel') (suffix : List Char) :
    ∃ raw', rest = flags.skip raw' ∧
      readHexBraced flags fuel' value any (flags.skip (raw ++ suffix)) =
        .ok (x, flags.skip (raw' ++ suffix)) := by
  induction fuel generalizing value raw any fuel' with
  | zero => cases hread
  | succ fuel ih =>
      obtain ⟨fuel', rfl⟩ : ∃ k, fuel' = k + 1 := ⟨fuel' - 1, by omega⟩
      cases hskip : flags.skip raw with
      | nil =>
          rw [hskip] at hread
          cases hread
      | cons c tail =>
          rw [hskip] at hread
          rw [Flags.skip_append hskip]
          unfold readHexBraced at hread ⊢
          by_cases hc : c = '}'
          · rw [if_pos hc] at hread ⊢
            cases any with
            | false => cases hread
            | true =>
                cases hread
                exact ⟨tail, rfl, rfl⟩
          · rw [if_neg hc] at hread ⊢
            cases hd : hexValue c with
            | none =>
                rw [hd] at hread
                cases hread
            | some d =>
                simp only [hd] at hread ⊢
                exact ih hread (by omega)

theorem readBraced_append {fuel fuel' : Nat} {taken : List Char} {x : String}
    (hread : readBraced flags fuel taken (flags.skip raw) = .ok (x, rest))
    (hfuel : fuel ≤ fuel') (suffix : List Char) :
    readBraced flags fuel' taken (flags.skip (raw ++ suffix)) = .ok (x, rest ++ suffix) := by
  induction fuel generalizing raw taken fuel' with
  | zero => cases hread
  | succ fuel ih =>
      obtain ⟨fuel', rfl⟩ : ∃ k, fuel' = k + 1 := ⟨fuel' - 1, by omega⟩
      cases hskip : flags.skip raw with
      | nil =>
          rw [hskip] at hread
          cases hread
      | cons c tail =>
          rw [hskip] at hread
          rw [Flags.skip_append hskip]
          unfold readBraced at hread ⊢
          by_cases hc : c = '}'
          · rw [if_pos hc] at hread ⊢
            cases hread
            rfl
          · rw [if_neg hc] at hread ⊢
            exact ih hread (by omega)

theorem readBoundaryName_append {fuel fuel' : Nat} {taken : List Char} {x : String}
    (hread : readBoundaryName flags fuel taken (flags.skip raw) = .ok (x, rest))
    (hfuel : fuel ≤ fuel') (suffix : List Char) :
    readBoundaryName flags fuel' taken (flags.skip (raw ++ suffix)) = .ok (x, rest ++ suffix) := by
  induction fuel generalizing raw taken fuel' with
  | zero => cases hread
  | succ fuel ih =>
      obtain ⟨fuel', rfl⟩ : ∃ k, fuel' = k + 1 := ⟨fuel' - 1, by omega⟩
      cases hskip : flags.skip raw with
      | nil =>
          rw [hskip] at hread
          cases hread
      | cons c tail =>
          rw [hskip] at hread
          rw [Flags.skip_append hskip]
          unfold readBoundaryName at hread ⊢
          by_cases hname : isBoundaryNameChar c = true
          · rw [if_pos hname] at hread ⊢
            exact ih hread (by omega)
          · rw [if_neg hname] at hread ⊢
            by_cases hc : c = '}'
            · rw [if_pos hc] at hread ⊢
              cases hread
              rfl
            · rw [if_neg hc] at hread
              cases hread

/-- The escape for a character that is given by its number. -/
def hexEscape (byteForm : Bool) (value : Nat) : Except RegexError Escape :=
  match charOfNat? value with
  | some c => .ok (.literal c byteForm)
  | none => .error .hexInvalid

theorem map_hexEscape (byteForm : Bool) (value : Nat) (rest : List Char) :
    (hexEscape byteForm value).map (·, rest) =
      match charOfNat? value with
      | some c => .ok (.literal c byteForm, rest)
      | none => .error .hexInvalid := by
  unfold hexEscape
  cases charOfNat? value <;> rfl

theorem readHex_of_brace {digits : Nat} (hskip : flags.skip cs = '{' :: raw) :
    readHex flags digits cs =
      readHexBraced flags (raw.length + 1) 0 false (flags.skip raw) >>= fun p =>
        (hexEscape false p.1).map (·, p.2) := by
  unfold readHex
  rw [hskip]
  show readHexBraced flags (raw.length + 1) 0 false (flags.skip raw) >>= _ = _
  refine congrArg _ (funext ?_)
  rintro ⟨value, rest⟩
  exact (map_hexEscape false value rest).symm

theorem readHex_of_digit {digits : Nat} {c : Char} (hskip : flags.skip cs = c :: raw)
    (hc : c ≠ '{') :
    readHex flags digits cs =
      readHexDigits flags digits 0 (flags.skip cs) >>= fun p =>
        (hexEscape (digits == 2) p.1).map (·, p.2) := by
  unfold readHex
  rw [hskip]
  split
  · next heq => cases heq
  · next heq => exact absurd (List.cons.inj heq).1 hc
  · refine congrArg _ (funext ?_)
    rintro ⟨value, rest⟩
    exact (map_hexEscape _ value rest).symm

theorem extends_readHex (digits : Nat) (cs suffix : List Char) :
    flags.Extends suffix (readHex flags digits cs) (readHex flags digits (cs ++ suffix)) := by
  cases hskip : flags.skip cs with
  | nil =>
      unfold readHex
      rw [hskip]
      exact .error _
  | cons c tail =>
      have hmore := Flags.skip_append hskip suffix
      by_cases hc : c = '{'
      · subst hc
        rw [readHex_of_brace hskip, readHex_of_brace hmore]
        refine .bind_map (.of_skip fun x rest hread => ?_) _
        exact readHexBraced_append hread (by simp) suffix
      · rw [readHex_of_digit hskip hc, readHex_of_digit hmore hc]
        refine .bind_map (.of_skip fun x rest hread => ?_) _
        exact readHexDigits_append hread suffix

/-- Reads the name of a property. -/
def readQuery (flags : Flags) (cs : List Char) : Except RegexError (String × List Char) :=
  match flags.skip cs with
  | [] => .error .escapeUnfinished
  | '{' :: rest => readBraced flags (rest.length + 1) [] (flags.skip rest)
  | '\\' :: _ => .error .propertyUnknown
  | c :: rest => .ok (String.singleton c, flags.skip rest)

def propertyEscape (flags : Flags) (negated : Bool) (query : String) : Except RegexError Escape :=
  if !flags.unicode then .error .propertyNeedsUnicode
  else
    match propertySet query with
    | none => .error .propertyUnknown
    | some (s, other) => (flags.finishSet s (negated != other)).map Escape.set

theorem readProperty_eq (negated : Bool) (cs : List Char) :
    readProperty flags negated cs =
      readQuery flags cs >>= fun p => (propertyEscape flags negated p.1).map (·, p.2) := by
  have hquery : ∀ (query : String) (rest : List Char),
      (propertyEscape flags negated query).map (·, rest) = (do
      if !flags.unicode then throw .propertyNeedsUnicode
      match propertySet query with
      | none => throw .propertyUnknown
      | some (s, other) => return (.set (← flags.finishSet s (negated != other)), rest)) := by
    intro query rest
    unfold propertyEscape
    cases hunicode : flags.unicode
    · rfl
    · simp only [Bool.not_true, Bool.false_eq_true, if_false]
      cases propertySet query with
      | none => rfl
      | some s =>
          obtain ⟨s, other⟩ := s
          simp only
          cases flags.finishSet s (negated != other) <;> rfl
  unfold readProperty readQuery
  simp only [hquery]
  generalize flags.skip cs = text
  rcases text with _ | ⟨c, rest⟩
  · rfl
  · by_cases hbrace : c = '{'
    · subst hbrace
      rfl
    · by_cases hslash : c = '\\'
      · subst hslash
        rfl
      · simp only
        rfl

theorem extends_readQuery (cs suffix : List Char) :
    flags.Extends suffix (readQuery flags cs) (readQuery flags (cs ++ suffix)) := by
  unfold readQuery
  cases hskip : flags.skip cs with
  | nil => exact .error _
  | cons c tail =>
      rw [Flags.skip_append hskip]
      split
      · exact .error _
      · next heq =>
          cases heq
          exact .of_append fun x rest hread => readBraced_append hread (by simp) suffix
      · exact .error _
      · next c' tail' hbrace hslash heq =>
          cases heq
          split
          · next heq => cases heq
          · next heq =>
              cases heq
              exact (hbrace rfl).elim
          · next heq =>
              cases heq
              exact (hslash rfl).elim
          · next heq =>
              cases heq
              exact .ok_skip _ _ _

theorem extends_readProperty (negated : Bool) (cs suffix : List Char) :
    flags.Extends suffix (readProperty flags negated cs)
      (readProperty flags negated (cs ++ suffix)) := by
  rw [readProperty_eq, readProperty_eq]
  exact (extends_readQuery cs suffix).bind_map _

/-- The escape for a boundary that is given by its name. -/
def boundaryEscape (flags : Flags) (name : String) : Except RegexError Escape :=
  let look (edge : WordEdge) : Escape := .look (.word edge flags.word)
  match name with
  | "start" => .ok (look .start)
  | "end" => .ok (look .finish)
  | "start-half" => .ok (look .startHalf)
  | "end-half" => .ok (look .finishHalf)
  | _ => .error .wordBoundaryUnknown

theorem readBoundary_of_name {c : Char} {more : List Char} (hskip : flags.skip raw = c :: more)
    (hname : isBoundaryNameChar c = true) :
    readBoundary flags ('{' :: raw) =
      readBoundaryName flags (more.length + 2) [] (flags.skip raw) >>= fun p =>
        (boundaryEscape flags p.1).map (·, p.2) := by
  unfold readBoundary
  simp only [hskip, hname, Bool.not_true, Bool.false_eq_true, if_false]
  refine congrArg _ (funext ?_)
  rintro ⟨name, rest⟩
  unfold boundaryEscape
  simp only
  split <;> simp_all [Except.map, pure, Except.pure, throw, throwThe, MonadExceptOf.throw]

theorem readBoundary_of_ne {cs : List Char} (hcs : cs.head? ≠ some '{') :
    readBoundary flags cs = .ok (.look (.word .boundary flags.word), cs) := by
  unfold readBoundary
  split
  · exact absurd rfl hcs
  · rfl

theorem extends_readBoundary (hsuffix : GoesOn suffix) (cs : List Char) :
    flags.Extends suffix (readBoundary flags cs) (readBoundary flags (cs ++ suffix)) := by
  cases cs with
  | nil =>
      obtain ⟨c, more, rfl, rfl | rfl⟩ := hsuffix.exists_cons
      · exact .ok _ [] _
      · exact .ok _ [] _
  | cons c raw =>
      rw [List.cons_append]
      by_cases hc : c = '{'
      · subst hc
        cases hskip : flags.skip raw with
        | nil =>
            unfold readBoundary
            simp only [hskip]
            exact .error _
        | cons d more =>
            have hmore := Flags.skip_append hskip suffix
            by_cases hname : isBoundaryNameChar d = true
            · rw [readBoundary_of_name hskip hname, readBoundary_of_name hmore hname]
              refine .bind_map (.of_append fun x rest hread => ?_) _
              exact readBoundaryName_append hread (by simp) suffix
            · unfold readBoundary
              simp only [hskip, hmore, hname, Bool.not_false, if_true]
              exact .ok _ _ _
      · have hother : (c :: raw).head? ≠ some '{' := fun hhead => hc (Option.some.inj hhead)
        have hmore : (c :: (raw ++ suffix)).head? ≠ some '{' := fun hhead =>
          hc (Option.some.inj hhead)
        rw [readBoundary_of_ne hother, readBoundary_of_ne hmore]
        exact .ok _ (c :: raw) suffix

theorem extends_readEscape (hsuffix : GoesOn suffix) (cs : List Char) :
    flags.Extends suffix (readEscape flags cs) (readEscape flags (cs ++ suffix)) := by
  cases cs with
  | nil => exact .error _
  | cons c rest =>
      have hset : ∀ s negated, flags.Extends suffix
          (flags.shorthand s negated >>= fun set => pure (Escape.set set, rest))
          (flags.shorthand s negated >>= fun set => pure (Escape.set set, rest ++ suffix)) := by
        intro s negated
        cases flags.shorthand s negated with
        | error e => exact .error e
        | ok set => exact .ok _ _ _
      rw [List.cons_append]
      unfold readEscape
      simp only
      by_cases hdigit : c.isDigit = true
      · rw [if_pos hdigit]
        exact .error _
      · rw [if_neg hdigit, if_neg hdigit]
        split
        case h_1 => exact extends_readHex 2 rest suffix
        case h_2 => exact extends_readHex 4 rest suffix
        case h_3 => exact extends_readHex 8 rest suffix
        case h_4 => exact extends_readProperty false rest suffix
        case h_5 => exact extends_readProperty true rest suffix
        case h_20 => exact extends_readBoundary hsuffix rest
        case h_24 =>
          split
          · exact .ok _ _ _
          · exact .error _
        all_goals first
          | exact hset _ _
          | exact .ok _ _ _

end Escapes

end Regex
end AdaptiveRules
