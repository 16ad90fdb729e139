import AdaptiveRules.Proofs.NumberReading

/-!
# Documents of a JSON text

A document can be written in many ways: blanks may stand around every value, and the nesting may be
less deep than what is allowed.  Here it is said which texts write a document, and the reader gives the
document back for each of them, whatever follows the text.
-/

namespace AdaptiveRules
namespace JsonParser

variable {cs before space after more rest : List Char} {j : Json} {items : List Json}
  {members : List (String × Json)} {name s : String} {depth fuel long : Nat}

/-! ### Blanks -/

def Blanks (cs : List Char) : Prop := ∀ c ∈ cs, c = ' ' ∨ c = '\n' ∨ c = '\t' ∨ c = '\r'

theorem blanks_nil : Blanks [] := nofun

theorem dropBlanks_append (hcs : Blanks cs) (rest : List Char) :
    dropBlanks (cs ++ rest) = dropBlanks rest := by
  induction cs with
  | nil => rfl
  | cons c more ih =>
      rw [List.cons_append, dropBlanks, if_pos (hcs c List.mem_cons_self)]
      exact ih fun d hd => hcs d (List.mem_cons_of_mem _ hd)

theorem dropBlanks_dropBlanks (cs : List Char) : dropBlanks (dropBlanks cs) = dropBlanks cs := by
  induction cs with
  | nil => rfl
  | cons c more ih =>
      by_cases hc : c = ' ' ∨ c = '\n' ∨ c = '\t' ∨ c = '\r'
      · rw [dropBlanks, if_pos hc, ih]
      · rw [dropBlanks, if_neg hc, dropBlanks, if_neg hc]

/-- A value begins with one of these characters. -/
def StartsValue (c : Char) : Prop := c ∈ ['n', 't', 'f', '"', '[', '\x7b', '-'] ∨ c.isDigit = true

theorem StartsValue.not_blank {c : Char} (hc : StartsValue c) :
    ¬ (c = ' ' ∨ c = '\n' ∨ c = '\t' ∨ c = '\r') := by
  rintro (rfl | rfl | rfl | rfl) <;> revert hc <;> unfold StartsValue <;> decide

theorem dropBlanks_cons {c : Char} (hc : StartsValue c) (rest : List Char) :
    dropBlanks (c :: rest) = c :: rest := by
  rw [dropBlanks, if_neg hc.not_blank]

/-- These marks follow a value. -/
def EndsValue (c : Char) : Prop := c = ',' ∨ c = ']' ∨ c = '\x7d'

theorem endsNumber_append {c : Char} (hafter : Blanks after) (hc : EndsValue c)
    (rest : List Char) : EndsNumber (after ++ c :: rest) := by
  cases after with
  | nil =>
      rintro d ⟨⟩
      rcases hc with rfl | rfl | rfl <;> decide
  | cons d more =>
      rintro _ ⟨⟩
      rcases hafter d List.mem_cons_self with rfl | rfl | rfl | rfl <;> decide

theorem dropBlanks_mark {c : Char} (hafter : Blanks after) (hc : EndsValue c)
    (rest : List Char) : dropBlanks (after ++ c :: rest) = c :: rest := by
  rw [dropBlanks_append hafter, dropBlanks, if_neg]
  rcases hc with rfl | rfl | rfl <;> decide

/-! ### Strings -/

/-- The digits of a control character. -/
theorem readUnit_control {n : Nat} (hn : n < 32) (rest : List Char) :
    readUnit ('0' :: '0' :: Json.hexLower (n / 16) :: Json.hexLower (n % 16) :: rest) =
      some (n, rest) := by
  have hdigits : ∀ n < 32, hexDigit (Json.hexLower (n / 16)) = some (n / 16) ∧
      hexDigit (Json.hexLower (n % 16)) = some (n % 16) := by decide
  obtain ⟨hhigh, hlow⟩ := hdigits n hn
  have hzero : hexDigit '0' = some 0 := rfl
  simp only [readUnit, hhigh, hlow, hzero, Option.bind_eq_bind, Option.bind_some]
  rw [show 0 * 4096 + 0 * 256 + n / 16 * 16 + n % 16 = n by omega]
  rfl

theorem readChars_quoteChar (c : Char) (fuel : Nat) (taken rest : List Char) :
    readChars (fuel + 1) taken (Json.quoteChar c ++ rest) = readChars fuel (c :: taken) rest := by
  have hescape : ∀ text, readEscape text = some (c, rest) →
      readChars (fuel + 1) taken ('\\' :: text) = readChars fuel (c :: taken) rest := by
    intro text hread
    rw [readChars, if_neg (by decide), if_pos rfl, hread]
  have hcode : ∀ n, c.toNat = n → Char.ofNat n = c := by
    rintro n rfl
    exact Char.ofNat_toNat c
  unfold Json.quoteChar
  split
  · next h => exact hescape ('"' :: rest) (by rw [h]; rfl)
  split
  · next h => exact hescape ('\\' :: rest) (by rw [h]; rfl)
  split
  · next h => exact hescape ('n' :: rest) (by rw [h]; rfl)
  split
  · next h => exact hescape ('r' :: rest) (by rw [h]; rfl)
  split
  · next h => exact hescape ('t' :: rest) (by rw [h]; rfl)
  split
  · next h => exact hescape ('b' :: rest) (by rw [← hcode 8 h]; rfl)
  split
  · next h => exact hescape ('f' :: rest) (by rw [← hcode 12 h]; rfl)
  split
  · next h =>
      refine hescape ('u' :: '0' :: '0' :: _ :: _ :: rest) ?_
      show readUnicode _ = _
      unfold readUnicode
      rw [readUnit_control h]
      simp only [Option.bind_eq_bind, Option.bind_some]
      rw [if_neg (by omega), if_neg (by omega), hcode _ rfl]
      rfl
  · next hquote hback _ _ _ _ _ hcontrol =>
      rw [List.singleton_append, readChars, if_neg hquote, if_neg hback, if_neg hcontrol]

theorem readChars_quoted {chars : List Char} (hfuel : chars.length < fuel) (taken rest : List Char) :
    readChars fuel taken (chars.flatMap Json.quoteChar ++ '"' :: rest) =
      some (taken.reverse ++ chars, rest) := by
  induction chars generalizing fuel taken with
  | nil =>
      obtain ⟨fuel, rfl⟩ := Nat.exists_eq_succ_of_ne_zero (Nat.ne_zero_of_lt hfuel)
      simp [readChars]
  | cons c chars ih =>
      obtain ⟨fuel, rfl⟩ := Nat.exists_eq_succ_of_ne_zero (Nat.ne_zero_of_lt hfuel)
      rw [List.flatMap_cons, List.append_assoc, readChars_quoteChar,
        ih (Nat.lt_of_succ_lt_succ hfuel)]
      simp

theorem length_le_quoted (chars : List Char) :
    chars.length ≤ (chars.flatMap Json.quoteChar).length := by
  induction chars with
  | nil => exact le_refl 0
  | cons c chars ih =>
      have hone : 1 ≤ (Json.quoteChar c).length := by
        unfold Json.quoteChar
        repeat' split
        all_goals simp
      rw [List.flatMap_cons, List.length_append, List.length_cons]
      omega

theorem toList_quote (s : String) :
    (Json.quote s).toList = '"' :: (s.toList.flatMap Json.quoteChar ++ ['"']) := by
  rw [Json.quote, String.toList_ofList]

/-- A string is read as the one that was written. -/
theorem readString_quote (s : String) (hlong : (Json.quote s).toList.length ≤ long)
    (rest : List Char) :
    ∃ more, (Json.quote s).toList ++ rest = '"' :: more ∧ readString long more = some (s, rest) := by
  refine ⟨s.toList.flatMap Json.quoteChar ++ '"' :: rest, by simp [toList_quote], ?_⟩
  have hfuel : s.toList.length < long := by
    have := length_le_quoted s.toList
    rw [toList_quote, List.length_cons, List.length_append] at hlong
    simp only [List.length_cons, List.length_nil] at hlong
    omega
  unfold readString
  rw [readChars_quoted hfuel, List.reverse_nil, List.nil_append, Option.map_some,
    String.ofList_toList]

/-! ### Values -/

mutual

/-- The text writes the document, which nests at most so deep. -/
inductive Writes : Nat → Json → List Char → Prop
  | null {depth : Nat} : Writes depth .null ['n', 'u', 'l', 'l']
  | yes {depth : Nat} : Writes depth (.bool true) ['t', 'r', 'u', 'e']
  | no {depth : Nat} : Writes depth (.bool false) ['f', 'a', 'l', 's', 'e']
  | number {depth : Nat} {j : Json} {cs : List Char} (hnumber : WritesNumber j cs) :
      Writes depth j cs
  | text {depth : Nat} (s : String) : Writes depth (.str s) (Json.quote s).toList
  | noItems {depth : Nat} : Writes (depth + 1) (.arr []) ['[', ']']
  | items {depth : Nat} {items : List Json} {cs : List Char} (hitems : WritesItems depth items cs) :
      Writes (depth + 1) (.arr items) ('[' :: cs)
  | noMembers {depth : Nat} : Writes (depth + 1) (.obj []) ['\x7b', '\x7d']
  | members {depth : Nat} {members : List (String × Json)} {cs : List Char}
      (hmembers : WritesMembers depth members cs) :
      Writes (depth + 1) (.obj members) ('\x7b' :: cs)

/-- The items of an array and its closing bracket. -/
inductive WritesItems : Nat → List Json → List Char → Prop
  | last {depth : Nat} {j : Json} {before cs after : List Char} (hbefore : Blanks before)
      (hitem : Writes depth j cs) (hafter : Blanks after) :
      WritesItems depth [j] (before ++ (cs ++ (after ++ [']'])))
  | more {depth : Nat} {j : Json} {items : List Json} {before cs after more : List Char}
      (hbefore : Blanks before) (hitem : Writes depth j cs) (hafter : Blanks after)
      (hmore : WritesItems depth items more) :
      WritesItems depth (j :: items) (before ++ (cs ++ (after ++ ',' :: more)))

/-- The members of an object and its closing brace. -/
inductive WritesMembers : Nat → List (String × Json) → List Char → Prop
  | last {depth : Nat} {name : String} {j : Json} {before space cs after : List Char}
      (hbefore : Blanks before) (hspace : Blanks space) (hitem : Writes depth j cs)
      (hafter : Blanks after) :
      WritesMembers depth [(name, j)]
        (before ++ ((Json.quote name).toList ++ ':' :: (space ++ (cs ++ (after ++ ['\x7d'])))))
  | more {depth : Nat} {name : String} {j : Json} {members : List (String × Json)}
      {before space cs after more : List Char} (hbefore : Blanks before) (hspace : Blanks space)
      (hitem : Writes depth j cs) (hafter : Blanks after)
      (hmore : WritesMembers depth members more) :
      WritesMembers depth ((name, j) :: members)
        (before ++ ((Json.quote name).toList ++
          ':' :: (space ++ (cs ++ (after ++ ',' :: more)))))

end

theorem Writes.starts (hwrites : Writes depth j cs) :
    ∃ c more, cs = c :: more ∧ StartsValue c := by
  cases hwrites with
  | null => exact ⟨_, _, rfl, by unfold StartsValue; decide⟩
  | yes => exact ⟨_, _, rfl, by unfold StartsValue; decide⟩
  | no => exact ⟨_, _, rfl, by unfold StartsValue; decide⟩
  | number hnumber =>
      obtain ⟨c, more, hcs, hc⟩ := hnumber.starts
      exact ⟨c, more, hcs, hc.imp (fun h => by simp [h]) id⟩
  | text s => exact ⟨_, _, toList_quote s, by unfold StartsValue; decide⟩
  | noItems => exact ⟨_, _, rfl, by unfold StartsValue; decide⟩
  | items _ => exact ⟨_, _, rfl, by unfold StartsValue; decide⟩
  | noMembers => exact ⟨_, _, rfl, by unfold StartsValue; decide⟩
  | members _ => exact ⟨_, _, rfl, by unfold StartsValue; decide⟩

theorem dropBlanks_writes (hbefore : Blanks before) (hwrites : Writes depth j cs)
    (rest : List Char) : dropBlanks (before ++ (cs ++ rest)) = cs ++ rest := by
  obtain ⟨c, more, rfl, hc⟩ := hwrites.starts
  rw [dropBlanks_append hbefore, List.cons_append, dropBlanks_cons hc]

theorem readValue_dropBlanks (long fuel depth : Nat) (cs : List Char) :
    readValue long fuel depth (dropBlanks cs) = readValue long fuel depth cs := by
  cases fuel with
  | zero => rfl
  | succ fuel => rw [readValue, readValue, dropBlanks_dropBlanks]

theorem readItems_dropBlanks (long fuel depth : Nat) (taken : List Json) (cs : List Char) :
    readValue.readItems long fuel depth taken (dropBlanks cs) =
      readValue.readItems long fuel depth taken cs := by
  cases fuel with
  | zero => rfl
  | succ fuel => rw [readValue.readItems, readValue.readItems, readValue_dropBlanks]

theorem readMembers_dropBlanks (long fuel depth : Nat) (taken : List (String × Json))
    (cs : List Char) :
    readValue.readMembers long fuel depth taken (dropBlanks cs) =
      readValue.readMembers long fuel depth taken cs := by
  cases fuel with
  | zero => rfl
  | succ fuel => rw [readValue.readMembers, readValue.readMembers, dropBlanks_dropBlanks]

theorem readValue_number {c : Char} (hc : c = '-' ∨ c.isDigit = true) (more : List Char) :
    readValue long (fuel + 1) depth (c :: more) = readNumber (c :: more) := by
  have hnumber : ∀ d ∈ ['n', 't', 'f', '"', '[', '\x7b'], ¬ (d = '-' ∨ d.isDigit = true) := by
    simp
  have hother : ∀ d ∈ ['n', 't', 'f', '"', '[', '\x7b'], c ≠ d :=
    fun d hd heq => hnumber d hd (heq ▸ hc)
  have hstarts : StartsValue c := hc.imp (fun h => by simp [h]) id
  rw [readValue, dropBlanks_cons hstarts]
  split <;> first
    | rfl
    | next heq => exact absurd (List.cons.inj heq).1 (hother _ (by decide))

/-! ### Reading what writes a document -/

/-- With so much fuel, values are read. -/
def ReadsValues (long fuel : Nat) : Prop :=
  ∀ {depth : Nat} {j : Json} {cs : List Char}, Writes depth j cs → cs.length < long →
    2 * cs.length ≤ fuel → ∀ rest, EndsNumber rest →
      readValue long fuel depth (cs ++ rest) = some (j, rest)

def ReadsItems (long fuel : Nat) : Prop :=
  ∀ {depth : Nat} {items : List Json} {cs : List Char}, WritesItems depth items cs →
    cs.length < long → 2 * cs.length < fuel → ∀ taken rest,
      readValue.readItems long fuel depth taken (cs ++ rest) =
        some (.arr (taken.reverse ++ items), rest)

def ReadsMembers (long fuel : Nat) : Prop :=
  ∀ {depth : Nat} {members : List (String × Json)} {cs : List Char},
    WritesMembers depth members cs → cs.length < long → 2 * cs.length < fuel → ∀ taken rest,
      readValue.readMembers long fuel depth taken (cs ++ rest) =
        some (.obj (taken.reverse ++ members), rest)

theorem ReadsValues.blanks (hvalues : ReadsValues long fuel) (hbefore : Blanks before)
    (hwrites : Writes depth j cs) (hlong : cs.length < long) (hfuel : 2 * cs.length ≤ fuel)
    (hrest : EndsNumber rest) :
    readValue long fuel depth (before ++ (cs ++ rest)) = some (j, rest) := by
  rw [← readValue_dropBlanks, dropBlanks_writes hbefore hwrites]
  exact hvalues hwrites hlong hfuel rest hrest

theorem readItems_last (taken : List Json) (hafter : Blanks after)
    (hread : readValue long fuel depth cs = some (j, after ++ ']' :: rest)) :
    readValue.readItems long (fuel + 1) depth taken cs =
      some (.arr (taken.reverse ++ [j]), rest) := by
  rw [readValue.readItems, hread]
  simp only
  rw [dropBlanks_mark hafter (Or.inr (Or.inl rfl)), List.reverse_cons]
  rfl

theorem readItems_more (taken : List Json) (hafter : Blanks after)
    (hread : readValue long fuel depth cs = some (j, after ++ ',' :: more)) :
    readValue.readItems long (fuel + 1) depth taken cs =
      readValue.readItems long fuel depth (j :: taken) more := by
  rw [readValue.readItems, hread]
  simp only
  rw [dropBlanks_mark hafter (Or.inl rfl)]
  rfl

theorem readsItems_succ (hvalues : ReadsValues long fuel) (hitems : ReadsItems long fuel) :
    ReadsItems long (fuel + 1) := by
  intro depth items cs hwrites hlong hfuel taken rest
  cases hwrites with
  | @last _ j before cs after hbefore hitem hafter =>
      simp only [List.length_append, List.length_cons] at hlong hfuel
      have hread := hvalues.blanks hbefore hitem (by omega) (by omega)
        (endsNumber_append hafter (Or.inr (Or.inl rfl)) rest)
      simpa using readItems_last taken hafter hread
  | @more _ j items before cs after more hbefore hitem hafter hmore =>
      simp only [List.length_append, List.length_cons] at hlong hfuel
      have hread := hvalues.blanks hbefore hitem (by omega) (by omega)
        (endsNumber_append hafter (Or.inl rfl) (more ++ rest))
      have hnext := readItems_more taken hafter hread
      rw [hitems hmore (by omega) (by omega)] at hnext
      simpa using hnext

/-- What stands behind a member decides how its object goes on. -/
theorem readMembers_of_member (taken : List (String × Json)) {text value left : List Char}
    (htext : dropBlanks cs = '"' :: text) (hname : readString long text = some (name, ':' :: value))
    (hread : readValue long fuel depth value = some (j, left)) :
    readValue.readMembers long (fuel + 1) depth taken cs =
      match dropBlanks left with
      | ',' :: more => readValue.readMembers long fuel depth ((name, j) :: taken) more
      | '\x7d' :: rest => some (.obj ((name, j) :: taken).reverse, rest)
      | _ => none := by
  rw [readValue.readMembers, htext]
  simp only
  rw [hname]
  simp only
  rw [show dropBlanks (':' :: value) = ':' :: value from if_neg (by decide)]
  simp only
  generalize readValue long fuel depth value = found at hread ⊢
  subst hread
  rfl

theorem readMembers_last (taken : List (String × Json)) {text value : List Char}
    (htext : dropBlanks cs = '"' :: text) (hname : readString long text = some (name, ':' :: value))
    (hafter : Blanks after)
    (hread : readValue long fuel depth value = some (j, after ++ '\x7d' :: rest)) :
    readValue.readMembers long (fuel + 1) depth taken cs =
      some (.obj (taken.reverse ++ [(name, j)]), rest) := by
  rw [readMembers_of_member taken htext hname hread,
    dropBlanks_mark hafter (Or.inr (Or.inr rfl)), List.reverse_cons]
  rfl

theorem readMembers_more (taken : List (String × Json)) {text value : List Char}
    (htext : dropBlanks cs = '"' :: text) (hname : readString long text = some (name, ':' :: value))
    (hafter : Blanks after)
    (hread : readValue long fuel depth value = some (j, after ++ ',' :: more)) :
    readValue.readMembers long (fuel + 1) depth taken cs =
      readValue.readMembers long fuel depth ((name, j) :: taken) more := by
  rw [readMembers_of_member taken htext hname hread, dropBlanks_mark hafter (Or.inl rfl)]
  rfl

/-- The name of a member is found behind blanks. -/
theorem exists_memberName (hbefore : Blanks before) (name : String)
    (hlong : (Json.quote name).toList.length ≤ long) (value : List Char) :
    ∃ text, dropBlanks (before ++ ((Json.quote name).toList ++ ':' :: value)) = '"' :: text ∧
      readString long text = some (name, ':' :: value) := by
  obtain ⟨text, htext, hname⟩ := readString_quote name hlong (':' :: value)
  refine ⟨text, ?_, hname⟩
  rw [htext, dropBlanks_append hbefore, dropBlanks_cons (Or.inl (by decide))]

theorem readsMembers_succ (hvalues : ReadsValues long fuel) (hmembers : ReadsMembers long fuel) :
    ReadsMembers long (fuel + 1) := by
  intro depth items cs hwrites hlong hfuel taken rest
  cases hwrites with
  | @last _ name j before space cs after hbefore hspace hitem hafter =>
      simp only [List.length_append, List.length_cons] at hlong hfuel
      have hread := hvalues.blanks hspace hitem (by omega) (by omega)
        (endsNumber_append hafter (Or.inr (Or.inr rfl)) rest)
      obtain ⟨text, htext, hname⟩ := exists_memberName hbefore name
        (by omega : (Json.quote name).toList.length ≤ long)
        (space ++ (cs ++ (after ++ '\x7d' :: rest)))
      simpa using readMembers_last taken htext hname hafter hread
  | @more _ name j members before space cs after more hbefore hspace hitem hafter hmore =>
      simp only [List.length_append, List.length_cons] at hlong hfuel
      have hread := hvalues.blanks hspace hitem (by omega) (by omega)
        (endsNumber_append hafter (Or.inl rfl) (more ++ rest))
      obtain ⟨text, htext, hname⟩ := exists_memberName hbefore name
        (by omega : (Json.quote name).toList.length ≤ long)
        (space ++ (cs ++ (after ++ ',' :: (more ++ rest))))
      have hnext := readMembers_more taken htext hname hafter hread
      rw [hmembers hmore (by omega) (by omega)] at hnext
      simpa using hnext

theorem WritesItems.starts (hwrites : WritesItems depth items cs) (rest : List Char) :
    ∃ c more, dropBlanks (cs ++ rest) = c :: more ∧ StartsValue c := by
  cases hwrites with
  | last hbefore hitem hafter =>
      rw [List.append_assoc, List.append_assoc, dropBlanks_writes hbefore hitem]
      obtain ⟨c, more, rfl, hc⟩ := hitem.starts
      exact ⟨c, _, rfl, hc⟩
  | more hbefore hitem hafter hmore =>
      rw [List.append_assoc, List.append_assoc, dropBlanks_writes hbefore hitem]
      obtain ⟨c, more, rfl, hc⟩ := hitem.starts
      exact ⟨c, _, rfl, hc⟩

theorem dropBlanks_quote (hbefore : Blanks before) (name : String) (rest : List Char) :
    ∃ more, dropBlanks (before ++ ((Json.quote name).toList ++ rest)) = '"' :: more := by
  rw [toList_quote, dropBlanks_append hbefore, List.cons_append,
    dropBlanks_cons (Or.inl (by decide))]
  exact ⟨_, rfl⟩

theorem WritesMembers.starts (hwrites : WritesMembers depth members cs) (rest : List Char) :
    ∃ more, dropBlanks (cs ++ rest) = '"' :: more := by
  cases hwrites with
  | last hbefore _ _ _ =>
      rw [List.append_assoc, List.append_assoc]
      exact dropBlanks_quote hbefore _ _
  | more hbefore _ _ _ _ =>
      rw [List.append_assoc, List.append_assoc]
      exact dropBlanks_quote hbefore _ _

theorem readValue_items {c : Char} (hstarts : dropBlanks cs = c :: more) (hc : StartsValue c) :
    readValue long (fuel + 1) (depth + 1) ('[' :: cs) =
      readValue.readItems long fuel depth [] cs := by
  rw [readValue, dropBlanks_cons (Or.inl (by decide))]
  simp only
  split
  · next heq =>
      rw [hstarts] at heq
      rw [(List.cons.inj heq).1] at hc
      exact absurd hc (by unfold StartsValue; decide)
  · exact readItems_dropBlanks long fuel depth [] cs

theorem readValue_members (hstarts : dropBlanks cs = '"' :: more) :
    readValue long (fuel + 1) (depth + 1) ('\x7b' :: cs) =
      readValue.readMembers long fuel depth [] cs := by
  rw [readValue, dropBlanks_cons (Or.inl (by decide))]
  simp only
  split
  · next heq =>
      rw [hstarts] at heq
      exact absurd (List.cons.inj heq).1 (by decide)
  · exact readMembers_dropBlanks long fuel depth [] cs

theorem readsValues_succ (hitems : ReadsItems long fuel) (hmembers : ReadsMembers long fuel) :
    ReadsValues long (fuel + 1) := by
  intro depth j cs hwrites hlong hfuel rest hrest
  cases hwrites with
  | null => rfl
  | yes => rfl
  | no => rfl
  | number hnumber =>
      obtain ⟨c, more, rfl, hc⟩ := hnumber.starts
      have hread := hnumber.reads rest hrest
      rw [List.cons_append] at hread ⊢
      rw [readValue_number hc, hread]
  | text s =>
      obtain ⟨text, htext, hread⟩ := readString_quote s hlong.le rest
      rw [htext, readValue, dropBlanks_cons (Or.inl (by decide))]
      simp only
      rw [hread]
      rfl
  | noItems => rfl
  | items hwritten =>
      obtain ⟨c, more, hstarts, hc⟩ := hwritten.starts rest
      rw [List.length_cons] at hlong hfuel
      rw [List.cons_append, readValue_items hstarts hc, hitems hwritten (by omega) (by omega)]
      rfl
  | noMembers => rfl
  | members hwritten =>
      obtain ⟨more, hstarts⟩ := hwritten.starts rest
      rw [List.length_cons] at hlong hfuel
      rw [List.cons_append, readValue_members hstarts, hmembers hwritten (by omega) (by omega)]
      rfl

/-- Every call of the readers costs one unit of fuel, and between two calls on a value there is a
character that is not part of it. -/
theorem reads_of_fuel (long fuel : Nat) :
    ReadsValues long fuel ∧ ReadsItems long fuel ∧ ReadsMembers long fuel := by
  induction fuel with
  | zero =>
      refine ⟨?_, fun _ _ hfuel => absurd hfuel (Nat.not_lt_zero _),
        fun _ _ hfuel => absurd hfuel (Nat.not_lt_zero _)⟩
      intro depth j cs hwrites _ hfuel
      obtain ⟨c, more, rfl, _⟩ := hwrites.starts
      simp at hfuel
  | succ fuel ih =>
      obtain ⟨hvalues, hitems, hmembers⟩ := ih
      exact ⟨readsValues_succ hitems hmembers, readsItems_succ hvalues hitems,
        readsMembers_succ hvalues hmembers⟩

end JsonParser

open JsonParser in
/-- A document is read back from every text that writes it. -/
theorem Json.parse?_of_writes {j : Json} {text : String}
    (hwrites : Writes depthLimit j text.toList) : Json.parse? text = some j := by
  have hread := (reads_of_fuel (text.toList.length + 1) (2 * text.toList.length + 2)).1 hwrites
    (Nat.lt_succ_self _) (by omega) [] nofun
  rw [List.append_nil] at hread
  unfold Json.parse?
  simp only
  rw [hread]
  rfl

end AdaptiveRules
