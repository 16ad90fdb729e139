import AdaptiveRules.Proofs.GeneralizedRules

/-!
# Examples that one rule expresses

Where all examples are used, the rule that they suggest is what they start with, a class, and what they
end with.  ASCII examples get that rule exactly if start and end do not overlap in any of them, nothing
between them is white space, and the rule is not too large to be checked.  The last never happens below
some hundred thousand characters.
-/

namespace AdaptiveRules
namespace Regex

open Relation

namespace Core

variable {cs front middle back rest : List Char} {items : List Core} {nonempty : Bool} {s : CharSet}
  {x : Cursor}

/-! ### Texts that are framed runs -/

theorem exists_matches_chars (hrest : x.rest = cs ++ rest)
    (hmore : ∀ y : Cursor, y.rest = rest → ∃ z, (ofParts items).Matches y z) :
    ∃ z, (ofParts (cs.map char ++ items)).Matches x z := by
  induction cs generalizing x with
  | nil => exact hmore x hrest
  | cons c cs ih =>
      obtain ⟨z, hlater⟩ := ih (x := x.past c (cs ++ rest)) rfl
      have hfirst : (char c).Matches x (x.past c (cs ++ rest)) := by
        refine ⟨c, cs ++ rest, hrest, ?_, rfl⟩
        rw [CharSet.contains_singleton]
        exact decide_eq_true rfl
      exact ⟨z, matches_ofParts_cons.mpr ⟨_, hfirst, hlater⟩⟩

theorem exists_matches_run (hrest : x.rest = middle ++ rest) (hfits : FitsRun nonempty s middle) :
    ∃ y, y.rest = rest ∧ (run nonempty s).Matches x y := by
  have hmany : ∀ (middle : List Char) (x : Cursor), x.rest = middle ++ rest →
      (∀ c ∈ middle, s.contains c = true) →
      ∃ y, y.rest = rest ∧ ReflTransGen (set s).Matches x y := by
    intro middle
    induction middle with
    | nil => exact fun x hx _ => ⟨x, hx, .refl⟩
    | cons c more ih =>
        intro x hx hall
        obtain ⟨hc, hmore⟩ := List.forall_mem_cons.mp hall
        obtain ⟨y, hy, hsteps⟩ := ih (x.past c (more ++ rest)) rfl hmore
        exact ⟨y, hy, .head ⟨c, _, hx, hc, rfl⟩ hsteps⟩
  obtain ⟨hnonempty, hall⟩ := hfits
  cases nonempty with
  | false => exact hmany middle x hrest hall
  | true =>
      cases middle with
      | nil => exact absurd rfl (hnonempty rfl)
      | cons c more =>
          obtain ⟨hc, hmore⟩ := List.forall_mem_cons.mp hall
          obtain ⟨y, hy, hsteps⟩ := hmany more (x.past c (more ++ rest)) rfl hmore
          exact ⟨y, hy, .head' ⟨c, _, hrest, hc, rfl⟩ hsteps⟩

/-- A text that is made of the parts of a framed run is matched from its start to its end. -/
theorem exists_matches_framed (front back : List Char) (hfits : FitsRun nonempty s middle) :
    ∃ y, (ofParts (look .textStart :: (framed front nonempty s back ++
      [look .textEnd]))).Matches (.start (front ++ (middle ++ back))) y := by
  have hend : ∀ y : Cursor, y.rest = [] → ∃ z, (ofParts [look .textEnd]).Matches y z :=
    fun y hy => ⟨y, by simp [Assertion.holds, Cursor.after, hy], rfl⟩
  have hback : ∀ y : Cursor, y.rest = back →
      ∃ z, (ofParts (back.map char ++ [look .textEnd])).Matches y z :=
    fun y hy => exists_matches_chars (hy.trans (List.append_nil back).symm) hend
  have hrun : ∀ y : Cursor, y.rest = middle ++ back →
      ∃ z, (ofParts (run nonempty s :: (back.map char ++ [look .textEnd]))).Matches y z := by
    intro y hy
    obtain ⟨w, hw, hfirst⟩ := exists_matches_run hy hfits
    obtain ⟨z, hlater⟩ := hback w hw
    exact ⟨z, matches_ofParts_cons.mpr ⟨w, hfirst, hlater⟩⟩
  obtain ⟨z, hall⟩ := exists_matches_chars (x := .start (front ++ (middle ++ back))) rfl hrun
  refine ⟨z, matches_ofParts_cons.mpr ⟨_, ⟨rfl, rfl⟩, ?_⟩⟩
  rw [framed, List.append_assoc]
  exact hall

end Core

/-! ### The room that a framed run takes -/

theorem forall_ascii {P : Char → Prop} (hall : ∀ n < 128, P (Char.ofNat n)) {c : Char}
    (hc : c.toNat < 128) : P c := by
  have hsame : Char.ofNat c.toNat = c := Char.ofNat_toNat c
  rw [← hsame]
  exact hall _ hc

namespace Piece

variable {items : List Piece} {depth : Nat}

theorem room_char {c : Char} (hc : c.toNat < 128) : (leaf (.char c)).room = unit := by
  refine forall_ascii (P := fun c => (leaf (.char c)).room = unit) ?_ hc
  decide +kernel

theorem totalRoom_eq_sum (items : List Piece) : totalRoom items = (items.map (·.room)).sum := by
  have hfrom : ∀ start, items.foldl (fun acc p => acc + p.room) start =
      start + (items.map (·.room)).sum := by
    induction items with
    | nil => exact fun _ => rfl
    | cons p items ih =>
        intro start
        rw [List.foldl_cons, ih, List.map_cons, List.sum_cons, Nat.add_assoc]
  exact (hfrom 0).trans (Nat.zero_add _)

theorem room_branch (hitems : items ≠ []) : (branch items).room = totalRoom items := by
  match items with
  | [] => exact absurd rfl hitems
  | [p] => exact (Nat.zero_add _).symm
  | _ :: _ :: _ => rfl

theorem depth_branch_le (hitems : ∀ p ∈ items, p.depth ≤ depth) :
    (branch items).depth ≤ depth + 1 := by
  have hmax : maxDepth items ≤ depth :=
    List.foldlRecOn (motive := (· ≤ depth)) items _ (Nat.zero_le _) fun _ hacc p hp =>
      Nat.max_le.mpr ⟨hacc, hitems p hp⟩
  match items, hmax with
  | [], _ => exact Nat.zero_le _
  | [p], _ => exact (hitems p (by simp)).trans (Nat.le_succ _)
  | _ :: _ :: _, hmax => exact Nat.succ_le_succ hmax

end Piece

namespace Reading

variable {front back : List Char} {q : Piece}

theorem totalRoom_framedPieces (hfront : ∀ c ∈ front, c.toNat < 128)
    (hback : ∀ c ∈ back, c.toNat < 128) (q : Piece) :
    Piece.totalRoom (framedPieces front q back) =
      Piece.unit * (front.length + back.length) + q.room := by
  have hchars : ∀ cs : List Char, (∀ c ∈ cs, c.toNat < 128) →
      ((cs.map fun c => Piece.leaf (.char c)).map (·.room)).sum = Piece.unit * cs.length := by
    intro cs hcs
    rw [List.map_map]
    refine (List.sum_eq_card_nsmul _ Piece.unit fun n hn => ?_).trans ?_
    · obtain ⟨c, hc, rfl⟩ := List.mem_map.mp hn
      exact Piece.room_char (hcs c hc)
    · rw [List.length_map, smul_eq_mul, Nat.mul_comm]
  rw [Piece.totalRoom_eq_sum, framedPieces, List.map_append, List.map_cons, List.map_reverse,
    List.map_reverse, List.sum_append, List.sum_cons, List.sum_reverse, List.sum_reverse,
    hchars front hfront, hchars back hback]
  ring

theorem room_anchoredPiece_framedPieces (hfront : ∀ c ∈ front, c.toNat < 128)
    (hback : ∀ c ∈ back, c.toNat < 128) (q : Piece) :
    (anchoredPiece (.branch (framedPieces front q back))).room =
      Piece.unit * (front.length + back.length + 2) + q.room := by
  have hitems : framedPieces front q back ≠ [] := by simp [framedPieces]
  have hroom := Piece.room_branch hitems
  rw [totalRoom_framedPieces hfront hback] at hroom
  rw [anchoredPiece, Piece.room_branch (List.cons_ne_nil _ _), Piece.totalRoom_eq_sum]
  show Piece.unit + ((Piece.branch (framedPieces front q back)).room + (Piece.unit + 0)) = _
  rw [hroom]
  ring

theorem depth_anchoredPiece_framedPieces (hq : q.depth ≤ 2) (front back : List Char) :
    (anchoredPiece (.branch (framedPieces front q back))).depth ≤ nestLimit := by
  have hpieces : ∀ p ∈ framedPieces front q back, p.depth ≤ 2 := by
    intro p hp
    simp only [framedPieces, List.mem_append, List.mem_reverse, List.mem_map, List.mem_cons] at hp
    rcases hp with ⟨c, _, rfl⟩ | rfl | ⟨c, _, rfl⟩
    · exact Nat.zero_le 2
    · exact hq
    · exact Nat.zero_le 2
  have hbody := Piece.depth_branch_le hpieces
  have hwhole : (anchoredPiece (.branch (framedPieces front q back))).depth ≤ 4 + 1 := by
    refine Piece.depth_branch_le fun p hp => ?_
    simp only [List.mem_cons, List.not_mem_nil, or_false] at hp
    rcases hp with rfl | rfl | rfl
    · exact Nat.zero_le 4
    · exact Nat.succ_le_succ hbody
    · exact Nat.zero_le 4
  exact hwhole.trans (by decide)

end Reading
end Regex

namespace Generalization

open Regex Reading UnicodeProperties

variable {cls rule text : String} {nonempty : Bool} {s : CharSet} {piece q : Piece}
  {front back : List Char}

/-! ### Checking a rule -/

/-- What the rule is checked with is an expression that is not too large. -/
def Checkable (rule : String) : Prop :=
  ∃ checked, TextRule.compileWith .standard ("^(?:" ++ rule ++ ")$") = .ok checked

theorem checkable_iff (hcls : ReadsRun cls nonempty s piece)
    (hq : runPiece nonempty piece = .ok q) (hrule : rule.toList = framedText front cls back) :
    Checkable rule ↔
      (anchoredPiece (.branch (framedPieces front q back))).depth ≤ nestLimit ∧
        (anchoredPiece (.branch (framedPieces front q back))).room ≤ roomLimit := by
  have hsource : ("^(?:" ++ rule ++ ")$").toList = anchoredText (framedText front cls back) := by
    rw [← hrule]
    simp [anchoredText]
  have hrun := run_anchoredText hcls hq front back
  rw [← hsource] at hrun
  constructor
  · rintro ⟨checked, hchecked⟩
    obtain ⟨whole, hwhole, hdepth, hroom, _⟩ :=
      parse_eq_ok_iff.mp (TextRule.program_of_compileWith hchecked).1
    obtain rfl := Except.ok.inj (hrun.symm.trans hwhole)
    exact ⟨hdepth, hroom⟩
  · rintro ⟨hdepth, hroom⟩
    have hparse := parse_eq_ok_iff.mpr ⟨_, hrun, hdepth, hroom, rfl⟩
    unfold Checkable TextRule.compileWith
    rw [hparse]
    exact ⟨_, rfl⟩

theorem core_of_checked (hcls : ReadsRun cls nonempty s piece)
    (hq : runPiece nonempty piece = .ok q) (hrule : rule.toList = framedText front cls back)
    {checked : TextRule}
    (hchecked : TextRule.compileWith .standard ("^(?:" ++ rule ++ ")$") = .ok checked) :
    checked.core = Core.ofParts (.look .textStart ::
      (Core.framed front nonempty s back ++ [.look .textEnd])) := by
  have hsource : ("^(?:" ++ rule ++ ")$").toList = anchoredText (framedText front cls back) := by
    rw [← hrule]
    simp [anchoredText]
  obtain ⟨whole, hwhole, _, _, hcore⟩ :=
    parse_eq_ok_iff.mp (TextRule.program_of_compileWith hchecked).1
  rw [hsource] at hwhole
  obtain rfl := Except.ok.inj ((run_anchoredText hcls hq front back).symm.trans hwhole)
  rw [← hcore]
  exact core_anchoredPiece (core_branch_framedPieces (core_of_runPiece hcls.core hq))

/-- A rule that can be checked matches the texts of its form. -/
theorem matchesWhole_iff (hcls : ReadsRun cls nonempty s piece)
    (hq : runPiece nonempty piece = .ok q) (hrule : rule.toList = framedText front cls back) :
    matchesWhole rule text = true ↔ Checkable rule ∧
      ∃ middle, text.toList = front ++ (middle ++ back) ∧ Core.FitsRun nonempty s middle := by
  unfold matchesWhole
  constructor
  · intro hwhole
    split at hwhole
    case h_2 => cases hwhole
    next checked hchecked =>
    obtain ⟨x, y, hplace, hmatches⟩ := (TextRule.isMatch_iff hchecked text).mp hwhole
    rw [core_of_checked hcls hq hrule hchecked] at hmatches
    exact ⟨⟨checked, hchecked⟩, Core.exists_of_matches_framed hplace hmatches⟩
  · rintro ⟨⟨checked, hchecked⟩, middle, htext, hfits⟩
    obtain ⟨y, hmatches⟩ := Core.exists_matches_framed front back hfits
    rw [← core_of_checked hcls hq hrule hchecked, ← htext] at hmatches
    rw [hchecked]
    exact (TextRule.isMatch_iff hchecked text).mpr ⟨_, y, Cursor.liesIn_start _, hmatches⟩

/-! ### Classes on ASCII -/

/-- How the classes of characters show in ASCII. -/
theorem ascii_classes {c : Char} (hc : c.toNat < 128) :
    isAlphanumeric c = c.isAlphanum ∧ isAlphabetic c = c.isAlpha ∧
      (CharSet.mk [(65, 90), (97, 122)]).contains c = c.isAlpha ∧
      digit.contains c = c.isDigit ∧ word.contains c = (c.isAlphanum || c == '_') ∧
      whiteSpace.complement.contains c = !isWhiteSpace c ∧
      (isWhiteSpace c = true → c.isAlphanum = false ∧ c ≠ '_') := by
  refine forall_ascii (P := fun c =>
    isAlphanumeric c = c.isAlphanum ∧ isAlphabetic c = c.isAlpha ∧
      (CharSet.mk [(65, 90), (97, 122)]).contains c = c.isAlpha ∧
      digit.contains c = c.isDigit ∧ word.contains c = (c.isAlphanum || c == '_') ∧
      whiteSpace.complement.contains c = !isWhiteSpace c ∧
      (isWhiteSpace c = true → c.isAlphanum = false ∧ c ≠ '_')) ?_ hc
  decide +kernel

/-- The class that the middles of ASCII examples call for. -/
def asciiClassOf (middles : List (List Char)) : String :=
  let every (p : Char → Bool) : Bool := middles.all fun m => !m.isEmpty && m.all p
  if every Char.isAlpha then "[a-zA-Z]+"
  else if every Char.isDigit then "\\d+"
  else if every Char.isAlphanum then "\\w+"
  else "[^\\s]*"

theorem classOf_eq_asciiClassOf {middles : List (List Char)}
    (hascii : ∀ m ∈ middles, ∀ c ∈ m, c.toNat < 128) : classOf middles = asciiClassOf middles := by
  have hsame : ∀ p p' : Char → Bool, (∀ c : Char, c.toNat < 128 → p c = p' c) →
      (middles.all fun m => !m.isEmpty && m.all p) =
        middles.all fun m => !m.isEmpty && m.all p' := by
    intro p p' hp
    rw [Bool.eq_iff_iff]
    simp only [List.all_eq_true, Bool.and_eq_true]
    refine forall₂_congr fun m hm => and_congr_right fun _ => forall₂_congr fun c hc => ?_
    rw [hp c (hascii m hm c hc)]
  have hless : ∀ p : Char → Bool, (∀ c, p c = true → c.isAlphanum = true) →
      (middles.all fun m => !m.isEmpty && m.all p) = true →
        (middles.all fun m => !m.isEmpty && m.all Char.isAlphanum) = true := by
    intro p hp
    simp only [List.all_eq_true, Bool.and_eq_true]
    exact fun hall m hm => ⟨(hall m hm).1, fun c hc => hp c ((hall m hm).2 c hc)⟩
  have hletters := hless Char.isAlpha fun c hc => by simp [Char.isAlphanum, hc]
  have hdigits := hless Char.isDigit fun c hc => by simp [Char.isAlphanum, hc]
  unfold classOf asciiClassOf letters digits wordCharacters anythingSolid
  simp only [hsame _ _ fun c hc => (ascii_classes hc).1,
    hsame _ _ fun c hc => (ascii_classes hc).2.1]
  split_ifs <;> grind

/-- A class that is read as a run of solid characters and takes little room. -/
structure RunsSolid (cls : String) (nonempty : Bool) (s : CharSet) (q : Piece) : Prop where
  reads : ∃ piece, ReadsRun cls nonempty s piece ∧ runPiece nonempty piece = .ok q
  depth : q.depth ≤ 2
  room : q.room ≤ 1 <<< 20
  solid : ∀ c : Char, c.toNat < 128 → s.contains c = true → isWhiteSpace c = false

theorem exists_runsSolid (hcls : ReadsRun cls nonempty s piece)
    (hsmall : (runPiece nonempty piece).toOption.any
      (fun q => decide (q.depth ≤ 2) && decide (q.room ≤ 1 <<< 20)) = true)
    (hsolid : ∀ c : Char, c.toNat < 128 → s.contains c = true → isWhiteSpace c = false) :
    ∃ q, RunsSolid cls nonempty s q := by
  cases hq : runPiece nonempty piece with
  | error e =>
      rw [hq] at hsmall
      cases hsmall
  | ok q =>
      rw [hq] at hsmall
      have hbounds : q.depth ≤ 2 ∧ q.room ≤ 1 <<< 20 := by
        simpa only [Except.toOption, Option.any_some, Bool.and_eq_true, decide_eq_true_eq] using
          hsmall
      exact ⟨q, ⟨piece, hcls, hq⟩, hbounds.1, hbounds.2, hsolid⟩

theorem exists_runsSolid_letters : ∃ q, RunsSolid letters true ⟨[(65, 90), (97, 122)]⟩ q := by
  refine exists_runsSolid readsRun_letters (by decide +kernel) fun c hc hs => ?_
  obtain ⟨_, _, hletters, _, _, _, hblank⟩ := ascii_classes hc
  rw [hletters] at hs
  by_contra hwhite
  have hnone := (hblank (by simpa using hwhite)).1
  simp [Char.isAlphanum, hs] at hnone

theorem exists_runsSolid_digits : ∃ q, RunsSolid digits true digit q := by
  refine exists_runsSolid readsRun_digits (by decide +kernel) fun c hc hs => ?_
  obtain ⟨_, _, _, hdigit, _, _, hblank⟩ := ascii_classes hc
  rw [hdigit] at hs
  by_contra hwhite
  have hnone := (hblank (by simpa using hwhite)).1
  simp [Char.isAlphanum, hs] at hnone

theorem exists_runsSolid_wordCharacters : ∃ q, RunsSolid wordCharacters true word q := by
  refine exists_runsSolid readsRun_wordCharacters (by decide +kernel) fun c hc hs => ?_
  obtain ⟨_, _, _, _, hword, _, hblank⟩ := ascii_classes hc
  rw [hword] at hs
  by_contra hwhite
  obtain ⟨hnone, hline⟩ := hblank (by simpa using hwhite)
  simp [hnone, hline] at hs

theorem exists_runsSolid_anythingSolid :
    ∃ q, RunsSolid anythingSolid false whiteSpace.complement q := by
  refine exists_runsSolid readsRun_anythingSolid (by decide +kernel) fun c hc hs => ?_
  obtain ⟨_, _, _, _, _, hsolid, _⟩ := ascii_classes hc
  simpa [hsolid] using hs

/-- The class for solid ASCII middles is a run that every one of them fits. -/
theorem exists_runsSolid_classOf {middles : List (List Char)}
    (hascii : ∀ m ∈ middles, ∀ c ∈ m, c.toNat < 128) :
    ∃ nonempty s q, RunsSolid (classOf middles) nonempty s q ∧
      ∀ m ∈ middles, (∀ c ∈ m, isWhiteSpace c = false) → Core.FitsRun nonempty s m := by
  have hfits : ∀ (p : Char → Bool) (s : CharSet),
      (∀ c : Char, c.toNat < 128 → p c = true → s.contains c = true) →
      (middles.all fun m => !m.isEmpty && m.all p) = true →
      ∀ m ∈ middles, (∀ c ∈ m, isWhiteSpace c = false) → Core.FitsRun true s m := by
    intro p s hp hall m hm _
    simp only [List.all_eq_true, Bool.and_eq_true] at hall
    obtain ⟨hnonempty, hevery⟩ := hall m hm
    exact ⟨fun _ hm => by simp [hm] at hnonempty, fun c hc => hp c (hascii m hm c hc) (hevery c hc)⟩
  unfold classOf
  simp only
  split
  case isFalse =>
    obtain ⟨q, hq⟩ := exists_runsSolid_anythingSolid
    refine ⟨_, _, q, hq, fun m hm hnone => ⟨nofun, fun c hc => ?_⟩⟩
    obtain ⟨_, _, _, _, _, hsolid, _⟩ := ascii_classes (hascii m hm c hc)
    simp [hsolid, hnone c hc]
  case isTrue halphanumeric =>
  split
  case isTrue halphabetic =>
    obtain ⟨q, hq⟩ := exists_runsSolid_letters
    refine ⟨_, _, q, hq, hfits isAlphabetic _ (fun c hc hp => ?_) halphabetic⟩
    obtain ⟨_, halpha, hletters, _⟩ := ascii_classes hc
    rw [hletters, ← halpha]
    exact hp
  case isFalse =>
  split
  case isTrue hdigits =>
    obtain ⟨q, hq⟩ := exists_runsSolid_digits
    refine ⟨_, _, q, hq, hfits Char.isDigit _ (fun c hc hp => ?_) hdigits⟩
    obtain ⟨_, _, _, hdigit, _⟩ := ascii_classes hc
    rw [hdigit]
    exact hp
  case isFalse =>
    obtain ⟨q, hq⟩ := exists_runsSolid_wordCharacters
    refine ⟨_, _, q, hq, hfits isAlphanumeric _ (fun c hc hp => ?_) halphanumeric⟩
    obtain ⟨halnum, _, _, _, hword, _⟩ := ascii_classes hc
    rw [hword, ← halnum, hp]
    rfl

/-! ### Common starts and ends -/

/-- All items start with the list, and with nothing that goes on longer. -/
def IsCommonStart (items : List (List Char)) (front : List Char) : Prop :=
  ∀ other, (∀ item ∈ items, other <+: item) ↔ other <+: front

/-- All items end with the list, and with nothing that begins earlier. -/
def IsCommonEnd (items : List (List Char)) (back : List Char) : Prop :=
  ∀ other, (∀ item ∈ items, other <:+ item) ↔ other <:+ back

theorem prefix_commonStart_iff {as bs other : List Char} :
    other <+: commonStart as bs ↔ other <+: as ∧ other <+: bs := by
  induction as generalizing bs other with
  | nil => cases bs <;> cases other <;> simp [commonStart]
  | cons a as ih =>
      cases bs with
      | nil => cases other <;> simp [commonStart]
      | cons b bs =>
          cases other with
          | nil => simp
          | cons c other =>
              by_cases hab : a = b
              · subst hab
                simp only [commonStart, if_true, List.cons_prefix_cons, ih]
                tauto
              · simp only [commonStart, if_neg hab, List.prefix_nil, List.cons_ne_nil, false_iff,
                  List.cons_prefix_cons]
                rintro ⟨⟨rfl, _⟩, rfl, _⟩
                exact hab rfl

theorem isCommonStart_commonStartOf {items : List (List Char)} (hitems : items ≠ []) :
    IsCommonStart items (commonStartOf items) := by
  intro other
  obtain ⟨first, rest, rfl⟩ := List.exists_cons_of_ne_nil hitems
  rw [commonStartOf, List.forall_mem_cons]
  clear hitems
  induction rest generalizing first with
  | nil => simp
  | cons second rest ih =>
      rw [List.foldl_cons, ← ih, prefix_commonStart_iff, List.forall_mem_cons, and_assoc]

theorem isCommonEnd_commonEndOf {items : List (List Char)} (hitems : items ≠ []) :
    IsCommonEnd items (commonEndOf items) := by
  intro other
  have hturned : items.map List.reverse ≠ [] := by simpa using hitems
  have hreversed := isCommonStart_commonStartOf hturned other.reverse
  rw [List.forall_mem_map] at hreversed
  simp only [List.reverse_prefix] at hreversed
  rw [hreversed, commonEndOf, ← List.reverse_prefix, List.reverse_reverse]

theorem IsCommonStart.unique {items : List (List Char)} {as bs : List Char}
    (has : IsCommonStart items as) (hbs : IsCommonStart items bs) : as = bs := by
  have hle := (hbs as).mp ((has as).mpr (List.prefix_refl as))
  have hge := (has bs).mp ((hbs bs).mpr (List.prefix_refl bs))
  exact hle.eq_of_length_le hge.length_le

theorem IsCommonEnd.unique {items : List (List Char)} {as bs : List Char}
    (has : IsCommonEnd items as) (hbs : IsCommonEnd items bs) : as = bs := by
  have hle := (hbs as).mp ((has as).mpr (List.suffix_refl as))
  have hge := (has bs).mp ((hbs bs).mpr (List.suffix_refl bs))
  exact hle.eq_of_length_le hge.length_le

theorem middle_append (front m back : List Char) :
    middle front.length back.length (front ++ (m ++ back)) = m := by
  have hlength : (front ++ (m ++ back)).length - back.length = (front ++ m).length := by
    simp only [List.length_append]
    omega
  rw [middle, hlength, ← List.append_assoc, List.take_left, List.drop_left]

/-- A start and an end that do not overlap leave the middle between them. -/
theorem eq_append_middle {item : List Char} (hfront : front <+: item) (hback : back <:+ item)
    (hlength : front.length + back.length ≤ item.length) :
    item = front ++ (middle front.length back.length item ++ back) := by
  obtain ⟨rest, rfl⟩ := hfront
  rw [List.length_append] at hlength
  obtain ⟨m, rfl⟩ : back <:+ rest :=
    List.suffix_of_suffix_length_le hback (List.suffix_append front rest) (by omega)
  rw [middle_append]

theorem mem_of_mem_middle {n k : Nat} {item : List Char} {c : Char} (hc : c ∈ middle n k item) :
    c ∈ item := List.mem_of_mem_take (List.mem_of_mem_drop hc)

/-- What lies between a start and an end fits a run exactly if they do not overlap and the middle
fits. -/
theorem exists_fitsRun_iff {item : List Char} (hfront : front <+: item) (hback : back <:+ item) :
    (∃ m, item = front ++ (m ++ back) ∧ Core.FitsRun nonempty s m) ↔
      front.length + back.length ≤ item.length ∧
        Core.FitsRun nonempty s (middle front.length back.length item) := by
  constructor
  · rintro ⟨m, rfl, hm⟩
    rw [middle_append]
    refine ⟨?_, hm⟩
    simp only [List.length_append]
    omega
  · rintro ⟨hlength, hm⟩
    exact ⟨_, eq_append_middle hfront hback hlength, hm⟩

/-! ### Rules from ASCII examples -/

theorem generalize_eq_ite {examples : List String} {maxExamples : Nat}
    (hmany : 2 ≤ examples.length) (hused : examples.length ≤ max 2 maxExamples) :
    generalize examples maxExamples =
      if examples.all (matchesWhole (candidate (examples.map String.toList))) then
        some (candidate (examples.map String.toList))
      else none := by
  rw [generalize, if_neg (Nat.not_lt.mpr hmany), List.take_of_length_le (by rwa [max_comm])]

/-- ASCII examples that are all used get the rule made of their common start, a class for what lies
between, and their common end, exactly if start and end overlap in no example, nothing between them is
white space, and the rule can be checked.  Up to some hundred thousand characters it can. -/
theorem generalize_eq_some_iff (examples : List String) (maxExamples : Nat)
    (hmany : 2 ≤ examples.length) (hused : examples.length ≤ max 2 maxExamples)
    (hascii : ∀ e ∈ examples, ∀ c ∈ e.toList, c.toNat < 128)
    (hfront : IsCommonStart (examples.map String.toList) front)
    (hback : IsCommonEnd (examples.map String.toList) back) :
    let middles := examples.map fun e => middle front.length back.length e.toList
    let rule := String.ofList (escape front) ++ asciiClassOf middles ++ String.ofList (escape back)
    (∀ answer, generalize examples maxExamples = some answer ↔
      answer = rule ∧ (∀ e ∈ examples, front.length + back.length ≤ e.length) ∧
        (∀ m ∈ middles, ∀ c ∈ m, isWhiteSpace c = false) ∧ Checkable rule) ∧
      (front.length + back.length ≤ 2 ^ 18 → Checkable rule) := by
  intro middles rule
  have hitems : examples.map String.toList ≠ [] := by
    rw [ne_eq, List.map_eq_nil_iff]
    rintro rfl
    cases hmany
  have hmiddles : ∀ m ∈ middles, ∀ c ∈ m, c.toNat < 128 := by
    simp only [middles, List.forall_mem_map]
    exact fun e he c hc => hascii e he c (mem_of_mem_middle hc)
  have hstarts : ∀ e ∈ examples, front <+: e.toList := fun e he =>
    (hfront front).mpr (List.prefix_refl front) _ (List.mem_map_of_mem he)
  have hends : ∀ e ∈ examples, back <:+ e.toList := fun e he =>
    (hback back).mpr (List.suffix_refl back) _ (List.mem_map_of_mem he)
  have hrule : candidate (examples.map String.toList) = rule := by
    rw [candidate, ← hfront.unique (isCommonStart_commonStartOf hitems),
      ← hback.unique (isCommonEnd_commonEndOf hitems), List.map_map]
    simp only [rule, ← classOf_eq_asciiClassOf hmiddles]
    rfl
  obtain ⟨nonempty, s, q, ⟨⟨piece, hcls, hq⟩, hdepth, hroom, hsolid⟩, hfits⟩ :=
    exists_runsSolid_classOf hmiddles
  have htext : rule.toList = framedText front (classOf middles) back := by
    simp [rule, classOf_eq_asciiClassOf hmiddles, framedText]
  -- the rule matches an example as a whole exactly if it can be checked and the middle fits the class
  have hwhole : ∀ e ∈ examples, (matchesWhole rule e = true ↔
      Checkable rule ∧ front.length + back.length ≤ e.length ∧
        Core.FitsRun nonempty s (middle front.length back.length e.toList)) := by
    intro e he
    rw [matchesWhole_iff hcls hq htext, exists_fitsRun_iff (hstarts e he) (hends e he)]
    rfl
  constructor
  · intro answer
    rw [generalize_eq_ite hmany hused, hrule]
    constructor
    · intro hanswer
      split at hanswer
      case isFalse => cases hanswer
      next hall =>
      cases hanswer
      have hmatches := fun e he => (hwhole e he).mp (List.all_eq_true.mp hall e he)
      obtain ⟨e, he⟩ := List.exists_mem_of_length_pos (Nat.lt_of_lt_of_le Nat.zero_lt_two hmany)
      refine ⟨rfl, fun e he => (hmatches e he).2.1, ?_, (hmatches e he).1⟩
      simp only [middles, List.forall_mem_map]
      exact fun e he c hc => hsolid c (hascii e he c (mem_of_mem_middle hc))
        ((hmatches e he).2.2.2 c hc)
    · rintro ⟨rfl, hlengths, hnone, hchecked⟩
      refine if_pos (List.all_eq_true.mpr fun e he => (hwhole e he).mpr ⟨hchecked, hlengths e he, ?_⟩)
      exact hfits _ (List.mem_map_of_mem he) (hnone _ (List.mem_map_of_mem he))
  · intro hshort
    obtain ⟨e, he⟩ := List.exists_mem_of_length_pos (Nat.lt_of_lt_of_le Nat.zero_lt_two hmany)
    refine (checkable_iff hcls hq htext).mpr
      ⟨depth_anchoredPiece_framedPieces hdepth front back, ?_⟩
    rw [room_anchoredPiece_framedPieces
      (fun c hc => hascii e he c ((hstarts e he).subset hc))
      (fun c hc => hascii e he c ((hends e he).subset hc)), Piece.unit, roomLimit]
    omega

/-- Digits between a name and a semicolon get their class; a start and an end that overlap get no
rule. -/
theorem generalize_eq_some_iff_names :
    generalize ["id_1;", "id_22;"] 5 = some "id_\\d+;" ∧
      ∀ answer, generalize ["aa", "aaa"] 2 ≠ some answer := by
  -- Properties of characters are decided over the examples, not over all characters there are.
  have hascii : ∀ e ∈ ["id_1;", "id_22;", "aa", "aaa"], e.toList.all (·.toNat < 128) = true := by
    decide +kernel
  simp only [List.all_eq_true, decide_eq_true_eq] at hascii
  have hspaces : ∀ m ∈ [['1'], ['2', '2']], m.all (!isWhiteSpace ·) = true := by decide +kernel
  simp only [List.all_eq_true, Bool.not_eq_true'] at hspaces
  have hnames := generalize_eq_some_iff ["id_1;", "id_22;"] 5 (by decide) (by decide)
    (fun e he => hascii e (List.mem_append_left ["aa", "aaa"] he))
    (isCommonStart_commonStartOf (by decide)) (isCommonEnd_commonEndOf (by decide))
  have hoverlap := generalize_eq_some_iff ["aa", "aaa"] 2 (by decide) (by decide)
    (fun e he => hascii e (List.mem_append_right ["id_1;", "id_22;"] he))
    (isCommonStart_commonStartOf (by decide)) (isCommonEnd_commonEndOf (by decide))
  constructor
  · obtain ⟨hanswers, hshort⟩ := hnames
    have hmiddles : ["id_1;", "id_22;"].map (fun e => middle
        (commonStartOf (["id_1;", "id_22;"].map String.toList)).length
        (commonEndOf (["id_1;", "id_22;"].map String.toList)).length e.toList) =
          [['1'], ['2', '2']] := by decide +kernel
    refine (hanswers _).mpr ⟨by decide +kernel, by decide +kernel, hmiddles ▸ hspaces, hshort ?_⟩
    decide +kernel
  · intro answer hanswer
    obtain ⟨_, hlengths, _⟩ := (hoverlap.1 answer).mp hanswer
    revert hlengths
    decide +kernel

/-! ### Examples that are too long -/

/-- The start and the end of a rule that can be checked take no more room than there is. -/
theorem Checkable.length_le (hchecked : Checkable rule) (hcls : ReadsRun cls nonempty s piece)
    (hq : runPiece nonempty piece = .ok q) (hrule : rule.toList = framedText front cls back)
    (hfront : ∀ c ∈ front, c.toNat < 128) (hback : ∀ c ∈ back, c.toNat < 128) :
    Piece.unit * (front.length + back.length) ≤ roomLimit := by
  have hroom := ((checkable_iff hcls hq hrule).mp hchecked).2
  rw [room_anchoredPiece_framedPieces hfront hback] at hroom
  refine le_trans (Nat.mul_le_mul_left _ ?_) (le_trans (Nat.le_add_right _ _) hroom)
  omega

/-- Examples whose start and end take too much room get no rule. -/
theorem generalize_eq_none {examples : List String} {maxExamples : Nat}
    (hmany : 2 ≤ examples.length) (hused : examples.length ≤ max 2 maxExamples)
    (hascii : ∀ e ∈ examples, ∀ c ∈ e.toList, c.toNat < 128)
    (hfront : IsCommonStart (examples.map String.toList) front)
    (hback : IsCommonEnd (examples.map String.toList) back)
    (hlarge : roomLimit < Piece.unit * (front.length + back.length)) :
    generalize examples maxExamples = none := by
  obtain ⟨e, he⟩ := List.exists_mem_of_length_pos (Nat.lt_of_lt_of_le Nat.zero_lt_two hmany)
  have hitem : e.toList ∈ examples.map String.toList := List.mem_map_of_mem he
  have hitems := List.ne_nil_of_mem hitem
  rw [generalize_eq_ite hmany hused]
  refine if_neg fun hall => Nat.not_le.mpr hlarge ?_
  have hwhole := List.all_eq_true.mp hall e he
  have htext := toList_candidate (examples.map String.toList)
  rw [← hfront.unique (isCommonStart_commonStartOf hitems),
    ← hback.unique (isCommonEnd_commonEndOf hitems)] at htext
  have hmiddles : ∀ m ∈ (examples.map String.toList).map (middle front.length back.length),
      ∀ c ∈ m, c.toNat < 128 := by
    simp only [List.forall_mem_map]
    exact fun e he c hc => hascii e he c (mem_of_mem_middle hc)
  obtain ⟨_, _, q, ⟨⟨piece, hcls, hq⟩, _, _, _⟩, _⟩ := exists_runsSolid_classOf hmiddles
  obtain ⟨hchecked, _⟩ := (matchesWhole_iff hcls hq htext).mp hwhole
  have hstart := (hfront front).mpr (List.prefix_refl front) _ hitem
  have hend := (hback back).mpr (List.suffix_refl back) _ hitem
  exact Checkable.length_le hchecked hcls hq htext
    (fun c hc => hascii e he c (hstart.subset hc)) fun c hc => hascii e he c (hend.subset hc)

theorem commonStart_append (cs as bs : List Char) :
    commonStart (cs ++ as) (cs ++ bs) = cs ++ commonStart as bs := by
  induction cs with
  | nil => rfl
  | cons c cs ih => rw [List.cons_append, List.cons_append, commonStart, if_pos rfl, ih,
      List.cons_append]

/-- Two examples that differ only in a letter behind a long beginning. -/
def longExamples (n : Nat) : List String :=
  ['b', 'c'].map fun c => String.ofList (List.replicate n 'a' ++ [c])

theorem toList_longExamples (n : Nat) : (longExamples n).map String.toList =
    [List.replicate n 'a' ++ ['b'], List.replicate n 'a' ++ ['c']] := by
  simp [longExamples]

theorem forall_mem_longExamples {n : Nat} {P : List Char → Prop}
    (hall : ∀ c ∈ ['b', 'c'], P (List.replicate n 'a' ++ [c])) :
    ∀ e ∈ longExamples n, P e.toList := by
  unfold longExamples
  rw [List.forall_mem_map]
  exact fun c hc => by simpa using hall c hc

theorem isCommonStart_longExamples (n : Nat) :
    IsCommonStart ((longExamples n).map String.toList) (List.replicate n 'a') := by
  have hstart : commonStartOf ((longExamples n).map String.toList) = List.replicate n 'a' := by
    rw [toList_longExamples]
    show commonStart (List.replicate n 'a' ++ ['b']) (List.replicate n 'a' ++ ['c']) = _
    rw [commonStart_append]
    exact List.append_nil _
  rw [← hstart]
  exact isCommonStart_commonStartOf (by rw [toList_longExamples]; exact List.cons_ne_nil _ _)

theorem isCommonEnd_longExamples (n : Nat) :
    IsCommonEnd ((longExamples n).map String.toList) [] := by
  have hend : commonEndOf ((longExamples n).map String.toList) = [] := by
    rw [toList_longExamples]
    show (commonStart (List.replicate n 'a' ++ ['b']).reverse
      (List.replicate n 'a' ++ ['c']).reverse).reverse = []
    rw [List.reverse_append, List.reverse_append]
    rfl
  rw [← hend]
  exact isCommonEnd_commonEndOf (by rw [toList_longExamples]; exact List.cons_ne_nil _ _)

theorem longExamples_get_none {n : Nat} (hn : roomLimit < Piece.unit * n) :
    let front := List.replicate n 'a'
    (longExamples n).length ≤ max 2 5 ∧
      (∀ e ∈ longExamples n, ∀ c ∈ e.toList, c.toNat < 128) ∧
      IsCommonStart ((longExamples n).map String.toList) front ∧
      IsCommonEnd ((longExamples n).map String.toList) [] ∧
      (∀ e ∈ longExamples n, front.length + 0 ≤ e.length) ∧
      (∀ e ∈ longExamples n, ∀ c ∈ middle front.length 0 e.toList, isWhiteSpace c = false) ∧
      generalize (longExamples n) 5 = none := by
  intro front
  have hletters : ∀ c ∈ ['b', 'c'], c.toNat < 128 ∧ isWhiteSpace c = false := by
    rw [List.forall_mem_cons, List.forall_mem_singleton]
    decide +kernel
  have hlength : (longExamples n).length = 2 := rfl
  have hused : (longExamples n).length ≤ max 2 5 := by
    rw [hlength]
    decide
  have hascii : ∀ e ∈ longExamples n, ∀ c ∈ e.toList, c.toNat < 128 := by
    refine forall_mem_longExamples (P := fun cs => ∀ c ∈ cs, c.toNat < 128) fun d hd c hc => ?_
    rcases List.mem_append.mp hc with hc | hc
    · rw [List.eq_of_mem_replicate hc]
      decide
    · rw [List.mem_singleton.mp hc]
      exact (hletters d hd).1
  have hfront := isCommonStart_longExamples n
  have hback := isCommonEnd_longExamples n
  refine ⟨hused, hascii, hfront, hback, ?_, ?_, ?_⟩
  · intro e he
    exact ((hfront front).mpr (List.prefix_refl front) _ (List.mem_map_of_mem he)).length_le
  · refine forall_mem_longExamples
      (P := fun cs => ∀ c ∈ middle front.length 0 cs, isWhiteSpace c = false) fun d hd => ?_
    have hmiddle := middle_append front [d] []
    rw [List.append_nil, List.length_nil] at hmiddle
    rw [hmiddle, List.forall_mem_singleton]
    exact (hletters d hd).2
  · refine generalize_eq_none hlength.ge hused hascii hfront hback ?_
    rwa [List.length_replicate]

/-- If the program of the rule would take too much room, there is no rule, although start and end do
not overlap and the middles are letters. -/
theorem longExamples_get_no_rule :
    let front := List.replicate 500000 'a'
    (longExamples 500000).length ≤ max 2 5 ∧
      (∀ e ∈ longExamples 500000, ∀ c ∈ e.toList, c.toNat < 128) ∧
      IsCommonStart ((longExamples 500000).map String.toList) front ∧
      IsCommonEnd ((longExamples 500000).map String.toList) [] ∧
      (∀ e ∈ longExamples 500000, front.length + 0 ≤ e.length) ∧
      (∀ e ∈ longExamples 500000, ∀ c ∈ middle front.length 0 e.toList,
        isWhiteSpace c = false) ∧
      generalize (longExamples 500000) 5 = none :=
  longExamples_get_none (by decide)

end Generalization
end AdaptiveRules
