import AdaptiveRules.Proofs.MergedRules

/-!
# Alternatives of a rule

A rule offers a text as an alternative if the text stands in it by itself, between bars, or in a group
that does, as often as one likes.  Reading comes to an alternative with the flags that it would have
alone if every alternative in front of it leaves the flags as it found them, and then whatever the
alternative matches the rule matches too.  So a rule finds something wherever one of its alternatives
does.  What is merged into a rule becomes an alternative of it, and stays one when more is merged.
-/

namespace AdaptiveRules

open Regex

namespace Regex

/-- The text can be read as a rule of its own. -/
def IsRule (t : List Char) : Prop := ∃ s, ReadsAs t s

/-- The text can be read as a rule of its own, which leaves the flags at its end as they were at its
start. -/
def IsNeutral (t : List Char) : Prop := ∃ s, ReadsAs t s ∧ s.flags = .multiLineDotAll

/-- What stands behind the last alternative: nothing, or the bracket of the only group around it. -/
def Ends (w : Surroundings) (tail : List Char) : Prop :=
  tail = [] ∨ tail = [')'] ∧ ∃ kind flags, w.enclosing = [⟨kind, [], [], flags⟩]

variable {t more tail : List Char} {r s u : Reading} {w : Surroundings} {fuel : Nat} {x y : Cursor}

namespace ReadsAs

/-- A text that can be read alone has no place for one more closing bracket. -/
theorem not_isRule_closing (hr : ReadsAs t r) (hspaced : r.flags.spaced = false) :
    ¬ IsRule (t ++ ')' :: more) := by
  rintro ⟨s, hs⟩
  obtain ⟨_, hrest⟩ := Reading.exists_finish_behind (w := ⟨0, [], [], []⟩) hr.finish hspaced
    (Or.inr rfl) hs.finish
  obtain ⟨_, _, _, hstep, _⟩ := Reading.exists_of_finish_cons (r := r.inside ⟨0, [], [], []⟩)
    (Flags.skip_of_not_spaced hspaced _) hrest
  obtain ⟨_, hclose, _⟩ := exists_of_bind_eq_ok hstep
  have henclosing : (r.inside ⟨0, [], [], []⟩).enclosing = [] := Reading.enclosing_inside hr.closed
  unfold Reading.closeGroup at hclose
  rw [henclosing] at hclose
  cases hclose

/-- Nothing stands before a question mark at the beginning of a rule that it could repeat. -/
theorem head?_ne_question (hr : ReadsAs t r) : t.head? ≠ some '?' := by
  intro hhead
  obtain ⟨more, rfl⟩ := List.head?_eq_some_iff.mp hhead
  obtain ⟨_, _, _, hstep, _⟩ := Reading.exists_of_finish_cons
    (r := .initial .multiLineDotAll) (Flags.skip_of_not_spaced rfl _) hr.finish
  have hsimple : (Reading.initial .multiLineDotAll).readSimple 0 (some 1) more = .ok _ := hstep
  by_cases hlazy : more.head? = some '?'
  · obtain ⟨_, rfl⟩ := List.head?_eq_some_iff.mp hlazy
    rw [Reading.readSimple_lazy] at hsimple
    cases hsimple
  · rw [Reading.readSimple_of_ne hlazy] at hsimple
    cases hsimple

/-- The last alternative is one choice more. -/
theorem matches_last (hs : ReadsAs t s) (hends : Ends w tail)
    (hfinish : Reading.finish fuel ((Reading.initial .multiLineDotAll).inside w) (t ++ tail) = .ok u)
    (hu : u.enclosing = []) :
    u.whole.core.Matches x y ↔
      s.whole.core.Matches x y ∨ ∃ b ∈ w.branches, b.core.Matches x y := by
  rcases hends with rfl | ⟨rfl, kind, flags, hgroup⟩
  · obtain ⟨_, _, _, hreads, hend⟩ := Reading.exists_reads_of_finish hs.finish
    rw [List.append_nil] at hfinish
    rw [Reading.finish_inside_last hreads hend hfinish, Reading.matches_whole_inside hs.closed]
  · exact (Reading.whole_of_last_branch hgroup hs.finish hs.closed hfinish hu).2 x y

/-- Behind an alternative and a bar, what the alternative matches is among the choices. -/
theorem exists_mem_behindBar_iff (hr : ReadsAs t r) :
    (∃ b ∈ (Reading.behindBar (r.inside w)).branches, b.core.Matches x y) ↔
      r.whole.core.Matches x y ∨ ∃ b ∈ w.branches, b.core.Matches x y := by
  rw [← Reading.matches_whole, Reading.matches_whole_inside hr.closed]

theorem ends_behindBar (hr : ReadsAs t r) (hends : Ends w tail) :
    Ends (Reading.behindBar (r.inside w)) tail := by
  have henclosing : (Reading.behindBar (r.inside w)).enclosing = w.enclosing :=
    Reading.enclosing_inside hr.closed
  unfold Ends
  rwa [henclosing]

end ReadsAs

/-! ### Groups that are all of a rule -/

/-- At the beginning of a rule the text opens a group, and the flags stay as they are. -/
structure IsOpener (o : List Char) : Prop where
  opens : ∃ w kind, w.enclosing = [⟨kind, [], [], .multiLineDotAll⟩] ∧
    ∀ cs, cs.head? ≠ some '?' →
      (Reading.initial .multiLineDotAll).Reads 1 (o ++ cs)
        ((Reading.initial .multiLineDotAll).inside w) cs
  bars : '|' ∉ o

theorem isOpener_plain : IsOpener ['(', '?', ':'] := by
  refine ⟨⟨Reading.insideGroup .multiLineDotAll, .plain, rfl, fun cs _ => ?_⟩, by decide⟩
  exact .single (Flags.skip_of_not_spaced rfl _) (Reading.step_open_plain rfl)

theorem step_open {r : Reading} (hspaced : r.flags.spaced = false) (cs : List Char) :
    r.step '(' cs = r.openBy cs := by
  show r.openGroup cs = _
  rw [Reading.openGroup_eq, Flags.skip_of_not_spaced hspaced]

/-- A bracket alone opens a group with a number. -/
theorem isOpener_numbered : IsOpener ['('] := by
  refine ⟨⟨⟨1, [], [], [⟨.capture 1 none, [], [], .multiLineDotAll⟩]⟩, .capture 1 none, rfl,
    fun cs hcs => ?_⟩, by decide⟩
  refine .single (Flags.skip_of_not_spaced rfl _) ?_
  show (Reading.initial .multiLineDotAll).step '(' cs = _
  rw [step_open rfl, Reading.openBy_of_ne hcs]
  rfl

/-- The characters are a name that a group can have. -/
structure IsGroupName (name : List Char) : Prop where
  first : ∃ c more, name = c :: more ∧ isNameChar true c = true ∧
    more.all (isNameChar false) = true

namespace IsGroupName

variable {name : List Char}

theorem isNameChar_of_mem (hname : IsGroupName name) {d : Char} (hd : d ∈ name) :
    isNameChar true d = true ∨ isNameChar false d = true := by
  obtain ⟨c, more, rfl, hc, hmore⟩ := hname.first
  rcases List.mem_cons.mp hd with rfl | hd
  · exact Or.inl hc
  · exact Or.inr (List.all_eq_true.mp hmore d hd)

theorem notMem (hname : IsGroupName name) {d : Char}
    (hd : isNameChar true d = false ∧ isNameChar false d = false) : d ∉ name := by
  intro hmem
  rcases hname.isNameChar_of_mem hmem with h | h
  · rw [hd.1] at h
    cases h
  · rw [hd.2] at h
    cases h

theorem readGroupName_eq (hname : IsGroupName name) (cs : List Char) :
    readGroupName (name ++ '>' :: cs) = .ok (String.ofList name, cs) := by
  have hopen : ∀ d ∈ name, (d != '>') = true := by
    intro d hd
    have hother : '>' ∉ name := hname.notMem (by decide +kernel)
    simp only [bne_iff_ne, ne_eq]
    rintro rfl
    exact hother hd
  have htake : (name ++ '>' :: cs).takeWhile (· != '>') = name := by
    rw [List.takeWhile_append_of_pos hopen, List.takeWhile_cons_of_neg (by simp), List.append_nil]
  have hdrop : (name ++ '>' :: cs).dropWhile (· != '>') = '>' :: cs := by
    rw [List.dropWhile_append_of_pos hopen, List.dropWhile_cons_of_neg (by simp)]
  unfold readGroupName
  simp only [htake, hdrop]
  obtain ⟨c, more, rfl, hc, hmore⟩ := hname.first
  simp only [hc, hmore, Bool.and_self, if_true]
  rfl

/-- A name opens a group with a number, wherever it stands. -/
theorem openNamed_eq (hname : IsGroupName name) (cs : List Char) :
    (Reading.initial .multiLineDotAll).openNamed (name ++ '>' :: cs) =
      .ok ((Reading.initial .multiLineDotAll).inside
        ⟨1, [String.ofList name], [],
          [⟨.capture 1 (some (String.ofList name)), [], [], .multiLineDotAll⟩]⟩, cs) := by
  unfold Reading.openNamed
  rw [hname.readGroupName_eq]
  rfl

/-- A name opens a group in either spelling. -/
theorem isOpener (hname : IsGroupName name) :
    IsOpener ('(' :: '?' :: 'P' :: '<' :: (name ++ ['>'])) ∧
      IsOpener ('(' :: '?' :: '<' :: (name ++ ['>'])) := by
  have hbar : '|' ∉ name := hname.notMem (by decide +kernel)
  have hmore : ∀ cs, name ++ ['>'] ++ cs = name ++ '>' :: cs := fun cs => by simp
  let kind : GroupKind := .capture 1 (some (String.ofList name))
  let w : Surroundings := ⟨1, [String.ofList name], [], [⟨kind, [], [], .multiLineDotAll⟩]⟩
  refine ⟨⟨⟨w, kind, rfl, fun cs _ => ?_⟩, by simpa using hbar⟩,
    ⟨⟨w, kind, rfl, fun cs _ => ?_⟩, by simpa using hbar⟩⟩
  · refine .single (Flags.skip_of_not_spaced rfl _) ?_
    show (Reading.initial .multiLineDotAll).step '(' ('?' :: 'P' :: '<' :: (name ++ ['>'] ++ cs)) = _
    rw [step_open rfl, hmore]
    exact hname.openNamed_eq cs
  · refine .single (Flags.skip_of_not_spaced rfl _) ?_
    show (Reading.initial .multiLineDotAll).step '(' ('?' :: '<' :: (name ++ ['>'] ++ cs)) = _
    rw [step_open rfl, hmore]
    obtain ⟨c, more, rfl, _⟩ := hname.first
    have hequal : c ≠ '=' := by
      rintro rfl
      exact hname.notMem (by decide +kernel) List.mem_cons_self
    have hnot : c ≠ '!' := by
      rintro rfl
      exact hname.notMem (by decide +kernel) List.mem_cons_self
    rw [List.cons_append, Reading.openBy_name hequal hnot]
    exact hname.openNamed_eq cs

end IsGroupName

end Regex

namespace RuleMerging

/-- The text stands in the other as an alternative of the whole: by itself, beside other alternatives,
or in a group of such. -/
inductive Offers (v : List Char) : List Char → Prop
  | itself : Offers v v
  | first {c more : List Char} (hoffers : Offers v c) (hc : IsNeutral c) (hmore : IsRule more) :
      Offers v (c ++ '|' :: more)
  | last {before c : List Char} (hbefore : IsNeutral before) (hoffers : Offers v c) :
      Offers v (before ++ '|' :: c)
  | bracketed {o c : List Char} (ho : IsOpener o) (hoffers : Offers v c)
      (hwhole : IsRule (o ++ (c ++ [')']))) : Offers v (o ++ (c ++ [')']))

namespace Offers

variable {v c : List Char} {r s u : Reading} {w : Surroundings} {x y : Cursor}

theorem head?_ne_question (hoffers : Offers v c) (hv : ReadsAs v r) : c.head? ≠ some '?' := by
  cases hoffers with
  | itself => exact hv.head?_ne_question
  | @first c more _ hc _ =>
      obtain ⟨_, ha, _⟩ := hc
      cases c with
      | nil => simp
      | cons d c => exact ha.head?_ne_question
  | @last before c hbefore _ =>
      obtain ⟨_, ha, _⟩ := hbefore
      cases before with
      | nil => simp
      | cons d before => exact ha.head?_ne_question
  | bracketed _ _ hwhole =>
      obtain ⟨_, hb⟩ := hwhole
      exact hb.head?_ne_question

/-- What an alternative matches, the text that offers it matches wherever it is read. -/
theorem matches_inside (hoffers : Offers v c) (hv : ReadsAs v r) (hmatches : r.whole.core.Matches x y)
    {tail : List Char} {fuel : Nat} (hends : Ends w tail)
    (hfinish : Reading.finish fuel ((Reading.initial .multiLineDotAll).inside w) (c ++ tail) = .ok u)
    (hu : u.enclosing = []) : u.whole.core.Matches x y := by
  induction hoffers generalizing w tail fuel u with
  | itself => exact (hv.matches_last hends hfinish hu).mpr (Or.inl hmatches)
  | @first c more _ hc hmore ih =>
      obtain ⟨a, ha, hkeeps⟩ := hc
      obtain ⟨b, hb⟩ := hmore
      have hfirst : a.whole.core.Matches x y :=
        ih (w := ⟨0, [], [], []⟩) (Or.inl rfl) ((List.append_nil c).symm ▸ ha.finish) ha.closed
      rw [List.append_assoc, List.cons_append] at hfinish
      obtain ⟨_, hrest⟩ := Reading.exists_finish_behindBar rfl ha.finish hkeeps hfinish
      exact (hb.matches_last (ha.ends_behindBar hends) hrest hu).mpr
        (Or.inr (ha.exists_mem_behindBar_iff.mpr (Or.inl hfirst)))
  | last hbefore _ ih =>
      obtain ⟨a, ha, hkeeps⟩ := hbefore
      rw [List.append_assoc, List.cons_append] at hfinish
      obtain ⟨_, hrest⟩ := Reading.exists_finish_behindBar rfl ha.finish hkeeps hfinish
      exact ih (ha.ends_behindBar hends) hrest hu
  | @bracketed o c ho hoffers hwhole ih =>
      obtain ⟨b, hb⟩ := hwhole
      obtain ⟨w', kind, hgroup, hreads⟩ := ho.opens
      have hhead : (c ++ [')']).head? ≠ some '?' := by
        have hne := hoffers.head?_ne_question hv
        cases c with
        | nil => simp
        | cons d c => exact hne
      have hinside := hb.finish
      rw [Nat.add_comm, Reading.finish_of_reads (hreads _ hhead)] at hinside
      have hgroupMatches := ih (w := w') (Or.inr ⟨rfl, kind, _, hgroup⟩) hinside hb.closed
      exact (hb.matches_last hends hfinish hu).mpr (Or.inl hgroupMatches)

/-- What an alternative matches, the rule that offers it matches. -/
theorem whole_matches (hoffers : Offers v c) (hv : ReadsAs v r) (hs : ReadsAs c s)
    (hmatches : r.whole.core.Matches x y) : s.whole.core.Matches x y :=
  hoffers.matches_inside hv hmatches (w := ⟨0, [], [], []⟩) (Or.inl rfl)
    ((List.append_nil c).symm ▸ hs.finish) hs.closed

/-- A rule finds something in every text in which one of its alternatives does. -/
theorem finds {current variation : String} {rule other : TextRule}
    (hoffers : Offers variation.toList current.toList)
    (hrule : TextRule.compile current = .ok rule)
    (hother : TextRule.compile variation = .ok other) {text : String} (hfinds : other.Finds text) :
    rule.Finds text := by
  obtain ⟨r, hr, hcore⟩ := exists_readsAs_of_compile hother
  obtain ⟨s, hs, hwhole⟩ := exists_readsAs_of_compile hrule
  rw [TextRule.finds_iff_matches hother] at hfinds
  rw [TextRule.finds_iff_matches hrule]
  obtain ⟨x, y, hx, hmatches⟩ := hfinds
  rw [← hcore] at hmatches
  exact ⟨x, y, hx, hwhole ▸ hoffers.whole_matches hr hs hmatches⟩

end Offers

/-! ### Merging -/

variable {original variation : String} {v : List Char}

theorem toList_merge_eq_bracketed (hne : original ≠ variation) (hsome : original ≠ "") :
    (merge original variation).toList =
      ['(', '?', ':'] ++ ((original.toList ++ '|' :: variation.toList) ++ [')']) := by
  rw [toList_merge hne hsome]
  simp

/-- A variation that is merged into a rule becomes one of its alternatives. -/
theorem offers_merge (horiginal : IsNeutral original.toList)
    (hmerged : IsRule (merge original variation).toList) :
    Offers variation.toList (merge original variation).toList := by
  by_cases hne : original = variation
  · rw [merge, if_pos hne, hne]
    exact .itself
  by_cases hsome : original = ""
  · rw [merge, if_neg hne, hsome]
    exact .itself
  rw [toList_merge_eq_bracketed hne hsome] at hmerged ⊢
  exact .bracketed isOpener_plain (.last horiginal .itself) hmerged

/-- The alternatives of a rule remain alternatives when a variation is merged into it. -/
theorem Offers.merge (hoffers : Offers v original.toList) (hsome : original ≠ "")
    (horiginal : IsNeutral original.toList) (hvariation : IsRule variation.toList)
    (hmerged : IsRule (RuleMerging.merge original variation).toList) :
    Offers v (RuleMerging.merge original variation).toList := by
  by_cases hne : original = variation
  · rwa [RuleMerging.merge, if_pos hne]
  rw [toList_merge_eq_bracketed hne hsome] at hmerged ⊢
  exact .bracketed isOpener_plain (.first hoffers horiginal hvariation) hmerged

theorem isNeutral_merge (horiginal : IsNeutral original.toList)
    (hvariation : IsNeutral variation.toList)
    (hmerged : IsRule (merge original variation).toList) :
    IsNeutral (merge original variation).toList := by
  by_cases hne : original = variation
  · rwa [merge, if_pos hne]
  by_cases hsome : original = ""
  · rwa [merge, if_neg hne, hsome]
  obtain ⟨r, hr, hkeeps⟩ := horiginal
  obtain ⟨s, hs, _⟩ := hvariation
  obtain ⟨u, hu⟩ := hmerged
  have hgroup := hu.finish
  rw [toList_merge hne hsome] at hgroup
  exact ⟨u, hu, (Reading.whole_of_group rfl hr.finish hr.closed hkeeps hs.finish hs.closed hgroup
    hu.closed).1⟩

end RuleMerging
end AdaptiveRules
