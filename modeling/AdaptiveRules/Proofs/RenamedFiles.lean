import AdaptiveRules.Proofs.ClearedStores

/-!
# A file under another name

Names on a path have no slashes in them, so different names lead to entries under different texts of
paths, and a file that is renamed does not take away what it has just put in place.  What is found
under the new path is what the file held.
-/

namespace AdaptiveRules
namespace FileTree

variable {t u : FileTree} {names others place : List String} {path source target : String}

def Separate (names : List String) : Prop := ∀ name ∈ names, '/' ∉ name.toList

theorem toList_pathText (names : List String) :
    (pathText names).toList = names.flatMap fun name => '/' :: name.toList := by
  rw [pathText, String.toList_join, List.flatMap_map]
  simp

/-- The first name ends where the next slash stands. -/
theorem takeWhile_flatMap {name : String} (hname : '/' ∉ name.toList) (rest : List String) :
    (name.toList ++ rest.flatMap fun name => '/' :: name.toList).takeWhile (· != '/') =
      name.toList := by
  rw [List.takeWhile_append_of_pos]
  · cases rest <;> simp
  · intro c hc
    simpa using fun heq : c = '/' => hname (heq ▸ hc)

theorem pathText_injective (hnames : Separate names) (hothers : Separate others)
    (hsame : pathText names = pathText others) : names = others := by
  have htexts := congrArg String.toList hsame
  rw [toList_pathText, toList_pathText] at htexts
  clear hsame
  induction names generalizing others with
  | nil =>
      cases others with
      | nil => rfl
      | cons => simp at htexts
  | cons name rest ih =>
      cases others with
      | nil => simp at htexts
      | cons other more =>
          obtain ⟨hname, hrest⟩ := List.forall_mem_cons.mp hnames
          obtain ⟨hother, hmore⟩ := List.forall_mem_cons.mp hothers
          simp only [List.flatMap_cons, List.cons_append, List.cons.injEq, true_and] at htexts
          have hfirst := congrArg (List.takeWhile (· != '/')) htexts
          rw [takeWhile_flatMap hname, takeWhile_flatMap hother] at hfirst
          rw [hfirst, List.append_cancel_left_eq] at htexts
          rw [String.toList_inj.mp hfirst, ih hrest hmore htexts]

/-! ### Where paths lead -/

theorem separate_splitParts {taken cs : List Char} (htaken : '/' ∉ taken) :
    Separate (splitParts taken cs) := by
  induction cs generalizing taken with
  | nil => simpa [Separate, splitParts] using htaken
  | cons c rest ih =>
      unfold splitParts
      split
      · refine List.forall_mem_cons.mpr ⟨by simpa using htaken, ih List.not_mem_nil⟩
      · next hc => exact ih fun hmem => (List.mem_cons.mp hmem).elim (hc ·.symm) htaken

theorem separate_follow {parts : List String} (hplace : Separate place) (hparts : Separate parts)
    (hfollow : t.follow place parts = .ok names) : Separate names := by
  induction parts generalizing place with
  | nil =>
      cases hfollow
      exact hplace
  | cons part rest ih =>
      obtain ⟨hpart, hrest⟩ := List.forall_mem_cons.mp hparts
      unfold follow at hfollow
      split at hfollow
      · cases hfollow
      · split_ifs at hfollow
        · exact ih hplace hrest hfollow
        · exact ih (fun name hname => hplace name (List.dropLast_subset _ hname)) hrest hfollow
        · refine ih (List.forall_mem_append.mpr ⟨hplace, ?_⟩) hrest hfollow
          exact List.forall_mem_singleton.mpr hpart

theorem separate_resolve (hworking : Separate t.working) (hresolve : t.resolve path = .ok names) :
    Separate names := by
  unfold resolve at hresolve
  split at hresolve
  · cases hresolve
  · refine separate_follow ?_ (separate_splitParts List.not_mem_nil) hresolve
    unfold startOf
    split
    · exact fun _ hname => absurd hname List.not_mem_nil
    · exact hworking

/-! ### Moving a file -/

/-- What is found elsewhere stays when the entry at a place is taken away. -/
theorem entry_erase {e : FileEntry} (hentry : t.entry path = .ok e) (hresolve : t.resolve path = .ok names)
    (hother : pathText names ≠ pathText place) (hplace : t.entryAt place ≠ some .directory) :
    ({ t with entries := t.entries.erase (pathText place) } : FileTree).entry path = .ok e := by
  refine entry_of_resolve ((sameDirectories_erase hplace).symm.resolve hresolve) ?_
  obtain ⟨there, hthere, hfound⟩ := of_entry hentry
  obtain rfl := Except.ok.inj (hresolve.symm.trans hthere)
  rw [← hfound]
  unfold entryAt
  split
  · rfl
  · rw [Dict.get?_erase, if_neg hother]

theorem of_rename (hrename : t.rename source target = .ok u) :
    ∃ e moved removed kept, t.entry source = .ok e ∧ t.writeEntry target e = .ok moved ∧
      t.resolve source = .ok removed ∧ t.resolve target = .ok kept ∧
      u = if removed = kept then t
        else { moved with entries := moved.entries.erase (pathText removed) } := by
  unfold rename at hrename
  cases hentry : t.entry source with
  | error p => simp [hentry, bind, Except.bind] at hrename
  | ok e =>
      cases hwrite : t.writeEntry target e with
      | error p => simp [hentry, hwrite, bind, Except.bind] at hrename
      | ok moved =>
          obtain ⟨removed, hremoved, _⟩ := of_entry hentry
          obtain ⟨kept, hkept, _⟩ := of_writeEntry hwrite
          simp only [hentry, hwrite, hremoved, hkept, bind, Except.bind, pure, Except.pure] at hrename
          refine ⟨e, moved, removed, kept, rfl, hwrite, hremoved, hkept, ?_⟩
          split_ifs at hrename ⊢ <;> exact (Except.ok.inj hrename).symm

/-- What a renamed file held is found under its new path. -/
theorem entry_rename {e : FileEntry} (hworking : Separate t.working)
    (hsource : t.entry source = .ok e) (he : e ≠ .directory)
    (hrename : t.rename source target = .ok u) : u.entry target = .ok e := by
  obtain ⟨moving, moved, removed, kept, hmoving, hwrite, hremoved, hkept, rfl⟩ := of_rename hrename
  obtain rfl : moving = e := Except.ok.inj (hmoving.symm.trans hsource)
  obtain ⟨there, hthere, hfound⟩ := of_entry hsource
  obtain rfl : there = removed := Except.ok.inj (hthere.symm.trans hremoved)
  split_ifs with heq
  · exact entry_of_resolve hkept (heq ▸ hfound)
  · obtain ⟨put, hput, hold, rfl⟩ := of_writeEntry hwrite
    obtain rfl : put = kept := Except.ok.inj (hput.symm.trans hkept)
    have hothers : pathText put ≠ pathText there := fun htexts => heq
      (pathText_injective (separate_resolve hworking hremoved)
        (separate_resolve hworking hkept) htexts.symm)
    have hsame := sameDirectories_put hold he
    refine entry_erase (entry_writeEntry he hwrite) (hsame.symm.resolve hkept) hothers ?_
    intro hdirectory
    have hbefore := (hsame.directory there).mp hdirectory
    rw [hfound] at hbefore
    exact he (Option.some.inj hbefore)

theorem working_writeEntry {e : FileEntry} (hwrite : t.writeEntry path e = .ok u) :
    u.working = t.working := by
  obtain ⟨_, _, _, rfl⟩ := of_writeEntry hwrite
  rfl

theorem working_rename (hrename : t.rename source target = .ok u) : u.working = t.working := by
  obtain ⟨_, moved, _, _, _, hwrite, _, _, rfl⟩ := of_rename hrename
  split
  · rfl
  · exact (working_writeEntry hwrite :)

theorem working_remove (hremove : t.remove path = .ok u) : u.working = t.working := by
  obtain ⟨_, _, _, rfl⟩ := of_remove hremove
  rfl

theorem working_makeAlong {parts : List String} (hmake : t.makeAlong place parts = .ok u) :
    u.working = t.working := by
  induction parts generalizing t place with
  | nil =>
      cases hmake
      rfl
  | cons part rest ih =>
      unfold makeAlong at hmake
      split at hmake
      · exact ih hmake
      · split at hmake
        · exact ih hmake
        · split at hmake
          · exact ih hmake
          · exact (ih hmake :)
          · cases hmake

end FileTree
end AdaptiveRules
