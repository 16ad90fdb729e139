import AdaptiveRules.InsightsStore
import Mathlib.Tactic

/-!
# A store that was cleared

Which names a path leads to depends on where there are directories.  A file that is removed, or
written where no directory is, leaves them as they are, so the path of a store leads to the same place
after the store was cleared as before.  There it finds no insights any more.
-/

namespace AdaptiveRules

namespace FileTree

variable {t u : FileTree} {path : String} {names place : List String} {e : FileEntry}

/-- Both trees start at one place and have the same directories. -/
structure SameDirectories (t u : FileTree) : Prop where
  working : u.working = t.working
  directory : ∀ names, u.entryAt names = some .directory ↔ t.entryAt names = some .directory

theorem obstacle_eq_none_iff : t.obstacle names = none ↔ t.entryAt names = some .directory := by
  unfold obstacle
  cases t.entryAt names with
  | none => simp
  | some e => cases e <;> simp

theorem SameDirectories.follow (hsame : SameDirectories t u) {parts : List String}
    (hfollow : u.follow place parts = .ok names) : t.follow place parts = .ok names := by
  induction parts generalizing place with
  | nil => exact hfollow
  | cons part rest ih =>
      unfold FileTree.follow at hfollow ⊢
      cases hthere : u.obstacle place with
      | some p => simp [hthere] at hfollow
      | none =>
          have hhere : t.obstacle place = none :=
            obstacle_eq_none_iff.mpr ((hsame.directory place).mp (obstacle_eq_none_iff.mp hthere))
          simp only [hthere, hhere] at hfollow ⊢
          split_ifs at hfollow ⊢
          · exact ih hfollow
          · exact ih hfollow
          · exact ih hfollow

theorem SameDirectories.resolve (hsame : SameDirectories t u)
    (hresolve : u.resolve path = .ok names) : t.resolve path = .ok names := by
  unfold FileTree.resolve startOf at hresolve ⊢
  rw [hsame.working] at hresolve
  split_ifs at hresolve ⊢
  · exact hsame.follow hresolve
  · exact hsame.follow hresolve

theorem SameDirectories.symm (hsame : SameDirectories t u) : SameDirectories u t :=
  ⟨hsame.working.symm, fun names => (hsame.directory names).symm⟩

theorem entry_of_resolve (hresolve : t.resolve path = .ok names)
    (hentry : t.entryAt names = some e) : t.entry path = .ok e := by
  simp [entry, hresolve, hentry, bind, Except.bind, pure, Except.pure]

theorem of_entry (hentry : t.entry path = .ok e) :
    ∃ names, t.resolve path = .ok names ∧ t.entryAt names = some e := by
  unfold entry at hentry
  cases hresolve : t.resolve path with
  | error p => simp [hresolve, bind, Except.bind] at hentry
  | ok names =>
      refine ⟨names, rfl, ?_⟩
      simp only [hresolve, bind, Except.bind] at hentry
      cases hat : t.entryAt names with
      | none => simp [hat] at hentry
      | some f =>
          simp only [hat, pure, Except.pure, Except.ok.injEq] at hentry
          rw [hentry]

/-- A change at a place without a directory, to something else than a directory. -/
theorem sameDirectories_of_entries {entries : Dict FileEntry} {new : Option FileEntry}
    (hentries : ∀ k, entries.get? k = if k = pathText names then new else t.entries.get? k)
    (hnew : new ≠ some .directory) (hold : t.entryAt names ≠ some .directory) :
    SameDirectories t { t with entries } ∧
      ({ t with entries } : FileTree).entryAt names = new := by
  have hsome : names.isEmpty = false := by
    cases names with
    | nil => exact absurd rfl hold
    | cons => rfl
  refine ⟨⟨rfl, fun place => ?_⟩, ?_⟩
  · unfold entryAt at hold ⊢
    rw [hsome] at hold
    simp only [Bool.false_eq_true, if_false] at hold
    by_cases hroot : place.isEmpty = true
    · simp only [hroot, if_true]
    · simp only [hroot, hentries]
      by_cases hplace : pathText place = pathText names
      · rw [if_pos hplace, hplace]
        exact iff_of_false hnew hold
      · rw [if_neg hplace]
  · unfold entryAt
    rw [hsome, hentries, if_pos rfl]
    rfl

theorem sameDirectories_put (hold : t.entryAt place ≠ some .directory) (he : e ≠ .directory) :
    SameDirectories t (t.put place e) :=
  (sameDirectories_of_entries (fun k => Dict.get?_insert t.entries (pathText place) e k)
    (fun heq => he (Option.some.inj heq)) hold).1

theorem entryAt_put_self (hold : t.entryAt place ≠ some .directory) (he : e ≠ .directory) :
    (t.put place e).entryAt place = some e :=
  (sameDirectories_of_entries (fun k => Dict.get?_insert t.entries (pathText place) e k)
    (fun heq => he (Option.some.inj heq)) hold).2

theorem sameDirectories_erase (hold : t.entryAt place ≠ some .directory) :
    SameDirectories t { t with entries := t.entries.erase (pathText place) } :=
  (sameDirectories_of_entries (fun k => Dict.get?_erase t.entries (pathText place) k) (by simp)
    hold).1

theorem entryAt_erase_self (hold : t.entryAt place ≠ some .directory) :
    ({ t with entries := t.entries.erase (pathText place) } : FileTree).entryAt place = none :=
  (sameDirectories_of_entries (fun k => Dict.get?_erase t.entries (pathText place) k) (by simp)
    hold).2

/-! ### What a change did -/

theorem of_writeEntry (hwrite : t.writeEntry path e = .ok u) :
    ∃ names, t.resolve path = .ok names ∧ t.entryAt names ≠ some .directory ∧
      u = t.put names e := by
  unfold writeEntry at hwrite
  cases hresolve : t.resolve path with
  | error p => simp [hresolve, bind, Except.bind] at hwrite
  | ok names =>
      simp only [hresolve, bind, Except.bind] at hwrite
      split at hwrite
      next => cases hwrite
      next hold =>
        cases hwrite
        exact ⟨names, rfl, fun heq => hold heq, rfl⟩

theorem of_remove (hremove : t.remove path = .ok u) :
    ∃ names, t.resolve path = .ok names ∧ t.entryAt names ≠ some .directory ∧
      u = { t with entries := t.entries.erase (pathText names) } := by
  unfold remove at hremove
  cases hresolve : t.resolve path with
  | error p => simp [hresolve, bind, Except.bind] at hremove
  | ok names =>
      simp only [hresolve, bind, Except.bind] at hremove
      split at hremove
      next => cases hremove
      next => cases hremove
      next hfile hold =>
        cases hremove
        refine ⟨names, rfl, ?_, rfl⟩
        rw [hold]
        exact fun heq => hfile (Option.some.inj heq)

theorem entry_remove (hremove : t.remove path = .ok u) : u.entry path = .error .notFound := by
  obtain ⟨names, hresolve, hold, rfl⟩ := of_remove hremove
  simp [entry, (sameDirectories_erase hold).symm.resolve hresolve, entryAt_erase_self hold, bind,
    Except.bind, throw, throwThe, MonadExceptOf.throw]

/-- What is found where an entry was written is that entry. -/
theorem entry_writeEntry (he : e ≠ .directory) (hwrite : t.writeEntry path e = .ok u) :
    u.entry path = .ok e := by
  obtain ⟨names, hresolve, hold, rfl⟩ := of_writeEntry hwrite
  exact entry_of_resolve ((sameDirectories_put hold he).symm.resolve hresolve)
    (entryAt_put_self hold he)

theorem readText_of_entry {content : String} (hentry : t.entry path = .ok (.text content)) :
    t.readText path = .ok content := by
  simp [readText, hentry, bind, Except.bind, pure, Except.pure]

/-- A text is read where it was written. -/
theorem readText_write {content : String} (hwrite : t.write path content = .ok u) :
    u.readText path = .ok content := readText_of_entry (entry_writeEntry (by simp) hwrite)

end FileTree

namespace StoreHandle

variable {storage cleared : Storage}

theorem rowsAt_of_writeRows {path : String} {rows : List String}
    (hwrite : writeRows path rows storage = (.ok (), cleared)) : rowsAt path cleared = .ok rows := by
  unfold writeRows at hwrite
  split at hwrite
  next hprivate =>
    cases hwrite
    rw [rowsAt, if_pos hprivate]
  next hfile =>
    unfold Storage.change at hwrite
    split at hwrite
    next files hfiles =>
      cases hwrite
      simp [rowsAt, hfile, FileTree.entry_writeEntry (e := .rows rows) (by simp) hfiles]
    next => cases hwrite

/-- A store that was cleared answers that it holds nothing. -/
theorem load_of_clear {h : StoreHandle} (hclear : h.clear storage = (.ok (), cleared))
    (now : Instant) : h.load now cleared = .ok none := by
  cases h with
  | memory =>
      cases hclear
      rfl
  | broken => cases hclear
  | jsonFile path =>
      have habsent : cleared.files.tryContains path = .ok false := by
        unfold clear at hclear
        simp only at hclear
        split at hclear
        next => cases hclear
        next habsent =>
          cases hclear
          exact habsent
        next =>
          unfold Storage.change at hclear
          split at hclear
          next files hfiles =>
            cases hclear
            simp [FileTree.tryContains, FileTree.entry_remove hfiles]
          next => cases hclear
      simp [load, habsent]
  | database path =>
      unfold clear changeRows at hclear
      simp only at hclear
      split at hclear
      next => simp [load, rowsAt_of_writeRows hclear]
      next => cases hclear

end StoreHandle
end AdaptiveRules
