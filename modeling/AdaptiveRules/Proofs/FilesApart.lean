import AdaptiveRules.Proofs.RepeatedSaves
import AdaptiveRules.Shell

/-!
# Files beside a store

A path leads to one place or nowhere, whatever directories there are.  A store writes to its own file
and, on the way, to a draft of it, and makes directories where nothing is.  So what is found under a
path that leads elsewhere is found there after every saving.
-/

namespace AdaptiveRules

namespace FileTree

variable {t u v : FileTree} {k path other source : String} {names place steps : List String}
  {e : FileEntry}

/-- The names to which the parts of a path lead from a place, if they lead anywhere. -/
def walk (place steps : List String) : List String :=
  match steps with
  | [] => place
  | part :: rest =>
      if part = "" ∨ part = "." then walk place rest
      else if part = ".." then walk place.dropLast rest
      else walk (place ++ [part]) rest

/-- The text of the absolute path that a path stands for. -/
def absolute (t : FileTree) (path : String) : String := pathText (walk (t.startOf path) (parts path))

theorem eq_walk_of_follow (hfollow : t.follow place steps = .ok names) :
    names = walk place steps := by
  induction steps generalizing place with
  | nil =>
      cases hfollow
      rfl
  | cons part rest ih =>
      unfold follow at hfollow
      unfold walk
      split at hfollow
      · cases hfollow
      · split_ifs at hfollow ⊢
        · exact ih hfollow
        · exact ih hfollow
        · exact ih hfollow

theorem pathText_of_resolve (hresolve : t.resolve path = .ok names) :
    pathText names = t.absolute path := by
  unfold resolve at hresolve
  split at hresolve
  · cases hresolve
  · exact congrArg pathText (eq_walk_of_follow hresolve)

theorem absolute_congr (hworking : u.working = t.working) (path : String) :
    u.absolute path = t.absolute path := by
  unfold absolute startOf
  rw [hworking]

theorem entry_of_readText {text : String} (hread : t.readText path = .ok text) :
    t.entry path = .ok (.text text) := by
  unfold readText at hread
  cases hentry : t.entry path with
  | error p =>
      rw [hentry] at hread
      cases hread
  | ok found =>
      rw [hentry] at hread
      cases found with
      | text content =>
          cases hread
          rfl
      | directory => cases hread
      | bytes size => cases hread
      | rows rows => cases hread

/-- All directories stay, and so does what is found at the absolute path of that text. -/
structure Keeps (k : String) (t u : FileTree) : Prop where
  working : u.working = t.working
  directory : ∀ names, t.entryAt names = some .directory → u.entryAt names = some .directory
  entry : ∀ names e, pathText names = k → t.entryAt names = some e → u.entryAt names = some e

namespace Keeps

theorem refl (k : String) (t : FileTree) : Keeps k t t := ⟨rfl, fun _ => id, fun _ _ _ => id⟩

theorem trans (hfirst : Keeps k t u) (hsecond : Keeps k u v) : Keeps k t v where
  working := hsecond.working.trans hfirst.working
  directory names hthere := hsecond.directory names (hfirst.directory names hthere)
  entry names e hnames hthere := hsecond.entry names e hnames (hfirst.entry names e hnames hthere)

theorem follow (hkeeps : Keeps k t u) (hfollow : t.follow place steps = .ok names) :
    u.follow place steps = .ok names := by
  induction steps generalizing place with
  | nil => exact hfollow
  | cons part rest ih =>
      unfold FileTree.follow at hfollow ⊢
      cases hobstacle : t.obstacle place with
      | some p => simp [hobstacle] at hfollow
      | none =>
          have hthere : u.obstacle place = none :=
            obstacle_eq_none_iff.mpr (hkeeps.directory place (obstacle_eq_none_iff.mp hobstacle))
          simp only [hobstacle, hthere] at hfollow ⊢
          split_ifs at hfollow ⊢
          · exact ih hfollow
          · exact ih hfollow
          · exact ih hfollow

theorem resolve (hkeeps : Keeps k t u) (hresolve : t.resolve path = .ok names) :
    u.resolve path = .ok names := by
  unfold FileTree.resolve startOf at hresolve ⊢
  rw [hkeeps.working]
  split_ifs at hresolve ⊢
  · exact hkeeps.follow hresolve
  · exact hkeeps.follow hresolve

/-- What a path led to it leads to afterwards. -/
theorem entry_path (hkeeps : Keeps (t.absolute path) t u) (hentry : t.entry path = .ok e) :
    u.entry path = .ok e := by
  obtain ⟨names, hresolve, hthere⟩ := of_entry hentry
  have hnames := pathText_of_resolve hresolve
  exact entry_of_resolve (hkeeps.resolve hresolve) (hkeeps.entry names e hnames hthere)

theorem readText {text : String} (hkeeps : Keeps (t.absolute path) t u)
    (hread : t.readText path = .ok text) : u.readText path = .ok text :=
  readText_of_entry (hkeeps.entry_path (entry_of_readText hread))

end Keeps

/-! ### Changes at other places -/

theorem entryAt_eq_get? (hold : t.entryAt place ≠ some .directory) :
    t.entryAt place = t.entries.get? (pathText place) := by
  unfold entryAt at hold ⊢
  split
  · next hroot => simp [hroot] at hold
  · rfl

/-- A file may be put over a file elsewhere, and a directory where nothing is. -/
theorem keeps_put (hold : t.entryAt place ≠ some .directory)
    (hapart : pathText place = k → t.entryAt place = none) : Keeps k t (t.put place e) := by
  have hplace := entryAt_eq_get? hold
  -- A place other than the root is told apart from this one by the text of its path.
  have hother : ∀ names f, t.entryAt names = some f →
      (pathText names = pathText place → t.entryAt place ≠ some f) →
      (t.put place e).entryAt names = some f := by
    intro names f hthere hdiffers
    rw [entryAt_put]
    unfold entryAt at hthere
    split_ifs at hthere ⊢ with hroot hhere
    · exact hthere
    · rw [hhere, ← hplace] at hthere
      exact absurd hthere (hdiffers hhere)
    · exact hthere
  refine ⟨rfl, fun names hthere => hother names _ hthere fun _ => hold, ?_⟩
  intro names f hnames hthere
  refine hother names f hthere fun hhere => ?_
  rw [hapart (hhere.symm.trans hnames)]
  exact nofun

theorem keeps_erase (hold : t.entryAt place ≠ some .directory) (hapart : pathText place ≠ k) :
    Keeps k t { t with entries := t.entries.erase (pathText place) } := by
  have hplace := entryAt_eq_get? hold
  have hsame := sameDirectories_erase hold
  refine ⟨rfl, fun names => (hsame.directory names).mpr, ?_⟩
  intro names f hnames hthere
  have hhere : pathText names ≠ pathText place := fun heq => hapart (heq.symm.trans hnames)
  unfold entryAt at hthere ⊢
  simp only [Dict.get?_erase, if_neg hhere]
  exact hthere

theorem keeps_writeEntry (hwrite : t.writeEntry other e = .ok u) (hapart : t.absolute other ≠ k) :
    Keeps k t u := by
  obtain ⟨names, hresolve, hold, rfl⟩ := of_writeEntry hwrite
  apply keeps_put hold
  intro hnames
  exact absurd ((pathText_of_resolve hresolve).symm.trans hnames) hapart

theorem keeps_rename (hsource : t.entry source = .ok e) (he : e ≠ .directory)
    (hrename : t.rename source other = .ok u) (hsourceApart : t.absolute source ≠ k)
    (hotherApart : t.absolute other ≠ k) : Keeps k t u := by
  obtain ⟨found, moved, removed, kept, hentry, hwrite, hremoved, _, rfl⟩ := of_rename hrename
  obtain rfl : e = found := Except.ok.inj (hsource.symm.trans hentry)
  split_ifs with hsame
  · exact .refl k t
  · have hmoved := keeps_writeEntry hwrite hotherApart
    obtain ⟨names, hthere, hfound⟩ := of_entry hsource
    obtain rfl : names = removed := Except.ok.inj (hthere.symm.trans hremoved)
    obtain ⟨target, _, hold, rfl⟩ := of_writeEntry hwrite
    have hdirectories := sameDirectories_put hold he
    have hfile : (t.put target e).entryAt names ≠ some .directory := by
      intro hdirectory
      rw [(hdirectories.directory names).mp hdirectory] at hfound
      exact he (Option.some.inj hfound).symm
    apply hmoved.trans
    apply keeps_erase hfile
    rw [pathText_of_resolve hthere]
    exact hsourceApart

theorem keeps_makeAlong (hmake : t.makeAlong place steps = .ok u) : Keeps k t u := by
  induction steps generalizing t place with
  | nil =>
      cases hmake
      exact .refl k u
  | cons part rest ih =>
      unfold makeAlong at hmake
      split at hmake
      · exact ih hmake
      · split at hmake
        · exact ih hmake
        · split at hmake
          · exact ih hmake
          · next hnone =>
              have hmade : Keeps k t (t.put (place ++ [part]) .directory) :=
                keeps_put (by simp [hnone]) fun _ => hnone
              exact hmade.trans (ih hmake)
          · cases hmake

end FileTree

/-! ### What stores leave alone -/

namespace Storage

open FileTree

variable {s : Storage} {k : String} {first : StorageStep Unit}
  {second : Storage → StorageStep Unit}

theorem keeps_change {r : Except FileProblem FileTree}
    (hr : ∀ files, r = .ok files → Keeps k s.files files) :
    Keeps k s.files (s.change r).2.files := by
  cases r with
  | error p => exact .refl k s.files
  | ok files => exact hr files rfl

theorem keeps_andThen (hfirst : Keeps k s.files first.2.files)
    (hsecond : ∀ t, first = (.ok (), t) → Keeps k t.files (second t).2.files) :
    Keeps k s.files (andThen first second).2.files := by
  rcases first with ⟨_ | _, t⟩
  · exact hfirst
  · exact hfirst.trans (hsecond t rfl)

end Storage

namespace StoreHandle

open FileTree Storage

variable {h : StoreHandle} {k path : String} {s : Storage} {known : Insights}

/-- The paths at which a store writes. -/
def paths : StoreHandle → List String
  | memory => []
  | jsonFile path => [path, draftPath path]
  | database path => [path]
  | broken => []

theorem keeps_makeParent (path : String) (s : Storage) :
    Keeps k s.files (makeParent path s).2.files := by
  unfold makeParent
  split
  · exact .refl k s.files
  · exact .refl k s.files
  · exact keeps_change fun files hmake => keeps_makeAlong hmake

theorem keeps_writeRows (rows : List String) (hapart : s.files.absolute path ≠ k) :
    Keeps k s.files (writeRows path rows s).2.files := by
  unfold writeRows
  split
  · exact .refl k s.files
  · exact keeps_change fun files hwrite => keeps_writeEntry hwrite hapart

theorem keeps_changeRows (f : List String → List String) (hapart : s.files.absolute path ≠ k) :
    Keeps k s.files (changeRows path f s).2.files := by
  unfold changeRows
  split
  · exact keeps_writeRows _ hapart
  · exact .refl k s.files

theorem keeps_openDatabase (hapart : s.files.absolute path ≠ k) :
    Keeps k s.files (openDatabase path s).2.files := by
  have hparent : Keeps k s.files (makeParent path s).2.files := keeps_makeParent path s
  apply keeps_andThen hparent
  intro t hmake
  rw [hmake] at hparent
  rw [← absolute_congr hparent.working] at hapart
  exact keeps_changeRows id hapart

theorem keeps_ready (hapart : ∀ path ∈ h.paths, s.files.absolute path ≠ k) :
    Keeps k s.files (h.ready s).2.files := by
  cases h with
  | database path => exact keeps_openDatabase (hapart path List.mem_cons_self)
  | _ => exact .refl k s.files

theorem keeps_save (hapart : ∀ path ∈ h.paths, s.files.absolute path ≠ k) (known : Insights) :
    Keeps k s.files (h.save known s).2.files := by
  cases h with
  | memory => exact .refl k s.files
  | broken => exact .refl k s.files
  | database path => exact keeps_changeRows _ (hapart path List.mem_cons_self)
  | jsonFile path =>
      have htarget := hapart path (by simp [paths])
      have hdraft := hapart (draftPath path) (by simp [paths])
      have hparent : Keeps k s.files (makeParent path s).2.files := keeps_makeParent path s
      apply keeps_andThen hparent
      intro t hmake
      rw [hmake] at hparent
      rw [← absolute_congr hparent.working] at htarget hdraft
      have hdrafted : Keeps k t.files
          (t.change (t.files.write (draftPath path) known.toText)).2.files :=
        keeps_change fun files hwrite => keeps_writeEntry hwrite hdraft
      apply keeps_andThen hdrafted
      intro u hwritten
      rw [hwritten] at hdrafted
      rw [← absolute_congr hdrafted.working] at htarget hdraft
      obtain ⟨files, hwrite, rfl⟩ := of_change hwritten
      have hentry := entry_writeEntry (by simp) hwrite
      apply keeps_change
      intro moved hrename
      exact keeps_rename hentry (by simp) hrename hdraft htarget

end StoreHandle
end AdaptiveRules
