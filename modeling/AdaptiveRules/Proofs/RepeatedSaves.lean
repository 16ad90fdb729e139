import AdaptiveRules.InsightsExchange
import AdaptiveRules.Proofs.StoreRegisters
import AdaptiveRules.Proofs.VariationJoin

/-!
# Stores that were saved to

What is saved goes to one place, and where that is depends on the directories only.  So after one or
more saves a store either holds what was saved last, or what it holds does not depend on what was
saved; and nobody who reads variations from a file can tell what was saved, for the insights of a
store are no export.
-/

namespace AdaptiveRules

namespace FileTree

variable {t u : FileTree} {path draft target : String} {names place : List String}
  {e f x y : FileEntry}

/-- The place at which a file can be written. -/
def place? (t : FileTree) (path : String) : Option (List String) :=
  match t.resolve path with
  | .ok names => if t.isDirectoryAt names then none else some names
  | .error _ => none

theorem place?_eq_some_iff : t.place? path = some names ↔
    t.resolve path = .ok names ∧ t.entryAt names ≠ some .directory := by
  unfold place? isDirectoryAt
  cases t.resolve path with
  | error p => simp
  | ok there =>
      simp only [decide_eq_true_eq, ite_eq_iff, reduceCtorEq, and_false, Option.some.injEq,
        false_or, Except.ok.injEq]
      constructor
      · rintro ⟨hold, rfl⟩
        exact ⟨rfl, hold⟩
      · rintro ⟨rfl, hold⟩
        exact ⟨hold, rfl⟩

theorem SameDirectories.trans {v : FileTree} (hst : SameDirectories t u) (htu : SameDirectories u v) :
    SameDirectories t v :=
  ⟨htu.working.trans hst.working, fun names => (htu.directory names).trans (hst.directory names)⟩

theorem SameDirectories.place? (hsame : SameDirectories t u) (path : String) :
    u.place? path = t.place? path := by
  refine Option.ext fun names => ?_
  rw [place?_eq_some_iff, place?_eq_some_iff, Ne, Ne, hsame.directory]
  exact and_congr_left fun _ => ⟨hsame.resolve, hsame.symm.resolve⟩

theorem writeEntry_of_place? (hplace : t.place? path = some names) (e : FileEntry) :
    t.writeEntry path e = .ok (t.put names e) := by
  obtain ⟨hresolve, hold⟩ := place?_eq_some_iff.mp hplace
  simp only [writeEntry, hresolve, bind, Except.bind]
  rfl

theorem writeEntry_of_no_place (hplace : t.place? path = none) (e : FileEntry) :
    ∃ p, t.writeEntry path e = .error p := by
  cases hwrite : t.writeEntry path e with
  | error p => exact ⟨p, rfl⟩
  | ok u =>
      obtain ⟨names, hresolve, hold, _⟩ := of_writeEntry hwrite
      rw [place?_eq_some_iff.mpr ⟨hresolve, hold⟩] at hplace
      cases hplace

theorem put_put (t : FileTree) (place : List String) (e f : FileEntry) :
    (t.put place e).put place f = t.put place f := by
  unfold put
  congr 1
  refine Dict.ext_get? fun k => ?_
  simp only [Dict.get?_insert]
  split <;> rfl

/-! ### A tree with a file that is open -/

theorem entryAt_put (t : FileTree) (place names : List String) (e : FileEntry) :
    (t.put place e).entryAt names =
      if names.isEmpty then some .directory
      else if pathText names = pathText place then some e else t.entries.get? (pathText names) := by
  unfold entryAt put
  rw [Dict.get?_insert]

theorem obstacle_put (he : e ≠ .directory) (hf : f ≠ .directory) (names : List String) :
    (t.put place e).obstacle names = (t.put place f).obstacle names := by
  have hfile : ∀ {g : FileEntry}, g ≠ .directory → pathText names = pathText place →
      names.isEmpty = false → (t.put place g).obstacle names = some .notDirectory := by
    intro g hg hhere hbelow
    rw [obstacle, entryAt_put, hbelow, if_neg Bool.false_ne_true, if_pos hhere]
    cases g with
    | directory => exact absurd rfl hg
    | _ => rfl
  cases hbelow : names.isEmpty with
  | true => rw [obstacle, obstacle, entryAt_put, entryAt_put, hbelow, if_pos rfl, if_pos rfl]
  | false =>
      by_cases hhere : pathText names = pathText place
      · rw [hfile he hhere hbelow, hfile hf hhere hbelow]
      · rw [obstacle, obstacle, entryAt_put, entryAt_put, if_neg hhere, if_neg hhere]

theorem resolve_put (he : e ≠ .directory) (hf : f ≠ .directory) (path : String) :
    (t.put place e).resolve path = (t.put place f).resolve path := by
  have hfollow : ∀ parts start,
      (t.put place e).follow start parts = (t.put place f).follow start parts := by
    intro parts
    induction parts with
    | nil => exact fun _ => rfl
    | cons part rest ih =>
        intro start
        unfold follow
        rw [obstacle_put he hf, ih, ih, ih]
  unfold resolve
  rw [hfollow]
  rfl

/-- What a path leads to is the file at the place, whatever that holds, or has nothing to do with it. -/
theorem entry_put_cases (t : FileTree) (place : List String) (path : String) :
    (∀ e, e ≠ .directory → (t.put place e).entry path = .ok e) ∨
      ∀ e f, e ≠ .directory → f ≠ .directory →
        (t.put place e).entry path = (t.put place f).entry path := by
  have hrows : FileEntry.rows [] ≠ .directory := nofun
  cases hthere : (t.put place (.rows [])).resolve path with
  | error p =>
      refine Or.inr fun e f he hf => ?_
      rw [entry, entry, resolve_put he hrows, resolve_put hf hrows, hthere]
      rfl
  | ok names =>
      by_cases hhere : names.isEmpty = false ∧ pathText names = pathText place
      · refine Or.inl fun e he => entry_of_resolve ((resolve_put he hrows path).trans hthere) ?_
        rw [entryAt_put, hhere.1, if_neg Bool.false_ne_true, if_pos hhere.2]
      · refine Or.inr fun e f he hf => ?_
        have hat : (t.put place e).entryAt names = (t.put place f).entryAt names := by
          rw [entryAt_put, entryAt_put]
          cases hbelow : names.isEmpty with
          | true => rfl
          | false =>
              have hother := fun heq => hhere ⟨hbelow, heq⟩
              rw [if_neg hother, if_neg hother]
        rw [entry, entry, resolve_put he hrows, resolve_put hf hrows, hthere]
        simp only [bind, Except.bind, hat]

/-! ### A draft that takes the place of a file -/

/-- The tree after a draft was written and renamed, as far as that is possible. -/
def replaced (t : FileTree) (draft target : String) (e : FileEntry) : FileTree :=
  match t.place? draft, t.place? target with
  | none, _ => t
  | some drafted, none => t.put drafted e
  | some drafted, some kept =>
      if drafted = kept then t.put drafted e
      else
        let moved := (t.put drafted e).put kept e
        { moved with entries := moved.entries.erase (pathText drafted) }

theorem change_write_rename (s : Storage) (draft target content : String) :
    (Storage.andThen (s.change (s.files.write draft content)) fun s =>
        s.change (s.files.rename draft target)).2 =
      { s with files := s.files.replaced draft target (.text content) } := by
  have htext : FileEntry.text content ≠ .directory := nofun
  unfold replaced write
  cases hdraft : s.files.place? draft with
  | none =>
      obtain ⟨p, hwrite⟩ := writeEntry_of_no_place hdraft (.text content)
      rw [hwrite]
      rfl
  | some drafted =>
      obtain ⟨hresolve, hold⟩ := place?_eq_some_iff.mp hdraft
      have hwrite := writeEntry_of_place? hdraft (.text content)
      have hsame := sameDirectories_put hold htext
      have hentry := entry_writeEntry htext hwrite
      have hthere : (s.files.put drafted (.text content)).resolve draft = .ok drafted :=
        hsame.symm.resolve hresolve
      have hkept := hsame.place? target
      rw [hwrite]
      cases htarget : s.files.place? target with
      | none =>
          rw [htarget] at hkept
          obtain ⟨p, hmove⟩ := writeEntry_of_no_place hkept (.text content)
          have hrename : (s.files.put drafted (.text content)).rename draft target = .error p := by
            simp [rename, hentry, hmove, bind, Except.bind]
          simp only [Storage.change, Storage.andThen, hrename]
      | some kept =>
          rw [htarget] at hkept
          have hmove := writeEntry_of_place? hkept (.text content)
          obtain ⟨hresolved, _⟩ := place?_eq_some_iff.mp hkept
          have hrename : (s.files.put drafted (.text content)).rename draft target =
              .ok (if drafted = kept then s.files.put drafted (.text content)
                else { (s.files.put drafted (.text content)).put kept (.text content) with
                  entries := ((s.files.put drafted (.text content)).put kept
                    (.text content)).entries.erase (pathText drafted) }) := by
            simp only [rename, hentry, hmove, hthere, hresolved, bind, Except.bind, pure, Except.pure]
            split <;> rfl
          simp only [Storage.change, Storage.andThen, hrename]

theorem sameDirectories_replaced (t : FileTree) (draft target : String) (he : e ≠ .directory) :
    SameDirectories t (t.replaced draft target e) := by
  unfold replaced
  cases hdraft : t.place? draft with
  | none => exact ⟨rfl, fun _ => Iff.rfl⟩
  | some drafted =>
      obtain ⟨_, hold⟩ := place?_eq_some_iff.mp hdraft
      have hput := sameDirectories_put hold he
      cases htarget : t.place? target with
      | none => exact hput
      | some kept =>
          obtain ⟨_, hkept⟩ := place?_eq_some_iff.mp htarget
          simp only
          split
          · exact hput
          · have hboth := hput.trans
              (sameDirectories_put (fun heq => hkept ((hput.directory kept).mp heq)) he)
            exact hboth.trans (sameDirectories_erase fun heq => hold ((hboth.directory drafted).mp heq))

/-- A file that is replaced again is as if it had been replaced once. -/
theorem replaced_replaced (t : FileTree) (draft target : String) (hx : x ≠ .directory)
    (y : FileEntry) :
    (t.replaced draft target x).replaced draft target y = t.replaced draft target y := by
  have hsame := sameDirectories_replaced t draft target hx
  rw [replaced, hsame.place?, hsame.place?]
  unfold replaced
  cases t.place? draft with
  | none => rfl
  | some drafted =>
      cases t.place? target with
      | none => exact put_put ..
      | some kept =>
          simp only
          split
          · exact put_put ..
          · unfold put
            simp only
            congr 1
            refine Dict.ext_get? fun k => ?_
            simp only [Dict.get?_insert, Dict.get?_erase]
            split
            · rfl
            · split
              · rfl
              · rfl

/-- In the end there is one file with the content, or nothing depends on it. -/
theorem replaced_cases (t : FileTree) (draft target : String) :
    (∃ u, ∀ e, t.replaced draft target e = u) ∨
      ∃ (u : FileTree) (place : List String), ∀ e, t.replaced draft target e = u.put place e := by
  unfold replaced
  cases t.place? draft with
  | none => exact Or.inl ⟨t, fun _ => rfl⟩
  | some drafted =>
      cases t.place? target with
      | none => exact Or.inr ⟨t, drafted, fun _ => rfl⟩
      | some kept =>
          simp only
          by_cases hsame : drafted = kept
          · exact Or.inr ⟨t, drafted, fun _ => if_pos hsame⟩
          · simp only [if_neg hsame]
            let bare : FileTree := { t with entries := t.entries.erase (pathText drafted) }
            by_cases hplaces : pathText kept = pathText drafted
            · refine Or.inl ⟨bare, fun e => ?_⟩
              congr 1
              refine Dict.ext_get? fun k => ?_
              simp only [put, Dict.get?_insert, Dict.get?_erase, hplaces]
              split <;> rfl
            · refine Or.inr ⟨bare, kept, fun e => ?_⟩
              unfold put
              congr 1
              refine Dict.ext_get? fun k => ?_
              simp only [bare, Dict.get?_insert, Dict.get?_erase]
              by_cases hk : k = pathText drafted
              · simp [hk, Ne.symm hplaces]
              · simp [hk]

/-! ### Directories that are made again -/

theorem directory_makeAlong {parts : List String} (hmake : t.makeAlong place parts = .ok u)
    (hthere : t.entryAt names = some .directory) : u.entryAt names = some .directory := by
  induction parts generalizing t place with
  | nil =>
      cases hmake
      exact hthere
  | cons part rest ih =>
      unfold makeAlong at hmake
      split at hmake
      · exact ih hmake hthere
      · split at hmake
        · exact ih hmake hthere
        · split at hmake
          · exact ih hmake hthere
          · refine ih hmake ?_
            rw [entryAt_put]
            split_ifs with hroot hhere
            · rfl
            · rfl
            · rwa [entryAt, if_neg hroot] at hthere
          · cases hmake

/-- Where the directories are there, nothing is left to be made. -/
theorem makeAlong_again {v : FileTree} {parts : List String}
    (hmake : t.makeAlong place parts = .ok u)
    (hkept : ∀ names, u.entryAt names = some .directory → v.entryAt names = some .directory) :
    v.makeAlong place parts = .ok v := by
  induction parts generalizing t place with
  | nil => rfl
  | cons part rest ih =>
      unfold makeAlong at hmake ⊢
      split at hmake
      · next hstay =>
          rw [if_pos hstay]
          exact ih hmake
      · next hgo =>
          rw [if_neg hgo]
          split at hmake
          · next hup =>
              rw [if_pos hup]
              exact ih hmake
          · next hdown =>
              rw [if_neg hdown]
              split at hmake
              · next hthere =>
                  rw [hkept _ (directory_makeAlong hmake hthere)]
                  exact ih hmake
              · have hmade : (t.put (place ++ [part]) .directory).entryAt (place ++ [part]) =
                    some .directory := by
                  rw [entryAt_put, if_pos rfl, ite_self]
                rw [hkept _ (directory_makeAlong hmake hmade)]
                exact ih hmake
              · cases hmake

end FileTree

/-! ### Saving again -/

namespace StoreHandle

open FileTree

variable {h : StoreHandle} {s : Storage} {path : String} {known : Insights} {knowns : List Insights}
  {now : Instant}

def saveAll (h : StoreHandle) (knowns : List Insights) (s : Storage) : Storage :=
  knowns.foldl (fun s known => (h.save known s).2) s

theorem saveAll_append_singleton (h : StoreHandle) (knowns : List Insights) (known : Insights)
    (s : Storage) : h.saveAll (knowns ++ [known]) s = (h.save known (h.saveAll knowns s)).2 := by
  rw [saveAll, List.foldl_append]
  rfl

/-- The insights that the store answers with, if any. -/
def held (h : StoreHandle) (now : Instant) (s : Storage) : Option Insights :=
  (h.load now s).toOption.join

/-- What the store writes as text can be read again: the counters fit into 64 bits, the times are in
the calendar, and the rates are written as numbers, though not always as those they are. -/
def Takes : StoreHandle → Insights → Prop
  | jsonFile _, known => known.Bounded ∧ ∃ f, known.metrics.ReadsRates f
  | database _, known => known.Bounded ∧ ∃ f, known.metrics.ReadsRates f
  | _, _ => True

/-- The store holds what was saved last, but for the rates. -/
def RecallsLast (h : StoreHandle) (s : Storage) : Prop :=
  ∀ before last, h.Takes last → ∀ now, ∃ metrics,
    h.held now (h.saveAll (before ++ [last]) s) = some { last with metrics }

/-- A store that was saved to holds what was saved last, or always the same. -/
def Recalls (h : StoreHandle) (s : Storage) : Prop :=
  h.RecallsLast s ∨
    ∀ before last before' last' now,
      h.held now (h.saveAll (before ++ [last]) s) = h.held now (h.saveAll (before' ++ [last']) s)

/-! #### A JSON file -/

theorem makeParent_cases (path : String) (s : Storage) :
    (∃ t, makeParent path s = (.ok (), t)) ∨ ∃ p, makeParent path s = (.error p, s) := by
  unfold makeParent
  split
  · exact Or.inl ⟨s, rfl⟩
  · exact Or.inl ⟨s, rfl⟩
  · next parent _ _ =>
      cases s.files.makeDirectories parent with
      | error p => exact Or.inr ⟨.file p, rfl⟩
      | ok files => exact Or.inl ⟨_, rfl⟩

theorem makeParent_again {t u : Storage} (hmake : makeParent path s = (.ok (), t))
    (hsame : SameDirectories t.files u.files) : makeParent path u = (.ok (), u) := by
  unfold makeParent at hmake ⊢
  split at hmake
  · rfl
  · rfl
  · next parent _ _ =>
      obtain ⟨files, hfiles, rfl⟩ := Storage.of_change hmake
      have hworking : u.files.working = s.files.working :=
        hsame.working.trans (working_makeAlong hfiles)
      have hagain : u.files.makeDirectories parent = .ok u.files := by
        unfold makeDirectories startOf at hfiles ⊢
        rw [hworking]
        exact makeAlong_again hfiles fun names => (hsame.directory names).mpr
      rw [hagain]
      rfl

/-- Saving fails at once, or it replaces the file in a storage where its parent was made. -/
theorem save_jsonFile_cases (path : String) (s : Storage) :
    (∀ known, ((jsonFile path).save known s).2 = s) ∨
      ∃ t, makeParent path s = (.ok (), t) ∧ ∀ known, ((jsonFile path).save known s).2 =
        { t with files := t.files.replaced (draftPath path) path (.text known.toText) } := by
  obtain ⟨t, hmake⟩ | ⟨p, hmake⟩ := makeParent_cases path s
  · refine Or.inr ⟨t, hmake, fun known => ?_⟩
    simp only [save, hmake, Storage.andThen]
    exact change_write_rename t (draftPath path) path known.toText
  · refine Or.inl fun known => ?_
    simp only [save, hmake, Storage.andThen]

/-- Of two savings the later counts. -/
theorem save_save_jsonFile (path : String) (known later : Insights) (s : Storage) :
    ((jsonFile path).save later ((jsonFile path).save known s).2).2 =
      ((jsonFile path).save later s).2 := by
  obtain hfails | ⟨t, hmake, hsave⟩ := save_jsonFile_cases path s
  · rw [hfails]
  · have htext : FileEntry.text known.toText ≠ .directory := nofun
    have hsame := sameDirectories_replaced t.files (draftPath path) path htext
    have hready := makeParent_again hmake
      (u := { t with files := t.files.replaced (draftPath path) path (.text known.toText) }) hsame
    rw [hsave, hsave]
    simp only [save, hready, Storage.andThen]
    refine (change_write_rename _ (draftPath path) path later.toText).trans ?_
    simp only [replaced_replaced _ _ _ htext]

theorem saveAll_jsonFile (path : String) (knowns : List Insights) (known : Insights) (s : Storage) :
    (jsonFile path).saveAll (knowns ++ [known]) s = ((jsonFile path).save known s).2 := by
  rw [saveAll_append_singleton]
  induction knowns using List.reverseRecOn with
  | nil => rfl
  | append_singleton before last ih => rw [saveAll_append_singleton, save_save_jsonFile, ih]

/-- In the end there is one file with what was saved last, or nothing depends on that. -/
theorem saveAll_jsonFile_cases (path : String) (s : Storage) :
    (∃ t, ∀ before last, (jsonFile path).saveAll (before ++ [last]) s = t) ∨
      ∃ (u : FileTree) (place : List String), ∀ before last,
        ((jsonFile path).saveAll (before ++ [last]) s).files = u.put place (.text last.toText) := by
  simp only [saveAll_jsonFile]
  obtain hfails | ⟨t, _, hsave⟩ := save_jsonFile_cases path s
  · exact Or.inl ⟨s, fun _ => hfails⟩
  · simp only [hsave]
    obtain ⟨u, hu⟩ | ⟨u, place, hu⟩ := replaced_cases t.files (draftPath path) path
    · exact Or.inl ⟨{ t with files := u }, fun _ last => by rw [hu]⟩
    · exact Or.inr ⟨u, place, fun _ last => hu _⟩

theorem load_jsonFile_congr {t : Storage} (hentry : t.files.entry path = s.files.entry path)
    (now : Instant) : (jsonFile path).load now t = (jsonFile path).load now s := by
  simp only [load, FileTree.tryContains, FileTree.readText, hentry]

theorem held_of_holds (hholds : h.Holds (some known) s) (now : Instant) :
    h.held now s = some known := by
  rw [held, hholds]
  rfl

theorem recalls_jsonFile (path : String) (s : Storage) : (jsonFile path).Recalls s := by
  obtain ⟨t, ht⟩ | ⟨u, place, hu⟩ := saveAll_jsonFile_cases path s
  · exact Or.inr fun _ _ _ _ now => by rw [ht, ht]
  obtain hthere | helsewhere := entry_put_cases u place path
  · refine Or.inl fun before last htaken now => ?_
    obtain ⟨hbounded, f, hrates⟩ := htaken
    refine ⟨last.metrics.mapRates f, held_of_holds (holds_of_entry ?_
      (Insights.ofText?_toText_mapRates hbounded hrates)) now⟩
    rw [hu]
    exact hthere _ nofun
  · refine Or.inr fun before last before' last' now => ?_
    have hentry : ((jsonFile path).saveAll (before ++ [last]) s).files.entry path =
        ((jsonFile path).saveAll (before' ++ [last']) s).files.entry path := by
      rw [hu, hu]
      exact helsewhere _ _ nofun nofun
    rw [held, held, load_jsonFile_congr hentry]

/-! #### A database -/

theorem saveAll_database_private (hprivate : isPrivate path = true) (knowns : List Insights)
    (s : Storage) : (database path).saveAll knowns s =
      { s with privateRows := s.privateRows ++ knowns.map (·.toJson.compress) } := by
  induction knowns using List.reverseRecOn with
  | nil => simp [saveAll]
  | append_singleton before last ih =>
      rw [saveAll_append_singleton, ih]
      simp [save, changeRows, rowsAt, writeRows, hprivate]

theorem saveAll_of_save_eq (hsave : ∀ known, (h.save known s).2 = s) (knowns : List Insights) :
    h.saveAll knowns s = s := by
  induction knowns with
  | nil => rfl
  | cons known rest ih =>
      rw [saveAll, List.foldl_cons, hsave]
      exact ih

theorem save_database {place rows : List String} (hfile : isPrivate path = false)
    (hplace : s.files.place? path = some place) (hrows : rowsAt path s = .ok rows)
    (known : Insights) :
    let t := { s with files := s.files.put place (.rows (rows ++ [known.toJson.compress])) }
    ((database path).save known s).2 = t ∧ t.files.place? path = some place ∧
      rowsAt path t = .ok (rows ++ [known.toJson.compress]) := by
  intro t
  have hwrite := writeEntry_of_place? hplace (.rows (rows ++ [known.toJson.compress]))
  have hchange : writeRows path (rows ++ [known.toJson.compress]) s = (.ok (), t) := by
    simp [writeRows, hfile, hwrite, Storage.change, t]
  refine ⟨?_, ?_, rowsAt_of_writeRows hchange⟩
  · simp only [save, changeRows, hrows, hchange]
  · obtain ⟨_, hold⟩ := place?_eq_some_iff.mp hplace
    have hsame := sameDirectories_put (e := .rows (rows ++ [known.toJson.compress])) hold
      fun hdirectory => by cases hdirectory
    exact (hsame.place? path).trans hplace

/-- The file of a database is not touched, or it gets a row with each saving. -/
theorem saveAll_database_cases (hfile : isPrivate path = false) (s : Storage) :
    (∀ knowns, (database path).saveAll knowns s = s) ∨
      ∃ place rows, ∀ before last,
        ((database path).saveAll (before ++ [last]) s).files = s.files.put place
            (.rows (rows ++ (before ++ [last]).map (·.toJson.compress))) ∧
          rowsAt path ((database path).saveAll (before ++ [last]) s) =
            .ok (rows ++ (before ++ [last]).map (·.toJson.compress)) := by
  cases hrows : rowsAt path s with
  | error p =>
      refine Or.inl (saveAll_of_save_eq fun known => ?_)
      simp only [save, changeRows, hrows]
  | ok rows =>
      cases hplace : s.files.place? path with
      | none =>
          refine Or.inl (saveAll_of_save_eq fun known => ?_)
          obtain ⟨p, hwrite⟩ :=
            writeEntry_of_no_place hplace (.rows (rows ++ [known.toJson.compress]))
          simp [save, changeRows, hrows, writeRows, hfile, hwrite, Storage.change]
      | some place =>
          have hall : ∀ before last,
              ((database path).saveAll (before ++ [last]) s).files = s.files.put place
                  (.rows (rows ++ (before ++ [last]).map (·.toJson.compress))) ∧
                ((database path).saveAll (before ++ [last]) s).files.place? path = some place ∧
                rowsAt path ((database path).saveAll (before ++ [last]) s) =
                  .ok (rows ++ (before ++ [last]).map (·.toJson.compress)) := by
            intro before
            induction before using List.reverseRecOn with
            | nil =>
                intro last
                obtain ⟨hsave, hthere, hafter⟩ := save_database hfile hplace hrows last
                rw [saveAll_append_singleton, saveAll, List.foldl_nil, hsave]
                exact ⟨rfl, hthere, hafter⟩
            | append_singleton before second ih =>
                intro last
                obtain ⟨hfiles, hplace, hrows⟩ := ih second
                obtain ⟨hsave, hthere, hafter⟩ := save_database hfile hplace hrows last
                rw [saveAll_append_singleton, hsave]
                simp only [List.map_append, ← List.append_assoc, hfiles, put_put] at hthere hafter ⊢
                exact ⟨rfl, hthere, hafter⟩
          exact Or.inr ⟨place, rows, fun before last =>
            ⟨(hall before last).1, (hall before last).2.2⟩⟩

theorem recalls_database (path : String) (s : Storage) : (database path).Recalls s := by
  have hlast : ∀ (rows : List String) {u : Storage} {last : Insights},
      (database path).Takes last → rowsAt path u = .ok (rows ++ [last.toJson.compress]) →
        ∀ now, ∃ metrics, (database path).held now u = some { last with metrics } := by
    intro rows u last htaken hrows now
    obtain ⟨hbounded, f, hrates⟩ := htaken
    have hread := Insights.ofText?_compress_mapRates hbounded hrates now
    exact ⟨last.metrics.mapRates f, by simp [held, load, hrows, hread, Except.toOption]⟩
  by_cases hprivate : isPrivate path = true
  · refine Or.inl fun before last htaken now => ?_
    refine hlast (s.privateRows ++ before.map (·.toJson.compress)) htaken ?_ now
    rw [saveAll_database_private hprivate, rowsAt, if_pos hprivate]
    simp
  · obtain hfails | ⟨place, rows, hall⟩ :=
      saveAll_database_cases (Bool.eq_false_iff.mpr hprivate) s
    · exact Or.inr fun _ _ _ _ now => by rw [hfails, hfails]
    · refine Or.inl fun before last htaken now => ?_
      refine hlast (rows ++ before.map (·.toJson.compress)) htaken ?_ now
      rw [(hall before last).2]
      simp

/-! #### All stores -/

theorem recalls (h : StoreHandle) (s : Storage) : h.Recalls s := by
  cases h with
  | memory =>
      refine Or.inl fun before last _ now => ?_
      rw [saveAll_append_singleton]
      exact ⟨last.metrics, rfl⟩
  | jsonFile path => exact recalls_jsonFile path s
  | database path => exact recalls_database path s
  | broken => exact Or.inr fun _ _ _ _ _ => rfl

end StoreHandle

/-! ### Reading an export -/

namespace InsightsExport

variable {now : Instant} {files others : FileTree} {path : String}

/-- The export in a file, if there is one. -/
def inFile (now : Instant) (files : FileTree) (path : String) : Option InsightsExport :=
  (files.readText path).toOption.bind (ofText? now)

theorem inFile_congr (hentry : others.entry path = files.entry path) :
    inFile now others path = inFile now files path := by
  unfold inFile FileTree.readText
  rw [hentry]

/-- Insights are no export. -/
theorem inFile_of_insights {known : Insights} (hbounded : known.Bounded)
    (hrates : ∃ f, known.metrics.ReadsRates f)
    (hentry : files.entry path = .ok (.text known.toText)) : inFile now files path = none := by
  obtain ⟨f, hrates⟩ := hrates
  have hparse := Json.parse?_pretty (Insights.legible_toJson hbounded hrates (by decide))
  rw [Insights.mapFloats_toJson] at hparse
  rw [inFile, FileTree.readText_of_entry hentry, Except.toOption, Option.bind_some, ofText?,
    Insights.toText, hparse]
  rfl

theorem inFile_of_rows {rows : List String} (hentry : files.entry path = .ok (.rows rows)) :
    inFile now files path = none := by
  unfold inFile FileTree.readText
  rw [hentry]
  rfl

end InsightsExport

theorem LearningState.toOption_readExport (s : LearningState) (path : String) :
    (s.readExport path).toOption = InsightsExport.inFile s.now s.storage.files path := by
  unfold readExport InsightsExport.inFile
  cases s.storage.files.readText path with
  | error p => rfl
  | ok text =>
      simp only [Except.toOption, Option.bind_some]
      cases InsightsExport.ofText? s.now text <;> rfl

namespace StoreHandle

open FileTree InsightsExport

/-- Once a store was saved to, the export in a file does not depend on what was saved. -/
theorem inFile_saveAll (h : StoreHandle) (s : Storage) (now : Instant) (path : String)
    {before before' : List Insights} {last last' : Insights} (hlast : h.Takes last)
    (hlast' : h.Takes last') :
    inFile now (h.saveAll (before ++ [last]) s).files path =
      inFile now (h.saveAll (before' ++ [last']) s).files path := by
  have hkept : (∀ knowns, (h.saveAll knowns s).files = s.files) →
      inFile now (h.saveAll (before ++ [last]) s).files path =
        inFile now (h.saveAll (before' ++ [last']) s).files path := fun hfiles => by
    rw [hfiles, hfiles]
  cases h with
  | memory =>
      refine hkept fun knowns => ?_
      induction knowns using List.reverseRecOn with
      | nil => rfl
      | append_singleton before last ih =>
          rw [saveAll_append_singleton]
          exact ih
  | broken => exact hkept fun knowns => by rw [saveAll_of_save_eq fun _ => rfl]
  | jsonFile store =>
      obtain ⟨t, ht⟩ | ⟨u, place, hu⟩ := saveAll_jsonFile_cases store s
      · rw [ht, ht]
      rw [hu, hu]
      obtain hthere | helsewhere := entry_put_cases u place path
      · rw [inFile_of_insights hlast.1 hlast.2 (hthere _ nofun),
          inFile_of_insights hlast'.1 hlast'.2 (hthere _ nofun)]
      · exact inFile_congr (helsewhere _ _ nofun nofun)
  | database store =>
      by_cases hprivate : isPrivate store = true
      · exact hkept fun knowns => by rw [saveAll_database_private hprivate]
      obtain hfails | ⟨place, rows, hall⟩ :=
        saveAll_database_cases (Bool.eq_false_iff.mpr hprivate) s
      · exact hkept fun knowns => by rw [hfails]
      rw [(hall before last).1, (hall before' last').1]
      obtain hthere | helsewhere := entry_put_cases s.files place path
      · rw [inFile_of_rows (hthere _ nofun), inFile_of_rows (hthere _ nofun)]
      · exact inFile_congr (helsewhere _ _ nofun nofun)

end StoreHandle
end AdaptiveRules
