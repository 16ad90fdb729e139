import AdaptiveRules.Proofs.InsightsReading
import AdaptiveRules.Proofs.RenamedFiles

/-!
# Stores are registers

A register keeps the insights that were saved last, until it is cleared.  A store in memory is one by
its nature.  A JSON file is one as long as the operations on files succeed, as the draft takes the
place of the file as a whole; a database that was opened is one, as the last row is the one saved
last.  So all of them give the same answers to the same requests.
-/

namespace AdaptiveRules

inductive StoreRequest
  | save (known : Insights)
  | clear
  | load (now : Instant)

namespace StoreRequest

/-- What a register keeps after a request. -/
def leaves (kept : Option Insights) : StoreRequest → Option Insights
  | save known => some known
  | clear => none
  | load _ => kept

/-- What a register answers to a request. -/
def told (kept : Option Insights) : StoreRequest → Option Insights
  | load _ => kept
  | _ => none

def changes : StoreRequest → Bool
  | load _ => false
  | _ => true

end StoreRequest

def registerAnswers : Option Insights → List StoreRequest → List (Except Problem (Option Insights))
  | _, [] => []
  | kept, r :: rest => .ok (r.told kept) :: registerAnswers (r.leaves kept) rest

namespace Storage

variable {s t : Storage} {first : StorageStep Unit} {second : Storage → StorageStep Unit}

/-- A change that nothing but the files can hinder. -/
def UpToFiles (step : StorageStep Unit) : Prop :=
  (∃ t, step = (.ok (), t)) ∨ ∃ p t, step = (.error (.file p), t)

theorem upToFiles_change (s : Storage) (r : Except FileProblem FileTree) :
    UpToFiles (s.change r) := by
  cases r with
  | error p => exact Or.inr ⟨p, s, rfl⟩
  | ok files => exact Or.inl ⟨_, rfl⟩

theorem UpToFiles.andThen (hfirst : UpToFiles first) (hsecond : ∀ s, UpToFiles (second s)) :
    UpToFiles (andThen first second) := by
  obtain ⟨t, rfl⟩ | ⟨p, t, rfl⟩ := hfirst
  · exact hsecond t
  · exact Or.inr ⟨p, t, rfl⟩

theorem of_change {r : Except FileProblem FileTree} (hchange : s.change r = (.ok (), t)) :
    ∃ files, r = .ok files ∧ t = { s with files } := by
  cases r with
  | error p => cases hchange
  | ok files =>
      cases hchange
      exact ⟨files, rfl, rfl⟩

theorem of_andThen (hboth : andThen first second = (.ok (), t)) :
    ∃ u, first = (.ok (), u) ∧ second u = (.ok (), t) := by
  unfold andThen at hboth
  split at hboth
  · next u => exact ⟨u, rfl, hboth⟩
  · cases hboth

end Storage

namespace StoreHandle

open Storage

variable {h : StoreHandle} {s t : Storage} {path : String} {known : Insights}
  {kept : Option Insights} {r : StoreRequest} {requests : List StoreRequest}

def request (h : StoreHandle) (s : Storage) : StoreRequest → StorageStep (Option Insights)
  | .save known => ((h.save known s).1.map fun _ => none, (h.save known s).2)
  | .clear => ((h.clear s).1.map fun _ => none, (h.clear s).2)
  | .load now => (h.load now s, s)

def answers (h : StoreHandle) : Storage → List StoreRequest → List (Except Problem (Option Insights))
  | _, [] => []
  | s, r :: rest => (h.request s r).1 :: h.answers (h.request s r).2 rest

/-- Whenever the store is asked, it has the insights, or none. -/
def Holds (h : StoreHandle) (kept : Option Insights) (s : Storage) : Prop :=
  ∀ now, h.load now s = .ok kept

/-- If each request leaves the storage as it should be and holding what a register keeps, then all
requests are answered as by a register. -/
theorem answers_eq (sound : Storage → Prop) (allowed : Except Problem (Option Insights) → Prop)
    (hstep : ∀ {kept s}, ∀ r ∈ requests, sound s → h.Holds kept s →
      (r.changes = true → allowed (h.request s r).1) →
        (h.request s r).1 = .ok (r.told kept) ∧ sound (h.request s r).2 ∧
          h.Holds (r.leaves kept) (h.request s r).2)
    (hsound : sound s) (hholds : h.Holds kept s)
    (hallowed : ∀ a ∈ h.answers s (requests.filter StoreRequest.changes), allowed a) :
    h.answers s requests = registerAnswers kept requests := by
  induction requests generalizing s kept with
  | nil => rfl
  | cons r rest ih =>
      have hboth : (r.changes = true → allowed (h.request s r).1) ∧
          ∀ a ∈ h.answers (h.request s r).2 (rest.filter StoreRequest.changes), allowed a := by
        cases r with
        | load now => exact ⟨nofun, hallowed⟩
        | _ =>
            obtain ⟨hfirst, hmore⟩ := List.forall_mem_cons.mp hallowed
            exact ⟨fun _ => hfirst, hmore⟩
      obtain ⟨hanswer, hnext, hkeeps⟩ := hstep r List.mem_cons_self hsound hholds hboth.1
      rw [answers, registerAnswers, hanswer]
      congr 1
      exact ih (fun r hr => hstep r (List.mem_cons_of_mem _ hr)) hnext hkeeps hboth.2

/-! ### A JSON file -/

def isFileProblem : Except Problem (Option Insights) → Bool
  | .error (.file _) => true
  | _ => false

theorem holds_of_entry {text : String} (hentry : s.files.entry path = .ok (.text text))
    (hread : ∀ now, Insights.ofText? now text = some known) :
    (jsonFile path).Holds (some known) s := by
  intro now
  simp [load, FileTree.tryContains, hentry, FileTree.readText_of_entry hentry, hread]

theorem upToFiles_makeParent (path : String) (s : Storage) : UpToFiles (makeParent path s) := by
  unfold makeParent
  split
  · exact Or.inl ⟨s, rfl⟩
  · exact Or.inl ⟨s, rfl⟩
  · exact upToFiles_change ..

theorem upToFiles_save (path : String) (known : Insights) (s : Storage) :
    UpToFiles ((jsonFile path).save known s) :=
  (upToFiles_makeParent path s).andThen fun _ =>
    (upToFiles_change ..).andThen fun _ => upToFiles_change ..

theorem upToFiles_clear (path : String) (s : Storage) :
    UpToFiles ((jsonFile path).clear s) := by
  unfold clear
  simp only
  split
  · exact Or.inr ⟨_, s, rfl⟩
  · exact Or.inl ⟨s, rfl⟩
  · exact upToFiles_change ..

theorem working_makeParent (hmake : makeParent path s = (.ok (), t)) :
    t.files.working = s.files.working := by
  unfold makeParent at hmake
  split at hmake
  · cases hmake
    rfl
  · cases hmake
    rfl
  · obtain ⟨files, hfiles, rfl⟩ := of_change hmake
    exact FileTree.working_makeAlong hfiles

/-- The draft is written whole and takes the place of the file. -/
theorem entry_save (hworking : FileTree.Separate s.files.working)
    (hsave : (jsonFile path).save known s = (.ok (), t)) :
    t.files.entry path = .ok (.text known.toText) ∧ t.files.working = s.files.working := by
  obtain ⟨ready, hready, hsave⟩ := of_andThen hsave
  obtain ⟨drafted, hdrafted, hsave⟩ := of_andThen hsave
  obtain ⟨draft, hwrite, rfl⟩ := of_change hdrafted
  obtain ⟨files, hrename, rfl⟩ := of_change hsave
  have hplace := working_makeParent hready
  have hkept : draft.working = s.files.working := (FileTree.working_writeEntry hwrite).trans hplace
  exact ⟨FileTree.entry_rename (hkept ▸ hworking) (FileTree.entry_writeEntry (by simp) hwrite)
    (by simp) hrename, (FileTree.working_rename hrename).trans hkept⟩

theorem working_clear (hclear : (jsonFile path).clear s = (.ok (), t)) :
    t.files.working = s.files.working := by
  unfold clear at hclear
  simp only at hclear
  split at hclear
  · cases hclear
  · cases hclear
    rfl
  · obtain ⟨files, hremove, rfl⟩ := of_change hclear
    exact FileTree.working_remove hremove

theorem request_jsonFile (hread : ∀ known, r = .save known →
      ∀ now, Insights.ofText? now known.toText = some known)
    (hworking : FileTree.Separate s.files.working) (hholds : (jsonFile path).Holds kept s)
    (hfiles : r.changes = true → isFileProblem ((jsonFile path).request s r).1 = false) :
    ((jsonFile path).request s r).1 = .ok (r.told kept) ∧
      FileTree.Separate ((jsonFile path).request s r).2.files.working ∧
        (jsonFile path).Holds (r.leaves kept) ((jsonFile path).request s r).2 := by
  cases r with
  | load now => exact ⟨hholds now, hworking, hholds⟩
  | save known =>
      unfold request at hfiles ⊢
      obtain ⟨t, hsave⟩ | ⟨p, t, hsave⟩ := upToFiles_save path known s
      · obtain ⟨hentry, hplace⟩ := entry_save hworking hsave
        simp only [hsave]
        exact ⟨rfl, hplace ▸ hworking, holds_of_entry hentry (hread known rfl)⟩
      · simp only [hsave] at hfiles
        cases hfiles rfl
  | clear =>
      unfold request at hfiles ⊢
      obtain ⟨t, hclear⟩ | ⟨p, t, hclear⟩ := upToFiles_clear path s
      · simp only [hclear]
        exact ⟨rfl, working_clear hclear ▸ hworking, load_of_clear hclear⟩
      · simp only [hclear] at hfiles
        cases hfiles rfl

/-! ### A database -/

/-- The database at the path is there to be read and written. -/
def IsOpen (path : String) (s : Storage) : Prop :=
  isPrivate path = true ∨ ∃ rows, s.files.entry path = .ok (.rows rows)

theorem isOpen_of_writeRows {rows : List String} (hwrite : writeRows path rows s = (.ok (), t)) :
    IsOpen path t := by
  unfold writeRows at hwrite
  split at hwrite
  · next hprivate => exact Or.inl hprivate
  · obtain ⟨files, hfiles, rfl⟩ := of_change hwrite
    exact Or.inr ⟨rows, FileTree.entry_writeEntry (by simp) hfiles⟩

theorem isOpen_of_openDatabase (hopen : openDatabase path s = (.ok (), t)) : IsOpen path t := by
  obtain ⟨ready, _, hopen⟩ := of_andThen hopen
  split at hopen
  · exact isOpen_of_writeRows hopen
  · cases hopen

/-- The rows of an open database can be changed. -/
theorem exists_changeRows (hopen : IsOpen path s) (f : List String → List String) :
    ∃ rows t, rowsAt path s = .ok rows ∧ changeRows path f s = (.ok (), t) ∧
      IsOpen path t ∧ rowsAt path t = .ok (f rows) := by
  have hready : ∃ rows, rowsAt path s = .ok rows ∧
      ∀ rows', ∃ t, writeRows path rows' s = (.ok (), t) := by
    by_cases hprivate : isPrivate path = true
    · refine ⟨s.privateRows, by rw [rowsAt, if_pos hprivate], fun rows' =>
        ⟨{ s with privateRows := rows' }, ?_⟩⟩
      rw [writeRows, if_pos hprivate]
    · obtain ⟨rows, hentry⟩ := hopen.resolve_left hprivate
      obtain ⟨names, hresolve, hfound⟩ := FileTree.of_entry hentry
      refine ⟨rows, by simp [rowsAt, hprivate, hentry], fun rows' =>
        ⟨{ s with files := s.files.put names (.rows rows') }, ?_⟩⟩
      simp [writeRows, hprivate, FileTree.writeEntry, hresolve, hfound, change, bind, Except.bind,
        pure, Except.pure]
  obtain ⟨rows, hrows, hwritable⟩ := hready
  obtain ⟨t, hwrite⟩ := hwritable (f rows)
  refine ⟨rows, t, hrows, ?_, isOpen_of_writeRows hwrite, rowsAt_of_writeRows hwrite⟩
  rw [changeRows, hrows]
  exact hwrite

theorem request_database (hread : ∀ known, r = .save known →
      ∀ now, Insights.ofText? now known.toJson.compress = some known)
    (hopen : IsOpen path s) (hholds : (database path).Holds kept s) :
    ((database path).request s r).1 = .ok (r.told kept) ∧
      IsOpen path ((database path).request s r).2 ∧
        (database path).Holds (r.leaves kept) ((database path).request s r).2 := by
  cases r with
  | load now => exact ⟨hholds now, hopen, hholds⟩
  | save known =>
      obtain ⟨rows, t, _, hsave, hstays, hrows⟩ :=
        exists_changeRows hopen (· ++ [known.toJson.compress])
      have hheld : (database path).Holds (some known) t := fun now => by
        simp [load, hrows, hread known rfl now]
      simp only [request, save, hsave]
      exact ⟨rfl, hstays, hheld⟩
  | clear =>
      obtain ⟨rows, t, _, hclear, hstays, hrows⟩ := exists_changeRows hopen fun _ => []
      have hheld : (database path).Holds none t := fun now => by simp [load, hrows]
      simp only [request, clear, hclear]
      exact ⟨rfl, hstays, hheld⟩

/-! ### All stores -/

/-- Insights whose numbers and times can be written are read back from the text of a file and from
that of a row.  So the stores answer every row of requests as a register does that keeps at first what
they hold at first: the one in memory, a JSON file unless the files hinder it from saving or clearing,
and a database that was opened. -/
theorem answers_eq_registerAnswers
    (hsaved : ∀ known, .save known ∈ requests → known.Bounded ∧ known.metrics.ReadsRates id) :
    (∀ known, .save known ∈ requests → ∀ now, Insights.ofText? now known.toText = some known ∧
        Insights.ofText? now known.toJson.compress = some known) ∧
      (∀ s, memory.answers s requests = registerAnswers s.kept requests) ∧
      (∀ path s kept, FileTree.Separate s.files.working → (jsonFile path).Holds kept s →
        (∀ a ∈ (jsonFile path).answers s (requests.filter StoreRequest.changes),
          isFileProblem a = false) →
          (jsonFile path).answers s requests = registerAnswers kept requests) ∧
      ∀ path before s kept, openDatabase path before = (.ok (), s) →
        (database path).Holds kept s →
          (database path).answers s requests = registerAnswers kept requests := by
  have hread : ∀ known, .save known ∈ requests → ∀ now,
      Insights.ofText? now known.toText = some known ∧
        Insights.ofText? now known.toJson.compress = some known := by
    intro known hmem now
    obtain ⟨hbounded, hrates⟩ := hsaved known hmem
    exact ⟨Insights.ofText?_toText hbounded hrates now, Insights.ofText?_compress hbounded hrates now⟩
  refine ⟨hread, fun s => ?_, fun path s kept hworking hholds hfiles => ?_,
    fun path before s kept hopen hholds => ?_⟩
  · refine answers_eq (fun _ => True) (fun _ => True) ?_ trivial
      (fun _ => rfl) fun _ _ => trivial
    intro kept s r _ _ hholds _
    cases r with
    | load now => exact ⟨hholds now, trivial, hholds⟩
    | save known => exact ⟨rfl, trivial, fun _ => rfl⟩
    | clear => exact ⟨rfl, trivial, fun _ => rfl⟩
  · refine answers_eq (fun s => FileTree.Separate s.files.working) (isFileProblem · = false) ?_
      hworking hholds hfiles
    intro kept s r hr hworking hholds hfine
    exact request_jsonFile (fun known heq now => (hread known (heq ▸ hr) now).1) hworking hholds hfine
  · refine answers_eq (IsOpen path) (fun _ => True) ?_ (isOpen_of_openDatabase hopen) hholds fun _ _ => trivial
    intro kept s r hr hopen hholds _
    exact request_database (fun known heq now => (hread known (heq ▸ hr) now).2) hopen hholds

/-! ### Saving, clearing and saving again -/

def rememberedInsights : Insights where
  projects := .ofList [("p", ⟨3, .ofList [("w", 2)], ⟨0, 0⟩⟩)]
  improvements := .ofList [("w", [.ofRules "" "a\n" ⟨1, 5⟩])]
  trained := .ofList [("p", ())]
  variations := .ofList [("w", ["\"", "ä"]), ("", [])]
  metrics := ⟨1, 1, 1, .ofList [("w", 0.5)], .ofList [("w", 0.5)], ⟨0, 0⟩⟩
  saved := some ⟨2, 0⟩

theorem bounded_rememberedInsights : rememberedInsights.Bounded := by
  have hstart : (⟨0, 0⟩ : Instant).InCalendar := ⟨by decide, by decide, by decide⟩
  have hprojects : rememberedInsights.projects.values = [⟨3, .ofList [("w", 2)], ⟨0, 0⟩⟩] := by
    decide +kernel
  have hlogs : rememberedInsights.improvements.values = [[.ofRules "" "a\n" ⟨1, 5⟩]] := by
    decide +kernel
  refine ⟨?_, ?_, ⟨by decide, by decide, by decide, hstart⟩, ?_⟩
  · rw [hprojects, List.forall_mem_singleton]
    exact ⟨by decide, by decide +kernel, hstart⟩
  · rw [hlogs, List.forall_mem_singleton, List.forall_mem_singleton]
    exact ⟨by decide, by decide, by decide⟩
  · rintro t ⟨⟩
    exact ⟨by decide, by decide, by decide⟩

theorem readsRates_rememberedInsights : rememberedInsights.metrics.ReadsRates id := by
  have hhalf : readBack 0.5 = 0.5 := by decide +kernel
  have hvalues : rememberedInsights.metrics.rateBefore.values ++
      rememberedInsights.metrics.rateAfter.values = [0.5, 0.5] := by decide +kernel
  intro x hx
  rw [hvalues] at hx
  obtain rfl : x = 0.5 := by simpa using hx
  have hwrites := writesNumber_readBack (x := 0.5) ⟨by decide +kernel, by decide +kernel⟩
  rwa [hhalf] at hwrites

def savingRequests : List StoreRequest :=
  [.load ⟨0, 0⟩, .save rememberedInsights, .load ⟨5, 0⟩, .clear, .load ⟨6, 0⟩,
    .save rememberedInsights, .load ⟨7, 0⟩]

theorem eq_ok_of_toOption {ε α : Type} {answer : Except ε α} {a : α}
    (hanswer : answer.toOption = some a) : answer = .ok a := by
  cases answer with
  | error e => cases hanswer
  | ok b => exact congrArg Except.ok (Option.some.inj hanswer)

def noFiles : Storage := .ofFiles ⟨.empty, []⟩

theorem answers_eq_registerAnswers_saving :
    let told : List (Except Problem (Option Insights)) :=
      [.ok none, .ok none, .ok (some rememberedInsights), .ok none, .ok none, .ok none,
        .ok (some rememberedInsights)]
    memory.answers noFiles savingRequests = told ∧
      (jsonFile "kept/insights.json").answers noFiles savingRequests = told ∧
      (database "kept/insights.db").answers (openDatabase "kept/insights.db" noFiles).2
        savingRequests = told := by
  intro told
  have htold : registerAnswers none savingRequests = told := rfl
  have hsaved : ∀ known, .save known ∈ savingRequests →
      known.Bounded ∧ known.metrics.ReadsRates id := by
    intro known hknown
    obtain rfl : known = rememberedInsights := by simpa [savingRequests] using hknown
    exact ⟨bounded_rememberedInsights, readsRates_rememberedInsights⟩
  obtain ⟨_, hmemory, hfile, hdatabase⟩ := answers_eq_registerAnswers hsaved
  rw [← htold]
  refine ⟨hmemory noFiles, ?_, ?_⟩
  · have habsent : noFiles.files.tryContains "kept/insights.json" = .ok false := by decide +kernel
    have hholds : (jsonFile "kept/insights.json").Holds none noFiles := fun now => by
      rw [load, habsent]
    have hfine : ∀ a ∈ (jsonFile "kept/insights.json").answers noFiles
        (savingRequests.filter StoreRequest.changes), isFileProblem a = false := by decide +kernel
    exact hfile _ noFiles none (fun _ hname => absurd hname List.not_mem_nil) hholds hfine
  · have hopened : (openDatabase "kept/insights.db" noFiles).1 = .ok () :=
      eq_ok_of_toOption (by decide +kernel)
    have hrows : rowsAt "kept/insights.db" (openDatabase "kept/insights.db" noFiles).2 = .ok [] :=
      eq_ok_of_toOption (by decide +kernel)
    have hholds : (database "kept/insights.db").Holds none
        (openDatabase "kept/insights.db" noFiles).2 := fun now => by
      rw [load, hrows]
      rfl
    exact hdatabase _ noFiles _ none (Prod.ext hopened rfl) hholds

end StoreHandle
end AdaptiveRules
