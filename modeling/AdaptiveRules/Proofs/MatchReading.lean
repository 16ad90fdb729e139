import AdaptiveRules.Proofs.ExportReading

/-!
# Matches are read back

The value that a match is written as lists its members by name, so fields stand among the fixed
members and a point has its column before its row.  Reading does not depend on that order: a match
is read from any members that hold its parts.  Moving a match changes its offsets and its block
only, so a match is read back after any moves as well.
-/

namespace AdaptiveRules

/-! ### Documents and values -/

namespace Json

variable {members : List (String × Json)} {name : String} {j : Json}

/-- The document is the value it stands for. -/
def IsValue (j : Json) : Prop := j.canonical = j

theorem putMember_eq (k : String) (v : Json) (members : List (String × Json)) :
    putMember k v members = putAscending k v members := by
  induction members with
  | nil => rfl
  | cons m rest ih =>
      rw [putMember, putAscending, ih]

/-- Members are sorted into the entries of a dictionary. -/
theorem sortMembers_eq (members : List (String × Json)) :
    sortMembers members = (Dict.ofList members).entries := by
  have hfold : ∀ (l : List (String × Json)) (d : Dict Json),
      l.foldl (fun acc m => putMember m.1 m.2 acc) d.entries =
        (l.foldl (fun d m => d.insert m.1 m.2) d).entries := by
    intro l
    induction l with
    | nil => exact fun _ => rfl
    | cons m rest ih =>
        intro d
        rw [List.foldl_cons, List.foldl_cons, putMember_eq]
        exact ih (d.insert m.1 m.2)
  exact hfold members .empty

theorem sortMembers_entries (d : Dict Json) : sortMembers d.entries = d.entries := by
  rw [sortMembers_eq, Dict.ofList_entries]

theorem mem_of_mem_sortMembers {m : String × Json} (hm : m ∈ sortMembers members) :
    m ∈ members := by
  induction members using List.reverseRecOn with
  | nil => exact hm
  | append_singleton members e ih =>
      rw [sortMembers, List.foldl_append, List.foldl_cons, List.foldl_nil, putMember_eq] at hm
      rcases mem_putAscending hm with rfl | hm
      · exact List.mem_append_right _ List.mem_cons_self
      · exact List.mem_append_left _ (ih hm)

theorem nodup_names_sortMembers (members : List (String × Json)) :
    ((sortMembers members).map Prod.fst).Nodup := by
  rw [sortMembers_eq]
  exact Dict.nodup_keys _

theorem perm_sortMembers (hnames : (members.map Prod.fst).Nodup) :
    (sortMembers members).Perm members := by
  rw [sortMembers_eq]
  exact Dict.perm_ofList hnames

theorem canonicalItems_eq (items : List Json) : canonicalItems items = items.map canonical := by
  induction items with
  | nil => rfl
  | cons j rest ih => rw [canonicalItems, ih, List.map_cons]

theorem canonicalMembers_eq (members : List (String × Json)) :
    canonicalMembers members = members.map fun m => (m.1, m.2.canonical) := by
  induction members with
  | nil => rfl
  | cons m rest ih => rw [canonicalMembers, ih, List.map_cons]

theorem isValue_arr {items : List Json} (hitems : ∀ j ∈ items, j.IsValue) :
    (arr items).IsValue := by
  rw [IsValue, canonical, canonicalItems_eq, List.map_congr_left hitems, List.map_id']

theorem map_canonical_entries {d : Dict Json} (hvalues : ∀ j ∈ d.values, j.IsValue) :
    d.entries.map (fun m => (m.1, m.2.canonical)) = d.entries := by
  have hsame : d.entries.map (fun m => (m.1, m.2.canonical)) = d.entries.map id :=
    List.map_congr_left fun m hm => Prod.ext rfl (hvalues m.2 (List.mem_map_of_mem hm))
  rw [hsame, List.map_id]

theorem isValue_obj {d : Dict Json} (hvalues : ∀ j ∈ d.values, j.IsValue) :
    (obj d.entries).IsValue := by
  rw [IsValue, canonical, canonicalMembers_eq, map_canonical_entries hvalues, sortMembers_entries]

mutual

/-- What a document stands for is a value. -/
theorem isValue_canonical : ∀ j : Json, j.canonical.IsValue
  | null => rfl
  | bool _ => rfl
  | int _ => rfl
  | float x => by
      rw [IsValue, canonical]
      split
      · next hfinite => rw [canonical, if_pos hfinite]
      · rfl
  | str _ => rfl
  | arr items => by
      rw [canonical]
      exact isValue_arr (isValue_canonicalItems items)
  | obj members => by
      rw [canonical, sortMembers_eq]
      refine isValue_obj fun j hj => ?_
      obtain ⟨m, hm, rfl⟩ := List.mem_map.mp hj
      rw [← sortMembers_eq] at hm
      exact isValue_canonicalMembers members m (mem_of_mem_sortMembers hm)

theorem isValue_canonicalItems : ∀ items : List Json, ∀ j ∈ canonicalItems items, j.IsValue
  | [], _, hj => absurd hj List.not_mem_nil
  | first :: rest, j, hj => by
      rcases List.mem_cons.mp hj with rfl | hj
      · exact isValue_canonical first
      · exact isValue_canonicalItems rest j hj

theorem isValue_canonicalMembers :
    ∀ members : List (String × Json), ∀ m ∈ canonicalMembers members, m.2.IsValue
  | [], _, hm => absurd hm List.not_mem_nil
  | (_, first) :: rest, m, hm => by
      rcases List.mem_cons.mp hm with rfl | hm
      · exact isValue_canonical first
      · exact isValue_canonicalMembers rest m hm

end

theorem isValue_ofList {α : Type} {f : α → Json} {l : List α} (hvalues : ∀ a ∈ l, (f a).IsValue) :
    (ofList f l).IsValue := by
  refine isValue_arr fun j hj => ?_
  obtain ⟨a, ha, rfl⟩ := List.mem_map.mp hj
  exact hvalues a ha

theorem isValue_ofDict {α : Type} {f : α → Json} {d : Dict α}
    (hvalues : ∀ a ∈ d.values, (f a).IsValue) : (ofDict f d).IsValue := by
  refine isValue_obj (d := d.map f) fun j hj => ?_
  rw [Dict.values_map] at hj
  obtain ⟨a, ha, rfl⟩ := List.mem_map.mp hj
  exact hvalues a ha

/-! ### Members without a repeated name -/

theorem lookup_of_mem (hnames : (members.map Prod.fst).Nodup) (hmem : (name, j) ∈ members) :
    members.lookup name = some j := by
  induction members with
  | nil => exact absurd hmem List.not_mem_nil
  | cons m rest ih =>
      obtain ⟨hfirst, hrest⟩ := List.nodup_cons.mp hnames
      rw [← Prod.mk.eta (p := m), Dict.lookup_cons_ite]
      rcases List.mem_cons.mp hmem with rfl | hmem
      · rw [if_pos rfl]
      · have hother : name ≠ m.1 := by
          rintro rfl
          exact hfirst (List.mem_map.mpr ⟨_, hmem, rfl⟩)
        rw [if_neg hother, ih hrest hmem]

theorem lookup_sortMembers (hnames : (members.map Prod.fst).Nodup) {j : Json}
    (hmem : (name, j) ∈ members) : (sortMembers members).lookup name = some j :=
  lookup_of_mem (nodup_names_sortMembers members) ((perm_sortMembers hnames).mem_iff.mpr hmem)

theorem lookup_of_notMem (hname : name ∉ members.map Prod.fst) : members.lookup name = none := by
  refine List.lookup_eq_none_iff.mpr fun m hm => ?_
  simpa using fun heq : name = m.1 => hname (heq ▸ List.mem_map_of_mem hm)

theorem asRecord?_of_nodup (hnames : (members.map Prod.fst).Nodup) (names : List String) :
    (obj members).asRecord? names = some members := by
  have hsingle : ∀ n ∈ names, (members.filter fun m => m.1 == n).length ≤ 1 := by
    intro n _
    have hcount := List.nodup_iff_count_le_one.mp hnames n
    rwa [List.count, List.countP_map, List.countP_eq_length_filter] at hcount
  rw [asRecord?, if_pos]
  simpa using hsingle

end Json

/-! ### Where a match comes from -/

open Json

namespace Point

/-- The row and the column fit into 64 bits. -/
def Fits (p : Point) : Prop := p.row < UInt64.size ∧ p.column < UInt64.size

theorem ofJson?_canonical {p : Point} (hp : p.Fits) : ofJson? p.toJson.canonical = some p := by
  let members := [("row", Json.ofNat p.row), ("column", Json.ofNat p.column)]
  have hnames : (members.map Prod.fst).Nodup := show ["row", "column"].Nodup by decide
  have hrow : (sortMembers members).lookup "row" = some (.ofNat p.row) :=
    lookup_sortMembers hnames (by simp [members])
  have hcolumn : (sortMembers members).lookup "column" = some (.ofNat p.column) :=
    lookup_sortMembers hnames (by simp [members])
  unfold ofJson?
  refine (bind_of_eq_some (asRecord?_of_nodup (nodup_names_sortMembers members) _) _).trans ?_
  refine (bind_of_eq_some (Fields.required_eq hrow (asNat?_ofNat hp.1)) _).trans ?_
  exact bind_of_eq_some (Fields.required_eq hcolumn (asNat?_ofNat hp.2)) _

end Point

namespace BlockOrigin

theorem ofJson?_canonical {o : BlockOrigin} (ho : o.start.Fits) :
    ofJson? o.toJson.canonical = some o := by
  let members := [("node_type", Json.str o.nodeType), ("start_point", o.start.toJson.canonical)]
  have hnames : (members.map Prod.fst).Nodup := show ["node_type", "start_point"].Nodup by decide
  have htype : (sortMembers members).lookup "node_type" = some (.str o.nodeType) :=
    lookup_sortMembers hnames (by simp [members])
  have hstart : (sortMembers members).lookup "start_point" = some o.start.toJson.canonical :=
    lookup_sortMembers hnames (by simp [members])
  unfold ofJson?
  refine (bind_of_eq_some (asRecord?_of_nodup (nodup_names_sortMembers members) _) _).trans ?_
  refine (bind_of_eq_some (Fields.required_eq htype (by rfl)) _).trans ?_
  exact bind_of_eq_some (Fields.required_eq hstart (Point.ofJson?_canonical ho)) _

end BlockOrigin

namespace MatchInstance

variable {m : MatchInstance} {members : List (String × Json)}

/-- No field has the name of a fixed member. -/
def IsFree (m : MatchInstance) : Prop := ∀ name ∈ m.fields.keys, name ∉ fixedNames

/-- All offsets and the start of the block fit into 64 bits. -/
structure Fits (m : MatchInstance) : Prop where
  start : m.start < UInt64.size
  stop : m.stop < UInt64.size
  block : ∀ o ∈ m.block, o.start.Fits

/-- The members are the parts of the match, each under its name, in whichever order. -/
structure ConsistsOf (members : List (String × Json)) (m : MatchInstance) : Prop where
  names : (members.map Prod.fst).Nodup
  text : ("text", .str m.text) ∈ members
  start : ("start", .ofNat m.start) ∈ members
  stop : ("end", .ofNat m.stop) ∈ members
  groups : ("groups", .ofList (Json.ofOption .str) m.groups) ∈ members
  namedGroups : ("named_groups", .ofDict .str m.namedGroups) ∈ members
  block : ∀ o, m.block = some o → ("block", o.toJson.canonical) ∈ members
  noBlock : m.block = none → "block" ∉ members.map Prod.fst
  recovered : ("recovered", .bool m.recovered) ∈ members
  fields : (members.filter fun e => !fixedNames.contains e.1).Perm m.fields.entries

theorem ConsistsOf.perm {others : List (String × Json)} (hmembers : ConsistsOf members m)
    (hperm : others.Perm members) : ConsistsOf others m where
  names := (hperm.map Prod.fst).nodup_iff.mpr hmembers.names
  text := hperm.mem_iff.mpr hmembers.text
  start := hperm.mem_iff.mpr hmembers.start
  stop := hperm.mem_iff.mpr hmembers.stop
  groups := hperm.mem_iff.mpr hmembers.groups
  namedGroups := hperm.mem_iff.mpr hmembers.namedGroups
  block o ho := hperm.mem_iff.mpr (hmembers.block o ho)
  noBlock hnone := fun hname => hmembers.noBlock hnone ((hperm.map Prod.fst).mem_iff.mp hname)
  recovered := hperm.mem_iff.mpr hmembers.recovered
  fields := (hperm.filter _).trans hmembers.fields

theorem asOption?_text (text? : Option String) :
    Json.asOption? Json.asString? (Json.ofOption .str text?) = some text? := by
  cases text? <;> rfl

/-- The parts say whether there is a block. -/
theorem ConsistsOf.optional_block (hmembers : ConsistsOf members m) (hfits : m.Fits) :
    Fields.optional members "block" BlockOrigin.ofJson? = some m.block := by
  cases hblock : m.block with
  | none =>
      rw [Fields.optional, lookup_of_notMem (hmembers.noBlock hblock)]
  | some o =>
      refine Fields.optional_eq (lookup_of_mem hmembers.names (hmembers.block o hblock)) ?_
      exact congrArg (Option.map some) (BlockOrigin.ofJson?_canonical (hfits.block o hblock))

/-- A match is read from its parts, in whichever order they stand. -/
theorem ConsistsOf.ofJson? (hmembers : ConsistsOf members m) (hfits : m.Fits) :
    MatchInstance.ofJson? (.obj members) = some m := by
  have hfield : ∀ {name j}, (name, j) ∈ members → members.lookup name = some j :=
    lookup_of_mem hmembers.names
  have hgroups :
      (Json.ofList (Json.ofOption .str) m.groups).asList? (Json.asOption? Json.asString?) =
      some m.groups := asList?_ofList fun text? _ => asOption?_text text?
  have hnamed : (Json.ofDict .str m.namedGroups).asDict? Json.asString? = some m.namedGroups :=
    asDict?_ofDict fun _ _ => rfl
  have hfields : Dict.ofList (members.filter fun e => !fixedNames.contains e.1) = m.fields :=
    Dict.ofList_of_perm hmembers.fields
  unfold MatchInstance.ofJson?
  refine (bind_of_eq_some (asRecord?_of_nodup hmembers.names _) _).trans ?_
  refine (bind_of_eq_some (Fields.required_eq (hfield hmembers.text) (by rfl)) _).trans ?_
  refine (bind_of_eq_some
    (Fields.required_eq (hfield hmembers.start) (asNat?_ofNat hfits.start)) _).trans ?_
  refine (bind_of_eq_some
    (Fields.required_eq (hfield hmembers.stop) (asNat?_ofNat hfits.stop)) _).trans ?_
  refine (bind_of_eq_some (Fields.orElse_eq (hfield hmembers.groups) hgroups _) _).trans ?_
  refine (bind_of_eq_some (Fields.orElse_eq (hfield hmembers.namedGroups) hnamed _) _).trans ?_
  refine (bind_of_eq_some (hmembers.optional_block hfits) _).trans ?_
  refine (bind_of_eq_some (Fields.orElse_eq (hfield hmembers.recovered) (by rfl) _) _).trans ?_
  show some _ = some m
  rw [hfields]

/-! ### What is written -/

/-- The members of the value that a match is written as, without those for its fields. -/
def fixedMembers (m : MatchInstance) : List (String × Json) :=
  [("text", .str m.text), ("start", .ofNat m.start), ("end", .ofNat m.stop),
      ("groups", .ofList (Json.ofOption .str) m.groups),
      ("named_groups", .ofDict .str m.namedGroups)] ++
    (match m.block with
      | some o => [("block", o.toJson.canonical)]
      | none => []) ++
    [("recovered", .bool m.recovered)]

theorem names_fixedMembers (m : MatchInstance) :
    (m.fixedMembers.map Prod.fst).Sublist fixedNames := by
  unfold fixedMembers
  cases m.block with
  | none =>
      show ["text", "start", "end", "groups", "named_groups", "recovered"].Sublist fixedNames
      decide
  | some o => exact .refl _

theorem mem_fixedNames {e : String × Json} (he : e ∈ m.fixedMembers) : e.1 ∈ fixedNames :=
  (names_fixedMembers m).subset (List.mem_map_of_mem he)

theorem consistsOf_parts (hfree : m.IsFree) :
    ConsistsOf (m.fixedMembers ++ m.fields.entries) m where
  names := by
    rw [List.map_append]
    refine List.nodup_append.mpr ⟨(names_fixedMembers m).nodup (by decide), m.fields.nodup_keys, ?_⟩
    rintro name hfixed _ hfield rfl
    exact hfree name hfield ((names_fixedMembers m).subset hfixed)
  text := by simp [fixedMembers]
  start := by simp [fixedMembers]
  stop := by simp [fixedMembers]
  groups := by simp [fixedMembers]
  namedGroups := by simp [fixedMembers]
  block o ho := by simp [fixedMembers, ho]
  noBlock hnone hname := by
    rw [List.map_append, List.mem_append] at hname
    rcases hname with hfixed | hfield
    · simp [fixedMembers, hnone] at hfixed
    · exact hfree "block" hfield (by decide)
  recovered := by simp [fixedMembers]
  fields := by
    have hfixed : m.fixedMembers.filter (fun e => !fixedNames.contains e.1) = [] :=
      List.filter_eq_nil_iff.mpr fun e he => by simpa using mem_fixedNames he
    have hfields : m.fields.entries.filter (fun e => !fixedNames.contains e.1) = m.fields.entries :=
      List.filter_eq_self.mpr fun e he => by
        simpa using hfree e.1 (List.mem_map_of_mem he)
    rw [List.filter_append, hfixed, hfields, List.nil_append]

/-- The value is made of the parts, with the fields before the block. -/
theorem exists_canonical_toJson (hvalues : ∀ v ∈ m.fields.values, v.IsValue) :
    ∃ members, m.toJson.canonical = .obj (sortMembers members) ∧
      members.Perm (m.fixedMembers ++ m.fields.entries) := by
  have hgroups : (Json.ofList (Json.ofOption .str) m.groups).canonical =
      .ofList (Json.ofOption .str) m.groups :=
    isValue_ofList fun text? _ => by cases text? <;> rfl
  have hnamed : (Json.ofDict .str m.namedGroups).canonical = .ofDict .str m.namedGroups :=
    isValue_ofDict fun _ _ => rfl
  refine ⟨_, by rw [toJson, canonical, canonicalMembers_eq], ?_⟩
  unfold fixedMembers
  simp only [List.map_append, List.map_cons, List.map_nil, map_canonical_entries hvalues,
    hgroups, hnamed, List.append_assoc]
  refine List.Perm.append_left _ ?_
  cases m.block with
  | none => exact List.perm_append_comm
  | some o => exact List.perm_append_comm

/-- A match is read back from the value it is written as. -/
theorem ofJson?_canonical (hfree : m.IsFree) (hvalues : ∀ v ∈ m.fields.values, v.IsValue)
    (hfits : m.Fits) : MatchInstance.ofJson? m.toJson.canonical = some m := by
  obtain ⟨members, hwritten, hperm⟩ := exists_canonical_toJson hvalues
  have hmembers := (consistsOf_parts hfree).perm hperm
  rw [hwritten]
  exact (hmembers.perm (perm_sortMembers hmembers.names)).ofJson? hfits

/-! ### Moves -/

/-- What is done to a match where the results of windows and blocks are put together. -/
inductive Move
  | shift (offset : Nat)
  | into (block : Block)

def moved (m : MatchInstance) : Move → MatchInstance
  | .shift offset => m.shifted offset
  | .into block => m.within block

def movedBy (m : MatchInstance) (moves : List Move) : MatchInstance := moves.foldl moved m

/-- Moves leave the fields as they are. -/
theorem fields_movedBy (m : MatchInstance) (moves : List Move) :
    (m.movedBy moves).fields = m.fields := by
  induction moves generalizing m with
  | nil => rfl
  | cons move rest ih =>
      rw [movedBy, List.foldl_cons]
      exact (ih (m.moved move)).trans (by cases move <;> rfl)

/-- A match whose fields are values under names of their own is read back from what it is written
as, and so it is after any moves that leave its offsets within 64 bits. -/
theorem read_back_moved (hfree : m.IsFree) (hvalues : ∀ v ∈ m.fields.values, v.IsValue) :
    (m.Fits → MatchInstance.ofJson? m.toJson.canonical = some m) ∧
      ∀ moves : List Move, (m.movedBy moves).Fits →
        MatchInstance.ofJson? (m.movedBy moves).toJson.canonical = some (m.movedBy moves) := by
  refine ⟨ofJson?_canonical hfree hvalues, fun moves hfits => ?_⟩
  have hfields := fields_movedBy m moves
  have hfreeMoved : (m.movedBy moves).IsFree := by rwa [IsFree, hfields]
  have hvaluesMoved : ∀ v ∈ (m.movedBy moves).fields.values, v.IsValue := by rwa [hfields]
  exact ofJson?_canonical hfreeMoved hvaluesMoved hfits

/-- A match inside a window, with a group that took nothing and with nested fields. -/
def nestedFields : MatchInstance :=
  { MatchInstance.plain "get_id" 0 6 with
    groups := [some "id", none]
    namedGroups := Dict.ofList [("verb", "get")]
    fields := Dict.ofList
      [("zone", (Json.obj [("to", .arr [.int (-3), .null]), ("at", .float 0.5)]).canonical)] }

theorem read_back_moved_nestedFields :
    let block : Block := ⟨"get_id", "paragraph", ⟨4, 0⟩, ⟨4, 6⟩, 1⟩
    MatchInstance.ofJson?
        (nestedFields.movedBy [.shift 7, .into block, .shift 2]).toJson.canonical =
      some (nestedFields.movedBy [.shift 7, .into block, .shift 2]) := by
  have hfree : nestedFields.IsFree := by
    show ∀ name ∈ ["zone"], name ∉ fixedNames
    decide
  have hvalues : ∀ v ∈ nestedFields.fields.values, v.IsValue :=
    List.forall_mem_singleton.mpr (isValue_canonical _)
  refine (read_back_moved hfree hvalues).2 _ ⟨by decide, by decide, ?_⟩
  rintro o ⟨⟩
  exact ⟨by decide, by decide⟩

end MatchInstance
end AdaptiveRules
