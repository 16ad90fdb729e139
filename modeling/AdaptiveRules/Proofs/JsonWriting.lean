import AdaptiveRules.JsonDecoding
import AdaptiveRules.Proofs.Dictionaries
import AdaptiveRules.Proofs.JsonReading

/-!
# Documents that are written

A document with whole numbers of at most 64 bits that does not nest too deep is read back as it was
written, except for its floating-point numbers: they are read as whatever their texts are read as.
-/

namespace AdaptiveRules
namespace Json

open JsonParser

variable {f : Float → Float} {depth : Nat} {j : Json}

mutual

/-- Replaces all floating-point numbers. -/
def mapFloats (f : Float → Float) : Json → Json
  | null => null
  | bool b => bool b
  | int n => int n
  | float x => float (f x)
  | str s => str s
  | arr items => arr (mapItems f items)
  | obj members => obj (mapMembers f members)

def mapItems (f : Float → Float) : List Json → List Json
  | [] => []
  | j :: rest => mapFloats f j :: mapItems f rest

def mapMembers (f : Float → Float) : List (String × Json) → List (String × Json)
  | [] => []
  | (k, v) :: rest => (k, mapFloats f v) :: mapMembers f rest

end

mutual

/-- The numbers can be read, floating-point numbers as those that replace them, and the document does
not nest too deep. -/
def Legible (f : Float → Float) (depth : Nat) : Json → Prop
  | null => True
  | bool _ => True
  | int n => 0 ≤ n ∧ n.toNat < UInt64.size
  | float x => WritesNumber (float (f x)) (numberText x).toList
  | str _ => True
  | arr items => 0 < depth ∧ LegibleItems f (depth - 1) items
  | obj members => 0 < depth ∧ LegibleMembers f (depth - 1) members

def LegibleItems (f : Float → Float) (depth : Nat) : List Json → Prop
  | [] => True
  | j :: rest => Legible f depth j ∧ LegibleItems f depth rest

def LegibleMembers (f : Float → Float) (depth : Nat) : List (String × Json) → Prop
  | [] => True
  | (_, v) :: rest => Legible f depth v ∧ LegibleMembers f depth rest

end

theorem mapItems_eq (f : Float → Float) (items : List Json) :
    mapItems f items = items.map (mapFloats f) := by
  induction items with
  | nil => rfl
  | cons j rest ih => rw [mapItems, ih, List.map_cons]

theorem mapMembers_eq (f : Float → Float) (members : List (String × Json)) :
    mapMembers f members = members.map fun m => (m.1, mapFloats f m.2) := by
  induction members with
  | nil => rfl
  | cons m rest ih => rw [mapMembers, ih, List.map_cons]

theorem legibleItems_iff {items : List Json} :
    LegibleItems f depth items ↔ ∀ j ∈ items, Legible f depth j := by
  induction items with
  | nil => simp [LegibleItems]
  | cons j rest ih => rw [LegibleItems, ih, List.forall_mem_cons]

theorem legibleMembers_iff {members : List (String × Json)} :
    LegibleMembers f depth members ↔ ∀ m ∈ members, Legible f depth m.2 := by
  induction members with
  | nil => simp [LegibleMembers]
  | cons m rest ih => rw [LegibleMembers, ih, List.forall_mem_cons]

/-! ### Indented text -/

theorem blanks_indent (level : Nat) : Blanks ('\n' :: (indent level).toList) := by
  intro c hc
  rcases List.mem_cons.mp hc with rfl | hc
  · exact Or.inr (Or.inl rfl)
  · rw [indent, String.toList_ofList] at hc
    exact Or.inl (List.eq_of_mem_replicate hc)

/-- The items, each on its line, and the bracket below them. -/
theorem writesItems_pretty {items : List Json} (level : Nat) (hsome : items ≠ [])
    (hitems : ∀ j ∈ items, ∀ level, Writes depth (j.mapFloats f) (prettyAt level j).toList) :
    WritesItems depth (items.map (mapFloats f))
      ('\n' :: ((",\n".intercalate (prettyItems (level + 1) items)).toList ++
        '\n' :: ((indent level).toList ++ [']']))) := by
  induction items with
  | nil => exact absurd rfl hsome
  | cons j rest ih =>
      have hitem := hitems j List.mem_cons_self (level + 1)
      rw [List.map_cons]
      cases rest with
      | nil =>
          have hlast := WritesItems.last (blanks_indent (level + 1)) hitem (blanks_indent level)
          simpa [prettyItems] using hlast
      | cons k rest =>
          have hmore := WritesItems.more (blanks_indent (level + 1)) hitem blanks_nil
            (ih (List.cons_ne_nil _ _) fun j hj => hitems j (List.mem_cons_of_mem _ hj))
          simpa [prettyItems] using hmore

theorem writesMembers_pretty {members : List (String × Json)} (level : Nat) (hsome : members ≠ [])
    (hmembers : ∀ m ∈ members, ∀ level,
      Writes depth (m.2.mapFloats f) (prettyAt level m.2).toList) :
    WritesMembers depth (members.map fun m => (m.1, mapFloats f m.2))
      ('\n' :: ((",\n".intercalate (prettyMembers (level + 1) members)).toList ++
        '\n' :: ((indent level).toList ++ ['\x7d']))) := by
  have hspace : Blanks [' '] := by
    intro c hc
    exact Or.inl (List.mem_singleton.mp hc)
  induction members with
  | nil => exact absurd rfl hsome
  | cons m rest ih =>
      have hitem := hmembers m List.mem_cons_self (level + 1)
      rw [List.map_cons]
      cases rest with
      | nil =>
          have hlast : WritesMembers depth [(m.1, mapFloats f m.2)] _ :=
            .last (blanks_indent (level + 1)) hspace hitem (blanks_indent level)
          simpa [prettyMembers] using hlast
      | cons k rest =>
          have hmore : WritesMembers depth ((m.1, mapFloats f m.2) :: _) _ :=
            .more (blanks_indent (level + 1)) hspace hitem blanks_nil
              (ih (List.cons_ne_nil _ _) fun j hj => hmembers j (List.mem_cons_of_mem _ hj))
          simpa [prettyMembers] using hmore

theorem toList_toString_nat {n : Int} (hn : 0 ≤ n) :
    (toString n).toList = Nat.toDigits 10 n.toNat := by
  obtain ⟨m, rfl⟩ := Int.eq_ofNat_of_zero_le hn
  exact Nat.toList_repr

/-- A legible document is written. -/
theorem writes_prettyAt (hj : j.Legible f depth) (level : Nat) :
    Writes depth (j.mapFloats f) (prettyAt level j).toList := by
  induction depth using Nat.strong_induction_on generalizing j level with
  | _ depth ih =>
  cases j with
  | null =>
      rw [prettyAt]
      exact .null
  | bool b =>
      rw [prettyAt]
      cases b
      · exact .no
      · exact .yes
  | int n =>
      have hnumber := writesNumber_nat hj.2
      rw [Int.toNat_of_nonneg hj.1] at hnumber
      rw [prettyAt, toList_toString_nat hj.1]
      exact .number hnumber
  | float x =>
      rw [prettyAt]
      exact .number hj
  | str s =>
      rw [prettyAt]
      exact .text s
  | arr items =>
      obtain ⟨hdepth, hitems⟩ := hj
      obtain ⟨depth, rfl⟩ := Nat.exists_eq_add_one.mpr hdepth
      rw [mapFloats, mapItems_eq]
      by_cases hsome : items = []
      · rw [hsome, prettyAt]
        exact .noItems
      · have hwrites := writesItems_pretty level hsome fun j hj level =>
          ih depth (Nat.lt_succ_self _) (legibleItems_iff.mp hitems j hj) level
        have harray := Writes.items hwrites
        rw [prettyAt]
        · simpa using harray
        · exact hsome
  | obj members =>
      obtain ⟨hdepth, hmembers⟩ := hj
      obtain ⟨depth, rfl⟩ := Nat.exists_eq_add_one.mpr hdepth
      rw [mapFloats, mapMembers_eq]
      by_cases hsome : members = []
      · rw [hsome, prettyAt]
        exact .noMembers
      · have hwrites := writesMembers_pretty level hsome fun m hm level =>
          ih depth (Nat.lt_succ_self _) (legibleMembers_iff.mp hmembers m hm) level
        have hobject := Writes.members hwrites
        rw [prettyAt]
        · simpa using hobject
        · exact hsome

/-- A legible document is read back from its indented text. -/
theorem parse?_pretty (hj : j.Legible f depthLimit) :
    Json.parse? j.pretty = some (j.mapFloats f) := parse?_of_writes (writes_prettyAt hj 0)

/-! ### Text without blanks -/

theorem writesItems_compress {items : List Json} (hsome : items ≠ [])
    (hitems : ∀ j ∈ items, Writes depth (j.mapFloats f) (compress j).toList) :
    WritesItems depth (items.map (mapFloats f))
      ((",".intercalate (compressItems items)).toList ++ [']']) := by
  induction items with
  | nil => exact absurd rfl hsome
  | cons j rest ih =>
      have hitem := hitems j List.mem_cons_self
      rw [List.map_cons]
      cases rest with
      | nil => simpa [compressItems] using WritesItems.last blanks_nil hitem blanks_nil
      | cons k rest =>
          have hmore := WritesItems.more blanks_nil hitem blanks_nil
            (ih (List.cons_ne_nil _ _) fun j hj => hitems j (List.mem_cons_of_mem _ hj))
          simpa [compressItems] using hmore

theorem writesMembers_compress {members : List (String × Json)} (hsome : members ≠ [])
    (hmembers : ∀ m ∈ members, Writes depth (m.2.mapFloats f) (compress m.2).toList) :
    WritesMembers depth (members.map fun m => (m.1, mapFloats f m.2))
      ((",".intercalate (compressMembers members)).toList ++ ['\x7d']) := by
  induction members with
  | nil => exact absurd rfl hsome
  | cons m rest ih =>
      have hitem := hmembers m List.mem_cons_self
      rw [List.map_cons]
      cases rest with
      | nil =>
          have hlast : WritesMembers depth [(m.1, mapFloats f m.2)] _ :=
            .last blanks_nil blanks_nil hitem blanks_nil
          simpa [compressMembers] using hlast
      | cons k rest =>
          have hmore : WritesMembers depth ((m.1, mapFloats f m.2) :: _) _ :=
            .more blanks_nil blanks_nil hitem blanks_nil
              (ih (List.cons_ne_nil _ _) fun j hj => hmembers j (List.mem_cons_of_mem _ hj))
          simpa [compressMembers] using hmore

theorem writes_compress (hj : j.Legible f depth) :
    Writes depth (j.mapFloats f) j.compress.toList := by
  induction depth using Nat.strong_induction_on generalizing j with
  | _ depth ih =>
  cases j with
  | arr items =>
      obtain ⟨hdepth, hitems⟩ := hj
      obtain ⟨depth, rfl⟩ := Nat.exists_eq_add_one.mpr hdepth
      rw [mapFloats, mapItems_eq, compress]
      by_cases hsome : items = []
      · rw [hsome]
        exact .noItems
      · have hwrites := writesItems_compress hsome fun j hj =>
          ih depth (Nat.lt_succ_self _) (legibleItems_iff.mp hitems j hj)
        simpa using Writes.items hwrites
  | obj members =>
      obtain ⟨hdepth, hmembers⟩ := hj
      obtain ⟨depth, rfl⟩ := Nat.exists_eq_add_one.mpr hdepth
      rw [mapFloats, mapMembers_eq, compress]
      by_cases hsome : members = []
      · rw [hsome]
        exact .noMembers
      · have hwrites := writesMembers_compress hsome fun m hm =>
          ih depth (Nat.lt_succ_self _) (legibleMembers_iff.mp hmembers m hm)
        simpa using Writes.members hwrites
  -- All else is written as on a line of its own.
  | null => exact writes_prettyAt hj 0
  | bool b => exact writes_prettyAt hj 0
  | int n => exact writes_prettyAt hj 0
  | float x => exact writes_prettyAt hj 0
  | str s => exact writes_prettyAt hj 0

theorem parse?_compress (hj : j.Legible f depthLimit) :
    Json.parse? j.compress = some (j.mapFloats f) := parse?_of_writes (writes_compress hj)

/-! ### Typed data -/

theorem legible_ofStrings {l : List String} (hdepth : 0 < depth) :
    (ofStrings l).Legible f depth := by
  refine ⟨hdepth, legibleItems_iff.mpr fun j hj => ?_⟩
  obtain ⟨s, _, rfl⟩ := List.mem_map.mp hj
  trivial

theorem mapFloats_ofStrings (l : List String) : (ofStrings l).mapFloats f = ofStrings l := by
  rw [ofStrings, mapFloats, mapItems_eq, List.map_map]
  rfl

theorem legible_ofDict {α : Type} {g : α → Json} {d : Dict α} (hdepth : 0 < depth)
    (hvalues : ∀ v ∈ d.values, (g v).Legible f (depth - 1)) : (ofDict g d).Legible f depth := by
  refine ⟨hdepth, legibleMembers_iff.mpr fun m hm => ?_⟩
  obtain ⟨e, he, rfl⟩ := List.mem_map.mp hm
  exact hvalues e.2 (List.mem_map_of_mem he)

theorem mapFloats_ofDict {α : Type} (g : α → Json) (d : Dict α) :
    (ofDict g d).mapFloats f = ofDict (fun v => (g v).mapFloats f) d := by
  rw [ofDict, mapFloats, mapMembers_eq, List.map_map]
  rfl

theorem legible_ofList {α : Type} {g : α → Json} {l : List α} (hdepth : 0 < depth)
    (hitems : ∀ a ∈ l, (g a).Legible f (depth - 1)) : (ofList g l).Legible f depth := by
  refine ⟨hdepth, legibleItems_iff.mpr fun j hj => ?_⟩
  obtain ⟨a, ha, rfl⟩ := List.mem_map.mp hj
  exact hitems a ha

theorem mapFloats_ofList {α : Type} (g : α → Json) (l : List α) :
    (ofList g l).mapFloats f = ofList (fun a => (g a).mapFloats f) l := by
  rw [ofList, mapFloats, mapItems_eq, List.map_map]
  rfl

/-! ### Reading typed data -/

theorem mapM_map_eq_some {α β γ : Type} {g : α → β} {read : β → Option γ} {h : α → γ}
    {l : List α} (hl : ∀ a ∈ l, read (g a) = some (h a)) :
    (l.map g).mapM read = some (l.map h) := by
  induction l with
  | nil => rfl
  | cons a rest ih =>
      rw [List.map_cons, List.mapM_cons, hl a List.mem_cons_self,
        ih fun b hb => hl b (List.mem_cons_of_mem _ hb)]
      rfl

theorem asDict?_ofDict {α : Type} {g : α → Json} {read : Json → Option α} {d : Dict α}
    (hread : ∀ v ∈ d.values, read (g v) = some v) : (ofDict g d).asDict? read = some d := by
  have hmembers : (d.entries.map fun e => (e.1, g e.2)).mapM
      (fun m => (read m.2).map (m.1, ·)) = some (d.entries.map id) :=
    mapM_map_eq_some fun e he => by simp [hread e.2 (List.mem_map_of_mem he)]
  rw [ofDict, asDict?, hmembers, List.map_id, Option.map_some, Dict.ofList_entries]

theorem asList?_ofList {α : Type} {g : α → Json} {read : Json → Option α} {l : List α}
    (hread : ∀ a ∈ l, read (g a) = some a) : (ofList g l).asList? read = some l := by
  have hitems : (l.map g).mapM read = some (l.map id) := mapM_map_eq_some hread
  rw [ofList, asList?, hitems, List.map_id]

end Json
end AdaptiveRules
