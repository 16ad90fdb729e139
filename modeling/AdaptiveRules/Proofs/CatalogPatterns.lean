import AdaptiveRules.Proofs.CatalogAcceptance

/-!
# Patterns of an accepted catalog

Without an engine for queries every pattern of a catalog matches by the text rule of its entry.  The
patterns stand in the order of the entries, with their names and languages, so no two of them share
both.
-/

namespace AdaptiveRules

/-- What patterns are told apart by. -/
def Pattern.identity (p : Pattern) : String × String := (p.name, p.language)

namespace CatalogEntry

/-- A text pattern with the name and the language of the entry. -/
structure Owns (e : CatalogEntry) (p : Pattern) : Prop where
  identity : p.identity = e.identity
  textual : p.core.body.isStructural = false

/-- A pattern as the entry describes it. -/
structure Describes (e : CatalogEntry) (p : Pattern) : Prop extends Owns e p where
  rule : p.textRule = e.rule

theorem Owns.name {e : CatalogEntry} {p : Pattern} (howns : e.Owns p) : p.name = e.name :=
  congrArg Prod.fst howns.identity

theorem map_identity_of_owns {entries : List CatalogEntry} {patterns : List Pattern}
    (howns : List.Forall₂ Owns entries patterns) :
    patterns.map Pattern.identity = entries.map CatalogEntry.identity := by
  induction howns with
  | nil => rfl
  | cons hfirst _ ih => rw [List.map_cons, List.map_cons, hfirst.identity, ih]

theorem exists_owned {entries : List CatalogEntry} {patterns : List Pattern} {e : CatalogEntry}
    (howns : List.Forall₂ Owns entries patterns) (he : e ∈ entries) :
    ∃ p ∈ patterns, e.Owns p := by
  induction howns with
  | nil => cases he
  | cons hfirst _ ih =>
      rcases List.mem_cons.mp he with rfl | he
      · exact ⟨_, List.mem_cons_self, hfirst⟩
      · obtain ⟨p, hp, hown⟩ := ih he
        exact ⟨p, List.mem_cons_of_mem _ hp, hown⟩

theorem textual_of_owns {entries : List CatalogEntry} {patterns : List Pattern} {p : Pattern}
    (howns : List.Forall₂ Owns entries patterns) (hp : p ∈ patterns) :
    p.core.body.isStructural = false := by
  induction howns with
  | nil => cases hp
  | cons hfirst _ ih =>
      rcases List.mem_cons.mp hp with rfl | hp
      · exact hfirst.textual
      · exact ih hp

/-- Without an engine an entry is made into a text pattern. -/
theorem Carries.describes {e : CatalogEntry} {p : Pattern} (hcarries : e.Carries .none p) :
    e.Describes p where
  identity := Prod.ext hcarries.name hcarries.language
  textual := hcarries.structural
  rule := by
    rw [← hcarries.rule]
    show p.core.body.textRule = _
    have htextual := hcarries.structural
    cases hbody : p.core.body with
    | textual rule => rfl
    | structural query learned =>
        rw [hbody] at htextual
        cases htextual

end CatalogEntry

namespace Catalog

variable {c : Configuration} {now : Instant} {patterns : List Pattern}

/-- An accepted catalog describes its patterns, entry by entry. -/
theorem describes_of_patterns (hmade : Catalog.patterns c .none now = .ok patterns) :
    List.Forall₂ CatalogEntry.Describes c.patterns patterns :=
  (accepts_of_patternsFrom hmade).2.imp fun _ _ hcarries => hcarries.describes

theorem owns_of_patterns (hmade : Catalog.patterns c .none now = .ok patterns) :
    List.Forall₂ CatalogEntry.Owns c.patterns patterns :=
  (describes_of_patterns hmade).imp fun _ _ hdescribes => hdescribes.toOwns

theorem nodup_identities (hmade : Catalog.patterns c .none now = .ok patterns) :
    (c.patterns.map CatalogEntry.identity).Nodup := (accepts_of_patternsFrom hmade).1.distinct

end Catalog
end AdaptiveRules
