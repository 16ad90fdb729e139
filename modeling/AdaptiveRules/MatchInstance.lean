import AdaptiveRules.JsonDecoding
import AdaptiveRules.TextLines

/-!
# Matches and the blocks they come from

A match is a stretch of a text together with what its groups took.  Its offsets count bytes from the
start of the unit it was found in: a block, or the whole source.  Fields that an extractor adds are
written among the fixed members of its JSON form, so members written later win over those of the
same name.
-/

namespace AdaptiveRules

structure Point where
  row : Nat
  column : Nat
  deriving DecidableEq

/-- A region of a source that rules are tried on first. -/
structure Block where
  content : String
  nodeType : String
  start : Point
  stop : Point
  confidence : Float

structure BlockOrigin where
  nodeType : String
  start : Point
  deriving DecidableEq

structure MatchInstance where
  text : String
  start : Nat
  stop : Nat
  groups : List (Option String)
  namedGroups : Dict String
  fields : Dict Json
  block : Option BlockOrigin
  recovered : Bool

namespace Point

def toJson (p : Point) : Json :=
  .obj [("row", .ofNat p.row), ("column", .ofNat p.column)]

def ofJson? (j : Json) : Option Point := do
  let fs ← j.asRecord? ["row", "column"]
  let row ← fs.required "row" (·.asNat? 64)
  let column ← fs.required "column" (·.asNat? 64)
  return ⟨row, column⟩

end Point

namespace Block

def toJson (b : Block) : Json :=
  .obj [("content", .str b.content), ("start_point", b.start.toJson),
    ("end_point", b.stop.toJson), ("node_type", .str b.nodeType), ("metadata", .obj []),
    ("confidence", .float b.confidence)]

def origin (b : Block) : BlockOrigin := ⟨b.nodeType, b.start⟩

end Block

namespace BlockOrigin

def toJson (o : BlockOrigin) : Json :=
  .obj [("node_type", .str o.nodeType), ("start_point", o.start.toJson)]

def ofJson? (j : Json) : Option BlockOrigin := do
  let fs ← j.asRecord? ["node_type", "start_point"]
  let nodeType ← fs.required "node_type" Json.asString?
  let start ← fs.required "start_point" Point.ofJson?
  return ⟨nodeType, start⟩

end BlockOrigin

namespace MatchInstance

/-- A match without groups. -/
def plain (text : String) (start stop : Nat) : MatchInstance :=
  ⟨text, start, stop, [], .empty, .empty, none, false⟩

def within (m : MatchInstance) (b : Block) : MatchInstance :=
  { m with block := some b.origin }

def shifted (m : MatchInstance) (offset : Nat) : MatchInstance :=
  { m with start := m.start + offset, stop := m.stop + offset }

def addFields (m : MatchInstance) (more : Dict Json) : MatchInstance :=
  { m with fields := more.entries.foldl (fun d e => d.insert e.1 e.2) m.fields }

/-- The names of the fixed members. -/
def fixedNames : List String :=
  ["text", "start", "end", "groups", "named_groups", "block", "recovered"]

def toJson (m : MatchInstance) : Json :=
  .obj ([("text", .str m.text), ("start", .ofNat m.start), ("end", .ofNat m.stop),
      ("groups", .ofList (Json.ofOption Json.str) m.groups),
      ("named_groups", .ofDict .str m.namedGroups)] ++
    m.fields.entries ++
    (match m.block with
      | some o => [("block", o.toJson)]
      | none => []) ++
    [("recovered", .bool m.recovered)])

/-- Reads a match; members that are not fixed become fields. -/
def ofJson? (j : Json) : Option MatchInstance := do
  match j with
  | .obj members =>
      let fs ← (Json.obj members).asRecord? fixedNames
      let text ← fs.required "text" Json.asString?
      let start ← fs.required "start" (·.asNat? 64)
      let stop ← fs.required "end" (·.asNat? 64)
      let groups ← fs.orElse "groups" (Json.asList? (Json.asOption? Json.asString?)) []
      let namedGroups ← fs.orElse "named_groups" (Json.asDict? Json.asString?) .empty
      let block ← fs.optional "block" BlockOrigin.ofJson?
      let recovered ← fs.orElse "recovered" Json.asBool? false
      let others := members.filter fun m => !fixedNames.contains m.1
      return ⟨text, start, stop, groups, namedGroups, Dict.ofList others, block, recovered⟩
  | _ => none

end MatchInstance
end AdaptiveRules
