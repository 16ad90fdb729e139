import AdaptiveRules.Decimal
import AdaptiveRules.FileLanguage
import AdaptiveRules.MatchInstance
import AdaptiveRules.QueryEngine
import AdaptiveRules.TextRule

/-!
# Definitions of patterns

A pattern is defined by a name, a rule and what is said about them.  The definition is sound if the
name and the rule are not blank, the confidence is a probability, and the rule can be used: as a
query if the engine knows the language, as a regular expression otherwise.  Of several faults the
first in this order is reported.
-/

namespace AdaptiveRules

structure PatternDefinition where
  name : String
  rule : String
  category : String
  purpose : String
  language : String
  confidence : Float
  metadata : Dict Json
  /-- The fields that a match is extended by. -/
  extract : Option (MatchInstance → Option (Dict Json))

inductive PatternFault
  | emptyName
  | emptyRule (name : String)
  | invalidRule (name : String) (error : Regex.RegexError)
  | invalidQuery (name message : String)
  | invalidConfidence (name : String) (confidence : Float)

namespace PatternFault

/-- The text without the complaint about the regular expression. -/
def heading : PatternFault → String
  | emptyName => "padrão sem nome"
  | emptyRule name => "padrão '" ++ name ++ "' tem regra vazia"
  | invalidRule name _ => "padrão '" ++ name ++ "' tem expressão regular inválida: "
  | invalidQuery name message =>
      "padrão '" ++ name ++ "' tem consulta estrutural inválida: " ++ message
  | invalidConfidence name confidence =>
      "padrão '" ++ name ++ "' tem confiança fora de [0, 1]: " ++ Decimal.plain confidence

def message (f : PatternFault) : String :=
  match f with
  | invalidRule _ error => f.heading ++ error.message
  | _ => f.heading

end PatternFault

/-- The way a rule is used.  A query may be helped out by a text rule that was learned. -/
inductive RuleBody
  | textual (rule : TextRule)
  | structural (query : String) (learned : Option TextRule)

namespace RuleBody

def isStructural : RuleBody → Bool
  | textual _ => false
  | structural .. => true

/-- The source of the text rule; empty if there is none. -/
def textRule : RuleBody → String
  | textual rule => rule.source
  | structural _ (some learned) => learned.source
  | structural _ none => ""

/-- The rule itself: the text rule or the query. -/
def source : RuleBody → String
  | textual rule => rule.source
  | structural query _ => query

/-- Puts a text rule in the place of the one there is, or beside the query. -/
def install (rule : TextRule) : RuleBody → RuleBody
  | textual _ => textual rule
  | structural query _ => structural query (some rule)

end RuleBody

namespace PatternDefinition

def ofRule (name rule : String) : PatternDefinition :=
  ⟨name, rule, "", "", FileLanguage.any, 0.8, .empty, none⟩

/-- The confidence lies between zero and one, ends included. -/
def isConfident (d : PatternDefinition) : Bool := 0 ≤ d.confidence && d.confidence ≤ 1

/-- The rule, made ready for use. -/
def body (d : PatternDefinition) (engine : QueryEngine) : Except PatternFault RuleBody :=
  if engine.supports d.language then
    match engine.complaint? d.language d.rule with
    | some message => .error (.invalidQuery d.name message)
    | none => .ok (.structural d.rule none)
  else
    match TextRule.compile d.rule with
    | .ok rule => .ok (.textual rule)
    | .error e => .error (.invalidRule d.name e)

/-- The rule, made ready for use, of a definition without faults. -/
def validate (d : PatternDefinition) (engine : QueryEngine) : Except PatternFault RuleBody :=
  if TextLines.isBlank d.name then .error .emptyName
  else if TextLines.isBlank d.rule then .error (.emptyRule d.name)
  else if !d.isConfident then .error (.invalidConfidence d.name d.confidence)
  else d.body engine

end PatternDefinition
end AdaptiveRules
