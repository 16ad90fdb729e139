import AdaptiveRules.Configuration

/-!
# Summary of a configuration

The main settings in a box, one on a line.  Texts are padded to a width in characters; one that is
longer pushes the border out.
-/

namespace AdaptiveRules
namespace ConfigurationSummary

def padEnd (width : Nat) (s : String) : String :=
  s ++ String.ofList (List.replicate (width - s.length) ' ')

def yesNo (b : Bool) : String := if b then "Sim" else "Não"

def border (left right : String) : String :=
  left ++ String.ofList (List.replicate 41 '─') ++ right

def divider : String := border "├" "┤"

/-- A line with a label and a value that is padded to a width. -/
def line (label : String) (width : Nat) (value : String) (unit : String) : String :=
  "│ " ++ label ++ ": " ++ padEnd width value ++ unit ++ " │"

def heading (title : String) : List String := ["│ " ++ padEnd 39 title ++ " │", divider]

def cacheLines (s : CacheSettings) : List String :=
  line "Habilitado" 27 (yesNo s.enabled) "" ::
    if s.enabled then
      [line "Capacidade" 27 (toString s.capacity) "", line "TTL" 33 (toString s.ttlSeconds) "s"]
    else []

def boxLines (c : Configuration) : List String :=
  [border "┌" "┐"] ++
  heading "Geral" ++
  [line "Log level" 28 c.general.logLevel "", line "Log format" 27 c.general.logFormat "", divider] ++
  heading "Matching" ++
  [line "Janela" 31 (toString c.matching.windowSize) "",
    line "Sobreposição" 25 (toString c.matching.overlap) "",
    line "Tentativas" 27 (toString c.matching.retries) "", divider] ++
  heading "Adaptação" ++
  [line "Habilitada" 27 (yesNo c.adaptation.enabled) "",
    line "Usos mínimos" 25 (toString c.adaptation.minSamples) "", divider] ++
  heading "Aprendizado" ++
  [line "Habilitado" 27 (yesNo c.learning.enabled) "", line "Store" 32 c.learning.store.name "",
    divider] ++
  heading "Cache" ++ cacheLines c.cache ++
  [divider, line "Padrões" 30 (toString c.patterns.length) "", border "└" "┘"]

def text (c : Configuration) : String :=
  "\nResumo da Configuração\n\n" ++ String.join ((boxLines c).map (· ++ "\n")) ++ "\n"

end ConfigurationSummary
end AdaptiveRules
