import AdaptiveRules.PatternDefinition

/-!
# Problems

What can go wrong besides a match: files that cannot be read or written, documents that cannot be
understood, patterns that are not sound, state that cannot be kept.  Every problem has a text.
-/

namespace AdaptiveRules

/-- Why the file system refuses an operation. -/
inductive FileProblem
  | notFound
  | alreadyExists
  | notDirectory
  | isDirectory
  | notText
  deriving DecidableEq

def FileProblem.message : FileProblem → String
  | notFound => "No such file or directory (os error 2)"
  | alreadyExists => "File exists (os error 17)"
  | notDirectory => "Not a directory (os error 20)"
  | isDirectory => "Is a directory (os error 21)"
  | notText => "stream did not contain valid UTF-8"

inductive Problem
  | configuration (message : String)
  | file (problem : FileProblem)
  | tomlUnreadable
  | tomlUnwritable
  | jsonUnreadable
  | pattern (fault : PatternFault)
  | persistence (message : String)
  | database (message : String)
  | prompt

namespace Problem

def message : Problem → String
  | configuration message => "Erro de configuração: " ++ message
  | file problem => "Erro de IO: " ++ problem.message
  | tomlUnreadable => "Erro ao parsear TOML: documento inválido"
  | tomlUnwritable => "Erro ao serializar TOML: valor sem representação"
  | jsonUnreadable => "Erro de JSON: documento inválido"
  | pattern fault => "Padrão inválido: " ++ fault.message
  | persistence message => "Erro de persistência: " ++ message
  | database message => "Erro de SQLite: " ++ message
  | prompt => "Erro de entrada interativa: entrada encerrada"

end Problem
end AdaptiveRules
