import AdaptiveRules.ConfigurationSession
import AdaptiveRules.ConfigurationSummary
import AdaptiveRules.Diagnosis
import AdaptiveRules.InsightsExchange
import AdaptiveRules.InsightsReport
import AdaptiveRules.Invocation
import AdaptiveRules.MatchReport
import AdaptiveRules.ProjectFiles
import AdaptiveRules.RuleWriteBack

/-!
# Commands

A command works with the configuration at the path of its invocation, or with the standard one if there
is none that can be read.  Setting up and configuring are the only commands that ask what is at that
path again.
-/

namespace AdaptiveRules
namespace CommandLine

/-! ### Setting up -/

def ignoredEntry : String := ".padrao/"

def ignoreComment : String := "# Padrão - learned state"

/-- A line that ignores the directory of learned state. -/
def ignoresState (line : List Char) : Bool :=
  String.ofList (TextLines.trim line) == ignoredEntry ||
    String.ofList (TextLines.trim line) == ".padrao"

/-- The text of an ignore file with the directory of learned state in it. -/
def withIgnoredState (text : String) : String :=
  let kept := String.ofList (TextLines.trimEnd text.toList)
  (if kept.isEmpty then "" else kept ++ "\n\n") ++ ignoreComment ++ "\n" ++ ignoredEntry ++ "\n"

def updateIgnoreFile (path : String) : Work Unit := do
  if (← get).files.contains path then
    let text ← Work.readText path
    if !(TextLines.lines text.toList).any ignoresState then
      Work.change fun t => t.write path (withIgnoredState text)
      Work.line ".gitignore updated with .padrao/"
  else
    Work.change fun t => t.write path (withIgnoredState "")
    Work.line ".gitignore created with .padrao/"

/-- Makes a directory if nothing is there. -/
def ensureDirectory (path : String) : Work Unit := do
  if !(← get).files.contains path then Work.change fun t => t.makeDirectories path

def setUp (directory : Option String) : Work Unit := do
  let directory := directory.getD "."
  ensureDirectory directory
  let path := FileTree.join directory Invocation.standardPath
  if (← get).files.contains path then
    Work.lines ["Configuration already exists at: " ++ path, "Use 'padrao config' to modify."]
  else
    ensureDirectory (FileTree.join directory ".padrao")
    updateIgnoreFile (FileTree.join directory ".gitignore")
    Configuration.starter.write path
    Work.lines ["Padrão initialized successfully!", "Configuration created at: " ++ path,
      "Data directory: .padrao/", "", "Next steps:",
      "  1. Review the sample patterns in padrao.toml",
      "  2. Learn from a project: padrao learn <dir>",
      "  3. Install what was learned: padrao improve"]

/-! ### Learning -/

/-- Does something unless learning is switched off. -/
def ifLearning (c : Configuration) (work : Work Unit) : Work Unit :=
  if c.learning.enabled then work else Work.line "Aprendizado está desabilitado na configuração."

def reportLines (r : LearnReport) : List String :=
  if r.skipped then ["Projeto já aprendido: " ++ r.project]
  else
    ["Projeto: " ++ r.project, "Arquivos: " ++ toString r.fileCount] ++
      r.patternCounts.entries.map (fun e => "  " ++ e.1 ++ " - " ++ toString e.2 ++ " matches") ++
      ["Variações novas: " ++ toString r.newVariations]

def learn (c : Configuration) (directory : String) (project : Option String) : Work Unit :=
  ifLearning c do
    let files := (← get).files
    if !files.isDirectory directory then
      throw (.configuration ("diretório não encontrado: " ++ directory))
    let place ← Work.ofFiles (files.canonicalPath directory)
    let names ← Work.ofFiles (files.resolve directory)
    let learner ← Work.learner c
    let (r, learner) := learner.learn (project.getD place) (ProjectFiles.collect files names)
    Work.keep learner.close
    match r with
    | .ok report => Work.lines (reportLines report)
    | .error _ => return ()

def improvementLine (l : Learner) (result : String × Bool) : Option String :=
  (l.pattern? result.1).map fun p =>
    if result.2 then "  ✓ " ++ result.1 ++ ": " ++ p.textRule
    else "  - " ++ result.1 ++ ": sem melhoria"

/-- The first name that is not among the results. -/
def firstMissing (names : List String) (results : Dict Bool) : Option String :=
  names.find? fun name => !results.contains name

def improve (c : Configuration) (path : String) (names : List String) (write : Bool) : Work Unit :=
  ifLearning c do
    let learner ← Work.learner c
    let (results, learner) := learner.improve (if names.isEmpty then none else some names)
    Work.keep learner
    Work.lines (results.entries.filterMap (improvementLine learner.learner))
    let w := WriteBack.ofNames c learner.learner results.keys
    Work.lines ((firstMissing names results).toList.map ("Padrão não encontrado: " ++ ·))
    if write ∧ w.written > 0 then
      w.configuration.write path
      Work.line (toString w.written ++ " regra(s) gravada(s) em: " ++ path)
    let files := (← get).files
    Work.keep { learner with storage := { learner.storage with files } }.close

def insights (c : Configuration) : Work Unit := do
  let now := (← get).now
  let known ← Work.withStorage ((StoreHandle.ofSettings c.learning).readReady now)
  match known.filter fun s => !s.isEmpty with
  | some s => Work.line (InsightsReport.text s)
  | none => Work.lines ["Nada aprendido ainda.", "Execute 'padrao learn <dir>' para começar."]

def exportInsights (c : Configuration) (path : String) : Work Unit := do
  let (r, learner) := (← Work.learner c).exportTo path
  Work.keep learner
  let e ← Work.ofExcept r
  Work.lines ["Variações exportadas para: " ++ path,
    "  Padrões: " ++ toString e.variations.size,
    "  Variações: " ++ toString e.totalVariations]

def importInsights (c : Configuration) (path : String) : Work Unit := do
  if !(← get).files.contains path then Work.line ("Arquivo não encontrado: " ++ path)
  else
    let (r, learner) := (← Work.learner c).importFrom path
    Work.keep learner
    let counts ← Work.ofExcept r
    Work.lines ["Importação concluída:", "  Variações importadas: " ++ toString counts.imported,
      "  Variações ignoradas (já existentes): " ++ toString counts.skipped]

/-- Asks for yes or no; no is what is proposed. -/
def confirmed : Work Bool := do
  let s ← get
  match Prompt.confirm false s.keys with
  | some (answer, keys) =>
      set { s with keys }
      return answer
  | none => throw .prompt

def reset (c : Configuration) (yes : Bool) : Work Unit := do
  if !(← if yes then pure true else confirmed) then Work.line "Cancelado."
  else
    let (r, learner) := (← Work.learner c).reset
    Work.keep learner
    Work.ofExcept r
    Work.line ("Estado aprendido apagado (" ++ learner.learner.store.describe ++ ").")

/-! ### Matching -/

/-- The patterns of a name, or all.  It is a problem if there is none of the name. -/
def selected (patterns : List Pattern) (name : Option String) : Except Problem (List Pattern) :=
  match name with
  | none => .ok patterns
  | some name =>
      match patterns.filter fun p => p.name == name with
      | [] => .error (.configuration ("padrão não encontrado: " ++ name))
      | ps => .ok ps

def apply (c : Configuration) (file : String) (name : Option String) : Work Unit := do
  let source ← Work.readText file
  let now := (← get).now
  let context := MatchContext.ofFile file (FileLanguage.ofPath file) .custom
  let patterns ← Work.ofExcept (Catalog.patterns c .none now)
  let patterns ← Work.ofExcept (selected patterns name)
  Work.line (MatchReport.toJson (MatchReport.ofPatterns patterns source context now)).pretty

/-! ### Configuring -/

/-- The configuration to start a session with: what is at the path, or the one to start with. -/
def sessionStart (path : String) : Work Configuration := do
  let files := (← get).files
  if files.contains path then Work.ofExcept (Configuration.read files path)
  else
    Work.text ConfigurationSession.newConfiguration
    return .starter

def configure (path : String) : Work Unit := do
  let files := (← get).files
  if files.contains path then
    Work.text (ConfigurationSummary.text (← Work.ofExcept (Configuration.read files path)))
  Work.text ConfigurationSession.opening
  let c ← sessionStart path
  let r := ConfigurationSession.run c (← get).keys
  Work.text r.shown
  match r.ending with
  | .saved c =>
      c.write path
      Work.text (Questionnaire.paragraph ("✓ Configuração salva em: " ++ path))
  | .left => return ()
  | .cutOff => throw .prompt

def versionLines : List String :=
  ["padrao 0.1.0", "", "Casamento de padrões adaptativo com aprendizado entre projetos",
    "https://github.com/SamoraDC/padrao"]

/-- Carries out a command. -/
def carryOut (c : Configuration) (path : String) : Command → Work Unit
  | .setUp directory => setUp directory
  | .learn directory project => learn c directory project
  | .improve patterns write => improve c path patterns write
  | .apply file pattern => apply c file pattern
  | .insights => insights c
  | .exportTo file => exportInsights c file
  | .importFrom file => importInsights c file
  | .reset yes => reset c yes
  | .configure => configure path
  | .diagnose => Work.diagnose c
  | .version => Work.lines versionLines

def run (i : Invocation) : Work Unit := do
  let c := Configuration.readOrStandard (← get).files i.configurationPath
  carryOut c i.configurationPath i.command

end CommandLine
end AdaptiveRules
