import AdaptiveRules.Shell

/-!
# Diagnosis

A diagnosis looks at a configuration, its patterns and its store.  What is as it should be is shown at
once; warnings and problems are gathered and shown at the end, warnings first.
-/

namespace AdaptiveRules

/-- What was found out. -/
structure Diagnosis where
  fine : List String
  warnings : List String
  problems : List String

namespace Diagnosis

def append (d e : Diagnosis) : Diagnosis :=
  ⟨d.fine ++ e.fine, d.warnings ++ e.warnings, d.problems ++ e.problems⟩

def ofFine (line : String) : Diagnosis := ⟨[line], [], []⟩

def ofWarning (line : String) : Diagnosis := ⟨[], [line], []⟩

def ofProblem (line : String) : Diagnosis := ⟨[], [], [line]⟩

def ofCatalog (r : Except Problem (List Pattern)) : Diagnosis :=
  match r with
  | .ok [] => ofWarning "Catálogo vazio - nenhum padrão configurado"
  | .ok ps => ofFine ("✓ Catálogo válido (" ++ toString ps.length ++ " padrões)")
  | .error p => ofProblem ("Catálogo inválido: " ++ p.message)

def ofMatching (s : MatchingSettings) : Diagnosis :=
  if s.overlap < s.windowSize then ⟨[], [], []⟩
  else ofWarning ("chunk_overlap (" ++ toString s.overlap ++ ") >= chunk_size (" ++
    toString s.windowSize ++ ") - a sobreposição será reduzida")

def ofLoad (h : StoreHandle) (r : Except Problem (Option Insights)) : Diagnosis :=
  match r with
  | .ok (some s) => ofFine ("✓ Estado aprendido legível (" ++ h.describe ++ ", " ++
      toString s.trained.size ++ " projetos)")
  | .ok none => ofFine ("✓ Store acessível (" ++ h.describe ++ ", vazio)")
  | .error p => ofProblem ("Estado aprendido ilegível: " ++ p.message)

/-- The diagnosis of a store, and what it leaves of what stores keep things in. -/
def ofStore (h : StoreHandle) (now : Instant) (s : Storage) : Diagnosis × Storage :=
  match h.ready s with
  | (.ok (), s) => (ofLoad h (h.load now s), s)
  | (.error p, s) => (ofProblem ("Store indisponível: " ++ p.message), s)

def marked (title mark : String) (lines : List String) : List String :=
  if lines.isEmpty then [] else title :: lines.map ("  " ++ mark ++ " " ++ ·)

/-- The lines after what is fine. -/
def conclusion (d : Diagnosis) : List String :=
  if d.warnings.isEmpty && d.problems.isEmpty then ["✓ Tudo OK! Padrão está pronto para uso."]
  else marked "Avisos:" "⚠" d.warnings ++ marked "Problemas:" "✗" d.problems

def lines (d : Diagnosis) : List String := d.fine ++ [""] ++ d.conclusion

end Diagnosis

/-- Diagnoses a configuration. -/
def Work.diagnose (c : Configuration) : Work Unit := do
  let now := (← get).now
  Work.lines ["Diagnosticando configuração do Padrão...", "", "✓ Configuração carregada"]
  let settings := (Diagnosis.ofCatalog (Catalog.patterns c .none now)).append
    (Diagnosis.ofMatching c.matching)
  let store ←
    if c.learning.enabled then
      Work.withStorage fun s =>
        let (d, s) := Diagnosis.ofStore (.ofSettings c.learning) now s
        (.ok d, s)
    else pure (Diagnosis.ofFine "○ Aprendizado desabilitado no config")
  Work.lines (settings.append store).lines

end AdaptiveRules
