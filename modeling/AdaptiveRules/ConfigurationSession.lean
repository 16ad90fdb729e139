import AdaptiveRules.Configuration
import AdaptiveRules.NumberText
import AdaptiveRules.Prompt

/-!
# Configuring by questions

A session shows a menu of the sections of a configuration, again and again, until the configuration is
saved or left.  Visiting a section asks its questions one after the other, and every answer changes the
setting it is about.  Some sections start with the question whether they are wanted at all, and end
there if not.  A session whose keys run out is cut off.

A session only says what is to be saved; it saves nothing itself.
-/

namespace AdaptiveRules

/-- A question about a setting: what it proposes, given the configuration so far, and what the answer
changes. -/
inductive Question
  | choose (names : List String) (proposed : Configuration → Nat)
      (change : String → Configuration → Configuration)
  | confirm (proposed : Configuration → Bool) (change : Bool → Configuration → Configuration)
  /-- A confirmation without which the section ends. -/
  | require (proposed : Configuration → Bool) (change : Bool → Configuration → Configuration)
  | natural (bits : Nat) (proposed : Configuration → Nat)
      (change : Nat → Configuration → Configuration)
  | number (proposed : Configuration → Float) (change : Float → Configuration → Configuration)
  | text (proposed : Configuration → String) (change : String → Configuration → Configuration)

/-- A section that is asked for. -/
structure Questionnaire where
  title : String
  questions : List Question
  /-- What is shown when all questions are answered. -/
  closing : String
  /-- What is shown when the section is not wanted. -/
  refusal : String

/-- The configuration after an answer, and whether there are more questions. -/
structure Answered where
  configuration : Configuration
  goesOn : Bool

/-- What became of a visit to a section: what was shown, and the configuration with the keys that are
left unless it was cut off. -/
structure Visit where
  shown : String
  outcome : Reply Configuration

inductive ConfigurationSection
  | general
  | matching
  | adaptation
  | learning
  | cache
  deriving DecidableEq

inductive SessionEnd
  | saved (configuration : Configuration)
  | left
  | cutOff

structure SessionResult where
  shown : String
  /-- The sections that were visited, in order. -/
  visited : List ConfigurationSection
  ending : SessionEnd

/-- Puts what was shown and visited before in front of the rest of a session. -/
def SessionResult.after (r : SessionResult) (shown : String) (visited : List ConfigurationSection) :
    SessionResult :=
  { r with shown := shown ++ r.shown, visited := visited ++ r.visited }

namespace Question

/-- Asks a question and takes over the answer. -/
def ask (c : Configuration) (keys : List Key) : Question → Reply Answered
  | choose names proposed change =>
      (Prompt.menu names.length (proposed c) keys).map fun r =>
        (⟨change (names.getD r.1 "") c, true⟩, r.2)
  | confirm proposed change =>
      (Prompt.confirm (proposed c) keys).map fun r => (⟨change r.1 c, true⟩, r.2)
  | require proposed change =>
      (Prompt.confirm (proposed c) keys).map fun r => (⟨change r.1 c, r.1⟩, r.2)
  | natural bits proposed change =>
      (Prompt.enter (proposed c) (NumberText.nat? bits) .empty keys).map fun r =>
        (⟨change r.1 c, true⟩, r.2)
  | number proposed change =>
      (Prompt.enter (proposed c) NumberText.float? .empty keys).map fun r =>
        (⟨change r.1 c, true⟩, r.2)
  | text proposed change =>
      (Prompt.enter (proposed c) some .empty keys).map fun r => (⟨change r.1 c, true⟩, r.2)

theorem length_ask {c : Configuration} {keys rest : List Key} {q : Question} {a : Answered}
    (h : ask c keys q = some (a, rest)) : rest.length < keys.length := by
  cases q <;>
    · simp only [ask, Option.map_eq_some_iff, Prod.mk.injEq] at h
      obtain ⟨r, hr, -, hrest⟩ := h
      subst hrest
      first
        | exact Prompt.length_menu hr
        | exact Prompt.length_confirm hr
        | exact Prompt.length_enter hr

end Question

namespace Questionnaire

/-- Text that is shown between blank lines. -/
def paragraph (text : String) : String := "\n" ++ text ++ "\n\n"

/-- Asks questions in order.  The text is what is shown at the end. -/
def askAll (q : Questionnaire) (c : Configuration) (keys : List Key) :
    List Question → Option (String × Configuration × List Key)
  | [] => some (paragraph q.closing, c, keys)
  | question :: more =>
      match question.ask c keys with
      | none => none
      | some (a, rest) =>
          if a.goesOn then q.askAll a.configuration rest more
          else some (q.refusal ++ "\n\n", a.configuration, rest)

def visit (q : Questionnaire) (c : Configuration) (keys : List Key) : Visit :=
  match q.askAll c keys q.questions with
  | none => ⟨paragraph q.title, none⟩
  | some (text, c, rest) => ⟨paragraph q.title ++ text, some (c, rest)⟩

theorem length_askAll {q : Questionnaire} {c d : Configuration} {keys rest : List Key}
    {questions : List Question} {text : String}
    (h : q.askAll c keys questions = some (text, d, rest)) : rest.length ≤ keys.length := by
  induction questions generalizing c keys with
  | nil =>
      simp only [askAll, Option.some.injEq, Prod.mk.injEq] at h
      simp [h.2.2]
  | cons question more ih =>
      simp only [askAll] at h
      split at h
      · simp at h
      · rename_i a rest' hask
        have hlt := Question.length_ask hask
        split at h
        · have := ih h
          omega
        · simp only [Option.some.injEq, Prod.mk.injEq] at h
          rw [← h.2.2]
          omega

theorem length_visit {q : Questionnaire} {c d : Configuration} {keys rest : List Key}
    (h : (q.visit c keys).outcome = some (d, rest)) : rest.length ≤ keys.length := by
  unfold visit at h
  split at h
  · simp at h
  · rename_i text e rest' hall
    simp only [Option.some.injEq, Prod.mk.injEq] at h
    rw [← h.2]
    exact length_askAll hall

end Questionnaire

namespace ConfigurationSection

def all : List ConfigurationSection := [general, matching, adaptation, learning, cache]

def logLevels : List String := ["error", "warn", "info", "debug", "trace"]

def logFormats : List String := ["text", "json"]

/-- A number that is not a number stays what it is. -/
def clampShare (x : Float) : Float := if x < 0 then 0 else if x > 1 then 1 else x

def generalQuestions : List Question :=
  [.choose logLevels (fun c => (logLevels.idxOf? c.general.logLevel).getD 2)
      fun level c => { c with general.logLevel := level },
    .choose logFormats (fun c => (logFormats.idxOf? c.general.logFormat).getD 0)
      fun format c => { c with general.logFormat := format }]

def matchingQuestions : List Question :=
  [.natural 64 (fun c => c.matching.windowSize)
      fun n c => { c with matching.windowSize := max n 1 },
    .natural 64 (fun c => c.matching.overlap)
      fun n c => { c with matching.overlap := min n (c.matching.windowSize - 1) },
    .natural 32 (fun c => c.matching.retries)
      fun n c => { c with matching.retries := n },
    .natural 64 (fun c => c.matching.maxMatches)
      fun n c => { c with matching.maxMatches := n }]

def adaptationQuestions : List Question :=
  [.require (fun c => c.adaptation.enabled) fun b c => { c with adaptation.enabled := b },
    .natural 64 (fun c => c.adaptation.minSamples)
      fun n c => { c with adaptation.minSamples := n },
    .number (fun c => c.adaptation.successRate)
      fun x c => { c with adaptation.successRate := clampShare x }]

def storeNames : List String := [StoreKind.json.name, StoreKind.sqlite.name]

def storeOfName (name : String) : StoreKind := if name = StoreKind.sqlite.name then .sqlite else .json

def learningQuestions : List Question :=
  [.require (fun c => c.learning.enabled) fun b c => { c with learning.enabled := b },
    .choose storeNames (fun c => (storeNames.idxOf? c.learning.store.name).getD 0)
      fun name c => { c with learning.store := storeOfName name },
    .text (fun c => c.learning.insightsPath) fun s c => { c with learning.insightsPath := s },
    .natural 64 (fun c => c.learning.minGroupSize)
      fun n c => { c with learning.minGroupSize := max n 1 },
    .confirm (fun c => c.learning.useBlocks) fun b c => { c with learning.useBlocks := b }]

def cacheQuestions : List Question :=
  [.require (fun c => c.cache.enabled) fun b c => { c with cache.enabled := b },
    .natural 64 (fun c => c.cache.capacity) fun n c => { c with cache.capacity := n },
    .natural 64 (fun c => c.cache.ttlSeconds) fun n c => { c with cache.ttlSeconds := n }]

def questionnaire : ConfigurationSection → Questionnaire
  | general =>
      ⟨"Configurações Gerais", generalQuestions, "✓ Configurações gerais atualizadas.", ""⟩
  | matching => ⟨"Matching e Recuperação", matchingQuestions, "✓ Matching configurado.", ""⟩
  | adaptation =>
      ⟨"Adaptação", adaptationQuestions, "✓ Adaptação configurada.", "Adaptação desabilitada."⟩
  | learning =>
      ⟨"Aprendizado", learningQuestions, "✓ Aprendizado configurado.", "Aprendizado desabilitado."⟩
  | cache =>
      ⟨"Configuração do Cache", cacheQuestions, "✓ Cache configurado.", "Cache desabilitado."⟩

end ConfigurationSection

namespace ConfigurationSession

/-- An entry of the menu. -/
inductive MenuEntry
  | visit (s : ConfigurationSection)
  | save
  | leave
  deriving DecidableEq

def entries : List MenuEntry :=
  ConfigurationSection.all.map MenuEntry.visit ++ [.save, .leave]

def entryAt (i : Nat) : MenuEntry := entries.getD i .leave

/-- The session from the menu on. -/
def run (c : Configuration) (keys : List Key) : SessionResult :=
  match _ : Prompt.menu entries.length 0 keys with
  | none => ⟨"", [], .cutOff⟩
  | some (i, rest) =>
      match entryAt i with
      | .save => ⟨"", [], .saved c⟩
      | .leave =>
          match _ : Prompt.confirm false rest with
          | none => ⟨"", [], .cutOff⟩
          | some (true, _) => ⟨Questionnaire.paragraph "Saindo sem salvar.", [], .left⟩
          | some (false, rest) => run c rest
      | .visit s =>
          match _ : (s.questionnaire.visit c rest).outcome with
          | none => ⟨(s.questionnaire.visit c rest).shown, [s], .cutOff⟩
          | some (d, rest') =>
              (run d rest').after (s.questionnaire.visit c rest).shown [s]
termination_by keys.length
decreasing_by
  · have := Prompt.length_menu ‹_›
    have := Prompt.length_confirm ‹_›
    omega
  · have := Prompt.length_menu ‹_›
    have := Questionnaire.length_visit ‹_›
    omega

def opening : String := Questionnaire.paragraph "Configuração Interativa do Padrão"

def newConfiguration : String := "Criando nova configuração...\n\n"

end ConfigurationSession
end AdaptiveRules
