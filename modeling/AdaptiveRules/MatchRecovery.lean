import AdaptiveRules.RulePattern
import AdaptiveRules.TextWindows

/-!
# Recovery from failed matches

What is tried after a failed match depends on the kind of the failure.  After a syntax error the text
rule is relaxed, after an ambiguous match it is made more specific; in all other cases, and where
there is no text rule, the source is matched window by window.  When a window fails, all windows are
tried again at half the size.

A match that touches an edge inside the text which another window overlaps may be cut off there, so
it is dropped: the other window sees it whole.  Of what the windows found only the outermost spans
stay.
-/

namespace AdaptiveRules

structure RecoverySettings where
  windowSize : Nat
  overlap : Nat
  retries : Nat
  deriving DecidableEq

structure RecoveryStats where
  attempts : Nat
  successes : Nat
  deriving DecidableEq

namespace RecoverySettings

def standard : RecoverySettings := ⟨1000, 100, 3⟩

/-- The settings with those that the metadata of a pattern gives; retries are a 32-bit number. -/
def overriddenBy (s : RecoverySettings) (metadata : Dict Json) : RecoverySettings :=
  let given (name : String) : Option Nat := (metadata.get? name).bind (·.asNat? 64)
  { windowSize := (given "chunk_size").getD s.windowSize
    overlap := (given "chunk_overlap").getD s.overlap
    retries := ((given "max_retries").map (· % UInt32.size)).getD s.retries }

end RecoverySettings

namespace MatchRecovery

/-- By start, and of equal starts the longer first. -/
def comesFirst (m n : MatchInstance) : Bool :=
  m.start < n.start || (m.start == n.start && n.stop ≤ m.stop)

/-- Drops every match that ends no later than the last one kept. -/
def dropContained : Option Nat → List MatchInstance → List MatchInstance
  | _, [] => []
  | last, m :: rest =>
      if last.any fun stop => m.stop ≤ stop then dropContained last rest
      else m :: dropContained (some m.stop) rest

/-- The matches that no other one contains, by position. -/
def keepOutermost (found : List MatchInstance) : List MatchInstance :=
  dropContained none (found.mergeSort comesFirst)

/-- Of the matches in a window those that no overlapped edge may have cut, placed in the source. -/
def uncut (window : Window) (before after : Option Window) (found : List MatchInstance) :
    List MatchInstance :=
  let cutLeft := before.any fun w => window.start < w.stop
  let cutRight := after.any fun w => w.start < window.stop
  let whole := found.filter fun m =>
    !(cutLeft && m.start == 0) && !(cutRight && m.stop == window.text.utf8ByteSize)
  whole.map fun m => m.shifted window.start

/-- The matches in the windows that follow a given one, up to the first that fails. -/
def matchWindows (p : RulePattern) : Option Window → List Window → Attempt (List MatchInstance)
  | _, [] => .ok (.ok [])
  | before, w :: rest =>
      match p.matchUnit w.text with
      | .error i => .error i
      | .ok (.error e) => .ok (.error e)
      | .ok (.ok found) =>
          match matchWindows p (some w) rest with
          | .error i => .error i
          | .ok (.error e) => .ok (.error e)
          | .ok (.ok more) => .ok (.ok (uncut w before rest.head? found ++ more))

/-- At most so many attempts, the first with windows of the given size. -/
def attempts (p : RulePattern) (overlap : Nat) (source : String) :
    Nat → Nat → MatchError → Attempt (List MatchInstance)
  | 0, _, last => .ok (.error last)
  | more + 1, size, _ =>
      match matchWindows p none (TextWindows.split source size (min overlap (size - 1))) with
      | .error i => .error i
      | .ok (.ok found) => .ok (.ok (keepOutermost found))
      | .ok (.error e) => attempts p overlap source more (max (size / 2) 1) e

def byWindows (p : RulePattern) (s : RecoverySettings) (source : String) :
    Attempt (List MatchInstance) :=
  attempts p s.overlap source (max s.retries 1) (max s.windowSize 1) ⟨"chunked recovery failed"⟩

def withRule (p : RulePattern) (rule source : String) : Except MatchError (List MatchInstance) :=
  match TextRule.compile rule with
  | .ok compiled => p.matchWith compiled source
  | .error e => .error ⟨e.message⟩

/-- What is found in spite of a failure of the given kind. -/
def recover (p : RulePattern) (s : RecoverySettings) (kind : FailureKind) (source : String) :
    Attempt (List MatchInstance) :=
  if p.textRule.isEmpty then byWindows p s source
  else
    match kind with
    | .syntaxError => .ok (withRule p (TextRule.relaxed p.textRule) source)
    | .ambiguous => .ok (withRule p (TextRule.moreSpecific p.textRule) source)
    | _ => byWindows p s source

end MatchRecovery
end AdaptiveRules
