import AdaptiveRules.Instant
import AdaptiveRules.MatchInstance

/-!
# Cache of matches

The cache holds at most `capacity` lists of matches, the most recently used first.  Putting or
hitting a key makes it the most recent; the least recent one gives way when there is no room.  With a
time to live, an entry that is older is dropped when it is asked for.
-/

namespace AdaptiveRules

structure CacheEntry where
  key : String
  found : List MatchInstance
  stored : Instant

structure MatchCache where
  entries : List CacheEntry
  capacity : Nat
  ttl : Option Nat
  hits : Nat
  misses : Nat

/-- The share of a part in a total; none of nothing. -/
def shareOf (part total : Nat) : Float :=
  if total = 0 then 0
  else Float.ofScientific part false 0 / Float.ofScientific total false 0

namespace MatchCache

/-- An empty cache; a capacity of zero counts as one.  The time to live is in nanoseconds. -/
def ofCapacity (capacity : Nat) (ttl : Option Nat) : MatchCache :=
  ⟨[], max capacity 1, ttl, 0, 0⟩

def standard : MatchCache := ofCapacity 1000 none

def size (c : MatchCache) : Nat := c.entries.length

def find? (c : MatchCache) (key : String) : Option CacheEntry :=
  c.entries.find? fun e => e.key == key

def without (c : MatchCache) (key : String) : List CacheEntry :=
  c.entries.filter fun e => e.key != key

def isExpired (c : MatchCache) (e : CacheEntry) (now : Instant) : Bool :=
  c.ttl.any fun limit => limit < now.since e.stored

/-- Looks a key up and counts the hit or the miss. -/
def get (c : MatchCache) (key : String) (now : Instant) :
    Option (List MatchInstance) × MatchCache :=
  match c.find? key with
  | none => (none, { c with misses := c.misses + 1 })
  | some e =>
      if c.isExpired e now then
        (none, { c with entries := c.without key, misses := c.misses + 1 })
      else
        (some e.found, { c with entries := e :: c.without key, hits := c.hits + 1 })

def put (c : MatchCache) (key : String) (found : List MatchInstance) (now : Instant) :
    MatchCache :=
  { c with entries := (⟨key, found, now⟩ :: c.without key).take c.capacity }

/-- Drops all entries and keeps the counts. -/
def clear (c : MatchCache) : MatchCache := { c with entries := [] }

def hitRate (c : MatchCache) : Float := shareOf c.hits (c.hits + c.misses)

end MatchCache
end AdaptiveRules
