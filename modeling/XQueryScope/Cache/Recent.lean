/-!
# A cache of recent values

A cache that holds a bounded number of values, most recently written first.  Writing a key moves it
to the front and drops the oldest entry when there is no room; reading changes nothing.
-/

namespace XQueryScope

/-- A bounded cache, most recently written entry first. -/
structure Recent (κ ν : Type) where
  /-- How many entries there may be. -/
  capacity : Nat
  entries : List (κ × ν)
deriving DecidableEq, Repr

namespace Recent

variable {κ ν : Type} [DecidableEq κ]

/-- The capacity of a cache that no one sized. -/
def defaultCapacity : Nat := 4096

/-- An empty cache.  There is room for one entry at least. -/
def empty (capacity : Nat) : Recent κ ν :=
  ⟨max 1 capacity, []⟩

/-- The value of a key. -/
def get? (c : Recent κ ν) (k : κ) : Option ν :=
  (c.entries.find? fun e => e.1 = k).map (·.2)

/-- Writes the value of a key. -/
def insert (c : Recent κ ν) (k : κ) (v : ν) : Recent κ ν :=
  { c with entries := ((k, v) :: c.entries.filter fun e => e.1 ≠ k).take c.capacity }

/-- The value of a key, computed and written if it is not there; and whether it was there. -/
def fetch (c : Recent κ ν) (k : κ) (compute : Unit → ν) : ν × Bool × Recent κ ν :=
  match c.get? k with
  | some v => (v, true, c)
  | none =>
    let v := compute ()
    (v, false, c.insert k v)

/-- The value of a key, computed and written if it is not there. -/
def getOrInsert (c : Recent κ ν) (k : κ) (compute : Unit → ν) : ν × Recent κ ν :=
  let (v, _, kept) := c.fetch k compute
  (v, kept)

/-- Drops every entry whose key passes a test, and counts them. -/
def drop (c : Recent κ ν) (p : κ → Bool) : Nat × Recent κ ν :=
  (c.entries.countP fun e => p e.1, { c with entries := c.entries.filter fun e => !p e.1 })

/-- Drops every entry. -/
def clear (c : Recent κ ν) : Recent κ ν :=
  { c with entries := [] }

/-- Changes the capacity, and drops the oldest entries if there is too little room. -/
def resize (c : Recent κ ν) (capacity : Nat) : Recent κ ν :=
  ⟨max 1 capacity, c.entries.take (max 1 capacity)⟩

/-- How many entries there are. -/
def size (c : Recent κ ν) : Nat := c.entries.length

/-- Whether there is no entry. -/
def isEmpty (c : Recent κ ν) : Bool := c.entries.isEmpty

end Recent

end XQueryScope
