/-!
# Scripts

A command is a script: a computation that may read files, ask whether a path is there, look at the
clock, and leave notes.  A script does nothing by itself.  `Script.on` runs it in a world that is
given as data; the program runs it in the real one.
-/

namespace XQueryScope

/-- What the clock and the process show at one moment. -/
structure Reading where
  nanoseconds : Nat := 0
  /-- The most memory the process has used, in bytes. -/
  peakBytes : Option Nat := none
deriving DecidableEq, Repr

/-- Something worth a line in the log. -/
inductive Note where
  | warning (text : String)
  /-- A stretch of work came to its end. -/
  | finished (span : String) (nanoseconds : Nat)
  /-- How often resolvers were used, and how often the cache had the answer. -/
  | resolverUse (calls hits : Nat)
deriving DecidableEq, Repr

/-- A computation that looks at the world. -/
inductive Script (α : Type) : Type where
  | done (a : α)
  /-- The text of a file; `none` when it cannot be read as text. -/
  | read (path : String) (next : Option String → Script α)
  | present (path : String) (next : Bool → Script α)
  | clock (next : Reading → Script α)
  | log (note : Note) (next : Script α)

namespace Script

/-- One script after another. -/
def bind {α β : Type} : Script α → (α → Script β) → Script β
  | done a, f => f a
  | read path next, f => read path fun text => (next text).bind f
  | present path next, f => present path fun there => (next there).bind f
  | clock next, f => clock fun reading => (next reading).bind f
  | log note next, f => log note (next.bind f)

instance : Monad Script where
  pure := done
  bind := bind

/-- Reads a file. -/
def readText (path : String) : Script (Option String) := read path done

/-- Asks whether a path is there. -/
def isPresent (path : String) : Script Bool := present path done

/-- Looks at the clock. -/
def now : Script Reading := clock done

/-- Leaves a note. -/
def note (n : Note) : Script Unit := log n (done ())

/-- Leaves notes one after the other. -/
def notes : List Note → Script Unit
  | [] => done ()
  | n :: ns => log n (notes ns)

/-- Notes how long a script took, whatever its result. -/
def timed {α : Type} (span : String) (body : Script α) : Script α := do
  let start ← now
  let a ← body
  let stop ← now
  note (.finished span (stop.nanoseconds - start.nanoseconds))
  pure a

/-- Notes the begin of a script as well as its end. -/
def timedTwice {α : Type} (span : String) (body : Script α) : Script α := do
  note (.finished span 0)
  timed span body

/-- A world given as data. -/
structure World where
  text? : String → Option String
  isPresent : String → Bool
  reading : Reading := {}

/-- What a script comes to in a world, and the notes it leaves. -/
def on {α : Type} (w : World) : Script α → α × List Note
  | done a => (a, [])
  | read path next => (next (w.text? path)).on w
  | present path next => (next (w.isPresent path)).on w
  | clock next => (next w.reading).on w
  | log note next =>
    let (a, notes) := next.on w
    (a, note :: notes)

end Script

end XQueryScope
