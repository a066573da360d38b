import XQueryScope.Command.Measure

/-!
# The program

Picks a command by the first argument and runs it.  What the program prints, why it fails and what
it notes on the way are all data; printing them is left to the outside.
-/

namespace XQueryScope

open Json (Value)

/-- The lines of the help text. -/
def usageLines : List String :=
  ["xqstatic 0.1.0, static context resolution for XQuery syntax trees.",
   "",
   "Usage: xqstatic <COMMAND> [OPTIONS]",
   "",
   "Commands:",
   "",
   "query <tree.json> <node-id>      Print the static context at a node as JSON",
   "    --what <section>             all, namespaces, default-element-namespace,",
   "                                 default-function-namespace, variables,",
   "                                 functions, applicable-functions, expand",
   "analysis-stats <tree.json>       Time each resolver over every node",
   "    --csv                        Print results as CSV",
   "    --only <phase>               load, namespaces, defaults, variables, functions",
   "",
   "Shared options:",
   "",
   "--implementation <id>            w3c, marklogic/v6 .. marklogic/v10, basex,",
   "                                 saxon, exist-db",
   "--xquery-version <version>       1.0, 3.0, 3.1, 4.0, 0.9-ml, 1.0-ml",
   "--config <file>                  JSON settings file",
   "--module <file>                  Library module tree (repeatable)",
   "",
   "--version                        Print the version",
   "--help                           Print this help message",
   "",
   "Set XQSTATIC_PERF=1 (or verbose) to log timings.",
   ""]

/-- The help text. -/
def usage : String :=
  String.join (usageLines.map (· ++ "\n"))

/-- What the program prints. -/
inductive Output where
  | nothing
  | text (s : String)
  | report (csv : Bool) (phases : List PhaseReport)

/-- The text that the program prints. -/
def Output.render (f : MeasureFormat) : Output → String
  | nothing => ""
  | text s => s
  | report true phases => csvReport phases f
  | report false phases => tableReport phases f

/-- How a run of the program ends. -/
structure Outcome where
  output : Output := .nothing
  /-- Why it failed, if it did. -/
  failure : Option Chain := none

namespace Outcome

/-- The exit code. -/
def exitCode (o : Outcome) : Nat := if o.failure.isSome then 1 else 0

/-- A run that failed. -/
def failed (chain : Chain) : Outcome := { failure := some chain }

/-- A run whose arguments were refused. -/
def refused (e : ArgError) : Outcome := failed [.note e.message]

/-- A run that came to its end; the use of resolvers is noted. -/
def finished (output : Output) (counters : Counters) : Script Outcome := do
  Script.note (.resolverUse counters.calls counters.hits)
  pure { output }

end Outcome

/-- Runs the program on its arguments. -/
def runProgram : List String → Script Outcome
  | [] => pure { output := .text usage }
  | "query" :: args =>
    match QueryArgs.parse args with
    | .error e => pure (.refused e)
    | .ok a => do
      match ← a.run with
      | .ok (value, counters) => Outcome.finished (.text (Json.pretty value ++ "\n")) counters
      | .error e => pure (.failed e.chain)
  | "analysis-stats" :: args => do
    match ← StatsArgs.parse args with
    | .error e => pure (.refused e)
    | .ok a =>
      match ← a.run with
      | .ok (phases, counters) => Outcome.finished (.report a.csv phases) counters
      | .error e => pure (.failed e.chain)
  | "--version" :: _ => Outcome.finished (.text "xqstatic 0.1.0\n") {}
  | "--help" :: _ => Outcome.finished (.text usage) {}
  | other :: _ => pure (.failed [.note ("Unknown argument: '" ++ other ++ "'")])

/-- Whether the value of the timing switch asks for timing: it does unless it is empty, `0` or
`false` in any case. -/
def asksForTiming (value : String) : Bool :=
  value != "" && value != "0" && String.ofList (value.toList.map Char.toLower) != "false"

/-- How a failure is told: the outermost reason, then what caused it. -/
def failureText : Chain → String
  | [] => "Error\n"
  | [reason] => "Error: " ++ reason.text ++ "\n"
  | [reason, cause] => "Error: " ++ reason.text ++ "\n\nCaused by:\n    " ++ cause.text ++ "\n"
  | reason :: causes =>
    "Error: " ++ reason.text ++ "\n\nCaused by:\n" ++
      String.join (causes.zipIdx.map fun c =>
        padLeft 5 (Text.decimalText c.2) ++ ": " ++ c.1.text ++ "\n")

end XQueryScope
