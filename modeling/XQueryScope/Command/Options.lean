import XQueryScope.Script
import XQueryScope.Settings
import XQueryScope.Tree.Builder
import XQueryScope.Library
import XQueryScope.Tree.Text

/-!
# Options that every command has

The dialect and the library modules may come from a configuration file, from options, or from both;
options override the file, and their modules come after the file's.
-/

namespace XQueryScope

/-! ## 1. Errors -/

/-- Why an argument list is refused. -/
inductive ArgError where
  | needsValue (flag : String)
  | needsSection
  | needsPhase
  | dialect (e : DialectError)
  | unknownSection (text : String)
  | unknownPhase (text : String)
  | unknownFlag (text : String)
  | missingTree
  | missingNode
  | badNode (text : String)
  | tooMany
  | manyPaths
  | noSuchPath (path : String)
deriving DecidableEq, Repr

/-- Why a command fails. -/
inductive CommandError where
  | configFile (path : String)
  | configJson (path : String)
  | treeFile (path : String)
  | namedTree (path : String) (e : TreeError)
  | tree (e : TreeError)
  | noNode (id : NodeId) (count : Nat)
  | moduleFile (path : String)
  | moduleTree (path : String) (e : TreeError)
  | library (path : String) (e : LibraryError)
deriving DecidableEq, Repr

/-- What is said about a command that fails. -/
def CommandError.chain : CommandError → Chain
  | configFile path => [.note ("Failed to read config " ++ path), .file]
  | configJson path => [.note ("Invalid JSON in config " ++ path), .json]
  | treeFile path => [.note ("Failed to read " ++ path), .file]
  | namedTree path e => .note ("Failed to load syntax tree from " ++ path) :: e.chain
  | tree e => e.chain
  | noNode id count =>
    [.note ("Node " ++ nodeLabel id ++ " is not in the tree (" ++ Text.decimalText count ++
      " nodes)")]
  | moduleFile path =>
    [.note ("Failed to load library module " ++ path), .note ("Failed to read module " ++ path),
      .file]
  | moduleTree path e =>
    .note ("Failed to load library module " ++ path) ::
      .note ("Failed to load module " ++ path) :: e.chain
  | library path e => .note ("Failed to load library module " ++ path) :: e.chain

/-! ## 2. Options -/

/-- The options that every command has. -/
structure Options where
  config : Option String := none
  vendor : Option Vendor := none
  version : Option Version := none
  modules : List String := []
deriving DecidableEq, Repr

/-- One of the options that every command has. -/
inductive SharedFlag where
  | config
  | module
  | implementation
  | version
deriving DecidableEq, Repr

/-- The option that an argument is. -/
def SharedFlag.ofText? : String → Option SharedFlag
  | "--config" => some config
  | "--module" => some module
  | "--implementation" => some implementation
  | "--xquery-version" => some version
  | _ => none

/-- Sets an option.  Modules add up, of the others the last one counts. -/
def Options.set (o : Options) (value : String) : SharedFlag → Except ArgError Options
  | .config => .ok { o with config := some value }
  | .module => .ok { o with modules := o.modules ++ [value] }
  | .implementation =>
    match Vendor.parse value with
    | .ok vendor => .ok { o with vendor := some vendor }
    | .error e => .error (.dialect e)
  | .version =>
    match Version.parse value with
    | .ok version => .ok { o with version := some version }
    | .error e => .error (.dialect e)

/-! ## 3. The configuration -/

/-- A script that may fail. -/
abbrev Attempt := ExceptT CommandError Script

/-- Reads a file, or fails. -/
def Attempt.readOr (e : CommandError) (path : String) : Attempt String := do
  match ← (Script.readText path : Script (Option String)) with
  | some text => pure text
  | none => throw e

/-- The configuration that a file holds, its relative module files taken from its directory. -/
def Config.ofFile (path : String) : Attempt Config := do
  let text ← Attempt.readOr (.configFile path) path
  match Json.Value.parse? Json.maxDepth text with
  | none => throw (.configJson path)
  | some v =>
    let (config, ignored) := Config.ofSettings v
    (Script.notes (ignored.map fun w => .warning w.message) : Script Unit)
    pure ((Path.parent? path).elim config config.relativeTo)

/-- A configuration with the options applied.  MarkLogic brings its language version along unless
one is asked for. -/
def Options.override (o : Options) (c : Config) : Config :=
  let vendor := o.vendor.getD c.dialect.vendor
  let implied := if o.vendor.any Vendor.isMarklogic then .ml10 else c.dialect.version
  { c with
    dialect := ⟨o.version.getD implied, vendor⟩
    modulePaths := c.modulePaths ++ o.modules }

/-- The configuration that the options call for. -/
def Options.resolve (o : Options) : Attempt Config := do
  match o.config with
  | some path => pure (o.override (← Config.ofFile path))
  | none => pure (o.override {})

/-! ## 4. Library modules -/

/-- Adds the library module in a file. -/
def Registry.addFile (r : Registry) (path : String) : Attempt Registry := do
  let text ← Attempt.readOr (.moduleFile path) path
  match Tree.ofText text with
  | .error e => throw (.moduleTree path e)
  | .ok tree =>
    match r.register tree (some path) with
    | .ok r => pure r
    | .error e => throw (.library path e)

/-- Adds the library modules in files one after the other. -/
def Registry.addFiles (r : Registry) : List String → Attempt Registry
  | [] => pure r
  | path :: paths => do
    let r ← r.addFile path
    r.addFiles paths

end XQueryScope
