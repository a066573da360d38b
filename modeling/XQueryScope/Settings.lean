import XQueryScope.Cache.Recent
import XQueryScope.Dialect
import XQueryScope.Json.Reader
import XQueryScope.Path

/-!
# Settings

A settings value is JSON data.  It may name a processor, a language version, the capacity of the
caches and the files of library modules; the first two may also stand inside an `xquery` object.
What is missing or of the wrong type keeps its default.  A text that names no processor or version
is ignored with a warning.
-/

namespace XQueryScope

open Json (Value)

/-- A setting that was ignored. -/
inductive SettingWarning where
  | implementation (e : DialectError)
  | version (e : DialectError)
deriving DecidableEq, Repr

/-- What is said about a setting that was ignored. -/
def SettingWarning.message : SettingWarning → String
  | implementation e => "Ignoring implementation setting: " ++ e.message
  | version e => "Ignoring version setting: " ++ e.message

/-- The string of a field. -/
def Json.textField? (key : String) (v : Value) : Option String :=
  (v.field? key).bind Json.asString?

namespace Dialect

/-- The processor that settings name, the standard one if they name none. -/
def vendorOfSettings (v : Value) : Vendor × List SettingWarning :=
  match v.textField? "implementation" with
  | none => (.w3c, [])
  | some s =>
    match Vendor.parse s with
    | .ok vendor => (vendor, [])
    | .error e => (.w3c, [.implementation e])

/-- The version that settings name.  If no text is there, it follows from the processor. -/
def versionOfSettings (v : Value) (vendor : Vendor) : Version × List SettingWarning :=
  match v.textField? "version" with
  | none => (if vendor.isMarklogic then .ml10 else .v31, [])
  | some s =>
    match Version.parse s with
    | .ok version => (version, [])
    | .error e => (.v31, [.version e])

/-- The dialect that settings name, and what was ignored. -/
def ofSettings (v : Value) : Dialect × List SettingWarning :=
  let (vendor, ignored) := vendorOfSettings v
  let (version, more) := versionOfSettings v vendor
  (⟨version, vendor⟩, ignored ++ more)

end Dialect

/-- How names are to be resolved. -/
structure Config where
  dialect : Dialect := {}
  /-- How many answers each cache keeps; 0 for no cache. -/
  cacheCapacity : Nat := Recent.defaultCapacity
  /-- The files of the library modules. -/
  modulePaths : List String := []
deriving DecidableEq, Repr

namespace Config

/-- The configuration that settings describe, and what was ignored. -/
def ofSettings (v : Value) : Config × List SettingWarning :=
  let (dialect, ignored) := Dialect.ofSettings ((v.field? "xquery").getD v)
  ({ dialect
     cacheCapacity :=
       ((v.field? "cacheCapacity").bind Json.asNat?).getD Recent.defaultCapacity
     modulePaths :=
       (((v.field? "modules").bind Json.asArray?).getD []).filterMap Json.asString? },
   ignored)

/-- The configuration with relative module files taken from a directory. -/
def relativeTo (c : Config) (dir : String) : Config :=
  { c with modulePaths := c.modulePaths.map (Path.join dir) }

end Config

end XQueryScope
