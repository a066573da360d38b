import XQueryScope.Text.Blank
import XQueryScope.Text.Numeral

/-!
# Dialects

A dialect is a language version together with the processor that runs the query.  The version
decides which built-in functions exist, the processor which namespaces are bound from the start and
which catalog the built-in functions come from.
-/

namespace XQueryScope

/-! ## 1. Language versions -/

/-- A version of the language; the last two are MarkLogic's own. -/
inductive Version where
  | v10
  | v30
  | v31
  | v40
  | ml09
  | ml10
deriving DecidableEq, Repr

namespace Version

/-- How a version is written. -/
def text : Version → String
  | v10 => "1.0"
  | v30 => "3.0"
  | v31 => "3.1"
  | v40 => "4.0"
  | ml09 => "0.9-ml"
  | ml10 => "1.0-ml"

/-- All versions. -/
def all : List Version :=
  [v10, v30, v31, v40, ml09, ml10]

/-- The place of a version on the line of standard versions: `1.0-ml` has the function library of
3.0 and `0.9-ml` that of 1.0. -/
def level : Version → Nat
  | v10 | ml09 => 10
  | v30 | ml10 => 30
  | v31 => 31
  | v40 => 40

/-- Whether what came with version `since` is there. -/
def supports (v since : Version) : Bool :=
  decide (since.level ≤ v.level)

/-- The version with exactly this text. -/
def ofText? (s : String) : Option Version :=
  all.find? (·.text == s)

end Version

/-! ## 2. Processors -/

/-- A query processor.  MarkLogic is told apart by release. -/
inductive Vendor where
  | w3c
  | marklogic (release : Nat)
  | basex
  | saxon
  | existDb
deriving DecidableEq, Repr

namespace Vendor

/-- The first MarkLogic release told apart. -/
def firstRelease : Nat := 6

/-- The last MarkLogic release told apart. -/
def lastRelease : Nat := 10

/-- MarkLogic at a release, earlier and later ones counting as the first and last known. -/
def marklogicAt (release : Nat) : Vendor :=
  .marklogic (max firstRelease (min release lastRelease))

/-- How a processor is written. -/
def text : Vendor → String
  | w3c => "w3c"
  | marklogic n => "marklogic/v" ++ Text.decimalText n
  | basex => "basex"
  | saxon => "saxon"
  | existDb => "exist-db"

/-- Whether this is MarkLogic, at whatever release. -/
def isMarklogic : Vendor → Bool
  | marklogic _ => true
  | _ => false

end Vendor

/-! ## 3. Reading versions and processors -/

/-- Why a text names no version or processor. -/
inductive DialectError where
  | unknownVersion (text : String)
  | unknownVendor (text : String)
  | badRelease (text : String)
deriving DecidableEq, Repr

/-- What is said of a text that names no version or processor. -/
def DialectError.message : DialectError → String
  | unknownVersion t => "Unknown XQuery version: '" ++ t ++ "'"
  | unknownVendor t => "Unknown XQuery implementation: '" ++ t ++ "'"
  | badRelease t => "Invalid MarkLogic version: '" ++ t ++ "'"

/-- Reads a version, blanks around it aside. -/
def Version.parse (s : String) : Except DialectError Version :=
  match Version.ofText? (Text.trimmed s) with
  | some v => .ok v
  | none => .error (.unknownVersion (Text.trimmed s))

/-- A release number: any number of `v`s, then a numeral below 256. -/
def Vendor.parseRelease? (cs : List Char) : Option Nat :=
  Text.readBelow? 256 (cs.dropWhile (· == 'v'))

/-- Reads the part of a processor's text before the slash; `release` is the part after it. -/
def Vendor.ofParts (name : List Char) (release : Option (List Char)) :
    Except DialectError Vendor :=
  match String.ofList name with
  | "w3c" | "w3" => .ok .w3c
  | "basex" => .ok .basex
  | "saxon" => .ok .saxon
  | "exist-db" | "existdb" => .ok .existDb
  | "marklogic" =>
    match release with
    | none => .ok (.marklogicAt lastRelease)
    | some r =>
      match parseRelease? r with
      | some n => .ok (.marklogicAt n)
      | none => .error (.badRelease (String.ofList r))
  | other => .error (.unknownVendor other)

/-- Reads a processor such as `basex` or `marklogic/v9`: blanks around it and the case of ASCII
letters do not count, and a release counts for MarkLogic only. -/
def Vendor.parse (s : String) : Except DialectError Vendor :=
  let cs := (Text.trim s.toList).map Char.toLower
  match Text.cut? '/' cs with
  | some (name, release) => ofParts name (some release)
  | none => ofParts cs none

/-! ## 4. Dialects -/

/-- A language version and the processor that runs the query. -/
structure Dialect where
  version : Version := .v31
  vendor : Vendor := .w3c
deriving DecidableEq, Repr

namespace Dialect

/-- MarkLogic at a release, in its own language version. -/
def marklogicAt (release : Nat) : Dialect :=
  { version := .ml10, vendor := .marklogicAt release }

/-- The dialect as text. -/
def text (d : Dialect) : String :=
  d.vendor.text ++ " (" ++ d.version.text ++ ")"

end Dialect

end XQueryScope
