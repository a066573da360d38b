import XQueryScope.Command.Options
import XQueryScope.Proofs.Path
import XQueryScope.Proofs.Settings.Ignored

/-!
# Options over settings

A command starts from the settings in its configuration file, from none without a file
(`Options.StartsFrom`), and its options override them.  Four parties have a say in the version: the
option for it, MarkLogic as the option for the processor, the version that the settings name, and
the processor that is used in the end.  `Options.versionOver` is the word of the first that speaks.

The main result is `options_over_settings`: the run succeeds, and its configuration is the one by
these rules with one exception.  Where the settings name MarkLogic and no version, the version that
MarkLogic brings along is already filled in when the options are looked at, so it stays when an
option puts another processor in MarkLogic's place (`Options.LeavesOwnVersion`,
`replaced_marklogic_stays`).
-/

namespace XQueryScope

open Json (Value)
open Script (World)

/-! ## 1. Runs -/

section Runs

variable {α β : Type} {w : World}

theorem Script.on_bind (x : Script α) (f : α → Script β) : (x.bind f).on w =
    (((f (x.on w).1).on w).1, (x.on w).2 ++ ((f (x.on w).1).on w).2) := by
  induction x with
  | done a => rfl
  | read path next ih => exact ih (w.text? path)
  | present path next ih => exact ih (w.isPresent path)
  | clock next ih => exact ih w.reading
  | log note next ih =>
    rw [bind, on, ih]
    rfl

theorem Script.on_notes (ns : List Note) : (notes ns).on w = ((), ns) := by
  induction ns with
  | nil => rfl
  | cons n ns ih => rw [notes, on, ih]

/-- A script as part of an attempt does not fail. -/
theorem Attempt.on_lift (x : Script α) :
    (liftM x : Attempt α).run.on w = (.ok (x.on w).1, (x.on w).2) := by
  change (Script.bind x fun a => .done (Except.ok a)).on w = _
  rw [Script.on_bind, Script.on, List.append_nil]

theorem Attempt.on_pure (a : α) : (pure a : Attempt α).run.on w = (.ok a, []) := rfl

/-- After an attempt that succeeds, the next one runs; the notes add up. -/
theorem Attempt.on_bind {x : Attempt α} {a : α} {ns : List Note} (h : x.run.on w = (.ok a, ns))
    (f : α → Attempt β) : (x >>= f).run.on w =
      (((f a).run.on w).1, ns ++ ((f a).run.on w).2) := by
  change (Script.bind x.run (ExceptT.bindCont f)).on w = _
  rw [Script.on_bind, h]
  rfl

theorem Attempt.on_readOr {path text : String} (h : w.text? path = some text) (e : CommandError) :
    (Attempt.readOr e path).run.on w = (.ok text, []) := by
  have hread : (Script.readText path).on w = (some text, []) := by
    rw [Script.readText, Script.on, h, Script.on]
  rw [readOr, on_bind (on_lift _), hread]
  rfl

end Runs

/-! ## 2. What options start from -/

/-- The modules that settings list, in order.  Items that are no text do not count. -/
def Config.listedModules (v : Value) : List String :=
  match v.field? "modules" with
  | some (.arr items) => items.filterMap Json.asString?
  | _ => []

/-- `v` holds the settings that options start from in a world: those in the file, or none. -/
inductive Options.StartsFrom (w : World) (o : Options) : Value → Prop where
  | noFile : o.config = none → StartsFrom w o (.obj [])
  | file {path text : String} {v : Value} : o.config = some path → w.text? path = some text →
      Json.Value.parse? Json.maxDepth text = some v → StartsFrom w o v

/-- The configuration that the file of options holds, if `v` is what it says. -/
def Options.startConfig (o : Options) (v : Value) : Config :=
  { (Config.ofSettings v).1 with
    modulePaths := (Config.listedModules v).map (o.config.elim id Path.beside) }

/-- The log lines about settings that are ignored. -/
def Config.ignoredNotes (v : Value) : List Note :=
  (Config.ofSettings v).2.map fun ignored => .warning ignored.message

section Start

variable {w : World} {o : Options} {v : Value} {path text : String}

theorem Config.modulePaths_ofSettings : (Config.ofSettings v).1.modulePaths = listedModules v := by
  unfold ofSettings listedModules
  cases v.field? "modules" with
  | none => rfl
  | some x => cases x <;> rfl

theorem Config.relativeTo_parent? (c : Config) (path : String) :
    (Path.parent? path).elim c c.relativeTo =
      { c with modulePaths := c.modulePaths.map (Path.beside path) } := by
  cases h : Path.parent? path with
  | some dir =>
    rw [Path.beside_of_parent? h]
    rfl
  | none =>
    have hid : Path.beside path = id := by
      funext p
      rw [Path.beside, h]
      rfl
    rw [hid, List.map_id]
    rfl

theorem Config.on_ofFile (htext : w.text? path = some text)
    (hv : Json.Value.parse? Json.maxDepth text = some v) :
    (Config.ofFile path).run.on w =
      (.ok { (ofSettings v).1 with modulePaths := (listedModules v).map (Path.beside path) },
        ignoredNotes v) := by
  rw [ofFile, Attempt.on_bind (Attempt.on_readOr htext _), hv]
  simp only [Attempt.on_bind (Attempt.on_lift _), Script.on_notes, Attempt.on_pure,
    relativeTo_parent?, modulePaths_ofSettings]
  rw [List.nil_append, List.append_nil]
  rfl

/-- **The run of options**: it succeeds, and leaves a note about each setting that is ignored. -/
theorem Options.on_resolve (h : o.StartsFrom w v) :
    o.resolve.run.on w = (.ok (o.override (o.startConfig v)), Config.ignoredNotes v) := by
  cases h with
  | noFile hnone =>
    rw [resolve, startConfig, hnone]
    rfl
  | file hpath htext hv =>
    rw [resolve, startConfig, hpath]
    simp only [Attempt.on_bind (Config.on_ofFile htext hv), Attempt.on_pure]
    rw [List.append_nil]
    rfl

end Start

/-! ## 3. Precedence -/

namespace Options

variable {o : Options} {v : Value}

/-- The processor by precedence: the option's, else the one that the settings name. -/
def vendorOver (o : Options) (source : Value) : Vendor :=
  o.vendor.getD ((Dialect.namedVendor? source).getD .w3c)

/-- The version by precedence: the option's, else MarkLogic's if that is the option for the
processor, else the one that the settings name, else the own version of the processor. -/
def versionOver (o : Options) (source : Value) : Version :=
  o.version.getD (if o.vendor.any Vendor.isMarklogic then .ml10 else
    (Dialect.namedVersion? source).getD (o.vendorOver source).ownVersion)

/-- The settings name MarkLogic and no version, and the options put another processor in its place
without asking for a version. -/
structure LeavesOwnVersion (o : Options) (source : Value) : Prop where
  noVersion : o.version = none
  replaced : ∃ vendor, o.vendor = some vendor ∧ vendor.isMarklogic = false
  unnamed : Dialect.namedVersion? source = none
  marklogic : Dialect.NamesMarklogic source

theorem vendor_override (o : Options) (v : Value) :
    (o.override (o.startConfig v)).dialect.vendor = o.vendorOver (Config.dialectSource v) := by
  rw [vendorOver, ← Dialect.vendorOfSettings_eq]
  rfl

/-- The version that is used.  Its last resort is the processor that the settings name, not the one
that is used. -/
theorem version_override (h : ¬ Dialect.MisnamesVersion (Config.dialectSource v)) :
    (o.override (o.startConfig v)).dialect.version =
      o.version.getD (if o.vendor.any Vendor.isMarklogic then .ml10 else
        (Dialect.namedVersion? (Config.dialectSource v)).getD
          ((Dialect.namedVendor? (Config.dialectSource v)).getD .w3c).ownVersion) := by
  change o.version.getD (if o.vendor.any Vendor.isMarklogic then .ml10 else
    (Dialect.ofSettings (Config.dialectSource v)).1.version) = _
  rw [Dialect.ofSettings_eq h]

theorem version_override_eq (h : ¬ Dialect.MisnamesVersion (Config.dialectSource v))
    (hleaves : ¬ o.LeavesOwnVersion (Config.dialectSource v)) :
    (o.override (o.startConfig v)).dialect.version = o.versionOver (Config.dialectSource v) := by
  rw [version_override h, versionOver]
  cases hversion : o.version with
  | some version => rfl
  | none =>
    cases hnamed : Dialect.namedVersion? (Config.dialectSource v) with
    | some version => rfl
    | none =>
      cases hvendor : o.vendor with
      | none => simp only [vendorOver, hvendor, Option.getD_none]
      | some vendor =>
        cases hother : vendor.isMarklogic with
        | true => simp [hother]
        | false =>
          -- the two processors differ, but both have the standard version as their own
          have hstandard : ¬ Dialect.NamesMarklogic (Config.dialectSource v) := fun hmarklogic =>
            hleaves ⟨hversion, ⟨vendor, hvendor, hother⟩, hnamed, hmarklogic⟩
          rw [Dialect.ownVersion_namedVendor?_iff.mpr hstandard, vendorOver, hvendor,
            Option.getD_some, Vendor.ownVersion, hother]
          rfl

/-- Where MarkLogic is replaced, its version stays; by precedence it should be the standard one. -/
theorem version_override_of_leaves (h : ¬ Dialect.MisnamesVersion (Config.dialectSource v))
    (hleaves : o.LeavesOwnVersion (Config.dialectSource v)) :
    (o.override (o.startConfig v)).dialect.version = .ml10 ∧
      o.versionOver (Config.dialectSource v) = .v31 := by
  obtain ⟨hversion, ⟨vendor, hvendor, hother⟩, hnamed, release, hmarklogic⟩ := hleaves
  constructor
  · have hown : (Vendor.marklogic release).ownVersion = .ml10 := rfl
    simp [version_override h, hversion, hvendor, hnamed, hmarklogic, hown]
  · simp [versionOver, vendorOver, hversion, hvendor, hother, hnamed, Vendor.ownVersion]

end Options

theorem Config.cacheCapacity_ofSettings (v : Value) :
    (∀ n, v.field? "cacheCapacity" = some (Json.nat n) →
      (Config.ofSettings v).1.cacheCapacity = n) ∧
    ((∀ n, v.field? "cacheCapacity" ≠ some (Json.nat n)) →
      (Config.ofSettings v).1.cacheCapacity = Recent.defaultCapacity) := by
  constructor
  · intro n hn
    rw [ofSettings, hn]
    rfl
  · intro hno
    have hnat : (v.field? "cacheCapacity").bind Json.asNat? = none := by
      rw [Option.bind_eq_none_iff]
      intro x hx
      unfold Json.asNat?
      split
      · rename_i n
        exact absurd hx (hno n)
      · rfl
    rw [ofSettings, hnat]
    rfl

/-- **Options take precedence over settings, with one exception.**  Let the settings that options
start from have no text for the version that names none.  The run succeeds.  Its processor is the
one by precedence, and so is its version, unless MarkLogic is replaced without a word about the
version: then 1.0-ml is left where it should be 3.1.  The capacity of the caches is the number in
the settings, or the default if there is none; the modules are those that the settings list, taken
from the directory of the file, and then those of the options.  Where the file's path is a directory
and a name, a relative path is thus put behind the directory, and an absolute one stays. -/
theorem options_over_settings {w : World} {o : Options} {v : Value} (hstart : o.StartsFrom w v)
    (hversion : ¬ Dialect.MisnamesVersion (Config.dialectSource v)) :
    ∃ c, o.resolve.run.on w = (.ok c, Config.ignoredNotes v) ∧
      c.dialect.vendor = o.vendorOver (Config.dialectSource v) ∧
      (¬ o.LeavesOwnVersion (Config.dialectSource v) →
        c.dialect.version = o.versionOver (Config.dialectSource v)) ∧
      (o.LeavesOwnVersion (Config.dialectSource v) →
        c.dialect.version = .ml10 ∧ o.versionOver (Config.dialectSource v) = .v31) ∧
      (∀ n, v.field? "cacheCapacity" = some (Json.nat n) → c.cacheCapacity = n) ∧
      ((∀ n, v.field? "cacheCapacity" ≠ some (Json.nat n)) →
        c.cacheCapacity = Recent.defaultCapacity) ∧
      c.modulePaths =
        (Config.listedModules v).map (o.config.elim id Path.beside) ++ o.modules ∧
      ∀ file front, o.config = some file → Path.Within file front →
        c.modulePaths = ((Config.listedModules v).map fun path =>
          if Path.isAbsolute path then path else front ++ path) ++ o.modules := by
  obtain ⟨hgiven, hdefault⟩ := Config.cacheCapacity_ofSettings v
  refine ⟨_, Options.on_resolve hstart, Options.vendor_override o v,
    Options.version_override_eq hversion, Options.version_override_of_leaves hversion, hgiven,
    hdefault, rfl, ?_⟩
  intro file front hfile hwithin
  change (Config.listedModules v).map (o.config.elim id Path.beside) ++ o.modules = _
  rw [hfile, Option.elim_some, funext hwithin.beside_eq]

/-- A configuration file: `marklogic/v9` without a version, and two modules. -/
def marklogicFile : String :=
  "\x7b\"implementation\":\"marklogic/v9\",\"modules\":[\"a.json\",\"/b.json\"]\x7d"

/-- What the file says. -/
def marklogicSettings : Value :=
  .obj [("implementation", .str "marklogic/v9"), ("modules", .arr [.str "a.json", .str "/b.json"])]

/-- A world where every file has this text. -/
def marklogicWorld : World where
  text? _ := some marklogicFile
  isPresent _ := true

/-- The options `--config etc/q.json --module c.json`, with another option for the processor. -/
def fileOptions (vendor : Option Vendor) : Options where
  config := some "etc/q.json"
  vendor := vendor
  modules := ["c.json"]

theorem fileOptions_start (vendor : Option Vendor) :
    (fileOptions vendor).StartsFrom marklogicWorld marklogicSettings :=
  .file rfl rfl rfl

theorem fileOptions_resolve :
    (fileOptions none).StartsFrom marklogicWorld marklogicSettings ∧
    ¬ Dialect.MisnamesVersion (Config.dialectSource marklogicSettings) ∧
    ∃ c, (fileOptions none).resolve.run.on marklogicWorld = (.ok c, []) ∧
      c.dialect.vendor = .marklogic 9 ∧ c.dialect.version = .ml10 ∧
      c.cacheCapacity = Recent.defaultCapacity ∧
      c.modulePaths = ["etc/a.json", "/b.json", "c.json"] := by
  have hstart := fileOptions_start none
  have hnamed : ¬ Dialect.MisnamesVersion (Config.dialectSource marklogicSettings) := by
    rintro ⟨s, e, htext, -⟩
    cases htext
  have hkept : ¬ (fileOptions none).LeavesOwnVersion (Config.dialectSource marklogicSettings) := by
    rintro ⟨-, ⟨vendor, hvendor, -⟩, -, -⟩
    cases hvendor
  have hwithin : Path.Within ("etc" ++ "/" ++ "q.json") ("etc" ++ "/") :=
    .directory ⟨[], "etc", by decide +kernel, by decide +kernel⟩
      ⟨by decide +kernel, by decide +kernel⟩
  obtain ⟨c, hrun, hvendor, hversion, -, -, hcapacity, -, hmodules⟩ :=
    options_over_settings hstart hnamed
  refine ⟨hstart, hnamed, c, hrun, hvendor.trans ?_, (hversion hkept).trans ?_, hcapacity ?_,
    (hmodules _ _ rfl hwithin).trans ?_⟩
  · decide +kernel
  · decide +kernel
  · rintro n ⟨⟩
  · decide +kernel

/-- **The version of MarkLogic outlives MarkLogic**: with BaseX in its place, 1.0-ml is left. -/
theorem replaced_marklogic_stays :
    (fileOptions (some .basex)).StartsFrom marklogicWorld marklogicSettings ∧
    (Config.dialectSource marklogicSettings).field? "version" = none ∧
    (fileOptions (some .basex)).versionOver (Config.dialectSource marklogicSettings) = .v31 ∧
    ∃ c, (fileOptions (some .basex)).resolve.run.on marklogicWorld = (.ok c, []) ∧
      c.dialect = ⟨.ml10, .basex⟩ := by
  have hstart := fileOptions_start (some .basex)
  refine ⟨hstart, rfl, by decide +kernel, _, Options.on_resolve hstart, ?_⟩
  decide +kernel

end XQueryScope
