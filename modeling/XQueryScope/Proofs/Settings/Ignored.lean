import XQueryScope.Settings

/-!
# Entries of settings that are ignored

A dialect is read from two entries of a settings value, `implementation` and `version`.  An entry
that is no text, or a text that names nothing, cannot be used (`Unusable`).  What the usable entries
say is `Dialect.namedVendor?` and `Dialect.namedVersion?`; what is not said follows from the
processor (`Vendor.ownVersion`).

The main result is `unusable_entry_ignored`: the dialect is the one that is read when the unusable
entry is taken out, with one exception.  A text that names no version keeps the processor from
bringing its own version along, so for MarkLogic the dialect has version 3.1 with the text and
1.0-ml without it (`misnamed_version_counts`).
-/

namespace XQueryScope

open Json (Value)

/-! ## 1. Taking an entry out -/

namespace Json

variable {key other : String} {v x : Value}

/-- A value without its entry at a key. -/
def without (key : String) : Value → Value
  | .obj fields => .obj (fields.filter fun f => f.1 != key)
  | v => v

/-- A value with another entry at a key that it has. -/
def withField (v : Value) (key : String) (x : Value) : Value :=
  match v with
  | .obj fields => .obj (setField key x fields)
  | v => v

theorem lookup_filter_of_ne (h : other ≠ key) (fields : List (String × Value)) :
    (fields.filter fun f => f.1 != key).lookup other = fields.lookup other := by
  induction fields with
  | nil => rfl
  | cons f fields ih =>
    by_cases hf : f.1 = key
    · have hother : (other == f.1) = false := by simp [hf, h]
      rw [List.filter_cons_of_neg (by simp [hf]), ih, List.lookup_cons, hother]
    · rw [List.filter_cons_of_pos (by simp [hf]), List.lookup_cons, List.lookup_cons, ih]

theorem lookup_setField (key : String) (x : Value) (fields : List (String × Value)) :
    (setField key x fields).lookup key = some x := by
  induction fields with
  | nil => simp [setField]
  | cons f fields ih =>
    rw [setField]
    split
    · rename_i hf
      simp [beq_iff_eq.mp hf]
    · rename_i hf
      have hkey : (key == f.1) = false := by
        rw [beq_eq_false_iff_ne]
        rintro rfl
        exact hf BEq.rfl
      rw [List.lookup_cons, hkey, ih]

theorem field?_without_self (key : String) (v : Value) : (v.without key).field? key = none := by
  cases v with
  | obj fields =>
    rw [without, field?, List.lookup_eq_none_iff]
    intro f hf
    have hne := (List.mem_filter.mp hf).2
    rwa [bne_comm] at hne
  | _ => rfl

theorem field?_without_of_ne (h : other ≠ key) (v : Value) :
    (v.without key).field? other = v.field? other := by
  cases v with
  | obj fields => exact lookup_filter_of_ne h fields
  | _ => rfl

theorem field?_withField {y : Value} (h : v.field? key = some y) :
    (v.withField key x).field? key = some x := by
  cases v with
  | obj fields => exact lookup_setField key x fields
  | _ => cases h

theorem textField?_without_self (key : String) (v : Value) :
    (v.without key).textField? key = none := by
  rw [textField?, field?_without_self, Option.bind_none]

theorem textField?_without_of_ne (h : other ≠ key) (v : Value) :
    (v.without key).textField? other = v.textField? other := by
  rw [textField?, textField?, field?_without_of_ne h]

end Json

/-! ## 2. What settings name -/

/-- The version that comes with a processor. -/
def Vendor.ownVersion (vendor : Vendor) : Version :=
  if vendor.isMarklogic then .ml10 else .v31

theorem Vendor.ownVersion_eq_v31_iff {vendor : Vendor} :
    vendor.ownVersion = .v31 ↔ ∀ release, vendor ≠ .marklogic release := by
  cases vendor <;> simp [ownVersion, isMarklogic]

namespace Dialect

variable {v : Value} {vendor : Vendor}

/-- The processor that settings name, if they name one. -/
def namedVendor? (v : Value) : Option Vendor :=
  (v.textField? "implementation").bind fun s => (Vendor.parse s).toOption

/-- The version that settings name, if they name one. -/
def namedVersion? (v : Value) : Option Version :=
  (v.textField? "version").bind fun s => (Version.parse s).toOption

/-- Settings have a text where a version should be, and it names none. -/
def MisnamesVersion (v : Value) : Prop :=
  ∃ s e, v.textField? "version" = some s ∧ Version.parse s = .error e

theorem vendorOfSettings_eq : (vendorOfSettings v).1 = (namedVendor? v).getD .w3c := by
  unfold vendorOfSettings namedVendor?
  cases v.textField? "implementation" with
  | none => rfl
  | some s =>
    rw [Option.bind_some]
    cases hs : Vendor.parse s with
    | ok vendor => simp [hs, Except.toOption]
    | error e => simp [hs, Except.toOption]

theorem versionOfSettings_of_misnamed (h : MisnamesVersion v) :
    (versionOfSettings v vendor).1 = .v31 := by
  obtain ⟨s, e, htext, hs⟩ := h
  simp [versionOfSettings, htext, hs]

theorem versionOfSettings_eq (h : ¬ MisnamesVersion v) :
    (versionOfSettings v vendor).1 = (namedVersion? v).getD vendor.ownVersion := by
  unfold versionOfSettings namedVersion?
  cases htext : v.textField? "version" with
  | none => rfl
  | some s =>
    rw [Option.bind_some]
    cases hs : Version.parse s with
    | ok version => simp [hs, Except.toOption]
    | error e => exact absurd ⟨s, e, htext, hs⟩ h

/-- **The dialect that settings describe**, as far as their texts name what they should. -/
theorem ofSettings_eq (h : ¬ MisnamesVersion v) : (ofSettings v).1 =
    ⟨(namedVersion? v).getD ((namedVendor? v).getD .w3c).ownVersion,
      (namedVendor? v).getD .w3c⟩ := by
  rw [← vendorOfSettings_eq, ← versionOfSettings_eq h]
  rfl

/-- A text that names no version leaves the standard version, whatever the processor. -/
theorem ofSettings_of_misnamed (h : MisnamesVersion v) :
    (ofSettings v).1 = ⟨.v31, (namedVendor? v).getD .w3c⟩ := by
  rw [← vendorOfSettings_eq, ← versionOfSettings_of_misnamed h]
  rfl

/-- Only the two texts count. -/
theorem ofSettings_congr {w : Value} (hvendor : namedVendor? v = namedVendor? w)
    (hversion : v.textField? "version" = w.textField? "version") :
    (ofSettings v).1 = (ofSettings w).1 := by
  have hnamed : namedVersion? v = namedVersion? w := by rw [namedVersion?, namedVersion?, hversion]
  have hmisnamed : MisnamesVersion v ↔ MisnamesVersion w := by
    rw [MisnamesVersion, MisnamesVersion, hversion]
  by_cases h : MisnamesVersion v
  · rw [ofSettings_of_misnamed h, ofSettings_of_misnamed (hmisnamed.mp h), hvendor]
  · rw [ofSettings_eq h, ofSettings_eq (mt hmisnamed.mpr h), hvendor, hnamed]

end Dialect

/-! ## 3. Entries that cannot be used -/

/-- The two entries that a dialect is read from. -/
inductive DialectEntry where
  | version
  | implementation
deriving DecidableEq

/-- The key of an entry. -/
def DialectEntry.key : DialectEntry → String
  | version => "version"
  | implementation => "implementation"

/-- `x` says nothing as the value of an entry: it is no text, or a text that names nothing. -/
inductive Unusable : DialectEntry → Value → Prop where
  | notText {entry : DialectEntry} {x : Value} : (∀ s, x ≠ .str s) → Unusable entry x
  | noVersion {s : String} {e : DialectError} : Version.parse s = .error e →
      Unusable .version (.str s)
  | noVendor {s : String} {e : DialectError} : Vendor.parse s = .error e →
      Unusable .implementation (.str s)

namespace Dialect

variable {v x : Value}

/-- Settings name MarkLogic as the processor, at some release. -/
def NamesMarklogic (v : Value) : Prop :=
  ∃ release, namedVendor? v = some (.marklogic release)

theorem textField?_of_notText {key : String} (hx : v.field? key = some x) (h : ∀ s, x ≠ .str s) :
    v.textField? key = none := by
  rw [Json.textField?, hx, Option.bind_some]
  cases x with
  | str s => exact absurd rfl (h s)
  | _ => rfl

theorem namedVendor?_of_unusable (hx : v.field? "implementation" = some x)
    (h : Unusable .implementation x) : namedVendor? v = none := by
  cases h with
  | notText hno => rw [namedVendor?, textField?_of_notText hx hno, Option.bind_none]
  | noVendor hs => simp [namedVendor?, Json.textField?, hx, Json.asString?, hs, Except.toOption]

/-- The processor's own version is 3.1 unless settings name MarkLogic. -/
theorem ownVersion_namedVendor?_iff :
    ((namedVendor? v).getD .w3c).ownVersion = .v31 ↔ ¬ NamesMarklogic v := by
  rw [Vendor.ownVersion_eq_v31_iff, NamesMarklogic, not_exists]
  cases namedVendor? v <;> simp

theorem ofSettings_without_version :
    (ofSettings (v.without "version")).1 =
      ⟨((namedVendor? v).getD .w3c).ownVersion, (namedVendor? v).getD .w3c⟩ := by
  have htext := Json.textField?_without_self "version" v
  have hnot : ¬ MisnamesVersion (v.without "version") := by
    rintro ⟨s, e, hs, -⟩
    rw [htext] at hs
    cases hs
  have hvendor : namedVendor? (v.without "version") = namedVendor? v := by
    rw [namedVendor?, namedVendor?, Json.textField?_without_of_ne (by decide)]
  rw [ofSettings_eq hnot, hvendor, namedVersion?, htext]
  rfl

/-- **One entry taken out.**  It makes a difference only for a text that names no version, and then
only next to MarkLogic. -/
theorem ofSettings_without_iff {entry : DialectEntry} (hx : v.field? entry.key = some x)
    (h : Unusable entry x) : (ofSettings v).1 = (ofSettings (v.without entry.key)).1 ↔
      ¬ (entry = .version ∧ MisnamesVersion v ∧ NamesMarklogic v) := by
  cases entry with
  | implementation =>
    have hnone : namedVendor? (v.without "implementation") = none := by
      rw [namedVendor?, Json.textField?_without_self, Option.bind_none]
    have hsame : (ofSettings v).1 = (ofSettings (v.without "implementation")).1 :=
      ofSettings_congr ((namedVendor?_of_unusable hx h).trans hnone.symm)
        (Json.textField?_without_of_ne (by decide) v).symm
    simpa [DialectEntry.key] using hsame
  | version =>
    rw [DialectEntry.key] at hx ⊢
    rw [ofSettings_without_version]
    by_cases hmisnamed : MisnamesVersion v
    · rw [ofSettings_of_misnamed hmisnamed, Dialect.mk.injEq, and_iff_left rfl, eq_comm,
        ownVersion_namedVendor?_iff]
      simp [hmisnamed]
    · -- only a value that is no text is left, and that is read as if it were not there
      have hnone : namedVersion? v = none := by
        cases h with
        | notText hno => rw [namedVersion?, textField?_of_notText hx hno, Option.bind_none]
        | noVersion hs =>
          refine absurd ⟨_, _, ?_, hs⟩ hmisnamed
          rw [Json.textField?, hx]
          rfl
      rw [ofSettings_eq hmisnamed, hnone]
      simp [hmisnamed]

end Dialect

/-! ## 4. Settings of a configuration -/

namespace Config

variable {settings : Value}

/-- The value that the dialect is read from. -/
def dialectSource (settings : Value) : Value :=
  (settings.field? "xquery").getD settings

/-- Settings without an entry of the value that the dialect is read from. -/
def withoutEntry (settings : Value) (entry : DialectEntry) : Value :=
  match settings.field? "xquery" with
  | some x => settings.withField "xquery" (x.without entry.key)
  | none => settings.without entry.key

theorem dialect_ofSettings :
    (ofSettings settings).1.dialect = (Dialect.ofSettings (dialectSource settings)).1 := rfl

theorem dialectSource_withoutEntry (entry : DialectEntry) :
    dialectSource (withoutEntry settings entry) = (dialectSource settings).without entry.key := by
  have hkey : "xquery" ≠ entry.key := by cases entry <;> decide
  unfold withoutEntry dialectSource
  cases hx : settings.field? "xquery" with
  | some x => simp only [Json.field?_withField hx, Option.getD_some]
  | none => simp only [Json.field?_without_of_ne hkey, hx, Option.getD_none]

end Config

/-- **Entries that cannot be used are ignored, but for one.**  Let an entry of settings that a
dialect is read from be no text, or a text that names nothing.  The dialect is the same as with the
entry taken out, unless the entry is a text for the version and the settings name MarkLogic; the
same holds of the dialect of a configuration, which is read from the `xquery` value if there is one.
In the exceptional case the version is 3.1 with the text and 1.0-ml without it. -/
theorem unusable_entry_ignored (entry : DialectEntry) (settings : Value) :
    (∀ x, settings.field? entry.key = some x → Unusable entry x →
      ((Dialect.ofSettings settings).1 = (Dialect.ofSettings (settings.without entry.key)).1 ↔
        ¬ (entry = .version ∧ Dialect.MisnamesVersion settings ∧
          Dialect.NamesMarklogic settings))) ∧
    (∀ x, (Config.dialectSource settings).field? entry.key = some x → Unusable entry x →
      ((Config.ofSettings settings).1.dialect =
          (Config.ofSettings (Config.withoutEntry settings entry)).1.dialect ↔
        ¬ (entry = .version ∧ Dialect.MisnamesVersion (Config.dialectSource settings) ∧
          Dialect.NamesMarklogic (Config.dialectSource settings)))) ∧
    (Dialect.MisnamesVersion settings → Dialect.NamesMarklogic settings →
      (Dialect.ofSettings settings).1.version = .v31 ∧
      (Dialect.ofSettings (settings.without "version")).1.version = .ml10) := by
  refine ⟨fun x hx h => Dialect.ofSettings_without_iff hx h, fun x hx h => ?_, ?_⟩
  · rw [Config.dialect_ofSettings, Config.dialect_ofSettings, Config.dialectSource_withoutEntry]
    exact Dialect.ofSettings_without_iff hx h
  · rintro hmisnamed ⟨release, hvendor⟩
    rw [Dialect.ofSettings_of_misnamed hmisnamed, Dialect.ofSettings_without_version, hvendor]
    exact ⟨rfl, rfl⟩

/-- Settings for MarkLogic with a number where the version should be. -/
def numberedSettings : Value :=
  .obj [("xquery", .obj [("implementation", .str "marklogic/v9"), ("version", Json.nat 3)])]

theorem numberedSettings_dialect :
    (Config.dialectSource numberedSettings).field? "version" = some (Json.nat 3) ∧
    Unusable .version (Json.nat 3) ∧
    (Config.ofSettings numberedSettings).1.dialect =
      (Config.ofSettings (Config.withoutEntry numberedSettings .version)).1.dialect ∧
    (Config.ofSettings numberedSettings).1.dialect = ⟨.ml10, .marklogic 9⟩ := by
  have hfield : (Config.dialectSource numberedSettings).field? "version" = some (Json.nat 3) := rfl
  have hunusable : Unusable .version (Json.nat 3) := .notText (by simp [Json.nat])
  refine ⟨hfield, hunusable, ?_, by decide +kernel⟩
  apply ((unusable_entry_ignored .version numberedSettings).2.1 _ hfield hunusable).mpr
  rintro ⟨-, ⟨s, e, htext, -⟩, -⟩
  cases htext

/-- Settings for MarkLogic with a version that there is not. -/
def misnamedSettings : Value :=
  .obj [("implementation", .str "marklogic/v9"), ("version", .str "2.0")]

/-- **A text that names no version counts**: with `2.0` taken out, MarkLogic brings its own version
along. -/
theorem misnamed_version_counts : misnamedSettings.field? "version" = some (.str "2.0") ∧
    Unusable .version (.str "2.0") ∧
    (Dialect.ofSettings misnamedSettings).1 ≠
      (Dialect.ofSettings (misnamedSettings.without "version")).1 ∧
    (Config.ofSettings misnamedSettings).1.dialect ≠
      (Config.ofSettings (Config.withoutEntry misnamedSettings .version)).1.dialect := by
  have hnone : Version.ofText? (Text.trimmed "2.0") = none := by decide +kernel
  have hparse : Version.parse "2.0" = .error (.unknownVersion (Text.trimmed "2.0")) := by
    rw [Version.parse, hnone]
  exact ⟨rfl, .noVersion hparse, by decide +kernel, by decide +kernel⟩

end XQueryScope
