import XQueryScope.Proofs.Library.Registration
import XQueryScope.Proofs.Text.Blank

/-!
# Location hints

Which modules an import gets, said by rules.  A hint asks for what is left of it without the blanks
around it and without the `./`s in front (`AsksFor`), and names the modules whose location ends with
that (`LibraryModule.Named`).  A namespace's modules are narrowed to those that some hint names, if
there are any (`Registry.Chooses`).

One kind of hint is outside of these rules.  A hint that is nothing but `./`s is not blank, and asks
for nothing; every location ends with nothing, so it picks every module that has a location
(`LibraryModule.matchesHint_iff`).  The main result, `modulesFor_hints`, tells the two cases apart:
without such a hint the choice is by the rules, with one it is by location.  In either case it is
only the set of hints that counts, and a blank hint does not count at all.
-/

namespace XQueryScope

/-! ## 1. What a hint asks for -/

/-- `./`, `k` times. -/
def heres (k : Nat) : List Char :=
  (List.replicate k ['.', '/']).flatten

theorem heres_succ (k : Nat) : heres (k + 1) = '.' :: '/' :: heres k := by
  simp [heres, List.replicate_succ]

/-- All `./`s in front are dropped, and what is left does not start with another one. -/
theorem dropHere_eq_iff {cs rest : List Char} : dropHere cs = rest ↔
    ∃ k, cs = heres k ++ rest ∧ ∀ more, rest ≠ '.' :: '/' :: more := by
  constructor
  · rintro rfl
    fun_induction dropHere cs with
    | case1 cs ih =>
      obtain ⟨k, hcs, hrest⟩ := ih
      refine ⟨k + 1, ?_, hrest⟩
      rw [heres_succ, List.cons_append, List.cons_append, ← hcs]
    | case2 cs hcs => exact ⟨0, rfl, hcs⟩
  · rintro ⟨k, rfl, hrest⟩
    induction k with
    | zero =>
      rw [heres, List.replicate_zero, List.flatten_nil, List.nil_append, dropHere]
      exact hrest
    | succ k ih => rw [heres_succ, List.cons_append, List.cons_append, dropHere, ih]

/-- `rest` is what a location has to end with to be named by `hint`. -/
inductive AsksFor (hint : String) (rest : List Char) : Prop where
  | intro {k : Nat} : Text.Strips hint.toList (heres k ++ rest) →
      (∀ more, rest ≠ '.' :: '/' :: more) → AsksFor hint rest

/-- `hint` is nothing but `./`s, at least one of them. -/
def IsHere (hint : String) : Prop :=
  ∃ k, Text.Strips hint.toList (heres (k + 1))

theorem asksFor_iff {hint : String} {rest : List Char} :
    AsksFor hint rest ↔ dropHere (Text.trim hint.toList) = rest := by
  rw [dropHere_eq_iff]
  constructor
  · rintro ⟨hstrips, hrest⟩
    exact ⟨_, Text.trim_eq_iff.mpr hstrips, hrest⟩
  · rintro ⟨k, htrim, hrest⟩
    exact .intro (Text.trim_eq_iff.mp htrim) hrest

theorem isHere_iff {hint : String} :
    IsHere hint ↔ Text.trim hint.toList ≠ [] ∧ AsksFor hint [] := by
  constructor
  · rintro ⟨k, hstrips⟩
    refine ⟨?_, .intro (k := k + 1) (by simpa using hstrips) (by simp)⟩
    rw [Text.trim_eq_iff.mpr hstrips, heres_succ]
    simp
  · rintro ⟨hne, hasks⟩
    cases hasks with
    | @intro k hstrips _ =>
      rw [List.append_nil] at hstrips
      cases k with
      | zero => exact absurd (Text.trim_eq_iff.mpr hstrips) hne
      | succ k => exact ⟨k, hstrips⟩

/-! ## 2. The modules that a hint picks -/

namespace LibraryModule

variable {m : LibraryModule} {hint : String}

/-- `hint` names the module: it asks for something, and the module's location ends with that. -/
inductive Named (m : LibraryModule) (hint : String) : Prop where
  | intro {location : String} {rest : List Char} : m.location = some location →
      AsksFor hint rest → rest ≠ [] → rest <:+ location.toList → Named m hint

theorem named_iff : m.Named hint ↔ m.location.any (fun location =>
    let rest := dropHere (Text.trim hint.toList)
    !rest.isEmpty && rest.isSuffixOf location.toList) = true := by
  simp only [Option.any_eq_true, Bool.and_eq_true, Bool.not_eq_true', List.isEmpty_eq_false_iff,
    List.isSuffixOf_iff_suffix]
  constructor
  · rintro ⟨hlocation, hasks, hne, hends⟩
    cases asksFor_iff.mp hasks
    exact ⟨_, hlocation, hne, hends⟩
  · rintro ⟨location, hlocation, hne, hends⟩
    exact .intro hlocation (asksFor_iff.mpr rfl) hne hends

instance (m : LibraryModule) (hint : String) : Decidable (m.Named hint) :=
  decidable_of_iff _ named_iff.symm

theorem matchesHint_eq_true_iff : m.matchesHint hint = true ↔ ∃ location,
    m.location = some location ∧ Text.trim hint.toList ≠ [] ∧
      ∃ rest, AsksFor hint rest ∧ rest <:+ location.toList := by
  simp only [matchesHint, Option.any_eq_true, Bool.and_eq_true, Bool.not_eq_true',
    List.isEmpty_eq_false_iff, List.isSuffixOf_iff_suffix, asksFor_iff, exists_eq_left']

/-- **A hint picks the modules that it names**, and one that asks for nothing picks all modules with
a location. -/
theorem matchesHint_iff : m.matchesHint hint = true ↔
    m.Named hint ∨ (IsHere hint ∧ ∃ location, m.location = some location) := by
  rw [matchesHint_eq_true_iff, isHere_iff]
  constructor
  · rintro ⟨location, hlocation, hne, rest, hasks, hends⟩
    by_cases hrest : rest = []
    · subst hrest
      exact .inr ⟨⟨hne, hasks⟩, location, hlocation⟩
    · exact .inl (.intro hlocation hasks hrest hends)
  · rintro (⟨hlocation, hasks, hrest, hends⟩ | ⟨⟨hne, hasks⟩, location, hlocation⟩)
    · refine ⟨_, hlocation, ?_, _, hasks, hends⟩
      intro hnone
      rw [asksFor_iff, hnone] at hasks
      exact hrest hasks.symm
    · exact ⟨location, hlocation, hne, [], hasks, List.nil_suffix⟩

theorem matchesHint_of_blank (h : ∀ c ∈ hint.toList, Text.isBlank c = true) :
    m.matchesHint hint = false := by
  have hparts : hint.toList = hint.toList ++ [] ++ [] := by simp
  have hnone : Text.trim hint.toList = [] :=
    Text.trim_eq_iff.mpr (.intro hparts h (by simp) ⟨by simp, by simp⟩)
  rw [← Bool.not_eq_true, matchesHint_eq_true_iff]
  rintro ⟨location, -, hne, -⟩
  exact hne hnone

end LibraryModule

/-! ## 3. The choice of an import -/

namespace Registry

variable {r : Registry} {uri : String} {hints hints' : List String}

/-- What an import gets from the modules `ms`: those with `p` if there are any, else all of them, in
the order of `ms`. -/
inductive Chooses (p : LibraryModule → Prop) (ms : List LibraryModule) :
    List LibraryModule → Prop where
  | some {q : LibraryModule → Bool} : (∀ m, q m = true ↔ p m) → (∃ m ∈ ms, p m) →
      Chooses p ms (ms.filter q)
  | all : (∀ m ∈ ms, ¬ p m) → Chooses p ms ms

/-- Where some module has `p`, none without it is chosen. -/
theorem Chooses.of_mem {p : LibraryModule → Prop} {ms chosen : List LibraryModule}
    {m m' : LibraryModule} (h : Chooses p ms chosen) (hsome : m' ∈ ms) (hp : p m')
    (hm : m ∈ chosen) : p m := by
  cases h with
  | some hq _ => exact (hq m).mp (List.mem_filter.mp hm).2
  | all hnone => exact absurd hp (hnone m' hsome)

theorem chooses_modulesFor {p : LibraryModule → Prop}
    (hp : ∀ m : LibraryModule, (∃ h ∈ hints, m.matchesHint h = true) ↔ p m) :
    Chooses p (r.modulesOf uri) (r.modulesFor uri hints) := by
  have hq : ∀ m : LibraryModule, hints.any m.matchesHint = true ↔ p m := by
    intro m
    rw [List.any_eq_true, hp]
  simp only [modulesFor]
  split
  · rename_i hempty
    refine .all fun m hm hpm => ?_
    rw [List.isEmpty_iff, List.filter_eq_nil_iff] at hempty
    exact hempty m hm ((hq m).mpr hpm)
  · rename_i hnonempty
    rw [List.isEmpty_iff, List.filter_eq_nil_iff] at hnonempty
    refine .some hq ?_
    by_cases hsome : ∃ m ∈ r.modulesOf uri, p m
    · exact hsome
    · exact absurd (fun m hm hqm => hsome ⟨m, hm, (hq m).mp hqm⟩) hnonempty

/-- Only the set of the hints that pick a module counts. -/
theorem modulesFor_congr (h : ∀ m : LibraryModule, (∃ x ∈ hints, m.matchesHint x = true) ↔
    ∃ x ∈ hints', m.matchesHint x = true) : r.modulesFor uri hints = r.modulesFor uri hints' := by
  have hany : ∀ m : LibraryModule, hints.any m.matchesHint = hints'.any m.matchesHint := by
    intro m
    rw [Bool.eq_iff_iff, List.any_eq_true, List.any_eq_true]
    exact h m
  simp only [modulesFor, hany]

theorem modulesOf_run (calls : List Registration) :
    (run {} calls).modulesOf uri = registered calls uri :=
  (Kept.empty.run calls).modulesOf_eq uri

end Registry

/-- **The choice by hints.**  In a registry filled by registrations, let no hint of an import be
nothing but `./`s.  Then the import gets, in the order of the registrations, the modules of its
namespace that some hint names, or all of them if there are none.  With such a hint it gets those
that have a location, or all of them.  Order and repetitions of the hints do not count, and neither
do blank hints. -/
theorem modulesFor_hints (calls : List Registration) (uri : String) (hints : List String) :
    ((∀ h ∈ hints, ¬ IsHere h) →
      Registry.Chooses (fun m => ∃ h ∈ hints, m.Named h) (Registry.registered calls uri)
        ((Registry.run {} calls).modulesFor uri hints)) ∧
    ((∃ h ∈ hints, IsHere h) →
      Registry.Chooses (fun m => ∃ location, m.location = some location)
        (Registry.registered calls uri) ((Registry.run {} calls).modulesFor uri hints)) ∧
    (∀ hints', (∀ h, h ∈ hints' ↔ h ∈ hints) →
      (Registry.run {} calls).modulesFor uri hints' =
        (Registry.run {} calls).modulesFor uri hints) ∧
    ∀ before after blank, hints = before ++ after → (∀ c ∈ blank.toList, Text.isBlank c = true) →
      (Registry.run {} calls).modulesFor uri (before ++ blank :: after) =
        (Registry.run {} calls).modulesFor uri hints := by
  rw [← Registry.modulesOf_run]
  refine ⟨?_, ?_, ?_, ?_⟩
  · intro hnone
    refine Registry.chooses_modulesFor fun m => ?_
    constructor
    · rintro ⟨h, hh, hpicks⟩
      rcases LibraryModule.matchesHint_iff.mp hpicks with hnamed | ⟨hhere, -⟩
      · exact ⟨h, hh, hnamed⟩
      · exact absurd hhere (hnone h hh)
    · rintro ⟨h, hh, hnamed⟩
      exact ⟨h, hh, LibraryModule.matchesHint_iff.mpr (.inl hnamed)⟩
  · rintro ⟨here, hmem, hhere⟩
    refine Registry.chooses_modulesFor fun m => ?_
    constructor
    · rintro ⟨h, -, hpicks⟩
      obtain ⟨location, hlocation, -⟩ := LibraryModule.matchesHint_eq_true_iff.mp hpicks
      exact ⟨location, hlocation⟩
    · intro hlocated
      exact ⟨here, hmem, LibraryModule.matchesHint_iff.mpr (.inr ⟨hhere, hlocated⟩)⟩
  · intro hints' hsame
    refine Registry.modulesFor_congr fun m => ?_
    simp only [hsame]
  · rintro before after blank rfl hblank
    refine Registry.modulesFor_congr fun m => ?_
    constructor
    · rintro ⟨h, hh, hpicks⟩
      rcases List.mem_append.mp hh with hbefore | hrest
      · exact ⟨h, List.mem_append_left after hbefore, hpicks⟩
      rcases List.mem_cons.mp hrest with rfl | hafter
      · rw [LibraryModule.matchesHint_of_blank hblank] at hpicks
        exact absurd hpicks Bool.false_ne_true
      · exact ⟨h, List.mem_append_right before hafter, hpicks⟩
    · rintro ⟨h, hh, hpicks⟩
      refine ⟨h, ?_, hpicks⟩
      rw [List.mem_append] at hh ⊢
      exact hh.imp_right (List.mem_cons_of_mem blank)

/-- A library for `urn:lib` with nothing in it. -/
def emptyLibrary : Tree :=
  (Builder.run {} [.start .libraryModule, .start .moduleDecl, .token .ncName "p",
    .token .uriLiteral "urn:lib", .finish, .finish]).tree

/-- The library registered at two places. -/
def twoPlaces : List Registration :=
  [⟨emptyLibrary, some "/lib/one.xqm"⟩, ⟨emptyLibrary, some "/lib/two.xqm"⟩]

theorem twoPlaces_hints : (∀ h ∈ [" ././two.xqm ", ""], ¬ IsHere h) ∧
    (Registry.run {} twoPlaces).modulesFor "urn:lib" [" ././two.xqm ", ""] =
      [⟨"urn:lib", some "/lib/two.xqm", emptyLibrary⟩] ∧
    Registry.Chooses (fun m => ∃ h ∈ [" ././two.xqm ", ""], m.Named h)
      (Registry.registered twoPlaces "urn:lib")
      ((Registry.run {} twoPlaces).modulesFor "urn:lib" [" ././two.xqm ", ""]) := by
  have hnone : ∀ h ∈ [" ././two.xqm ", ""], ¬ IsHere h := by
    simp only [List.forall_mem_cons, isHere_iff, asksFor_iff]
    decide +kernel
  exact ⟨hnone, by decide +kernel, (modulesFor_hints twoPlaces "urn:lib" _).1 hnone⟩

/-- **`./` widens what another hint picks**: `two.xqm` alone picks the second place, and with `./`
next to it the first one is picked too, which neither of the two names. -/
theorem here_hint_widens :
    (Registry.run {} twoPlaces).modulesFor "urn:lib" ["two.xqm"] =
      [⟨"urn:lib", some "/lib/two.xqm", emptyLibrary⟩] ∧
    (Registry.run {} twoPlaces).modulesFor "urn:lib" ["two.xqm", "./"] =
      [⟨"urn:lib", some "/lib/one.xqm", emptyLibrary⟩,
        ⟨"urn:lib", some "/lib/two.xqm", emptyLibrary⟩] ∧
    ¬ Registry.Chooses (fun m => ∃ h ∈ ["two.xqm", "./"], m.Named h)
      (Registry.registered twoPlaces "urn:lib")
      ((Registry.run {} twoPlaces).modulesFor "urn:lib" ["two.xqm", "./"]) := by
  have hboth : (Registry.run {} twoPlaces).modulesFor "urn:lib" ["two.xqm", "./"] =
      [⟨"urn:lib", some "/lib/one.xqm", emptyLibrary⟩,
        ⟨"urn:lib", some "/lib/two.xqm", emptyLibrary⟩] := by decide +kernel
  refine ⟨by decide +kernel, hboth, ?_⟩
  rw [hboth]
  intro hchooses
  have htwo : (⟨"urn:lib", some "/lib/two.xqm", emptyLibrary⟩ : LibraryModule).Named "two.xqm" := by
    decide +kernel
  obtain ⟨h, hh, hone⟩ := hchooses.of_mem (by decide +kernel)
    ⟨"two.xqm", List.mem_cons_self, htwo⟩ List.mem_cons_self
  rw [List.mem_cons, List.mem_singleton] at hh
  rcases hh with rfl | rfl
  · exact absurd hone (by decide +kernel)
  · exact absurd hone (by decide +kernel)

end XQueryScope
