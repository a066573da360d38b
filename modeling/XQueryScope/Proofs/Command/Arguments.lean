import XQueryScope.Command.Query
import XQueryScope.Proofs.Text.Numeral

/-!
# Where options stand does not matter

The arguments of the query command are read in groups: an option together with the argument behind
it, whatever that looks like, or a positional argument alone.  An argument list splits into groups
in at most one way (`ArgGroup.written_injective`), and does so whenever it is accepted
(`QueryDraft.exists_written`).

Reading a list of groups is taking them one after the other (`QueryDraft.collect_written`), and what
has been taken is at any time told by the groups alone: the positional arguments in order, the last
value of each option, and all modules (`ArgGroup.gathered`).  One more group is refused for its
value or adds itself to that (`QueryDraft.take_gathered`), hence so does a run
(`QueryDraft.foldlM_take_iff`).  A reordering that leaves the positional arguments and the groups of
each option in order gathers the same, which is `parse_reordered`.
-/

namespace XQueryScope

/-! ## 1. Options and sections as texts -/

/-- How an option is written. -/
def SharedFlag.text : SharedFlag → String
  | config => "--config"
  | module => "--module"
  | implementation => "--implementation"
  | version => "--xquery-version"

/-- How an option of the query command is written. -/
def QueryFlag.text : QueryFlag → String
  | shared flag => flag.text
  | what => "--what"

theorem SharedFlag.ofText?_eq_some_iff {arg : String} {flag : SharedFlag} :
    ofText? arg = some flag ↔ arg = flag.text := by
  constructor
  · intro h
    unfold ofText? at h
    split at h <;> cases h <;> rfl
  · rintro rfl
    cases flag <;> rfl

theorem QueryFlag.ofText?_eq_some_iff {arg : String} {flag : QueryFlag} :
    ofText? arg = some flag ↔ arg = flag.text := by
  unfold ofText?
  cases flag with
  | what =>
    by_cases h : arg = "--what" <;> simp [h, text]
  | shared flag =>
    have hne : flag.text ≠ "--what" := by cases flag <;> decide
    by_cases h : arg = "--what"
    · subst h
      simp [text, Ne.symm hne]
    · simp [h, text, SharedFlag.ofText?_eq_some_iff]

theorem QueryFlag.text_injective {a b : QueryFlag} (h : a.text = b.text) : a = b :=
  Option.some.inj ((ofText?_eq_some_iff.mpr rfl).symm.trans (ofText?_eq_some_iff.mpr h))

theorem Section.ofText?_eq_some_iff {s : String} {what : Section} :
    ofText? s = some what ↔ what.text = s := by
  constructor
  · intro h
    simpa using List.find?_some h
  · rintro rfl
    cases what <;> rfl

/-! ## 2. Groups -/

/-- An argument that is no option, and has no dash in front unless it is one. -/
structure Positional (arg : String) : Prop where
  no_option : ∀ flag : QueryFlag, arg ≠ flag.text
  form : arg = "" ∨ arg = "-" ∨ arg.toList.head? ≠ some '-'

/-- Arguments that belong together. -/
inductive ArgGroup where
  /-- An option and its value, which may look like anything. -/
  | option (flag : QueryFlag) (value : String)
  | positional (arg : String) (h : Positional arg)
deriving DecidableEq

namespace ArgGroup

/-- The arguments of a group. -/
def args : ArgGroup → List String
  | option flag value => [flag.text, value]
  | positional arg _ => [arg]

/-- The argument list that groups make up. -/
def written (gs : List ArgGroup) : List String := gs.flatMap args

/-- The positional argument that a group is. -/
def positional? : ArgGroup → Option String
  | positional arg _ => some arg
  | option _ _ => none

/-- The value that a group gives to an option. -/
def valueFor? (flag : QueryFlag) : ArgGroup → Option String
  | option f value => if f = flag then some value else none
  | positional _ _ => none

/-- The positional arguments, in order. -/
def positionals (gs : List ArgGroup) : List String := gs.filterMap positional?

/-- The values that an option is given, in order. -/
def values (flag : QueryFlag) (gs : List ArgGroup) : List String := gs.filterMap (valueFor? flag)

/-- The value is one that its option can have. -/
def Valid : ArgGroup → Prop
  | option (.shared .implementation) value => ∃ vendor, Vendor.parse value = .ok vendor
  | option (.shared .version) value => ∃ version, Version.parse value = .ok version
  | option .what value => ∃ what : Section, what.text = value
  | _ => True

/-- The groups `hs` are those of `gs` in another order, in which the positional arguments follow
each other as before, and so do the groups with the same option. -/
structure Reorders (gs hs : List ArgGroup) : Prop where
  perm : hs.Perm gs
  positionals_eq : positionals hs = positionals gs
  values_eq : ∀ flag, values flag hs = values flag gs

end ArgGroup

/-! ## 3. Splitting an argument list -/

/-- Two computations in a row end well iff the first does, and the second does on its result. -/
theorem bind_eq_ok_iff {ε α β : Type} {x : Except ε α} {f : α → Except ε β} {b : β} :
    (x >>= f) = .ok b ↔ ∃ a, x = .ok a ∧ f a = .ok b := by
  cases x with
  | error e =>
    constructor
    · rintro ⟨⟩
    · rintro ⟨a, ⟨⟩, -⟩
  | ok a =>
    constructor
    · intro h
      exact ⟨a, rfl, h⟩
    · rintro ⟨a', ⟨⟩, h⟩
      exact h

section Splitting

open ArgGroup

variable {arg : String} {gs hs : List ArgGroup} {d : QueryDraft}

theorem startsWith_dash_iff : arg.startsWith "-" = true ↔ arg.toList.head? = some '-' := by
  rw [String.startsWith_string_iff]
  constructor
  · rintro ⟨rest, h⟩
    rw [← h]
    rfl
  · intro h
    obtain ⟨rest, hrest⟩ := List.head?_eq_some_iff.mp h
    exact ⟨rest, hrest.symm⟩

theorem ofText?_eq_none_iff :
    QueryFlag.ofText? arg = none ↔ ∀ flag : QueryFlag, arg ≠ flag.text := by
  simp [Option.eq_none_iff_forall_ne_some, QueryFlag.ofText?_eq_some_iff]

/-- The positional arguments are those that the reader takes alone. -/
theorem positional_iff : Positional arg ↔
    QueryFlag.ofText? arg = none ∧ ¬ (arg.startsWith "-" && arg != "-") = true := by
  have hform : (arg = "" ∨ arg = "-" ∨ arg.toList.head? ≠ some '-') ↔
      ¬ (arg.startsWith "-" && arg != "-") = true := by
    rw [Bool.and_eq_true, startsWith_dash_iff, bne_iff_ne]
    constructor
    · rintro (rfl | rfl | h) ⟨hhead, hne⟩
      · cases hhead
      · exact hne rfl
      · exact h hhead
    · intro h
      by_cases hdash : arg = "-"
      · exact .inr (.inl hdash)
      · exact .inr (.inr fun hhead => h ⟨hhead, hdash⟩)
  rw [ofText?_eq_none_iff, ← hform]
  exact ⟨fun h => ⟨h.no_option, h.form⟩, fun h => ⟨h.1, h.2⟩⟩

/-- The first argument of a group tells how far it goes, so that no list splits in two ways. -/
theorem ArgGroup.written_injective : ∀ {gs hs : List ArgGroup}, written gs = written hs → gs = hs
  | [], [], _ => rfl
  | [], option _ _ :: _, h | [], positional _ _ :: _, h => by cases h
  | option _ _ :: _, [], h | positional _ _ :: _, [], h => by cases h
  | option f v :: gs, option f' v' :: hs, h => by
    obtain ⟨hf, hrest⟩ := List.cons.inj h
    obtain ⟨hv, hrest⟩ := List.cons.inj hrest
    rw [QueryFlag.text_injective hf, hv, written_injective hrest]
  | option f _ :: _, positional arg ha :: _, h => absurd (List.cons.inj h).1.symm (ha.no_option f)
  | positional arg ha :: _, option f _ :: _, h => absurd (List.cons.inj h).1 (ha.no_option f)
  | positional arg ha :: gs, positional arg' ha' :: hs, h => by
    obtain ⟨rfl, hrest⟩ := List.cons.inj h
    rw [written_injective hrest]

namespace QueryDraft

/-- Takes a group. -/
def take (d : QueryDraft) : ArgGroup → Except ArgError QueryDraft
  | .option flag value => d.set value flag
  | .positional arg _ => .ok { d with positional := d.positional ++ [arg] }

/-- The reader takes groups one after the other. -/
theorem collect_written (d : QueryDraft) (gs : List ArgGroup) :
    d.collect (written gs) = gs.foldlM take d := by
  induction gs generalizing d with
  | nil => rfl
  | cons g gs ih =>
    cases g with
    | option flag value =>
      have hflag : QueryFlag.ofText? flag.text = some flag :=
        QueryFlag.ofText?_eq_some_iff.mpr rfl
      change d.collect (flag.text :: value :: written gs) = _
      rw [collect, hflag, List.foldlM_cons]
      exact congrArg (d.set value flag >>= ·) (funext ih)
    | positional arg ha =>
      obtain ⟨hnone, hplain⟩ := positional_iff.mp ha
      change d.collect (arg :: written gs) = _
      rw [collect, hnone, List.foldlM_cons]
      exact (if_neg hplain).trans (ih _)

/-- What the reader accepts splits into groups. -/
theorem exists_written {args : List String} {d' : QueryDraft} (h : d.collect args = .ok d') :
    ∃ gs, written gs = args := by
  fun_induction collect d args with
  | case1 d => exact ⟨[], rfl⟩
  | case2 d arg flag hflag => cases h
  | case3 d arg flag hflag value rest ih =>
    obtain ⟨d₁, -, hrest⟩ := bind_eq_ok_iff.mp h
    obtain ⟨gs, rfl⟩ := ih d₁ hrest
    exact ⟨.option flag value :: gs, by rw [QueryFlag.ofText?_eq_some_iff.mp hflag]; rfl⟩
  | case4 d arg rest hnone hdash => cases h
  | case5 d arg rest hnone hplain ih =>
    obtain ⟨gs, rfl⟩ := ih h
    exact ⟨.positional arg (positional_iff.mpr ⟨hnone, hplain⟩) :: gs, rfl⟩

end QueryDraft

end Splitting

/-! ## 4. What groups say together -/

section Gathering

open ArgGroup

variable {g : ArgGroup} {gs hs : List ArgGroup} {d : QueryDraft}

/-- What has been seen once groups are taken: the positional arguments and the modules in order,
and of every other option the last value. -/
def ArgGroup.gathered (gs : List ArgGroup) : QueryDraft where
  positional := positionals gs
  what := ((values .what gs).getLast?.bind Section.ofText?).getD .all
  options :=
    { config := (values (.shared .config) gs).getLast?
      vendor := (values (.shared .implementation) gs).getLast?.bind fun s =>
        (Vendor.parse s).toOption
      version := (values (.shared .version) gs).getLast?.bind fun s => (Version.parse s).toOption
      modules := values (.shared .module) gs }

@[simp] theorem ArgGroup.values_append (flag : QueryFlag) (gs hs : List ArgGroup) :
    values flag (gs ++ hs) = values flag gs ++ values flag hs :=
  List.filterMap_append

@[simp] theorem ArgGroup.positionals_append (gs hs : List ArgGroup) :
    positionals (gs ++ hs) = positionals gs ++ positionals hs :=
  List.filterMap_append

@[simp] theorem ArgGroup.values_option (flag f : QueryFlag) (value : String) :
    values flag [.option f value] = if f = flag then [value] else [] := by
  by_cases h : f = flag <;> simp [values, valueFor?, h]

@[simp] theorem ArgGroup.values_positional (flag : QueryFlag) {arg : String} (h : Positional arg) :
    values flag [.positional arg h] = [] :=
  rfl

@[simp] theorem ArgGroup.positionals_option (flag : QueryFlag) (value : String) :
    positionals [.option flag value] = [] :=
  rfl

@[simp] theorem ArgGroup.positionals_positional {arg : String} (h : Positional arg) :
    positionals [.positional arg h] = [arg] :=
  rfl

/-- **One more group**, if its value is valid, adds itself to what is gathered. -/
theorem QueryDraft.take_gathered (h : g.Valid) :
    (gathered gs).take g = .ok (gathered (gs ++ [g])) := by
  cases g with
  | positional arg ha => simp [QueryDraft.take, gathered]
  | option flag value =>
    cases flag with
    | what =>
      obtain ⟨what, hwhat⟩ := h
      simp [QueryDraft.take, QueryDraft.set, gathered, Section.ofText?_eq_some_iff.mpr hwhat]
    | shared flag =>
      have hset {o : Options} (ho : (gathered gs).options.set value flag = .ok o) :
          (gathered gs).take (.option (.shared flag) value) =
            .ok { gathered gs with options := o } := by
        rw [QueryDraft.take, QueryDraft.set, ho]
        rfl
      cases flag with
      | config =>
        rw [hset rfl]
        simp [gathered]
      | module =>
        rw [hset rfl]
        simp [gathered]
      | implementation =>
        obtain ⟨vendor, hvendor⟩ := h
        rw [hset (by rw [Options.set, hvendor])]
        simp [gathered, hvendor, Except.toOption]
      | version =>
        obtain ⟨version, hversion⟩ := h
        rw [hset (by rw [Options.set, hversion])]
        simp [gathered, hversion, Except.toOption]

/-- A group that is taken has a valid value. -/
theorem QueryDraft.valid_of_take {d' : QueryDraft} (h : d.take g = .ok d') : g.Valid := by
  cases g with
  | positional arg ha => trivial
  | option flag value =>
    cases flag with
    | what =>
      rw [QueryDraft.take, QueryDraft.set] at h
      cases hwhat : Section.ofText? value with
      | some what => exact ⟨what, Section.ofText?_eq_some_iff.mp hwhat⟩
      | none =>
        rw [hwhat] at h
        cases h
    | shared flag =>
      rw [QueryDraft.take, QueryDraft.set] at h
      cases flag with
      | config => trivial
      | module => trivial
      | implementation =>
        cases hvendor : Vendor.parse value with
        | ok vendor => exact ⟨vendor, hvendor⟩
        | error e =>
          rw [Options.set, hvendor] at h
          cases h
      | version =>
        cases hversion : Version.parse value with
        | ok version => exact ⟨version, hversion⟩
        | error e =>
          rw [Options.set, hversion] at h
          cases h

/-- **A run over groups** ends iff all values are valid, and then with what the groups gather. -/
theorem QueryDraft.foldlM_take_iff (before gs : List ArgGroup) :
    gs.foldlM QueryDraft.take (gathered before) = .ok d ↔
      (∀ g ∈ gs, g.Valid) ∧ d = gathered (before ++ gs) := by
  induction gs generalizing before with
  | nil => simp [pure, Except.pure, eq_comm]
  | cons g gs ih =>
    rw [List.foldlM_cons, List.forall_mem_cons, List.append_cons, and_assoc, ← ih]
    constructor
    · intro h
      obtain ⟨d₁, htake, -⟩ := bind_eq_ok_iff.mp h
      have hg := valid_of_take htake
      rw [take_gathered hg] at h
      exact ⟨hg, h⟩
    · rintro ⟨hg, h⟩
      rw [take_gathered hg]
      exact h

theorem QueryDraft.collect_written_iff :
    QueryDraft.collect {} (written gs) = .ok d ↔ (∀ g ∈ gs, g.Valid) ∧ d = gathered gs := by
  rw [collect_written]
  exact foldlM_take_iff [] gs

end Gathering

/-! ## 5. Node ids -/

/-- A text names a node: behind any number signs it has a number of 32 bits in decimal, possibly
with a plus sign. -/
def NamesNode (text : String) (node : NodeId) : Prop :=
  node < 4294967296 ∧ ∃ signs rest digits, text.toList = List.replicate signs '#' ++ rest ∧
    (rest = digits ∨ rest = '+' :: digits) ∧ Text.Numeral digits node

/-- The number signs in front go, and what is behind them stays. -/
theorem dropWhile_sign_iff {cs rest : List Char} (hrest : rest.head? ≠ some '#') :
    cs.dropWhile (· == '#') = rest ↔ ∃ signs, cs = List.replicate signs '#' ++ rest := by
  constructor
  · rintro rfl
    have hsigns : cs.takeWhile (· == '#') = List.replicate (cs.takeWhile (· == '#')).length '#' :=
      List.eq_replicate_iff.mpr ⟨rfl, fun c hc =>
        eq_of_beq (List.all_eq_true.mp List.all_takeWhile c hc)⟩
    exact ⟨_, hsigns ▸ List.takeWhile_append_dropWhile.symm⟩
  · rintro ⟨signs, rfl⟩
    have hsigns : ∀ c ∈ List.replicate signs '#', (c == '#') = true := by simp
    rw [List.dropWhile_append_of_pos hsigns]
    cases rest with
    | nil => rfl
    | cons c rest => exact List.dropWhile_cons_of_neg (by simpa using hrest)

theorem readNodeId?_eq_some_iff {text : String} {node : NodeId} :
    readNodeId? text = some node ↔ NamesNode text node := by
  have hbound : Text.twoTo 32 = 4294967296 := by decide
  -- a numeral has no number sign, so all of those in front go
  have hhead {rest digits : List Char} (hform : rest = digits ∨ rest = '+' :: digits)
      (hdigits : Text.Numeral digits node) : rest.head? ≠ some '#' := by
    rcases hform with rfl | rfl
    · intro hsign
      exact absurd ((Text.numeral_iff.mp hdigits).2.1 '#' (List.mem_of_mem_head? hsign))
        (by decide)
    · simp
  rw [readNodeId?, Text.readBelow?_eq_some_iff, hbound, NamesNode]
  refine and_congr_right' ?_
  constructor
  · rintro ⟨digits, hform, hdigits⟩
    obtain ⟨signs, htext⟩ := (dropWhile_sign_iff (hhead hform hdigits)).mp rfl
    exact ⟨signs, _, digits, htext, hform, hdigits⟩
  · rintro ⟨signs, rest, digits, htext, hform, hdigits⟩
    rw [(dropWhile_sign_iff (hhead hform hdigits)).mpr ⟨signs, htext⟩]
    exact ⟨digits, hform, hdigits⟩

/-! ## 6. The query command -/

section Parsing

open ArgGroup

variable {args : List String} {a : QueryArgs} {gs hs : List ArgGroup}

/-- Two positional arguments, of which the second names a node, are what it takes in the end. -/
theorem QueryArgs.parse_eq_ok_iff : QueryArgs.parse args = .ok a ↔
    ∃ d, QueryDraft.collect {} args = .ok d ∧
      (∃ id, d.positional = [a.tree, id] ∧ NamesNode id a.node) ∧
      a.what = d.what ∧ a.options = d.options := by
  rw [parse, bind_eq_ok_iff]
  refine exists_congr fun d => and_congr_right' ?_
  constructor
  · intro h
    split at h
    · cases h
    · cases h
    · rename_i tree id more hpositional
      cases hnode : readNodeId? id with
      | none =>
        rw [hnode] at h
        cases h
      | some node =>
        simp only [hnode] at h
        cases more with
        | cons _ _ => cases h
        | nil =>
          cases h
          exact ⟨⟨id, hpositional, readNodeId?_eq_some_iff.mp hnode⟩, rfl, rfl⟩
  · rintro ⟨⟨id, hpositional, hnode⟩, hwhat, hoptions⟩
    simp [hpositional, readNodeId?_eq_some_iff.mpr hnode, ← hwhat, ← hoptions]

theorem QueryArgs.parse_written_iff : QueryArgs.parse (written gs) = .ok a ↔
    (∀ g ∈ gs, g.Valid) ∧ (∃ id, positionals gs = [a.tree, id] ∧ NamesNode id a.node) ∧
      a.what = (gathered gs).what ∧ a.options = (gathered gs).options := by
  rw [QueryArgs.parse_eq_ok_iff]
  constructor
  · rintro ⟨d, hcollect, hrest⟩
    obtain ⟨hvalid, rfl⟩ := QueryDraft.collect_written_iff.mp hcollect
    exact ⟨hvalid, hrest⟩
  · rintro ⟨hvalid, hrest⟩
    exact ⟨gathered gs, QueryDraft.collect_written_iff.mpr ⟨hvalid, rfl⟩, hrest⟩

theorem ArgGroup.Reorders.gathered_eq (h : Reorders gs hs) : gathered hs = gathered gs := by
  simp only [gathered, h.positionals_eq, h.values_eq]

/-- **Where options stand does not matter.**  An argument list that is accepted splits into groups,
in one way, and every reordering of these that keeps the positional arguments in order, and the
groups of each option, is accepted with the same result.  A list of groups is accepted iff there are
two positional arguments, the second of which names a node, and every value is valid; the result
has the last value of each option, and all modules in order. -/
theorem parse_reordered :
    (∀ args a, QueryArgs.parse args = .ok a →
      ∃ gs, written gs = args ∧ (∀ gs', written gs' = args → gs' = gs) ∧
        ∀ hs, Reorders gs hs → QueryArgs.parse (written hs) = .ok a) ∧
    ∀ gs,
      ((∃ a, QueryArgs.parse (written gs) = .ok a) ↔
        (∃ tree id node, positionals gs = [tree, id] ∧ NamesNode id node) ∧
          ∀ g ∈ gs, g.Valid) ∧
      ∀ a, QueryArgs.parse (written gs) = .ok a →
        (∃ id, positionals gs = [a.tree, id] ∧ NamesNode id a.node) ∧
        a.what = (gathered gs).what ∧ a.options = (gathered gs).options := by
  refine ⟨fun args a h => ?_,
    fun gs => ⟨⟨?_, ?_⟩, fun a h => (QueryArgs.parse_written_iff.mp h).2⟩⟩
  · obtain ⟨d, hcollect, -⟩ := QueryArgs.parse_eq_ok_iff.mp h
    obtain ⟨gs, rfl⟩ := QueryDraft.exists_written hcollect
    refine ⟨gs, rfl, fun _ => written_injective, fun hs hre => QueryArgs.parse_written_iff.mpr ?_⟩
    obtain ⟨hvalid, hpositional, hwhat, hoptions⟩ := QueryArgs.parse_written_iff.mp h
    rw [hre.positionals_eq, hre.gathered_eq]
    exact ⟨fun g hg => hvalid g (hre.perm.mem_iff.mp hg), hpositional, hwhat, hoptions⟩
  · rintro ⟨a, h⟩
    obtain ⟨hvalid, ⟨id, hpositional, hnode⟩, -⟩ := QueryArgs.parse_written_iff.mp h
    exact ⟨⟨a.tree, id, a.node, hpositional, hnode⟩, hvalid⟩
  · rintro ⟨⟨tree, id, node, hpositional, hnode⟩, hvalid⟩
    exact ⟨⟨tree, node, (gathered gs).what, (gathered gs).options⟩,
      QueryArgs.parse_written_iff.mpr ⟨hvalid, ⟨id, hpositional, hnode⟩, rfl, rfl⟩⟩

/-- Options before, between and behind the positional arguments, with values that look like options
or positional arguments, and all but one of the options given twice. -/
def scatteredGroups : List ArgGroup :=
  [.option .what "functions", .option (.shared .config) "--module",
   .positional "-" (positional_iff.mpr (by decide +kernel)),
   .option (.shared .module) "--what", .option (.shared .version) "3.0",
   .option (.shared .implementation) "marklogic/v9",
   .positional "##+07" (positional_iff.mpr (by decide +kernel)),
   .option (.shared .config) "q.json", .option (.shared .module) "7",
   .option (.shared .version) "1.0-ml", .option .what "expand"]

/-- The same groups with the positional arguments in front. -/
def sortedGroups : List ArgGroup :=
  [.positional "-" (positional_iff.mpr (by decide +kernel)),
   .positional "##+07" (positional_iff.mpr (by decide +kernel)),
   .option (.shared .config) "--module", .option (.shared .config) "q.json",
   .option (.shared .module) "--what", .option (.shared .module) "7", .option .what "functions",
   .option .what "expand", .option (.shared .version) "3.0",
   .option (.shared .version) "1.0-ml", .option (.shared .implementation) "marklogic/v9"]

/-- What both lists ask for.  Of the two files, versions and sections the last one is taken. -/
def scatteredArgs : QueryArgs where
  tree := "-"
  node := 7
  what := .expand
  options :=
    { config := some "q.json"
      vendor := some (.marklogic 9)
      version := some .ml10
      modules := ["--what", "7"] }

theorem scatteredGroups_reordered :
    written scatteredGroups = ["--what", "functions", "--config", "--module", "-", "--module",
      "--what", "--xquery-version", "3.0", "--implementation", "marklogic/v9", "##+07", "--config",
      "q.json", "--module", "7", "--xquery-version", "1.0-ml", "--what", "expand"] ∧
    QueryArgs.parse (written scatteredGroups) = .ok scatteredArgs ∧
    Reorders scatteredGroups sortedGroups ∧
    QueryArgs.parse (written sortedGroups) = .ok scatteredArgs := by
  have hparse : QueryArgs.parse (written scatteredGroups) = .ok scatteredArgs := by
    refine QueryArgs.parse_written_iff.mpr
      ⟨?_, ⟨"##+07", rfl, readNodeId?_eq_some_iff.mp rfl⟩, rfl, rfl⟩
    simp only [scatteredGroups, List.forall_mem_cons]
    exact ⟨⟨.functions, rfl⟩, trivial, trivial, trivial, ⟨.v30, rfl⟩, ⟨.marklogic 9, rfl⟩, trivial,
      trivial, trivial, ⟨.ml10, rfl⟩, ⟨.expand, rfl⟩, by simp⟩
  have hre : Reorders scatteredGroups sortedGroups := by
    refine ⟨?_, rfl, fun flag => ?_⟩
    · decide
    · rcases flag with (_ | _ | _ | _) | _ <;> rfl
  obtain ⟨gs, -, hunique, hreordered⟩ := parse_reordered.1 _ _ hparse
  rw [← hunique scatteredGroups rfl] at hreordered
  exact ⟨rfl, hparse, hre, hreordered sortedGroups hre⟩

end Parsing

end XQueryScope
