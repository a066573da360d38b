import XQueryScope.Proofs.Scope.Candidates
import XQueryScope.Proofs.Text.Numeral

/-!
# The candidates that fit a call

How many arguments a call-like construct supplies, said by what is written (`Tree.Supplies`): the
members of the argument list of a call, one more than those of the list right behind an arrow step,
and for a reference `f#n` the number that its digits denote.  The candidates that fit are those
whose range contains that number (`Arity.Contains`), in the order in which they are listed.

The main result, `applicable_by_arity`, says so for every construct and every number but one kind:
the number of a reference is read with 32 bits, and one that needs more counts as none at all.  So
`f#4294967296` fits the functions without parameters (`huge_reference_fits`).
-/

namespace XQueryScope

/-! ## 1. Ranges -/

namespace Arity

variable {a : Arity} {n : Nat}

/-- The range of argument counts contains `n`. -/
structure Contains (a : Arity) (n : Nat) : Prop where
  min_le : a.min ≤ n
  le_max : ∀ m, a.max = some m → n ≤ m

theorem accepts_iff : a.accepts n = true ↔ a.Contains n := by
  simp only [accepts, Bool.and_eq_true, decide_eq_true_eq, Option.all_eq_true]
  constructor
  · rintro ⟨hmin, hmax⟩
    exact ⟨hmin, hmax⟩
  · rintro ⟨hmin, hmax⟩
    exact ⟨hmin, hmax⟩

instance (a : Arity) (n : Nat) : Decidable (a.Contains n) :=
  decidable_of_iff _ accepts_iff

end Arity

namespace Tree

variable {t : Tree} {d : Dialect} {r : Option Registry} {i site n : Nat}

/-! ## 2. Sites and their arguments -/

/-- `i` is the call-like construct `site`, or the name of it. -/
inductive SiteOf (t : Tree) (i : Nat) : Nat → Prop where
  | self : t.kindIs Kind.isCallSite i = true → SiteOf t i i
  | ofName {site : Nat} : t.kind? i = some .eqName → t.parent? i = some site →
      t.kindIs Kind.isCallSite site = true → SiteOf t i site

/-- The call-like construct `site` supplies `n` arguments. -/
inductive Supplies (t : Tree) (site : Nat) : Nat → Prop where
  | call {list : Nat} : t.kind? site = some .functionCall →
      t.child? .argumentList site = some list → Supplies t site (t.children list).length
  | callWithoutList : t.kind? site = some .functionCall → t.child? .argumentList site = none →
      Supplies t site 0
  /-- The operand to the left of the arrow counts, and the list must be the next sibling. -/
  | arrow {p list : Nat} {front rest : List Nat} : t.kind? site = some .arrowFunctionSpecifier →
      t.children p = front ++ site :: list :: rest → t.kind? list = some .argumentList →
      Supplies t site ((t.children list).length + 1)
  | arrowWithoutList : t.kind? site = some .arrowFunctionSpecifier →
      (∀ p front list rest, t.children p = front ++ site :: list :: rest →
        t.kind? list ≠ some .argumentList) → Supplies t site 1
  | reference {text : String} {n : Nat} : t.kind? site = some .namedFunctionRef →
      t.childText? .numericLiteral site = some text → Text.Numeral text.toList n →
      Supplies t site n

theorem callSite?_eq_some_iff : t.callSite? i = some site ↔ t.SiteOf i site := by
  unfold callSite?
  constructor
  · intro h
    split at h
    · rename_i hself
      cases h
      exact .self hself
    · split at h
      · rename_i hname
        obtain ⟨hp, hsite⟩ := Option.filter_eq_some_iff.mp h
        exact .ofName (is_iff.mp hname) hp hsite
      · cases h
  · intro h
    cases h with
    | self hself => rw [if_pos hself]
    | ofName hname hp hsite =>
      have hnot : ¬ t.kindIs Kind.isCallSite i = true := by
        simp [kindIs, hname, Kind.isCallSite]
      rw [if_neg hnot, if_pos (is_iff.mpr hname), hp, Option.filter_some, if_pos hsite]

theorem SiteOf.kind_cases (h : t.SiteOf i site) : t.kind? site = some .functionCall ∨
    t.kind? site = some .namedFunctionRef ∨ t.kind? site = some .arrowFunctionSpecifier := by
  have hsite : t.kindIs Kind.isCallSite site = true := by
    cases h with
    | self hself => exact hself
    | ofName _ _ hsite => exact hsite
  obtain ⟨k, hk, hcall⟩ := (Option.any_eq_true _ _).mp hsite
  rw [hk]
  cases k <;> simp_all [Kind.isCallSite]

/-! ## 3. The number that is taken -/

/-- Where a reference asks for more than 32 bits hold, none is taken; else what is written. -/
def takenFor (t : Tree) (site n : Nat) : Nat :=
  if t.kind? site = some .namedFunctionRef ∧ 4294967296 ≤ n then 0 else n

theorem referenceArity_eq {text : String} (htext : t.childText? .numericLiteral site = some text)
    (hn : Text.Numeral text.toList n) :
    t.referenceArity site = if 4294967296 ≤ n then 0 else n := by
  rw [referenceArity, htext, Option.bind_some, hn.bare.trim_eq, hn.readBelow?_eq]
  have hbound : Text.twoTo 32 = 4294967296 := by decide
  rw [hbound]
  by_cases h : n < 4294967296
  · rw [if_pos h, if_neg (by omega), Option.getD_some]
  · rw [if_neg h, if_pos (by omega), Option.getD_none]

/-- **The number of arguments taken at a call site.** -/
theorem Arena.callArity?_eq (h : t.Arena) (hsite : t.SiteOf i site) (hn : t.Supplies site n) :
    t.callArity? i = some (t.takenFor site n) := by
  rw [callArity?, callSite?_eq_some_iff.mpr hsite]
  cases hn with
  | call hk hlist => simp [takenFor, hk, hlist, argumentCount]
  | callWithoutList hk hlist => simp [takenFor, hk, hlist, argumentCount]
  | arrow hk hchildren hlist =>
    have hnext : (t.next? site).filter (t.is .argumentList) = some _ :=
      Option.filter_eq_some_iff.mpr
        ⟨h.next?_eq_some_iff.mpr ⟨_, _, _, hchildren⟩, is_iff.mpr hlist⟩
    simp [takenFor, hk, hnext, argumentCount]
  | arrowWithoutList hk hnone =>
    have hnext : (t.next? site).filter (t.is .argumentList) = none := by
      rw [Option.filter_eq_none_iff]
      intro list hnext hlist
      obtain ⟨p, front, rest, hchildren⟩ := h.next?_eq_some_iff.mp hnext
      exact hnone p front list rest hchildren (is_iff.mp hlist)
    simp [takenFor, hk, hnext, argumentCount]
  | reference hk htext hnum => simp [takenFor, hk, referenceArity_eq htext hnum]

/-- Every call-like construct supplies some number of arguments, a reference if it has a numeral. -/
theorem SiteOf.exists_supplies (h : t.SiteOf i site)
    (href : t.kind? site = some .namedFunctionRef → ∃ text,
      t.childText? .numericLiteral site = some text ∧ text.toList ≠ [] ∧
        ∀ c ∈ text.toList, c.isDigit = true) : ∃ n, t.Supplies site n := by
  rcases h.kind_cases with hk | hk | hk
  · cases hlist : t.child? .argumentList site with
    | none => exact ⟨_, .callWithoutList hk hlist⟩
    | some list => exact ⟨_, .call hk hlist⟩
  · obtain ⟨text, htext, hne, hdigits⟩ := href hk
    exact ⟨_, .reference hk htext (Text.numeral_iff.mpr ⟨hne, hdigits, rfl⟩)⟩
  · by_cases hlist : ∃ p front list rest, t.children p = front ++ site :: list :: rest ∧
        t.kind? list = some .argumentList
    · obtain ⟨p, front, list, rest, hchildren, hlist⟩ := hlist
      exact ⟨_, .arrow hk hchildren hlist⟩
    · refine ⟨_, .arrowWithoutList hk fun p front list rest hchildren hk => hlist ?_⟩
      exact ⟨p, front, list, rest, hchildren, hk⟩

/-- The candidates that fit are listed as the candidates are. -/
theorem applicableFunctions_eq (hn : t.callArity? i = some n) :
    t.applicableFunctions d r i = (t.functions d r i).filter (fun f => f.arity.Contains n) := by
  rw [applicableFunctions, hn]
  refine List.filter_congr fun f _ => ?_
  rw [Bool.eq_iff_iff, Arity.accepts_iff, decide_eq_true_eq]

end Tree

/-! ## 4. The candidates that fit -/

/-- **The candidates that fit a call.**  In every tree that a builder builds, let a node be a
call-like construct or the name of one.  The construct supplies a number of arguments, a reference
provided that it has a string of digits.  If that number is not one of 2^32 or more that a reference
asks for, then the candidates that fit are those whose range contains it, in the order of the
candidates.  For a reference to 2^32 or more parameters, those fit that may be called with none. -/
theorem applicable_by_arity {t : Tree} (ht : t.Built) {i site : Nat} (hsite : t.SiteOf i site)
    (d : Dialect) (r : Option Registry) :
    ((t.kind? site = some .namedFunctionRef → ∃ text,
        t.childText? .numericLiteral site = some text ∧ text.toList ≠ [] ∧
          ∀ c ∈ text.toList, c.isDigit = true) → ∃ n, t.Supplies site n) ∧
    ∀ n, t.Supplies site n →
      ((t.kind? site = some .namedFunctionRef → n < 4294967296) →
        t.applicableFunctions d r i = (t.functions d r i).filter (fun f => f.arity.Contains n)) ∧
      (t.kind? site = some .namedFunctionRef → 4294967296 ≤ n →
        t.applicableFunctions d r i =
          (t.functions d r i).filter (fun f => f.arity.Contains 0)) := by
  have h := ht.arena
  refine ⟨hsite.exists_supplies, fun n hn => ?_⟩
  have hfit := Tree.applicableFunctions_eq (d := d) (r := r) (h.callArity?_eq hsite hn)
  constructor
  · intro hsmall
    have htaken : t.takenFor site n = n :=
      if_neg fun hlarge => Nat.not_le.mpr (hsmall hlarge.1) hlarge.2
    rwa [htaken] at hfit
  · intro hk hlarge
    have htaken : t.takenFor site n = 0 := if_pos ⟨hk, hlarge⟩
    rwa [htaken] at hfit

/-- A query that declares `f($a, $b, $c := ..)` and has two arrow steps `=> f(.., ?) => f()`. -/
def arrowSteps : List Step :=
  [.start .mainModule, .start .prolog, .start .functionDecl, .token .eqName "Q\x7burn:a\x7df",
    .start .paramList, .start .param, .token .varName "a", .finish, .start .param,
    .token .varName "b", .finish, .start .param, .token .varName "c", .start .expr, .finish,
    .finish, .finish, .finish, .finish,
    .start .queryBody, .start .arrowExpr, .start .varRef, .finish,
    .start .arrowFunctionSpecifier, .token .eqName "Q\x7burn:a\x7df", .finish,
    .start .argumentList, .start .expr, .finish, .start .argumentPlaceholder, .finish, .finish,
    .start .arrowFunctionSpecifier, .token .eqName "Q\x7burn:a\x7df", .finish,
    .start .argumentList, .finish, .finish, .finish, .finish]

/-- The tree of the query: the steps are nodes 15 and 20, the name in the first one is node 16. -/
def arrowTree : Tree := (Builder.run {} arrowSteps).tree

theorem arrowTree_fits : arrowTree.Built ∧ arrowTree.SiteOf 16 15 ∧ arrowTree.Supplies 15 3 ∧
    (arrowTree.functions {} none 16).map (·.arity) = [⟨2, some 3⟩] ∧
    arrowTree.applicableFunctions {} none 16 =
      (arrowTree.functions {} none 16).filter (fun f => f.arity.Contains 3) ∧
    arrowTree.SiteOf 20 20 ∧ arrowTree.Supplies 20 1 ∧
    arrowTree.applicableFunctions {} none 20 = [] := by
  have hbuilt : arrowTree.Built := ⟨arrowSteps, rfl⟩
  have hname : arrowTree.SiteOf 16 15 :=
    .ofName (by decide +kernel) (by decide +kernel) (by decide +kernel)
  have hstep : arrowTree.SiteOf 20 20 := .self (by decide +kernel)
  have hbehind : arrowTree.children 13 = [14] ++ 15 :: 17 :: [20, 22] := by decide +kernel
  have hthree : arrowTree.Supplies 15 3 := by
    have hcount : (arrowTree.children 17).length + 1 = 3 := by decide +kernel
    exact hcount ▸ .arrow (by decide +kernel) hbehind (by decide +kernel)
  have hbehind' : arrowTree.children 13 = [14, 15, 17] ++ 20 :: 22 :: [] := by decide +kernel
  have hone : arrowTree.Supplies 20 1 := by
    have hcount : (arrowTree.children 22).length + 1 = 1 := by decide +kernel
    exact hcount ▸ .arrow (by decide +kernel) hbehind' (by decide +kernel)
  have hfirst := ((applicable_by_arity hbuilt hname {} none).2 3 hthree).1 (by decide +kernel)
  have hsecond := ((applicable_by_arity hbuilt hstep {} none).2 1 hone).1 (by decide +kernel)
  refine ⟨hbuilt, hname, hthree, by decide +kernel, hfirst, hstep, hone, ?_⟩
  rw [hsecond]
  decide +kernel

/-- A query that declares `f()` and refers to `f#4294967296`. -/
def hugeReferenceSteps : List Step :=
  [.start .mainModule, .start .prolog, .start .functionDecl, .token .eqName "Q\x7burn:a\x7df",
    .start .paramList, .finish, .finish, .finish,
    .start .queryBody, .start .namedFunctionRef, .token .eqName "Q\x7burn:a\x7df",
    .token .numericLiteral "4294967296", .finish, .finish, .finish]

/-- The tree of the query: the reference is node 6. -/
def hugeReferenceTree : Tree := (Builder.run {} hugeReferenceSteps).tree

/-- **`f#4294967296` fits `f()`**, though the range of `f` does not contain the number. -/
theorem huge_reference_fits : hugeReferenceTree.Built ∧ hugeReferenceTree.SiteOf 6 6 ∧
    hugeReferenceTree.Supplies 6 4294967296 ∧
    ∃ f ∈ hugeReferenceTree.applicableFunctions {} none 6, ¬ f.arity.Contains 4294967296 := by
  have hnumeral : Text.Numeral "4294967296".toList 4294967296 :=
    Text.numeral_iff.mpr ⟨by decide, List.all_eq_true.mp (by decide), by decide⟩
  refine ⟨⟨hugeReferenceSteps, rfl⟩, .self (by decide +kernel),
    .reference (by decide +kernel) (by decide +kernel) hnumeral, ?_⟩
  decide +kernel

end XQueryScope
