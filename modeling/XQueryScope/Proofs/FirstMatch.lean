/-!
# First matches

Scopes and caches are lists in which the first match counts.  Which member that is can be said
without the list's order in two cases: where the list is sorted, it is the least member that passes
(`find?_eq_some_iff_of_sorted`), and where a key occurs once at most, it is the member with that key
(`find?_eq_some_iff_of_distinct`).
-/

namespace XQueryScope

variable {α β : Type} {l : List α} {a : α}

/-- The first member of a sorted list that passes a test comes before all others that do. -/
theorem find?_eq_some_iff_of_sorted {R : α → α → Prop} (hR : ∀ {a e : α}, R a e → ¬ R e a)
    {q : α → Bool} (hl : l.Pairwise R) :
    l.find? q = some a ↔ a ∈ l ∧ q a = true ∧ ∀ e ∈ l, q e = true → a = e ∨ R a e := by
  have hfirst {a : α} (ha : l.find? q = some a) :
      a ∈ l ∧ q a = true ∧ ∀ e ∈ l, q e = true → a = e ∨ R a e := by
    obtain ⟨hq, before, after, rfl, hbefore⟩ := List.find?_eq_some_iff_append.mp ha
    refine ⟨by simp, hq, fun e he hqe => ?_⟩
    rcases List.mem_append.mp he with he | he
    · have hnot := hbefore e he
      rw [hqe] at hnot
      exact absurd hnot (by simp)
    · rcases List.mem_cons.mp he with rfl | he
      · exact .inl rfl
      · exact .inr ((List.pairwise_cons.mp (List.pairwise_append.mp hl).2.1).1 e he)
  refine ⟨hfirst, ?_⟩
  rintro ⟨hmem, hq, hmin⟩
  cases hfind : l.find? q with
  | none => exact absurd hq (List.find?_eq_none.mp hfind a hmem)
  | some e =>
    -- each of two first members would come before the other
    obtain ⟨hme, hqe, hmine⟩ := hfirst hfind
    rcases hmin e hme hqe with rfl | hae
    · rfl
    · rcases hmine a hmem hq with rfl | hea
      · rfl
      · exact absurd hea (hR hae)

/-- Where no key occurs twice, the first member with a key is the member with that key. -/
theorem find?_eq_some_iff_of_distinct [DecidableEq β] {key : α → β} {k : β}
    (hl : (l.map key).Nodup) :
    l.find? (fun e => key e = k) = some a ↔ a ∈ l ∧ key a = k := by
  induction l with
  | nil => simp
  | cons e l ih =>
    obtain ⟨he, hl⟩ := List.nodup_cons.mp hl
    rw [List.find?_cons, List.mem_cons]
    by_cases hk : key e = k
    · rw [decide_eq_true hk]
      constructor
      · rintro ⟨rfl⟩
        exact ⟨.inl rfl, hk⟩
      · rintro ⟨rfl | hmem, ha⟩
        · rfl
        · exact absurd (List.mem_map.mpr ⟨a, hmem, ha.trans hk.symm⟩) he
    · rw [decide_eq_false hk]
      refine (ih hl).trans ⟨fun ⟨hmem, ha⟩ => ⟨.inr hmem, ha⟩, ?_⟩
      rintro ⟨rfl | hmem, ha⟩
      · exact absurd ha hk
      · exact ⟨hmem, ha⟩

end XQueryScope
