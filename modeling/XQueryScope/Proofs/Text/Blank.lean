import XQueryScope.Text.Blank
import XQueryScope.Text.Letter

/-!
# Blanks, trimming and cutting

What is left of a text once the blanks around it are dropped, and the two sides of a cut, said
without the functions that compute them.  `Strips cs core` is a split of `cs` into blanks, `core`
and blanks, where `core` has no blank at either end; there is one such `core` and `trim` finds it
(`trim_eq_iff`).  A cut is at the first occurrence of a character (`cut?_eq_some_iff`).  The tables
of letters and numerals hold no blank (`isLetter_of_isBlank`, `isNumber_of_isBlank`).
-/

namespace XQueryScope.Text

variable {c : Char} {cs core before after : List Char}

/-! ## 1. Trimming -/

/-- No blank stands at the start of `cs` or at its end. -/
structure Bare (cs : List Char) : Prop where
  start : ∀ c, cs.head? = some c → isBlank c = false
  stop : ∀ c, cs.getLast? = some c → isBlank c = false

/-- `core` is what is left of `cs` without the blanks around it. -/
inductive Strips (cs core : List Char) : Prop where
  | intro {front back : List Char} : cs = front ++ core ++ back →
      (∀ c ∈ front, isBlank c = true) → (∀ c ∈ back, isBlank c = true) → Bare core →
      Strips cs core

/-- The blanks in front are dropped, and the rest does not start with one. -/
theorem trimStart_split (cs : List Char) :
    (∃ front, cs = front ++ trimStart cs ∧ ∀ c ∈ front, isBlank c = true) ∧
      ∀ c, (trimStart cs).head? = some c → isBlank c = false := by
  refine ⟨⟨cs.takeWhile isBlank, List.takeWhile_append_dropWhile.symm, ?_⟩, ?_⟩
  · intro c hc
    exact List.all_eq_true.mp List.all_takeWhile c hc
  · intro c hc
    have hhead := List.head?_dropWhile_not isBlank cs
    rw [trimStart] at hc
    rw [hc] at hhead
    exact hhead

theorem trimStart_append (hfront : ∀ c ∈ before, isBlank c = true)
    (hcore : ∀ c, core.head? = some c → isBlank c = false) : trimStart (before ++ core) = core := by
  rw [trimStart, List.dropWhile_append_of_pos hfront]
  cases core with
  | nil => rfl
  | cons c core => exact List.dropWhile_cons_of_neg (by simp [hcore c rfl])

theorem trimEnd_eq : trimEnd cs = (trimStart cs.reverse).reverse := rfl

theorem strips_trim (cs : List Char) : Strips cs (trim cs) := by
  obtain ⟨⟨front, hcs, hfront⟩, hstart⟩ := trimStart_split cs
  obtain ⟨⟨back, hrest, hback⟩, hstop⟩ := trimStart_split (trimStart cs).reverse
  have hsplit : trimStart cs = trim cs ++ back.reverse := by
    rw [trim, trimEnd_eq, ← List.reverse_append, ← hrest, List.reverse_reverse]
  have hparts : cs = front ++ trim cs ++ back.reverse := by
    rw [List.append_assoc, ← hsplit]
    exact hcs
  refine .intro hparts hfront ?_ ⟨?_, ?_⟩
  · intro c hc
    exact hback c (List.mem_reverse.mp hc)
  · intro c hc
    apply hstart c
    rw [hsplit, List.head?_append, hc, Option.some_or]
  · intro c hc
    apply hstop c
    rw [trim, trimEnd_eq, List.getLast?_reverse] at hc
    exact hc

/-- **There is one way to strip a text**, and trimming finds it. -/
theorem trim_eq_iff : trim cs = core ↔ Strips cs core := by
  constructor
  · rintro rfl
    exact strips_trim cs
  · rintro ⟨rfl, hfront, hback, hcore⟩
    rename_i front back
    have hblank : ∀ c ∈ back.reverse, isBlank c = true := by
      intro c hc
      exact hback c (List.mem_reverse.mp hc)
    have hstop : trimEnd (core ++ back) = core := by
      rw [trimEnd_eq, List.reverse_append, trimStart_append hblank, List.reverse_reverse]
      intro c hc
      rw [List.head?_reverse] at hc
      exact hcore.stop c hc
    cases core with
    | nil =>
      -- nothing but blanks: the front takes all of them
      have hall : ∀ c ∈ front ++ [] ++ back, isBlank c = true := by
        intro c hc
        rw [List.append_nil] at hc
        exact (List.mem_append.mp hc).elim (hfront c) (hback c)
      have hnone : trimStart (front ++ [] ++ back ++ []) = [] := trimStart_append hall (by simp)
      rw [List.append_nil] at hnone
      rw [trim, hnone]
      rfl
    | cons c core =>
      rw [trim, List.append_assoc, trimStart_append hfront, hstop]
      exact hcore.start

theorem Bare.trim_eq (h : Bare cs) : trim cs = cs := by
  have hparts : cs = [] ++ cs ++ [] := by simp
  exact trim_eq_iff.mpr (.intro hparts (by simp) (by simp) h)

theorem bare_trim (cs : List Char) : Bare (trim cs) := by
  obtain ⟨-, -, -, h⟩ := strips_trim cs
  exact h

theorem mem_of_mem_trim (h : c ∈ trim cs) : c ∈ cs := by
  obtain ⟨hcs, -, -, -⟩ := strips_trim cs
  rw [hcs]
  simp [h]

/-! ## 2. Cutting -/

theorem cut?_eq_some_iff :
    cut? c cs = some (before, after) ↔ cs = before ++ c :: after ∧ c ∉ before := by
  constructor
  · intro h
    unfold cut? at h
    split at h
    · cases h
    · rename_i x rest hrest
      cases h
      have hx : x = c := by
        have hhead := List.head?_dropWhile_not (· != c) cs
        rw [hrest] at hhead
        simpa using hhead
      constructor
      · rw [← hx, ← hrest, hx, List.takeWhile_append_dropWhile]
      · intro hmem
        have hpass := List.all_eq_true.mp List.all_takeWhile c hmem
        simp at hpass
  · rintro ⟨rfl, h⟩
    have hpass : ∀ x ∈ before, (x != c) = true := by
      intro x hx
      rw [bne_iff_ne]
      rintro rfl
      exact h hx
    rw [cut?, List.dropWhile_append_of_pos hpass, List.takeWhile_append_of_pos hpass]
    simp

theorem cut?_eq_none_iff : cut? c cs = none ↔ c ∉ cs := by
  constructor
  · intro h hmem
    obtain ⟨before, after, hcs, hbefore⟩ := List.eq_append_cons_of_mem hmem
    rw [cut?_eq_some_iff.mpr ⟨hcs, hbefore⟩] at h
    cases h
  · intro h
    rw [Option.eq_none_iff_forall_ne_some]
    rintro ⟨before, after⟩ hcut
    obtain ⟨rfl, -⟩ := cut?_eq_some_iff.mp hcut
    exact h (by simp)

/-- Cutting may come before stripping: what a text has behind its first `c` strips to what its core
has there. -/
theorem Strips.cut? (h : Strips cs (before ++ c :: after)) (hc : isBlank c = false)
    (hbefore : c ∉ before) (hafter : Bare after) :
    ∃ head tail, Text.cut? c cs = some (head, tail) ∧ Strips tail after := by
  obtain ⟨rfl, hfront, hback, -⟩ := h
  rename_i front back
  refine ⟨front ++ before, after ++ back, cut?_eq_some_iff.mpr ⟨by simp, ?_⟩, ?_⟩
  · intro hmem
    rcases List.mem_append.mp hmem with hmem | hmem
    · rw [hfront c hmem] at hc
      cases hc
    · exact hbefore hmem
  · have hparts : after ++ back = [] ++ after ++ back := rfl
    exact .intro hparts (by simp) hback hafter

/-! ## 3. Blanks among the characters -/

/-- The blanks as inclusive ranges of code points. -/
def blankRanges : List (Nat × Nat) :=
  [(0x9, 0xD), (0x20, 0x20), (0x85, 0x85), (0xA0, 0xA0), (0x1680, 0x1680), (0x2000, 0x200A),
    (0x2028, 0x2029), (0x202F, 0x202F), (0x205F, 0x205F), (0x3000, 0x3000)]

theorem inRanges_of_isBlank (h : isBlank c = true) : inRanges blankRanges c.toNat = true := by
  simp only [isBlank, Bool.or_eq_true, Bool.and_eq_true, decide_eq_true_eq, beq_iff_eq] at h
  simp only [inRanges, blankRanges, List.any_cons, List.any_nil, Bool.or_eq_true, Bool.and_eq_true,
    decide_eq_true_eq]
  omega

/-- Every range of one table lies to one side of every range of the other. -/
def apart (a b : List (Nat × Nat)) : Bool :=
  a.all fun r => b.all fun s => decide (r.2 < s.1) || decide (s.2 < r.1)

theorem inRanges_of_apart {a b : List (Nat × Nat)} {n : Nat} (h : apart a b = true)
    (hn : inRanges a n = true) : inRanges b n = false := by
  obtain ⟨r, hr, hnr⟩ := List.any_eq_true.mp hn
  rw [← Bool.not_eq_true]
  intro hb
  obtain ⟨s, hs, hns⟩ := List.any_eq_true.mp hb
  have hside := List.all_eq_true.mp (List.all_eq_true.mp h r hr) s hs
  simp only [Bool.and_eq_true, Bool.or_eq_true, decide_eq_true_eq] at hnr hns hside
  omega

theorem isLetter_of_isBlank (h : isBlank c = true) : isLetter c = false :=
  inRanges_of_apart (a := blankRanges) (by decide +kernel) (inRanges_of_isBlank h)

theorem isNumber_of_isBlank (h : isBlank c = true) : isNumber c = false :=
  inRanges_of_apart (a := blankRanges) (by decide +kernel) (inRanges_of_isBlank h)

end XQueryScope.Text
