import XQueryScope.Cache.Recent
import XQueryScope.Proofs.FirstMatch

/-!
# Which values a cache still has

Whether a key is still there depends on everything that was done since it was written: other writes
push it towards the end, drops let it move up again, and a change of capacity cuts the list
somewhere else.  `Recent.Survives` says it by the history alone.  A value is there iff the last
write of its key stored it, nothing removed the key since, and at no point since were there as many
keys, written later and not removed, as the cache had room for.  The main result is
`recent_survival`.

The proof keeps a list that forgets nothing for lack of room (`Recent.ledger`): one use of the cache
does to its entries what it does to this list, and then cuts them (`Recent.use_eq`).  So the entries
are always the first part of the list, and what stands before a key there are the keys that were
written later.
-/

namespace XQueryScope

/-! ## 1. Uses of a cache -/

/-- What can be done to a cache. -/
inductive Use (κ ν : Type) where
  | get (k : κ)
  | insert (k : κ) (v : ν)
  | fetch (k : κ) (compute : Unit → ν)
  | getOrInsert (k : κ) (compute : Unit → ν)
  | drop (p : κ → Bool)
  | clear
  | resize (capacity : Nat)

namespace Use

variable {κ ν : Type}

/-- Whether a use removes a key, if it is there. -/
def removes : Use κ ν → κ → Bool
  | .drop p, k => p k
  | .clear, _ => true
  | _, _ => false

/-- The capacity after a use, if `capacity` was in force before. -/
def capacityAfter (capacity : Nat) : Use κ ν → Nat
  | .resize n => max 1 n
  | _ => capacity

/-- The capacity in force after several uses. -/
def inForce (capacity : Nat) (us : List (Use κ ν)) : Nat := us.foldl capacityAfter capacity

end Use

namespace Recent

variable {κ ν : Type} [DecidableEq κ]

/-- The cache after one use. -/
def use (c : Recent κ ν) : Use κ ν → Recent κ ν
  | .get _ => c
  | .insert k v => c.insert k v
  | .fetch k compute => (c.fetch k compute).2.2
  | .getOrInsert k compute => (c.getOrInsert k compute).2
  | .drop p => (c.drop p).2
  | .clear => c.clear
  | .resize capacity => c.resize capacity

/-- The cache after several uses. -/
def run (c : Recent κ ν) (us : List (Use κ ν)) : Recent κ ν := us.foldl use c

/-- What a use writes: fetching writes only what it does not find. -/
def writes? (c : Recent κ ν) : Use κ ν → Option (κ × ν)
  | .insert k v => some (k, v)
  | .fetch k compute | .getOrInsert k compute =>
    if (c.get? k).isSome then none else some (k, compute ())
  | _ => none

/-- A use writes or removes a key. -/
def Touches (c : Recent κ ν) (u : Use κ ν) (k : κ) : Prop :=
  (∃ v, c.writes? u = some (k, v)) ∨ u.removes k = true

/-- None of the uses writes or removes a key. -/
def Leaves (k : κ) : Recent κ ν → List (Use κ ν) → Prop
  | _, [] => True
  | c, u :: us => ¬ c.Touches u k ∧ (c.use u).Leaves k us

/-- In `us`, the use `u` is the last write of `k`, it stores `v`, and `k` is not removed since. -/
structure LastWrite (c : Recent κ ν) (us : List (Use κ ν)) (k : κ) (v : ν)
    (before : List (Use κ ν)) (u : Use κ ν) (after : List (Use κ ν)) : Prop where
  split : us = before ++ u :: after
  written : (c.run before).writes? u = some (k, v)
  left : ((c.run before).use u).Leaves k after

/-- `k` is written in `us`, and not removed since its last write. -/
def Standing (c : Recent κ ν) (us : List (Use κ ν)) (k : κ) : Prop :=
  ∃ v before u after, c.LastWrite us k v before u after

/-- **The law of survival.**  The last write of `k` stored `v`, `k` is not removed since, and at
every point since, fewer keys were standing that were written later than the capacity then in
force. -/
def Survives (c : Recent κ ν) (us : List (Use κ ν)) (k : κ) (v : ν) : Prop :=
  ∃ before u after, c.LastWrite us k v before u after ∧
    ∀ since rest, after = since ++ rest →
      ∃ later : List κ, later.Nodup ∧
        (∀ j, j ∈ later ↔ ((c.run before).use u).Standing since j) ∧
        later.length < Use.inForce c.capacity (before ++ u :: since)

/-! ## 2. One use -/

variable {c : Recent κ ν} {u : Use κ ν} {us : List (Use κ ν)} {k : κ} {v : ν}
  {es : List (κ × ν)}

/-- What a use does to a list of entries that has room for all: what is written goes to the front,
what is removed goes. -/
def noted (c : Recent κ ν) (u : Use κ ν) (es : List (κ × ν)) : List (κ × ν) :=
  match c.writes? u with
  | some (k, v) => (k, v) :: es.filter fun e => e.1 ≠ k
  | none => es.filter fun e => !u.removes e.1

/-- There is room for an entry, there are not too many, and no key has two. -/
structure Sound (c : Recent κ ν) : Prop where
  room : 1 ≤ c.capacity
  size_le : c.size ≤ c.capacity
  distinct : (c.entries.map (·.1)).Nodup

theorem fetch_of_hit (hk : c.get? k = some v) (compute : Unit → ν) :
    c.fetch k compute = (v, true, c) := by
  simp only [fetch, hk]

theorem fetch_of_miss (hk : c.get? k = none) (compute : Unit → ν) :
    c.fetch k compute = (compute (), false, c.insert k (compute ())) := by
  simp only [fetch, hk]

/-- **One use of a cache** is one use of a list that has room for all, cut at the capacity. -/
theorem use_eq (hsize : c.size ≤ c.capacity) (u : Use κ ν) :
    c.use u = ⟨u.capacityAfter c.capacity,
      (c.noted u c.entries).take (u.capacityAfter c.capacity)⟩ := by
  have hall (es : List (κ × ν)) : (es.filter fun _ => true) = es :=
    List.filter_eq_self.mpr fun _ _ => rfl
  have hkeep : c = ⟨c.capacity, (c.entries.filter fun _ => true).take c.capacity⟩ := by
    rw [hall, List.take_of_length_le hsize]
  have hfetch (k : κ) (compute : Unit → ν) : (c.fetch k compute).2.2 =
      ⟨c.capacity, (c.noted (.fetch k compute) c.entries).take c.capacity⟩ := by
    cases hk : c.get? k with
    | some v =>
      rw [fetch_of_hit hk, noted, writes?, if_pos (by rw [hk]; rfl)]
      exact hkeep
    | none =>
      rw [fetch_of_miss hk, noted, writes?, if_neg (by rw [hk]; simp)]
      rfl
  cases u with
  | get k => exact hkeep
  | insert k v => rfl
  | fetch k compute => exact hfetch k compute
  | getOrInsert k compute => exact hfetch k compute
  | drop p =>
    have hle : (c.entries.filter fun e => !p e.1).length ≤ c.capacity :=
      Nat.le_trans (List.length_filter_le _ _) hsize
    show _ = (⟨c.capacity, (c.entries.filter fun e => !p e.1).take c.capacity⟩ : Recent κ ν)
    rw [List.take_of_length_le hle]
    rfl
  | clear =>
    have hnone : (c.entries.filter fun _ => !true) = [] := List.filter_eq_nil_iff.mpr (by simp)
    show _ = (⟨c.capacity, (c.entries.filter fun _ => !true).take c.capacity⟩ : Recent κ ν)
    rw [hnone, List.take_nil]
    rfl
  | resize n =>
    show _ = (⟨max 1 n, (c.entries.filter fun _ => true).take (max 1 n)⟩ : Recent κ ν)
    rw [hall]
    rfl

theorem capacity_use (hsize : c.size ≤ c.capacity) :
    (c.use u).capacity = u.capacityAfter c.capacity := by
  rw [use_eq hsize]

theorem entries_use (hsize : c.size ≤ c.capacity) :
    (c.use u).entries = (c.noted u c.entries).take (u.capacityAfter c.capacity) := by
  rw [use_eq hsize]

theorem removes_of_write (h : c.writes? u = some (k, v)) (j : κ) : u.removes j = false := by
  cases u with
  | drop p => exact absurd h (by simp [writes?])
  | clear => exact absurd h (by simp [writes?])
  | _ => rfl

/-- An entry is in the list after a use if the use wrote it, or if it was there and the use did not
touch its key. -/
theorem mem_noted_iff : (k, v) ∈ c.noted u es ↔
    c.writes? u = some (k, v) ∨ (¬ c.Touches u k ∧ (k, v) ∈ es) := by
  unfold noted Touches
  cases hw : c.writes? u with
  | none =>
    simp [and_comm]
  | some e =>
    obtain ⟨j, w⟩ := e
    have hr := removes_of_write hw k
    simp only [List.mem_cons, List.mem_filter, hr, Option.some.injEq, Prod.mk.injEq]
    constructor
    · rintro (⟨rfl, rfl⟩ | ⟨hmem, hne⟩)
      · exact .inl ⟨rfl, rfl⟩
      · refine .inr ⟨?_, hmem⟩
        rintro (⟨v', rfl, -⟩ | hfalse)
        · simp at hne
        · exact absurd hfalse (by simp)
    · rintro (⟨rfl, rfl⟩ | ⟨hnot, hmem⟩)
      · exact .inl ⟨rfl, rfl⟩
      · refine .inr ⟨hmem, ?_⟩
        simp only [decide_eq_true_eq]
        rintro rfl
        exact hnot (.inl ⟨w, rfl, rfl⟩)

theorem noted_mono {fs : List (κ × ν)} (h : es <+: fs) : c.noted u es <+: c.noted u fs := by
  unfold noted
  split
  · exact List.cons_prefix_cons.mpr ⟨rfl, h.filter _⟩
  · exact h.filter _

theorem noted_distinct (h : (es.map (·.1)).Nodup) : ((c.noted u es).map (·.1)).Nodup := by
  have hfilter (p : κ × ν → Bool) : ((es.filter p).map (·.1)).Nodup :=
    List.Nodup.sublist (List.filter_sublist.map _) h
  unfold noted
  split
  · rename_i j w _
    rw [List.map_cons, List.nodup_cons]
    refine ⟨?_, hfilter _⟩
    rw [List.mem_map]
    rintro ⟨e, he, rfl⟩
    exact absurd (List.mem_filter.mp he).2 (by simp)
  · exact hfilter _

/-- A key that is not touched keeps what stands before it apart from what stands behind it. -/
theorem noted_append (h : ¬ c.Touches u k) (v : ν) (xs es : List (κ × ν)) :
    ∃ fs, c.noted u (xs ++ (k, v) :: es) = c.noted u xs ++ (k, v) :: fs := by
  unfold Touches at h
  unfold noted
  cases hw : c.writes? u with
  | none =>
    have hr : (!u.removes k) = true := by simpa [hw] using h
    exact ⟨es.filter fun e => !u.removes e.1, by simp [hr]⟩
  | some e =>
    obtain ⟨j, w⟩ := e
    have hne : k ≠ j := by
      rintro rfl
      exact h (.inl ⟨w, hw⟩)
    exact ⟨es.filter fun e => e.1 ≠ j, by simp [hne]⟩

/-! ## 3. What every cache is like -/

namespace Sound

omit [DecidableEq κ] in
theorem empty (capacity : Nat) : (Recent.empty capacity : Recent κ ν).Sound where
  room := Nat.le_max_left 1 capacity
  size_le := Nat.zero_le _
  distinct := List.nodup_nil

theorem use (h : c.Sound) (u : Use κ ν) : (c.use u).Sound where
  room := by
    rw [capacity_use h.size_le]
    cases u with
    | resize n => exact Nat.le_max_left 1 n
    | _ => exact h.room
  size_le := by
    rw [size, entries_use h.size_le, capacity_use h.size_le]
    exact List.length_take_le _ _
  distinct := by
    rw [entries_use h.size_le]
    exact List.Nodup.sublist ((List.take_sublist _ _).map _) (noted_distinct h.distinct)

theorem run (h : c.Sound) (us : List (Use κ ν)) : (c.run us).Sound := by
  unfold Recent.run
  induction us generalizing c with
  | nil => exact h
  | cons u us ih => exact ih (h.use u)

theorem capacity_run (h : c.Sound) (us : List (Use κ ν)) :
    (c.run us).capacity = Use.inForce c.capacity us := by
  unfold Recent.run Use.inForce
  induction us generalizing c with
  | nil => rfl
  | cons u us ih => rw [List.foldl_cons, List.foldl_cons, ih (h.use u), capacity_use h.size_le]

theorem get?_eq_some_iff (h : c.Sound) : c.get? k = some v ↔ (k, v) ∈ c.entries := by
  rw [get?, Option.map_eq_some_iff]
  simp only [find?_eq_some_iff_of_distinct h.distinct]
  constructor
  · rintro ⟨e, ⟨hmem, rfl⟩, rfl⟩
    exact hmem
  · intro hmem
    exact ⟨(k, v), ⟨hmem, rfl⟩, rfl⟩

end Sound

/-! ## 4. The list that has room for all -/

/-- What uses do to a list of entries that has room for all. -/
def ledger : Recent κ ν → List (Use κ ν) → List (κ × ν) → List (κ × ν)
  | _, [], es => es
  | c, u :: us, es => (c.use u).ledger us (c.noted u es)

theorem ledger_mono : ∀ (us : List (Use κ ν)) {c : Recent κ ν} {es fs : List (κ × ν)},
    es <+: fs → c.ledger us es <+: c.ledger us fs
  | [], _, _, _, h => h
  | _ :: us, _, _, _, h => ledger_mono us (noted_mono h)

theorem ledger_distinct : ∀ (us : List (Use κ ν)) {c : Recent κ ν} {es : List (κ × ν)},
    (es.map (·.1)).Nodup → ((c.ledger us es).map (·.1)).Nodup
  | [], _, _, h => h
  | _ :: us, _, _, h => ledger_distinct us (noted_distinct h)

theorem keys_ledger_nodup (c : Recent κ ν) (us : List (Use κ ν)) :
    ((c.ledger us []).map (·.1)).Nodup :=
  ledger_distinct us List.nodup_nil

/-- **The entries are the first part of the list.** -/
theorem Sound.entries_run_isPrefix : ∀ (us : List (Use κ ν)) {c : Recent κ ν}, c.Sound →
    (c.run us).entries <+: c.ledger us c.entries
  | [], _, _ => List.prefix_refl _
  | u :: us, c, h => by
    have hstep : (c.use u).entries <+: c.noted u c.entries := by
      rw [entries_use h.size_le]
      exact List.take_prefix _ _
    exact (Sound.entries_run_isPrefix us (h.use u)).trans (ledger_mono us hstep)

/-- A key that no use touches stays where it was. -/
theorem mem_ledger_of_leaves : ∀ (us : List (Use κ ν)) {c : Recent κ ν} {es : List (κ × ν)},
    c.Leaves k us → ((k, v) ∈ c.ledger us es ↔ (k, v) ∈ es)
  | [], _, _, _ => Iff.rfl
  | u :: us, c, es, ⟨hu, hus⟩ => by
    rw [ledger, mem_ledger_of_leaves us hus, mem_noted_iff]
    constructor
    · rintro (hw | ⟨-, hmem⟩)
      · exact absurd (.inl ⟨v, hw⟩) hu
      · exact hmem
    · intro hmem
      exact .inr ⟨hu, hmem⟩

/-- The list holds what was written last and not removed since. -/
theorem mem_ledger_iff : ∀ (us : List (Use κ ν)) {c : Recent κ ν} {es : List (κ × ν)},
    (k, v) ∈ c.ledger us es ↔
      (∃ before u after, c.LastWrite us k v before u after) ∨ (c.Leaves k us ∧ (k, v) ∈ es)
  | [], c, es => by
    simp only [ledger, Leaves, true_and]
    refine ⟨.inr, ?_⟩
    rintro (⟨before, u, after, hlast⟩ | hmem)
    · exact absurd hlast.split (by simp)
    · exact hmem
  | w :: us, c, es => by
    rw [ledger, mem_ledger_iff us, mem_noted_iff]
    constructor
    · rintro (⟨before, u, after, hlast⟩ | ⟨hus, hw | ⟨hu, hmem⟩⟩)
      · exact .inl ⟨w :: before, u, after, by rw [hlast.split]; rfl, hlast.written, hlast.left⟩
      · exact .inl ⟨[], w, us, rfl, hw, hus⟩
      · exact .inr ⟨⟨hu, hus⟩, hmem⟩
    · rintro (⟨before, u, after, hlast⟩ | ⟨⟨hu, hus⟩, hmem⟩)
      · cases before with
        | nil =>
          obtain ⟨rfl, rfl⟩ := List.cons.inj hlast.split
          exact .inr ⟨hlast.left, .inl hlast.written⟩
        | cons w' before =>
          obtain ⟨rfl, hsplit⟩ := List.cons.inj hlast.split
          exact .inl ⟨before, u, after, hsplit, hlast.written, hlast.left⟩
      · exact .inr ⟨hus, .inr ⟨hu, hmem⟩⟩

/-- What was written since, and is standing, makes up the list that starts empty. -/
theorem mem_keys_ledger_iff {us : List (Use κ ν)} {c : Recent κ ν} :
    k ∈ (c.ledger us []).map (·.1) ↔ c.Standing us k := by
  rw [List.mem_map]
  constructor
  · rintro ⟨⟨k, v⟩, hmem, rfl⟩
    rcases (mem_ledger_iff us).mp hmem with hlast | ⟨-, hnil⟩
    · exact ⟨v, hlast⟩
    · exact absurd hnil (by simp)
  · rintro ⟨v, hlast⟩
    exact ⟨(k, v), (mem_ledger_iff us).mpr (.inl hlast), rfl⟩

/-- So a list of the keys that are standing has as many members. -/
theorem length_eq_of_standing {later : List κ} (hnodup : later.Nodup)
    (hmem : ∀ j, j ∈ later ↔ c.Standing us j) : later.length = (c.ledger us []).length := by
  have hperm : later.Perm ((c.ledger us []).map (·.1)) := by
    refine (List.perm_ext_iff_of_nodup hnodup (c.keys_ledger_nodup us)).mpr fun j => ?_
    rw [hmem, mem_keys_ledger_iff]
  rw [hperm.length_eq, List.length_map]

/-! ## 5. The law -/

/-- A key that is not there does not come back unless it is written. -/
theorem Sound.not_mem_run (h : c.Sound) (hk : (k, v) ∉ c.entries) (hl : c.Leaves k us) :
    (k, v) ∉ (c.run us).entries := fun hmem =>
  hk ((mem_ledger_of_leaves us hl).mp ((h.entries_run_isPrefix us).subset hmem))

/-- **How long an entry stays.**  As long as its key is not touched, it is there iff at every point
what stands before it left room for it. -/
theorem Sound.mem_run_iff : ∀ (us : List (Use κ ν)) {c : Recent κ ν} {xs es : List (κ × ν)},
    c.Sound → c.entries = xs ++ (k, v) :: es → c.Leaves k us →
    ((k, v) ∈ (c.run us).entries ↔ ∀ since rest, us = since ++ rest →
      (c.ledger since xs).length < (c.run since).capacity)
  | [], c, xs, es, h, heq, _ => by
    have hsize := h.size_le
    rw [size, heq, List.length_append, List.length_cons] at hsize
    refine iff_of_true (heq ▸ by simp) fun since rest hsplit => ?_
    obtain ⟨rfl, -⟩ := List.append_eq_nil_iff.mp hsplit.symm
    show xs.length < c.capacity
    omega
  | u :: us, c, xs, es, h, heq, ⟨hu, hus⟩ => by
    obtain ⟨fs, hnoted⟩ := noted_append hu v xs es
    have hentries : (c.use u).entries =
        (c.noted u xs ++ (k, v) :: fs).take (c.use u).capacity := by
      rw [entries_use h.size_le, capacity_use h.size_le, heq, hnoted]
    by_cases hroom : (c.noted u xs).length < (c.use u).capacity
    · -- the entry is still there, with what `u` left before it
      obtain ⟨m, hm⟩ := Nat.exists_eq_add_one.mpr (Nat.sub_pos_of_lt hroom)
      rw [List.take_append, List.take_of_length_le (Nat.le_of_lt hroom), hm,
        List.take_succ_cons] at hentries
      refine (Sound.mem_run_iff us (h.use u) hentries hus).trans ⟨fun hall => ?_, fun hall => ?_⟩
      · rintro (_ | ⟨u', since⟩) rest hsplit
        · have hsize := h.size_le
          rw [size, heq, List.length_append, List.length_cons] at hsize
          show xs.length < c.capacity
          omega
        · obtain ⟨rfl, hus'⟩ := List.cons.inj hsplit
          exact hall since rest hus'
      · intro since rest hsplit
        exact hall (u :: since) rest (by rw [hsplit]; rfl)
    · -- the entry is cut off, and no later use writes its key
      have hdistinct := noted_distinct (c := c) (u := u) h.distinct
      rw [heq, hnoted, List.map_append, List.map_cons, List.nodup_append] at hdistinct
      have hgone : (k, v) ∉ (c.use u).entries := by
        rw [hentries, List.take_append_of_le_length (Nat.le_of_not_lt hroom)]
        intro hmem
        have hkey := List.mem_map_of_mem (f := (·.1)) (List.mem_of_mem_take hmem)
        exact hdistinct.2.2 k hkey k List.mem_cons_self rfl
      refine iff_of_false ((h.use u).not_mem_run hgone hus) fun hall => ?_
      exact hroom (hall [u] us rfl)

/-- What is written goes to the front. -/
theorem Sound.entries_use_of_write (h : c.Sound) (hw : c.writes? u = some (k, v)) :
    ∃ es, (c.use u).entries = (k, v) :: es := by
  have hroom := (h.use u).room
  rw [capacity_use h.size_le] at hroom
  obtain ⟨m, hm⟩ := Nat.exists_eq_add_one.mpr hroom
  refine ⟨(c.entries.filter fun e => e.1 ≠ k).take m, ?_⟩
  rw [entries_use h.size_le, hm, noted, hw]
  rfl

theorem Sound.mem_run_of_lastWrite (h : c.Sound) {before after : List (Use κ ν)}
    (hlast : c.LastWrite us k v before u after) :
    (k, v) ∈ (c.run us).entries ↔ ∀ since rest, after = since ++ rest →
      (((c.run before).use u).ledger since []).length <
        Use.inForce c.capacity (before ++ u :: since) := by
  have hrun (since : List (Use κ ν)) :
      c.run (before ++ u :: since) = ((c.run before).use u).run since := by
    simp only [Recent.run, List.foldl_append, List.foldl_cons]
  obtain ⟨es, hes⟩ := (h.run before).entries_use_of_write hlast.written
  have hiff := ((h.run before).use u).mem_run_iff after (hes.trans (List.nil_append _).symm)
    hlast.left
  rw [hlast.split, hrun, hiff]
  simp only [← h.capacity_run, hrun]

/-- A value is there iff it survives. -/
theorem Sound.get?_run_iff (h : c.Sound) (hc : c.entries = []) :
    (c.run us).get? k = some v ↔ c.Survives us k v := by
  rw [(h.run us).get?_eq_some_iff]
  constructor
  · intro hmem
    have hledger := (h.entries_run_isPrefix us).subset hmem
    rw [hc] at hledger
    rcases (mem_ledger_iff us).mp hledger with ⟨before, u, after, hlast⟩ | ⟨-, hnil⟩
    · refine ⟨before, u, after, hlast, fun since rest hsplit => ?_⟩
      refine ⟨(((c.run before).use u).ledger since []).map (·.1),
        keys_ledger_nodup _ since, fun _ => mem_keys_ledger_iff, ?_⟩
      rw [List.length_map]
      exact (h.mem_run_of_lastWrite hlast).mp hmem since rest hsplit
    · exact absurd hnil (by simp)
  · rintro ⟨before, u, after, hlast, hroom⟩
    refine (h.mem_run_of_lastWrite hlast).mpr fun since rest hsplit => ?_
    obtain ⟨later, hnodup, hmem, hlt⟩ := hroom since rest hsplit
    rwa [length_eq_of_standing hnodup hmem] at hlt

omit [DecidableEq κ] in
/-- Dropping counts what it drops. -/
theorem drop_add_size (c : Recent κ ν) (p : κ → Bool) :
    (c.drop p).1 + (c.drop p).2.size = c.size := by
  have hlength := List.length_eq_countP_add_countP (fun e : κ × ν => p e.1) (l := c.entries)
  simpa [drop, size, List.countP_eq_length_filter] using hlength.symm

end Recent

/-- **Which values a cache has.**  After every sequence of uses of an empty cache of any capacity,
no key has two entries, there are no more entries than the capacity in force allows, and the value
of a key is there iff it survives.  Reading, and fetching what is there, changes nothing; dropping
tells by how much it makes the cache smaller, and keeps the other entries in their order. -/
theorem recent_survival {κ ν : Type} [DecidableEq κ] (capacity : Nat) (us : List (Use κ ν)) :
    let c := (Recent.empty capacity).run us
    (c.entries.map (·.1)).Nodup ∧ c.size ≤ c.capacity ∧
    c.capacity = Use.inForce (max 1 capacity) us ∧
    (∀ k v, c.get? k = some v ↔ (Recent.empty capacity).Survives us k v) ∧
    (∀ k, c.use (.get k) = c) ∧
    (∀ k v compute, c.get? k = some v →
      c.fetch k compute = (v, true, c) ∧ c.getOrInsert k compute = (v, c)) ∧
    ∀ p : κ → Bool, (c.drop p).1 + (c.drop p).2.size = c.size ∧
      (c.drop p).2.entries.Sublist c.entries ∧
      ∀ e, e ∈ (c.drop p).2.entries ↔ e ∈ c.entries ∧ p e.1 = false := by
  intro c
  have hempty : (Recent.empty capacity : Recent κ ν).Sound := .empty capacity
  have hsound : c.Sound := hempty.run us
  refine ⟨hsound.distinct, hsound.size_le, hempty.capacity_run us,
    fun _ _ => hempty.get?_run_iff rfl, fun _ => rfl, fun k v compute hk => ?_,
    fun p => ⟨c.drop_add_size p, List.filter_sublist, ?_⟩⟩
  · have hfetch := Recent.fetch_of_hit hk compute
    exact ⟨hfetch, by rw [Recent.getOrInsert, hfetch]⟩
  · intro e
    simp [Recent.drop]

end XQueryScope
