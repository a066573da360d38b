import XQueryScope.Name
import XQueryScope.Proofs.Text.Blank

/-!
# The grammar of names

The three written forms of a name, as rules.  `Name.Part` says which texts may stand on either side
of a colon, and `Name.Spells` which texts are of which form and what name they spell.  The main
result is `parse?_grammar`: reading a token finds the name that it spells, blanks around it aside,
and finds none where the rules give none; and what is written for a name that was read is read as
that name again.

Both directions rest on one fact about the tables of characters: no blank, colon or brace can stand
in a name part (`isPart_of_isBlank` for the blanks).  So the first colon or brace of a token tells
its form, and a written name has no blank at either end.
-/

namespace XQueryScope

namespace Name

variable {c : Char} {cs p l : List Char} {n : Name}

/-! ## 1. Name parts -/

/-- A letter or `_`, followed by letters, numerals and the marks `_`, `.` and `-`. -/
inductive Part : List Char → Prop where
  | intro {c : Char} {rest : List Char} : c = '_' ∨ Text.isLetter c = true →
      (∀ x ∈ rest, x = '_' ∨ x = '.' ∨ x = '-' ∨ Text.isLetter x = true ∨
        Text.isNumber x = true) → Part (c :: rest)

theorem isSimple_iff : isSimple cs = true ↔ Part cs := by
  constructor
  · intro h
    cases cs with
    | nil => cases h
    | cons c rest =>
      simp only [isSimple, isStart, isPart, Bool.and_eq_true, Bool.or_eq_true, beq_iff_eq,
        List.all_eq_true, or_assoc] at h
      exact .intro h.1 h.2
  · rintro ⟨hstart, hrest⟩
    simp only [isSimple, isStart, isPart, Bool.and_eq_true, Bool.or_eq_true, beq_iff_eq,
      List.all_eq_true, or_assoc]
    exact ⟨hstart, hrest⟩

theorem Part.ne_nil (h : Part cs) : cs ≠ [] := by
  rintro rfl
  cases h

theorem Part.isPart_of_mem (h : Part cs) (hc : c ∈ cs) : isPart c = true := by
  simp only [isPart, Bool.or_eq_true, beq_iff_eq, or_assoc]
  obtain ⟨hstart, hrest⟩ := h
  rcases List.mem_cons.mp hc with rfl | hc
  · rcases hstart with hstart | hstart <;> simp [hstart]
  · exact hrest c hc

theorem Part.not_mem (h : Part cs) (hc : isPart c = false) : c ∉ cs := by
  intro hmem
  rw [h.isPart_of_mem hmem] at hc
  cases hc

/-- **No blank can stand in a name part.** -/
theorem isPart_of_isBlank (h : Text.isBlank c = true) : isPart c = false := by
  have hmark : ∀ mark, Text.isBlank mark = false → c ≠ mark := by
    rintro mark hmark rfl
    rw [hmark] at h
    cases h
  simp [isPart, Text.isLetter_of_isBlank h, Text.isNumber_of_isBlank h,
    hmark '_' (by decide), hmark '.' (by decide), hmark '-' (by decide)]

theorem Part.isBlank_of_mem (h : Part cs) (hc : c ∈ cs) : Text.isBlank c = false := by
  rw [← Bool.not_eq_true]
  intro hblank
  exact h.not_mem (isPart_of_isBlank hblank) hc

theorem not_isPart_colon : isPart ':' = false := by decide +kernel

theorem not_isPart_brace : isPart '\x7b' = false := by decide +kernel

/-! ## 2. The three forms -/

/-- How a name is written. -/
inductive Form where
  | plain
  | prefixed
  | braced
deriving DecidableEq

/-- `cs` is of a form, and spells the name `n` in it. -/
inductive Spells : Form → List Char → Name → Prop where
  /-- `local` -/
  | plain {l : List Char} : Part l → Spells .plain l ⟨none, String.ofList l, none⟩
  /-- `p:local` -/
  | prefixed {p l : List Char} : Part p → Part l →
      Spells .prefixed (p ++ ':' :: l) ⟨some (String.ofList p), String.ofList l, none⟩
  /-- `Q{uri}local`, where the blanks around the uri do not count. -/
  | braced {u uri l : List Char} : '\x7b' ∉ u → '\x7d' ∉ u → Text.Strips u uri → Part l →
      Spells .braced ('Q' :: '\x7b' :: (u ++ '\x7d' :: l))
        ⟨none, String.ofList l, some (String.ofList uri)⟩

theorem parseUriQualified?_eq_some_iff :
    parseUriQualified? cs = some n ↔ Spells .braced ('Q' :: '\x7b' :: cs) n := by
  simp only [parseUriQualified?, Option.bind_eq_bind, Option.bind_eq_some_iff, Prod.exists,
    Text.cut?_eq_some_iff]
  constructor
  · rintro ⟨u, l, ⟨rfl, hclose⟩, hn⟩
    split at hn
    · cases hn
    · rename_i hparts
      simp only [Bool.or_eq_true, List.contains_iff_mem, Bool.not_eq_true', not_or,
        Bool.not_eq_false] at hparts
      cases hn
      exact .braced hparts.1 hclose (Text.strips_trim u) (isSimple_iff.mp hparts.2)
  · intro h
    cases h with
    | braced hopen hclose huri hl =>
      rename_i u uri l
      refine ⟨u, l, ⟨rfl, hclose⟩, ?_⟩
      rw [Text.trim_eq_iff.mpr huri]
      simp [hopen, isSimple_iff.mpr hl]

theorem parseLexical?_eq_some_iff :
    parseLexical? cs = some n ↔ Spells .plain cs n ∨ Spells .prefixed cs n := by
  constructor
  · intro h
    unfold parseLexical? at h
    split at h
    · rename_i p l hcut
      obtain ⟨rfl, -⟩ := Text.cut?_eq_some_iff.mp hcut
      split at h
      · rename_i hparts
        rw [Bool.and_eq_true, isSimple_iff, isSimple_iff] at hparts
        cases h
        exact .inr (.prefixed hparts.1 hparts.2)
      · cases h
    · split at h
      · rename_i hpart
        cases h
        exact .inl (.plain (isSimple_iff.mp hpart))
      · cases h
  · rintro (h | h)
    · cases h with
      | plain hl =>
        have hcut := Text.cut?_eq_none_iff.mpr (hl.not_mem not_isPart_colon)
        simp [parseLexical?, hcut, isSimple_iff.mpr hl]
    · cases h with
      | @prefixed p l hp hl =>
        have hcut : Text.cut? ':' (p ++ ':' :: l) = some (p, l) :=
          Text.cut?_eq_some_iff.mpr ⟨rfl, hp.not_mem not_isPart_colon⟩
        simp [parseLexical?, hcut, isSimple_iff.mpr hp, isSimple_iff.mpr hl]

/-- Only the third form starts with `Q{`: a brace cannot stand in a name part. -/
theorem Spells.form_of_brace {form : Form} (h : Spells form ('Q' :: '\x7b' :: cs) n) :
    form = .braced := by
  generalize hcs : 'Q' :: '\x7b' :: cs = text at h
  cases h with
  | plain hl =>
    subst hcs
    exact absurd (by simp) (hl.not_mem not_isPart_brace)
  | @prefixed p l hp hl =>
    match p, hp with
    | [], hp => exact absurd rfl hp.ne_nil
    | [x], _ => simp at hcs
    | x :: y :: p, hp =>
      obtain ⟨-, rfl, -⟩ : 'Q' = x ∧ '\x7b' = y ∧ cs = p ++ ':' :: l := by simpa using hcs
      exact absurd (by simp) (hp.not_mem not_isPart_brace)
  | braced => rfl

/-- **Reading a text without blanks around it** finds the name that it spells in one of the
forms. -/
theorem parseTrimmed?_eq_some_iff : parseTrimmed? cs = some n ↔ ∃ form, Spells form cs n := by
  unfold parseTrimmed?
  split
  · rw [parseUriQualified?_eq_some_iff]
    constructor
    · intro h
      exact ⟨.braced, h⟩
    · rintro ⟨form, h⟩
      rwa [h.form_of_brace] at h
  · rename_i hbrace
    rw [parseLexical?_eq_some_iff]
    constructor
    · rintro (h | h)
      · exact ⟨.plain, h⟩
      · exact ⟨.prefixed, h⟩
    · rintro ⟨form, h⟩
      cases form with
      | plain => exact .inl h
      | prefixed => exact .inr h
      | braced =>
        cases h with
        | braced => exact absurd rfl (hbrace _)

theorem parse?_eq_some_iff {text : String} :
    parse? text = some n ↔ ∃ core form, Text.Strips text.toList core ∧ Spells form core n := by
  simp only [parse?, parseTrimmed?_eq_some_iff, ← Text.trim_eq_iff]
  constructor
  · rintro ⟨form, h⟩
    exact ⟨_, form, rfl, h⟩
  · rintro ⟨core, form, rfl, h⟩
    exact ⟨form, h⟩

/-- Which parts a name has tells its form. -/
theorem Spells.form_eq {form : Form} (h : Spells form cs n) :
    form = if n.nsPrefix.isSome then .prefixed else if n.namespaceUri.isSome then .braced
      else .plain := by
  cases h <;> rfl

/-- A text is of one form at most, and spells one name in it. -/
theorem Spells.unique {form form' : Form} {n' : Name} (h : Spells form cs n)
    (h' : Spells form' cs n') : form = form' ∧ n = n' := by
  have hread := parseTrimmed?_eq_some_iff.mpr ⟨form, h⟩
  rw [parseTrimmed?_eq_some_iff.mpr ⟨form', h'⟩, Option.some.injEq] at hread
  subst hread
  exact ⟨h.form_eq.trans h'.form_eq.symm, rfl⟩

theorem Spells.isUriQualified_iff {form : Form} (h : Spells form cs n) :
    n.isUriQualified = true ↔ form = .braced := by
  cases h <;> simp [isUriQualified]

/-- **A token spells a name with a prefix** iff, blanks around it aside, it is two name parts with a
colon between them. -/
theorem parse?_prefixed_iff {p l text : String} :
    (∃ name, parse? text = some name ∧ name.nsPrefix = some p ∧ name.localName = l) ↔
      Text.trim text.toList = p.toList ++ ':' :: l.toList ∧ isSimple p.toList = true ∧
        isSimple l.toList = true := by
  simp only [parse?, parseTrimmed?_eq_some_iff, isSimple_iff]
  generalize Text.trim text.toList = core
  constructor
  · rintro ⟨name, ⟨form, h⟩, hp, rfl⟩
    cases h with
    | prefixed hpart hl =>
      obtain rfl := Option.some.inj hp
      simp only [String.toList_ofList]
      exact ⟨trivial, hpart, hl⟩
    | plain => cases hp
    | braced => cases hp
  · rintro ⟨rfl, hp, hl⟩
    refine ⟨_, ⟨.prefixed, .prefixed hp hl⟩, ?_, ?_⟩ <;> simp only [String.ofList_toList]

/-- **A token spells a name without a prefix** iff, blanks around it aside, it is a name part, alone
or behind a namespace in braces. -/
theorem parse?_unprefixed_iff {l text : String} :
    (∃ name, parse? text = some name ∧ name.nsPrefix = none ∧ name.localName = l) ↔
      Part l.toList ∧ (Text.Strips text.toList l.toList ∨ ∃ u, '\x7b' ∉ u ∧ '\x7d' ∉ u ∧
        Text.Strips text.toList ('Q' :: '\x7b' :: (u ++ '\x7d' :: l.toList))) := by
  simp only [parse?_eq_some_iff]
  constructor
  · rintro ⟨name, ⟨core, form, hstrips, hspells⟩, hbare, rfl⟩
    cases hspells with
    | plain hl =>
      rw [String.toList_ofList]
      exact ⟨hl, .inl hstrips⟩
    | prefixed => cases hbare
    | braced hopen hclose _ hl =>
      rw [String.toList_ofList]
      exact ⟨hl, .inr ⟨_, hopen, hclose, hstrips⟩⟩
  · rintro ⟨hl, hstrips | ⟨u, hopen, hclose, hstrips⟩⟩
    · exact ⟨_, ⟨_, .plain, hstrips, .plain hl⟩, rfl, String.ofList_toList⟩
    · exact ⟨_, ⟨_, .braced, hstrips, .braced hopen hclose (Text.strips_trim u) hl⟩, rfl,
        String.ofList_toList⟩

/-- A name is written with a prefix or with a namespace, not with both. -/
theorem parse?_form {text : String} (h : parse? text = some n) :
    n.nsPrefix = none ∨ n.namespaceUri = none := by
  obtain ⟨core, form, -, hspells⟩ := parse?_eq_some_iff.mp h
  cases hspells with
  | plain => exact .inl rfl
  | prefixed => exact .inr rfl
  | braced => exact .inl rfl

/-! ## 3. Writing a name -/

theorem Part.bare_append (h : Part l) (hstart : ∀ c, cs.head? = some c → Text.isBlank c = false) :
    Text.Bare (cs ++ l) := by
  have hl : ∀ c ∈ l, Text.isBlank c = false := fun c hc => h.isBlank_of_mem hc
  constructor
  · intro c hc
    cases cs with
    | nil => exact hl c (List.mem_of_mem_head? hc)
    | cons x cs => exact hstart c hc
  · intro c hc
    rw [List.getLast?_append, List.getLast?_eq_some_getLast h.ne_nil, Option.some_or] at hc
    obtain rfl := Option.some.inj hc
    exact hl _ (List.getLast_mem h.ne_nil)

/-- **The first colon divides a name with a prefix.**  What a token has behind it, read without
regard to the grammar, is the local name. -/
theorem afterColon?_of_parse? {p text : String} (h : parse? text = some n)
    (hp : n.nsPrefix = some p) : afterColon? text = some n.localName := by
  obtain ⟨core, form, hstrips, hspells⟩ := parse?_eq_some_iff.mp h
  cases hspells with
  | plain => cases hp
  | prefixed hpart hl =>
    have hbare : Text.Bare ([] ++ _) := hl.bare_append (by simp)
    obtain ⟨head, tail, hcut, htail⟩ :=
      hstrips.cut? (by decide) (hpart.not_mem not_isPart_colon) hbare
    rw [afterColon?, hcut, Option.map_some, Text.trim_eq_iff.mpr htail]
  | braced => cases hp

/-- A name that was read is written in the form it was read in, and without blanks around it. -/
theorem Spells.render {form : Form} (h : Spells form cs n) :
    Spells form n.render.toList n ∧ Text.Bare n.render.toList := by
  cases h with
  | plain hl =>
    rw [Name.render, String.toList_ofList]
    have hbare : Text.Bare ([] ++ _) := hl.bare_append (by simp)
    exact ⟨.plain hl, hbare⟩
  | @prefixed p l hp hl =>
    have htext : Name.render ⟨some (String.ofList p), String.ofList l, none⟩ =
        String.ofList (p ++ ':' :: l) := by
      simp [Name.render, ← String.toList_inj]
    rw [htext, String.toList_ofList]
    refine ⟨.prefixed hp hl, ?_⟩
    rw [← List.singleton_append, ← List.append_assoc]
    refine hl.bare_append fun c hc => ?_
    cases p with
    | nil => exact absurd rfl hp.ne_nil
    | cons x p =>
      obtain rfl := Option.some.inj hc
      exact hp.isBlank_of_mem List.mem_cons_self
  | @braced u uri l hopen hclose huri hl =>
    have htext : Name.render ⟨none, String.ofList l, some (String.ofList uri)⟩ =
        String.ofList ('Q' :: '\x7b' :: (uri ++ '\x7d' :: l)) := by
      simp [Name.render, ← String.toList_inj]
    rw [htext, String.toList_ofList]
    have hmem : ∀ c ∈ uri, c ∈ u := by
      rw [← Text.trim_eq_iff.mpr huri]
      exact fun c => Text.mem_of_mem_trim
    have hbare : Text.Strips uri uri := by
      rw [← Text.trim_eq_iff, ← Text.trim_eq_iff.mpr huri]
      exact (Text.bare_trim u).trim_eq
    refine ⟨.braced (mt (hmem _) hopen) (mt (hmem _) hclose) hbare hl, ?_⟩
    have hsplit : 'Q' :: '\x7b' :: (uri ++ '\x7d' :: l) =
        ('Q' :: '\x7b' :: (uri ++ ['\x7d'])) ++ l := by simp
    rw [hsplit]
    refine hl.bare_append fun c hc => ?_
    obtain rfl := Option.some.inj hc
    decide +kernel

end Name

/-- **The grammar of names.**  A token spells a name iff, blanks around it aside, it is of one of
the three forms; no text is of two of them, and the form tells which parts the name has.  A name is
qualified by its uri iff it is of the third form.  Whatever name was read, its written form is read
as that name. -/
theorem parse?_grammar (text : String) :
    (∀ n, Name.parse? text = some n ↔
      ∃ core form, Text.Strips text.toList core ∧ Name.Spells form core n) ∧
    (∀ core core', Text.Strips text.toList core → Text.Strips text.toList core' → core = core') ∧
    (∀ core form form' n n', Name.Spells form core n → Name.Spells form' core n' →
      form = form' ∧ n = n') ∧
    (∀ core form n, Name.Spells form core n → (n.isUriQualified = true ↔ form = .braced)) ∧
    ∀ n, Name.parse? text = some n → Name.parse? n.render = some n := by
  refine ⟨fun n => Name.parse?_eq_some_iff, ?_, fun _ _ _ _ _ h h' => h.unique h',
    fun _ _ _ h => h.isUriQualified_iff, ?_⟩
  · intro core core' h h'
    exact (Text.trim_eq_iff.mpr h).symm.trans (Text.trim_eq_iff.mpr h')
  · intro n h
    obtain ⟨core, form, -, hspells⟩ := Name.parse?_eq_some_iff.mp h
    obtain ⟨hwritten, hbare⟩ := hspells.render
    refine Name.parse?_eq_some_iff.mpr ⟨_, form, ?_, hwritten⟩
    exact Text.trim_eq_iff.mp hbare.trim_eq

/-- A token for `f.1` in the namespace `urn:a b:c`, with blanks around it and around the uri. -/
def paddedToken : String := "\n Q\x7b urn:a b:c\t\x7df.1 "

theorem paddedToken_read :
    Name.parse? paddedToken = some ⟨none, "f.1", some "urn:a b:c"⟩ ∧
    Name.render ⟨none, "f.1", some "urn:a b:c"⟩ ≠ paddedToken ∧
    Name.parse? (Name.render ⟨none, "f.1", some "urn:a b:c"⟩) =
      some ⟨none, "f.1", some "urn:a b:c"⟩ := by
  have hread : Name.parse? paddedToken = some ⟨none, "f.1", some "urn:a b:c"⟩ := by decide +kernel
  obtain ⟨-, -, -, -, hagain⟩ := parse?_grammar paddedToken
  exact ⟨hread, by decide +kernel, hagain _ hread⟩

end XQueryScope
