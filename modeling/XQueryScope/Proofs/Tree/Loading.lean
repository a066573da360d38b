import XQueryScope.Proofs.Tree.Outline

/-!
# What the loaders accept

The loader of listings closes nodes until the parent that an entry names is the innermost open one.
That accepts exactly the listings of well-formed outlines.  Whatever it accepts it lists again
(`Tree.ofListing_eq_ok_iff`), a tree lists what its outline lists, and the listing of an outline is
the listing of the tree that is read from it; so the loader of outlines, which goes another way,
builds the same tree.  The entry that is refused is the first one with which the list is no
beginning of a listing (`ofListing_accepts_listings`), because a list that is accepted so far is a
listing already.
-/

namespace XQueryScope

namespace Builder

variable {b b' : Builder} {e : Entry} {es : List Entry} {x : TreeError}

/-! ## 1. One entry -/

/-- Why an entry is refused at a place. -/
def refusal (e : Entry) (place : Nat) : TreeError :=
  e.parent.elim (.orphan place) (.notOpen place)

/-- An entry is entered below its parent, and only the first one without; or it is refused. -/
theorem enter_cases (hb : b.Sound) (e : Entry) :
    (∃ opened, opened <:+ b.opened ∧ opened.head? = e.parent ∧
      b.enter e.parent = .ok { b with opened } ∧ (0 < b.nodes.size → e.parent.isSome = true)) ∨
    b.enter e.parent = .error (refusal e b.nodes.size) := by
  cases hparent : e.parent with
  | none =>
    by_cases hzero : b.nodes.size = 0
    · refine .inl ⟨b.opened, List.suffix_refl _, ?_, by simp [enter, hzero], fun hpos => by omega⟩
      rw [hb.opened_of_empty hzero]
      rfl
    · exact .inr (by simp [enter, refusal, hparent, hzero])
  | some p =>
    by_cases hp : p ∈ b.opened
    · obtain ⟨rest, henter, hsuffix⟩ := enter_of_mem hp
      exact .inl ⟨p :: rest, hsuffix, rfl, henter, fun _ => rfl⟩
    · have hother (q : Nat) (hq : q ∈ b.opened) : (q != p) = true :=
        bne_iff_ne.mpr fun hqp => hp (hqp ▸ hq)
      have hdrop : b.opened.dropWhile (· != p) = [] := by
        simpa using @List.dropWhile_append_of_pos _ (· != p) b.opened [] hother
      exact .inr (by simp [enter, refusal, hparent, hdrop])

/-- What an entry that is accepted adds is the entry itself. -/
structure Accepts (b : Builder) (es : List Entry) (b' : Builder) : Prop where
  sound : b'.Sound
  entries_eq : b'.entries = b.entries ++ es
  parent_isSome : 0 < b.nodes.size → ∀ e ∈ es, e.parent.isSome = true

theorem Accepts.size_eq (h : b.Accepts es b') : b'.nodes.size = b.nodes.size + es.length := by
  simpa [entries] using congrArg List.length h.entries_eq

theorem addEntry_cases (hb : b.Sound) (e : Entry) :
    (∃ b', b.addEntry e = .ok b' ∧ b.Accepts [e] b') ∨
    b.addEntry e = .error (refusal e b.nodes.size) := by
  rcases enter_cases hb e with ⟨opened, hsuffix, hhead, henter, hfirst⟩ | herr
  · refine .inl ⟨_, addEntry_of_enter henter, (hb.close hsuffix).place e, ?_, ?_⟩
    · have hplace : (place { b with opened } e).entries =
          (push { b with opened } e.kind e.text).entries := by
        rw [entries, entries, nodes_place, tree_place]
      rw [hplace, entries_push, hhead]
      rfl
    · intro hpos d hd
      rw [List.mem_singleton.mp hd]
      exact hfirst hpos
  · refine .inr ?_
    rw [addEntry, herr]
    rfl

/-! ## 2. Many entries -/

theorem Accepts.cons {b₁ : Builder} (h : b.Accepts [e] b₁) (hrest : b₁.Accepts es b') :
    b.Accepts (e :: es) b' where
  sound := hrest.sound
  entries_eq := by rw [hrest.entries_eq, h.entries_eq, List.append_assoc]; rfl
  parent_isSome hpos := by
    rw [List.forall_mem_cons]
    exact ⟨h.parent_isSome hpos e List.mem_cons_self,
      hrest.parent_isSome (by rw [h.size_eq]; omega)⟩

theorem accepts_of_addEntries (hb : b.Sound) (h : b.addEntries es = .ok b') :
    b.Accepts es b' := by
  induction es generalizing b with
  | nil =>
    cases h
    exact ⟨hb, by simp, by simp⟩
  | cons e es ih =>
    rcases addEntry_cases hb e with ⟨b₁, hadd, haccepts⟩ | herr
    · rw [addEntries, hadd] at h
      exact haccepts.cons (ih haccepts.sound h)
    · rw [addEntries, herr] at h
      cases h

theorem addEntries_append (es fs : List Entry) :
    b.addEntries (es ++ fs) = b.addEntries es >>= fun b' => b'.addEntries fs := by
  induction es generalizing b with
  | nil => rfl
  | cons e es ih =>
    rw [List.cons_append, addEntries, addEntries]
    cases b.addEntry e with
    | error x => rfl
    | ok b₁ => exact ih

/-- A list is refused for one entry, and the entries before that one are accepted. -/
theorem addEntries_eq_error (hb : b.Sound) (h : b.addEntries es = .error x) :
    ∃ before e after b', es = before ++ e :: after ∧ b.addEntries before = .ok b' ∧
      b'.addEntry e = .error x ∧ x = refusal e (b.nodes.size + before.length) := by
  induction es generalizing b with
  | nil => cases h
  | cons e es ih =>
    rcases addEntry_cases hb e with ⟨b₁, hadd, haccepts⟩ | herr
    · rw [addEntries, hadd] at h
      obtain ⟨before, e', after, b', rfl, hbefore, hrefused, hx⟩ := ih haccepts.sound h
      refine ⟨e :: before, e', after, b', rfl, ?_, hrefused, ?_⟩
      · rw [addEntries, hadd]
        exact hbefore
      · rw [hx, haccepts.size_eq, List.length_singleton, List.length_cons, Nat.add_assoc,
          Nat.add_comm 1]
    · rw [addEntries, herr] at h
      cases h
      exact ⟨[], e, es, b, rfl, rfl, herr, rfl⟩

end Builder

/-! ## 3. Listings -/

namespace Tree

variable {t u : Tree} {e : Entry} {es : List Entry}

theorem ofListing_of_addEntries {b : Builder} (h : Builder.addEntries {} (e :: es) = .ok b) :
    ofListing (e :: es) = .ok b.tree ∧ b.tree.Whole ∧ b.tree.toListing = e :: es := by
  -- all entries but the first come when there is a node already
  rcases Builder.addEntry_cases Builder.Sound.empty e with ⟨b₁, hadd, hfirst⟩ | herr
  · have hrest : b₁.addEntries es = .ok b := by
      rw [Builder.addEntries, hadd] at h
      exact h
    have haccepts := Builder.accepts_of_addEntries hfirst.sound hrest
    have hentries : b.entries = e :: es := (hfirst.cons haccepts).entries_eq
    obtain ⟨hwhole, hlisting⟩ := haccepts.sound.whole hentries
      (haccepts.parent_isSome (by rw [hfirst.size_eq]; exact Nat.succ_pos _))
    refine ⟨?_, hwhole, hlisting⟩
    rw [ofListing, h]
    exact (haccepts.sound.close List.nil_suffix).finish_eq rfl hwhole.size_pos
  · rw [Builder.addEntries, herr] at h
    cases h

theorem RootPart.whole (h : RootPart u t) (ht : t.Rooted) : u.Whole :=
  ⟨h.rooted, by rw [h.span_eq ht, h.size_eq]⟩

/-- **A listing is loaded as the tree that it is the listing of.** -/
theorem ofListing_eq_ok_iff : ofListing es = .ok t ↔ t.Whole ∧ t.toListing = es := by
  constructor
  · intro h
    cases es with
    | nil => cases h
    | cons e es =>
      cases hadd : Builder.addEntries {} (e :: es) with
      | error x =>
        rw [ofListing, hadd] at h
        cases h
      | ok b =>
        obtain ⟨hload, hwhole⟩ := ofListing_of_addEntries hadd
        rw [hload, Except.ok.injEq] at h
        exact h ▸ hwhole
  · rintro ⟨hwhole, rfl⟩
    obtain ⟨u, hload, hpart⟩ := hwhole.toRooted.ofListing_toListing
    have hsame := hwhole.eq_of_toListing_eq (hpart.whole hwhole.toRooted)
      (hpart.toListing_eq hwhole.toRooted)
    rw [hload, hsame]

/-- What the loader of listings accepts, the loader of outlines builds from the outline. -/
theorem ofOutline_of_ofListing (h : ofListing es = .ok t) :
    t.toOutline.WellFormed ∧ t.toOutline.listing = es ∧ ofOutline t.toOutline = .ok t := by
  obtain ⟨hwhole, hlisting⟩ := ofListing_eq_ok_iff.mp h
  obtain ⟨hwf, houtline⟩ := hwhole.toRooted.toOutline_described
  obtain ⟨u, hload, hu, hulisting⟩ := ofOutline_of_wellFormed hwf
  have hsame := hwhole.eq_of_toListing_eq hu (hulisting.trans houtline)
  exact ⟨hwf, houtline.trans hlisting, hsame ▸ hload⟩

theorem ofListing_listing {o : Outline} (h : o.WellFormed) : ∃ t, ofListing o.listing = .ok t := by
  obtain ⟨t, -, hwhole, hlisting⟩ := ofOutline_of_wellFormed h
  exact ⟨t, ofListing_eq_ok_iff.mpr ⟨hwhole, hlisting⟩⟩

/-! ## 4. Beginnings of listings -/

/-- A list that is accepted so far is a listing. -/
theorem exists_listing_of_addEntries {b : Builder} (hne : es ≠ [])
    (h : Builder.addEntries {} es = .ok b) : ∃ o : Outline, o.WellFormed ∧ o.listing = es := by
  cases es with
  | nil => exact absurd rfl hne
  | cons e es =>
    obtain ⟨hwf, hlisting, -⟩ := ofOutline_of_ofListing (ofListing_of_addEntries h).1
    exact ⟨_, hwf, hlisting⟩

/-- A list with an entry that is refused cannot be completed to a listing. -/
theorem not_prefix_listing {b : Builder} {before : List Entry} {x : TreeError} {o : Outline}
    (hbefore : Builder.addEntries {} before = .ok b) (hrefused : b.addEntry e = .error x)
    (hwf : o.WellFormed) : ¬before ++ [e] <+: o.listing := by
  rintro ⟨after, hafter⟩
  obtain ⟨t, ht⟩ := ofListing_listing hwf
  have herr : Builder.addEntries {} o.listing = .error x := by
    rw [← hafter, List.append_assoc, Builder.addEntries_append, hbefore]
    show b.addEntries (e :: after) = .error x
    rw [Builder.addEntries, hrefused]
    rfl
  rw [ofListing, herr] at ht
  cases ht

theorem ofListing_eq_error {x : TreeError} (h : ofListing es = .error x) :
    (es = [] ∧ x = .empty) ∨ Builder.addEntries {} es = .error x := by
  cases es with
  | nil =>
    cases h
    exact .inl ⟨rfl, rfl⟩
  | cons e es =>
    cases hadd : Builder.addEntries {} (e :: es) with
    | error y =>
      rw [ofListing, hadd] at h
      cases h
      exact .inr rfl
    | ok b =>
      rw [(ofListing_of_addEntries hadd).1] at h
      cases h

end Tree

/-- **The loader of listings accepts the listings of well-formed outlines, and no other list.**  The
outline is told by the listing, the loader of outlines builds the same tree from it, every link of
every node included, and the tree has that outline.  A list that is refused is empty, or the error
names the first place with which the list does not begin like any listing. -/
theorem ofListing_accepts_listings (es : List Entry) :
    ((∃ t, Tree.ofListing es = .ok t) ↔ ∃ o : Outline, o.WellFormed ∧ o.listing = es) ∧
    (∀ t, Tree.ofListing es = .ok t → ∃ o : Outline, (o.WellFormed ∧ o.listing = es) ∧
      (∀ o' : Outline, o'.WellFormed ∧ o'.listing = es → o' = o) ∧
      Tree.ofOutline o = .ok t ∧ t.toOutline = o) ∧
    (∀ x, Tree.ofListing es = .error x →
      (es = [] ∧ x = .empty) ∨
      ∃ i e, es[i]? = some e ∧ x = e.parent.elim (.orphan i) (.notOpen i) ∧
        (¬∃ o : Outline, o.WellFormed ∧ es.take (i + 1) <+: o.listing) ∧
        ∀ j, j < i → ∃ o : Outline, o.WellFormed ∧ es.take (j + 1) <+: o.listing) ∧
    Tree.ofListing [] = .error .empty := by
  refine ⟨⟨fun ⟨t, ht⟩ => ?_, fun ⟨o, hwf, ho⟩ => ho ▸ Tree.ofListing_listing hwf⟩, ?_, ?_, rfl⟩
  · obtain ⟨hwf, hlisting, -⟩ := Tree.ofOutline_of_ofListing ht
    exact ⟨t.toOutline, hwf, hlisting⟩
  · intro t ht
    obtain ⟨hwf, hlisting, hload⟩ := Tree.ofOutline_of_ofListing ht
    refine ⟨t.toOutline, ⟨hwf, hlisting⟩, fun o' ho' => ?_, hload, rfl⟩
    exact Outline.eq_of_listing_eq (ho'.2.trans hlisting.symm)
  · intro x hx
    refine (Tree.ofListing_eq_error hx).imp_right fun hadd => ?_
    obtain ⟨before, e, after, b, rfl, hbefore, hrefused, hcause⟩ :=
      Builder.addEntries_eq_error Builder.Sound.empty hadd
    have htake : (before ++ e :: after).take (before.length + 1) = before ++ [e] := by
      rw [List.take_append, List.take_of_length_le (Nat.le_succ _), Nat.add_sub_cancel_left]
      rfl
    refine ⟨before.length, e, by simp, by simpa [Builder.refusal] using hcause, ?_, fun j hj => ?_⟩
    · rintro ⟨o, hwf, hbegins⟩
      rw [htake] at hbegins
      exact Tree.not_prefix_listing hbefore hrefused hwf hbegins
    · have hne : before ≠ [] := List.ne_nil_of_length_pos (by omega)
      obtain ⟨o, hwf, hlisting⟩ := Tree.exists_listing_of_addEntries hne hbefore
      refine ⟨o, hwf, ?_⟩
      rw [List.take_append_of_le_length hj, hlisting]
      exact List.take_prefix _ _

/-- A listing with a leaf that is left open, and a token behind it. -/
def callEntries : List Entry :=
  [⟨.functionCall, none, none⟩, ⟨.argumentList, none, some 0⟩, ⟨.expr, none, some 1⟩,
    ⟨.varName, some "x", some 0⟩]

/-- The same with an entry that names a node which is closed. -/
def strayEntries : List Entry := callEntries ++ [⟨.expr, none, some 1⟩]

theorem callEntries_accepted :
    (∃ t o, Tree.ofListing callEntries = .ok t ∧ o.listing = callEntries ∧
      Tree.ofOutline o = .ok t ∧ t.toOutline = o) ∧
    Tree.ofListing strayEntries = .error (.notOpen 4 1) ∧
    ¬∃ o : Outline, o.WellFormed ∧ strayEntries <+: o.listing := by
  refine ⟨?_, rfl, ?_⟩
  · obtain ⟨o, ⟨-, hlisting⟩, -, hload, houtline⟩ :=
      (ofListing_accepts_listings callEntries).2.1 _ rfl
    exact ⟨_, o, rfl, hlisting, hload, houtline⟩
  · rcases (ofListing_accepts_listings strayEntries).2.2.1 (.notOpen 4 1) rfl with
      ⟨hnil, -⟩ | ⟨i, e, -, hx, hnot, -⟩
    · exact absurd hnil (by simp [strayEntries])
    · cases hp : e.parent with
      | none => simp [hp] at hx
      | some p =>
        simp only [hp, Option.elim_some, TreeError.notOpen.injEq] at hx
        rw [← hx.1] at hnot
        exact hnot

end XQueryScope
