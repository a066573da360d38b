import XQueryScope.Path

/-!
# Files beside files

A relative path in a file is taken from the directory of that file.  `Path.beside` is the path that
results, and `Path.Within.beside_eq` says what it looks like: what stands in front of the file's
name (`Path.Within`) is put in front of the relative path.
-/

namespace XQueryScope.Path

variable {dir name path : String}

/-! ## 1. Segments -/

theorem segments_append (dir name : String) :
    segments (dir ++ "/" ++ name) = segments dir ++ segments name := by
  have hlist : (dir ++ "/" ++ name).toList = dir.toList ++ '/' :: name.toList := by simp
  rw [segments, hlist, List.splitOn_append_cons_self, List.map_append]
  rfl

theorem segments_of_not_mem (h : '/' ∉ name.toList) : segments name = [name] := by
  rw [segments, List.splitOn_eq_singleton h, List.map_singleton, String.ofList_toList]

theorem intercalate_segments (path : String) : "/".intercalate (segments path) = path := by
  have hid : String.toList ∘ String.ofList = id := funext fun _ => String.toList_ofList
  rw [← String.toList_inj, String.toList_intercalate, segments, List.map_map, hid, List.map_id]
  exact List.intercalate_splitOn '/'

/-- A segment that may stand at the end of a path. -/
structure IsName (name : String) : Prop where
  noSlash : '/' ∉ name.toList
  counts : counts name = true

/-- A path that ends in a segment that counts. -/
def Tidy (dir : String) : Prop :=
  ∃ before last, segments dir = before ++ [last] ∧ counts last = true

theorem Tidy.segments_ne (h : Tidy dir) (before : List String) : segments dir ≠ before ++ [""] := by
  obtain ⟨others, last, hsegments, hlast⟩ := h
  intro hempty
  obtain rfl : last = "" := by
    rw [hsegments] at hempty
    exact (List.append_singleton_inj.mp hempty).2
  cases hlast

theorem Tidy.ne_empty (h : Tidy dir) : dir ≠ "" := by
  rintro rfl
  exact h.segments_ne [] rfl

theorem Tidy.endsWith_eq (h : Tidy dir) : dir.endsWith "/" = false := by
  rw [Bool.eq_false_iff, ← String.endsWith_toSlice, ne_eq, String.Slice.endsWith_string_iff,
    String.copy_toSlice]
  rintro ⟨cs, hcs⟩
  have hdir : dir = String.ofList cs ++ "/" ++ "" := by
    rw [← String.toList_inj, ← hcs]
    simp
  apply h.segments_ne (segments (String.ofList cs))
  rw [hdir, segments_append]
  rfl

/-! ## 2. Directories -/

theorem dropEnd_of_counts (first : String) (before : List String) (h : counts name = true) :
    dropEnd first (before ++ [name]) = first :: (before ++ [name]) := by
  simp [dropEnd, h]

theorem Tidy.dropEnd_eq {first : String} {rest : List String} (h : Tidy dir)
    (hsegments : segments dir = first :: rest) : dropEnd first rest = first :: rest := by
  obtain ⟨before, last, hlast, hcounts⟩ := h
  rw [hsegments] at hlast
  cases before with
  | nil =>
    obtain ⟨rfl, rfl⟩ := List.cons_eq_cons.mp hlast
    have hne : first ≠ "" := by
      rintro rfl
      cases hcounts
    simp [dropEnd, hne]
  | cons head before =>
    obtain ⟨rfl, rfl⟩ := List.cons_eq_cons.mp hlast
    exact dropEnd_of_counts first before hcounts

theorem IsName.isAbsolute_eq (h : IsName name) : isAbsolute name = false := by
  rw [isAbsolute, Bool.eq_false_iff, ne_eq, String.startsWith_string_iff]
  intro hstarts
  exact h.noSlash (hstarts.subset (by decide))

theorem parent?_name (h : IsName name) : parent? name = some "" := by
  have hne : name ≠ "" := by
    rintro rfl
    cases h.counts
  have hall : dropEnd name [] = [name] := by simp [dropEnd, hne]
  simp [parent?, segments_of_not_mem h.noSlash, hall, h.isAbsolute_eq]

theorem parent?_root (h : IsName name) : parent? ("/" ++ name) = some "/" := by
  have hsegments : segments ("/" ++ name) = ["", name] := by
    have hall := segments_append "" name
    rwa [String.empty_append, segments_of_not_mem h.noSlash] at hall
  have habsolute : isAbsolute ("/" ++ name) = true := by
    rw [isAbsolute, String.startsWith_string_iff, String.toList_append]
    exact List.prefix_append _ _
  have hall : dropEnd "" [name] = ["", name] := dropEnd_of_counts "" [] h.counts
  have hroot : dropEnd "" [] = [] := rfl
  simp [parent?, hsegments, hall, hroot, habsolute]

/-- The directory of a file is what stands before the last slash. -/
theorem parent?_file (hdir : Tidy dir) (h : IsName name) :
    parent? (dir ++ "/" ++ name) = some dir := by
  obtain ⟨first, rest, hsegments⟩ : ∃ first rest, segments dir = first :: rest :=
    List.exists_cons_of_ne_nil (by simp [segments])
  obtain ⟨last, before, hback⟩ : ∃ last before, (first :: rest).reverse = last :: before :=
    List.exists_cons_of_ne_nil (by simp)
  have hfront : (last :: before).reverse = first :: rest := by rw [← hback, List.reverse_reverse]
  have hall : segments (dir ++ "/" ++ name) = first :: (rest ++ [name]) := by
    rw [segments_append, hsegments, segments_of_not_mem h.noSlash, List.cons_append]
  have hlast : (dropEnd first (rest ++ [name])).reverse = name :: last :: before := by
    rw [dropEnd_of_counts first rest h.counts, ← List.cons_append, List.reverse_concat, hback]
  simp only [parent?, hall, hlast, hfront, hdir.dropEnd_eq hsegments]
  rw [← hsegments, intercalate_segments]

/-! ## 3. Relative paths -/

/-- A path that a file mentions: a relative one is taken from the directory of the file. -/
def beside (file path : String) : String :=
  match parent? file with
  | some dir => if isAbsolute path then path else join dir path
  | none => path

theorem join_of_isAbsolute (h : isAbsolute path = true) : join dir path = path := by
  simp [join, h]

theorem beside_of_parent? {file : String} (h : parent? file = some dir) :
    beside file = join dir := by
  funext path
  simp only [beside, h]
  by_cases habsolute : isAbsolute path = true
  · rw [if_pos habsolute, join_of_isAbsolute habsolute]
  · rw [if_neg habsolute]

/-- `front` is what the path of a file has in front of the file's name. -/
inductive Within : String → String → Prop where
  | here {name : String} : IsName name → Within name ""
  | root {name : String} : IsName name → Within ("/" ++ name) "/"
  | directory {dir name : String} : Tidy dir → IsName name →
      Within (dir ++ "/" ++ name) (dir ++ "/")

/-- **A relative path takes the place of the name** of the file that mentions it. -/
theorem Within.beside_eq {file front : String} (h : Within file front) (path : String) :
    beside file path = if isAbsolute path then path else front ++ path := by
  by_cases habsolute : isAbsolute path = true
  · rw [if_pos habsolute, beside]
    split
    · rw [if_pos habsolute]
    · rfl
  · rw [Bool.not_eq_true] at habsolute
    rw [habsolute]
    cases h with
    | here hname =>
      rw [beside_of_parent? (parent?_name hname)]
      simp [join]
    | root hname =>
      have hends : "/".endsWith "/" = true := by decide +kernel
      rw [beside_of_parent? (parent?_root hname)]
      simp [join, habsolute, hends]
    | directory hdir hname =>
      rw [beside_of_parent? (parent?_file hdir hname)]
      simp [join, habsolute, hdir.ne_empty, hdir.endsWith_eq]

end XQueryScope.Path
