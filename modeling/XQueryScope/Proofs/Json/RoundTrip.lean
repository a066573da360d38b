import XQueryScope.Json.Printer
import XQueryScope.Json.Reader

/-!
# Reading JSON that was written

A value without real or negative numbers is found again in its own text, whatever its strings hold:
`parse?_compact`.  Both machines are followed along the writer.  `Lexes cs ts` says what tokens a
text has, in whatever state of the token list the machine meets it; the writer puts one token after
the other in front of such a text (`lexes_write`).  The reader then takes the tokens of a value in
any container to the value itself (`run_tokens`).
-/

namespace XQueryScope

/-! ## 1. Numerals -/

namespace Text

theorem isDigit_of_mem_decimal {n : Nat} {c : Char} (h : c ∈ decimal n) : c.isDigit = true :=
  Nat.isDigit_of_mem_toDigits (by omega) (by omega) h

theorem decimal_ne_nil (n : Nat) : decimal n ≠ [] :=
  Nat.toDigits_ne_nil

theorem digitsValue_decimal (n : Nat) : digitsValue (decimal n) = n := by
  have h : Nat.ofDigitChars 10 (Nat.toDigits 10 n) 0 = n := Nat.ofDigitChars_ten_toDigits
  rw [Nat.ofDigitChars_eq_foldl] at h
  exact h

theorem isNumeral_decimal (n : Nat) : isNumeral (decimal n) = true := by
  simp only [isNumeral, Bool.and_eq_true, Bool.not_eq_true', List.isEmpty_eq_false_iff,
    List.all_eq_true]
  exact ⟨decimal_ne_nil n, fun c => isDigit_of_mem_decimal⟩

/-- Only zero is written with a zero in front. -/
theorem decimal_zero_cons {n : Nat} {ds : List Char} (h : decimal n = '0' :: ds) : ds = [] := by
  induction n using Nat.strongRecOn generalizing ds with
  | ind n ih =>
    by_cases hn : n < 10
    · rw [decimal, Nat.toDigits_of_lt_base hn] at h
      exact (List.cons.inj h).2.symm
    · -- the digits in front would be those of zero
      rw [decimal, Nat.toDigits_of_base_le (by omega) (by omega)] at h
      cases hq : decimal (n / 10) with
      | nil => exact absurd hq (decimal_ne_nil _)
      | cons d front =>
        rw [← decimal, hq] at h
        obtain ⟨rfl, -⟩ := List.cons.inj h
        obtain rfl := ih (n / 10) (by omega) hq
        have hzero := digitsValue_decimal (n / 10)
        rw [hq] at hzero
        have : digitsValue ['0'] = 0 := rfl
        omega

end Text

namespace Json

theorem isWhole_decimal (n : Nat) : isWhole (Text.decimal n) = true := by
  unfold isWhole
  split
  · rfl
  · rename_i ds hne hds
    obtain rfl := Text.decimal_zero_cons hds
    exact absurd rfl hne
  · exact Text.isNumeral_decimal n

theorem readParts?_decimal (n : Nat) :
    readParts? (Text.decimal n) = some ⟨false, Text.decimal n, none, none⟩ := by
  have hall : ∀ c ∈ Text.decimal n, c.isDigit = true := fun _ => Text.isDigit_of_mem_decimal
  have htake : (Text.decimal n ++ []).takeWhile Char.isDigit = Text.decimal n ++ [] :=
    List.takeWhile_append_of_pos hall
  have hdrop : (Text.decimal n ++ []).dropWhile Char.isDigit = [] :=
    List.dropWhile_append_of_pos hall
  rw [List.append_nil] at htake hdrop
  unfold readParts?
  split
  rename_i negative cs hsign
  split at hsign
  · rename_i cs' hcs
    have hminus : '-' ∈ Text.decimal n := by rw [hcs]; exact List.mem_cons_self
    exact absurd (hall _ hminus) (by decide)
  · obtain ⟨rfl, rfl⟩ := Prod.mk.inj hsign
    simp [htake, hdrop, isWhole_decimal, readTail?]

theorem wordToken?_decimal {n : Nat} (h : n < Text.twoTo 64) :
    wordToken? (Text.decimal n).reverse = some (.num (.integer n)) := by
  have hall : ∀ c ∈ Text.decimal n, c.isDigit = true := fun _ => Text.isDigit_of_mem_decimal
  unfold wordToken?
  rw [List.reverse_reverse]
  split
  · rename_i hw
    exact absurd (hall 'n' (by simp [hw])) (by decide)
  · rename_i hw
    exact absurd (hall 't' (by simp [hw])) (by decide)
  · rename_i hw
    exact absurd (hall 'f' (by simp [hw])) (by decide)
  · rw [readParts?_decimal]
    simp [NumberParts.value, Text.digitsValue_decimal, h]

/-! ## 2. The tokens of a text -/

/-- Whether a character ends the word before it. -/
def endsWord (c : Char) : Bool :=
  isSeparator c || c == '"' || (punctuation? c).isSome

theorem endsWord_of_isDigit {c : Char} (h : c.isDigit = true) : endsWord c = false := by
  cases hends : endsWord c with
  | false => rfl
  | true =>
    unfold endsWord isSeparator punctuation? at hends
    split at hends
    all_goals first
      | exact absurd h (by decide)
      | skip
    simp only [Option.isSome_none, Bool.or_false, Bool.or_eq_true, beq_iff_eq] at hends
    rcases hends with (((rfl | rfl) | rfl) | rfl) | rfl <;> exact absurd h (by decide)

/-- What may follow a word. -/
def WordEnds (cs : List Char) : Prop := ∀ c ∈ cs.head?, endsWord c = true

/-- The tokens that the machine finds in a text, whatever it has found before. -/
def Lexes (cs : List Char) (ts : List Token) : Prop :=
  ∀ before, (Lexer.run ⟨before, .gap⟩ cs).bind Lexer.finish? = some (before.reverse ++ ts)

theorem Lexes.lex? {cs : List Char} {ts : List Token} (h : Lexes cs ts) : lex? cs = some ts :=
  h []

theorem lexes_nil : Lexes [] [] := by
  intro before
  simp [Lexer.run, Lexer.finish?]

variable {cs rest : List Char} {ts : List Token} {c : Char} {t : Token}

theorem lexes_punctuation (hc : punctuation? c = some t) (hquote : c ≠ '"')
    (hsep : isSeparator c = false) (h : Lexes rest ts) : Lexes (c :: rest) (t :: ts) := by
  intro before
  have hstep : Lexer.step ⟨before, .gap⟩ c = some ⟨t :: before, .gap⟩ := by
    simp [Lexer.step, Lexer.between, hc, hquote, hsep]
  rw [Lexer.run, hstep]
  simpa using h (t :: before)

theorem run_word {before : List Token} {seen : List Char} (hcs : cs.any endsWord = false) :
    Lexer.run ⟨before, .word seen⟩ (cs ++ rest) =
      Lexer.run ⟨before, .word (cs.reverse ++ seen)⟩ rest := by
  induction cs generalizing seen with
  | nil => rfl
  | cons c cs ih =>
    rw [List.any_cons, Bool.or_eq_false_iff] at hcs
    obtain ⟨hc, hcs⟩ := hcs
    have hstep : Lexer.step ⟨before, .word seen⟩ c = some ⟨before, .word (c :: seen)⟩ := by
      unfold endsWord at hc
      simp [Lexer.step, hc]
    rw [List.cons_append, Lexer.run, hstep]
    simp only
    rw [ih hcs]
    simp

/-- A word becomes its token once the next character ends it, or the text does. -/
theorem lexes_word (hword : (c :: cs).any endsWord = false)
    (ht : wordToken? (c :: cs).reverse = some t) (hrest : WordEnds rest) (h : Lexes rest ts) :
    Lexes (c :: cs ++ rest) (t :: ts) := by
  intro before
  rw [List.any_cons, Bool.or_eq_false_iff] at hword
  obtain ⟨hc, hcs⟩ := hword
  have hfirst : Lexer.step ⟨before, .gap⟩ c = some ⟨before, .word [c]⟩ := by
    simp only [endsWord, Bool.or_eq_false_iff, Option.isSome_eq_false_iff,
      Option.isNone_iff_eq_none] at hc
    simp [Lexer.step, Lexer.between, hc]
  rw [List.cons_append, Lexer.run, hfirst]
  simp only
  rw [run_word hcs, ← List.reverse_cons]
  have hnext := h (t :: before)
  cases rest with
  | nil =>
    simp only [Lexer.run, Option.bind_some, Lexer.finish?, ht, Option.map_some] at hnext ⊢
    simpa using hnext
  | cons d rest =>
    have hd : endsWord d = true := hrest d rfl
    have hlast : Lexer.step ⟨before, .word (c :: cs).reverse⟩ d =
        Lexer.step ⟨t :: before, .gap⟩ d := by
      unfold endsWord at hd
      simp only [Lexer.step, hd, if_true, ht, Option.map_some]
    rw [Lexer.run] at hnext ⊢
    rw [hlast]
    simpa using hnext

theorem lexes_decimal {n : Nat} (hn : n < Text.twoTo 64) (hrest : WordEnds rest)
    (h : Lexes rest ts) : Lexes (Text.decimal n ++ rest) (.num (.integer n) :: ts) := by
  have hword : (Text.decimal n).any endsWord = false := by
    rw [List.any_eq_false]
    intro c hc
    simp [endsWord_of_isDigit (Text.isDigit_of_mem_decimal hc)]
  have ht := wordToken?_decimal hn
  cases hds : Text.decimal n with
  | nil => exact absurd hds (Text.decimal_ne_nil n)
  | cons d ds =>
    rw [hds] at hword ht
    exact lexes_word hword ht hrest h

/-! ## 3. Strings -/

theorem hexValue?_hexDigit : ∀ n < 16, hexValue? (hexDigit n) = some n := by
  decide

theorem joinUnit_of_lt {u : Nat} (h : u < 0xDC00) (points : List Nat) :
    joinUnit u points = u :: points := by
  have hlow : isLowSurrogate u = false := by
    simp only [isLowSurrogate, Bool.and_eq_false_iff, decide_eq_false_iff_not]
    omega
  cases points with
  | nil => rfl
  | cons p points => simp [joinUnit, hlow]

/-- What the writer puts for a character is read as the code point of that character. -/
theorem run_escapedChar {before : List Token} {points : List Nat} :
    Lexer.run ⟨before, .text points⟩ (escapedChar c ++ rest) =
      Lexer.run ⟨before, .text (c.toNat :: points)⟩ rest := by
  unfold escapedChar
  split
  · rfl
  · rfl
  · rfl
  · rfl
  · rfl
  · rfl
  · rfl
  · rename_i hquote hback _ _ _ _ _
    split
    · rename_i hlt
      -- the four digits of the escape spell the code point
      have hhigh := hexValue?_hexDigit (c.toNat / 16) (by omega)
      have hlow := hexValue?_hexDigit (c.toNat % 16) (by omega)
      have hzero : hexValue? '0' = some 0 := rfl
      have hvalue : 16 * (c.toNat / 16) + c.toNat % 16 = c.toNat := by omega
      simp [Lexer.run, Lexer.step, hhigh, hlow, hzero, hvalue,
        joinUnit_of_lt (show c.toNat < 0xDC00 by omega)]
    · rename_i hlt
      have hstep : Lexer.step ⟨before, .text points⟩ c =
          some ⟨before, .text (c.toNat :: points)⟩ := by
        simp only [Lexer.step, beq_iff_eq, if_neg hquote, if_neg hback, if_neg hlt]
      rw [List.singleton_append, Lexer.run, hstep]

theorem run_escaped {before : List Token} {points : List Nat} (s : List Char) :
    Lexer.run ⟨before, .text points⟩ (s.flatMap escapedChar ++ rest) =
      Lexer.run ⟨before, .text ((s.map Char.toNat).reverse ++ points)⟩ rest := by
  induction s generalizing points with
  | nil => rfl
  | cons c s ih =>
    rw [List.flatMap_cons, List.append_assoc, run_escapedChar, ih]
    simp

/-- No character is half a surrogate pair. -/
theorem textOf?_points (s : List Char) :
    textOf? (s.map Char.toNat).reverse = some (String.ofList s) := by
  have hwhole : ((s.map Char.toNat).reverse.any fun u =>
      isHighSurrogate u || isLowSurrogate u) = false := by
    rw [List.any_eq_false]
    intro u hu
    obtain ⟨c, -, rfl⟩ := List.mem_map.mp (List.mem_reverse.mp hu)
    have hvalid : c.toNat < 0xD800 ∨ 0xDFFF < c.toNat ∧ c.toNat < 0x110000 := c.valid
    simp only [isHighSurrogate, isLowSurrogate, Bool.or_eq_true, Bool.and_eq_true,
      decide_eq_true_eq]
    omega
  simp [textOf?, hwhole, Function.comp_def]

theorem lexes_string (s : String) (h : Lexes rest ts) :
    Lexes (stringLiteral s ++ rest) (.str (some s) :: ts) := by
  intro before
  have hopen : Lexer.step ⟨before, .gap⟩ '"' = some ⟨before, .text []⟩ := rfl
  have hclose (points : List Nat) : Lexer.step ⟨before, .text points⟩ '"' =
      some ⟨.str (textOf? points) :: before, .gap⟩ := rfl
  have hshape : stringLiteral s ++ rest = '"' :: (s.toList.flatMap escapedChar ++ '"' :: rest) := by
    simp [stringLiteral]
  rw [hshape, Lexer.run, hopen]
  simp only
  rw [run_escaped, Lexer.run, hclose, List.append_nil, textOf?_points, String.ofList_toList]
  simpa using h (.str (some s) :: before)

/-! ## 4. Values -/

/-- Data whose numbers are natural and of 64 bits. -/
inductive Natural : Value → Prop where
  | null : Natural .null
  | bool (b : Bool) : Natural (.bool b)
  | nat {n : Nat} (h : n < Text.twoTo 64) : Natural (.nat n)
  | str (s : String) : Natural (.str s)
  | arr {items : List Value} (h : ∀ v ∈ items, Natural v) : Natural (.arr items)
  | obj {fields : List (String × Value)} (h : ∀ f ∈ fields, Natural f.2) : Natural (.obj fields)

mutual

/-- The tokens of a value, in front of `rest`. -/
def tokens : Value → List Token → List Token
  | .null, rest => .null :: rest
  | .bool b, rest => .bool b :: rest
  | .num n, rest => .num n :: rest
  | .str s, rest => .str (some s) :: rest
  | .arr items, rest => .openArr :: itemTokens items (.closeArr :: rest)
  | .obj fields, rest => .openObj :: fieldTokens fields (.closeObj :: rest)

/-- The tokens of items with commas between them, in front of `rest`. -/
def itemTokens : List Value → List Token → List Token
  | [], rest => rest
  | [v], rest => tokens v rest
  | v :: vs, rest => tokens v (.comma :: itemTokens vs rest)

/-- The tokens of fields with commas between them, in front of `rest`. -/
def fieldTokens : List (String × Value) → List Token → List Token
  | [], rest => rest
  | [(k, v)], rest => .str (some k) :: .colon :: tokens v rest
  | (k, v) :: fs, rest => .str (some k) :: .colon :: tokens v (.comma :: fieldTokens fs rest)

end

mutual

/-- Data as a document. -/
def document : Value → Document
  | .null => .null
  | .bool b => .bool b
  | .num n => .num n
  | .str s => .str (some s)
  | .arr items => .arr (documents items)
  | .obj fields => .obj (fieldDocuments fields)

/-- Items as documents. -/
def documents : List Value → List Document
  | [] => []
  | v :: vs => document v :: documents vs

/-- Fields as fields of a document. -/
def fieldDocuments : List (String × Value) → List (Option String × Document)
  | [] => []
  | (k, v) :: fs => (some k, document v) :: fieldDocuments fs

end

theorem wordEnds_cons (h : endsWord c = true) : WordEnds (c :: rest) := by
  intro d hd
  obtain rfl := Option.some.inj hd
  exact h

/-- The tokens of a value stand where it was written. -/
def Written (v : Value) : Prop :=
  ∀ {rest : List Char} {ts : List Token}, WordEnds rest → Lexes rest ts →
    Lexes (write v rest) (tokens v ts)

theorem lexes_writeItems {items : List Value} (hitems : ∀ v ∈ items, Written v)
    (hrest : WordEnds rest) (h : Lexes rest ts) :
    Lexes (writeItems items rest) (itemTokens items ts) := by
  induction items with
  | nil => simpa only [writeItems, itemTokens] using h
  | cons v vs ih =>
    have hv : Written v := hitems v List.mem_cons_self
    cases vs with
    | nil => simpa only [writeItems, itemTokens] using hv hrest h
    | cons w vs =>
      have htail := ih fun u hu => hitems u (List.mem_cons_of_mem v hu)
      simp only [writeItems, itemTokens]
      exact hv (wordEnds_cons rfl) (lexes_punctuation rfl (by decide) rfl htail)

theorem lexes_writeFields {fields : List (String × Value)}
    (hfields : ∀ f ∈ fields, Written f.2) (hrest : WordEnds rest) (h : Lexes rest ts) :
    Lexes (writeFields fields rest) (fieldTokens fields ts) := by
  induction fields with
  | nil => simpa only [writeFields, fieldTokens] using h
  | cons f fs ih =>
    obtain ⟨k, v⟩ := f
    have hv : Written v := hfields (k, v) List.mem_cons_self
    cases fs with
    | nil =>
      simp only [writeFields, fieldTokens]
      exact lexes_string k (lexes_punctuation rfl (by decide) rfl (hv hrest h))
    | cons g fs =>
      have htail := ih fun u hu => hfields u (List.mem_cons_of_mem _ hu)
      simp only [writeFields, fieldTokens]
      refine lexes_string k (lexes_punctuation rfl (by decide) rfl (hv (wordEnds_cons rfl) ?_))
      exact lexes_punctuation rfl (by decide) rfl htail

/-- Writing a value in front of a text puts its tokens in front of those of the text. -/
theorem lexes_write {v : Value} (hv : Natural v) : Written v := by
  induction hv with
  | null => exact fun hrest h => lexes_word rfl rfl hrest h
  | bool b =>
    cases b with
    | true => exact fun hrest h => lexes_word rfl rfl hrest h
    | false => exact fun hrest h => lexes_word rfl rfl hrest h
  | nat hn => exact fun hrest h => lexes_decimal hn hrest h
  | str s => exact fun _ h => lexes_string s h
  | arr _ ih =>
    intro rest ts _ h
    refine lexes_punctuation rfl (by decide) rfl (lexes_writeItems ih (wordEnds_cons rfl) ?_)
    exact lexes_punctuation rfl (by decide) rfl h
  | obj _ ih =>
    intro rest ts _ h
    refine lexes_punctuation rfl (by decide) rfl (lexes_writeFields ih (wordEnds_cons rfl) ?_)
    exact lexes_punctuation rfl (by decide) rfl h

/-! ## 5. The document that the tokens spell -/

theorem tokens_eq_cons (v : Value) (rest : List Token) :
    ∃ t ts, tokens v rest = t :: ts ∧ t ≠ .closeArr := by
  cases v <;> exact ⟨_, _, by rw [tokens], by simp⟩

theorem itemTokens_cons (v : Value) (vs : List Value) (ts : List Token) :
    ∃ us, itemTokens (v :: vs) ts = tokens v us := by
  cases vs with
  | nil => exact ⟨_, by rw [itemTokens]⟩
  | cons w vs => exact ⟨_, by rw [itemTokens]; simp⟩

/-- Where a value may stand, its tokens lead to it. -/
def Spelt (v : Value) : Prop :=
  ∀ (frames : List Frame) (ts : List Token),
    Reader.run ⟨frames, .value⟩ (tokens v ts) = Reader.run ⟨frames, .complete (document v)⟩ ts

/-- The first item of an array is read like any other value. -/
theorem run_itemOrEnd (v : Value) (frames : List Frame) (ts : List Token) :
    Reader.run ⟨frames, .itemOrEnd⟩ (tokens v ts) = Reader.run ⟨frames, .value⟩ (tokens v ts) := by
  obtain ⟨t, us, hts, hne⟩ := tokens_eq_cons v ts
  have hstep : Reader.step ⟨frames, .itemOrEnd⟩ t = Reader.step ⟨frames, .value⟩ t := by
    simp only [Reader.step]
    split
    · exact absurd rfl hne
    · rfl
  rw [hts, Reader.run, Reader.run, hstep]

theorem run_itemTokens {v : Value} {vs : List Value} (hitems : ∀ u ∈ v :: vs, Spelt u)
    (done : List Document) (frames : List Frame) (ts : List Token) :
    Reader.run ⟨.arr done :: frames, .value⟩ (itemTokens (v :: vs) (.closeArr :: ts)) =
      Reader.run ⟨frames, .complete (.arr (done.reverse ++ documents (v :: vs)))⟩ ts := by
  induction vs generalizing v done with
  | nil =>
    rw [itemTokens, hitems v List.mem_cons_self]
    simp [Reader.run, Reader.step, Reader.continue?, documents]
  | cons w vs ih =>
    have htail := ih (fun u hu => hitems u (List.mem_cons_of_mem v hu)) (document v :: done)
    rw [itemTokens, hitems v List.mem_cons_self]
    · simpa [Reader.run, Reader.step, Reader.continue?, documents] using htail
    · simp

/-- A field, the first of its object or a later one. -/
theorem run_field {k : String} {v : Value} (hv : Spelt v) {expecting : Expecting}
    (hkey : expecting = .key ∨ expecting = .keyOrEnd) (done : List (Option String × Document))
    (frames : List Frame) (ts : List Token) :
    Reader.run ⟨.obj done :: frames, expecting⟩ (.str (some k) :: .colon :: tokens v ts) =
      Reader.run ⟨.field done (some k) :: frames, .complete (document v)⟩ ts := by
  rw [← hv]
  rcases hkey with rfl | rfl
  · rfl
  · rfl

theorem run_fieldTokens {f : String × Value} {fs : List (String × Value)}
    (hfields : ∀ g ∈ f :: fs, Spelt g.2) {expecting : Expecting}
    (hkey : expecting = .key ∨ expecting = .keyOrEnd) (done : List (Option String × Document))
    (frames : List Frame) (ts : List Token) :
    Reader.run ⟨.obj done :: frames, expecting⟩ (fieldTokens (f :: fs) (.closeObj :: ts)) =
      Reader.run ⟨frames, .complete (.obj (done.reverse ++ fieldDocuments (f :: fs)))⟩ ts := by
  induction fs generalizing f done expecting with
  | nil =>
    rw [fieldTokens, run_field (hfields f List.mem_cons_self) hkey]
    simp [Reader.run, Reader.step, Reader.continue?, fieldDocuments]
  | cons g fs ih =>
    have htail := ih (fun u hu => hfields u (List.mem_cons_of_mem f hu)) (.inl rfl)
      ((some f.1, document f.2) :: done)
    rw [fieldTokens, run_field (hfields f List.mem_cons_self) hkey]
    · simpa [Reader.run, Reader.step, Reader.continue?, fieldDocuments] using htail
    · simp

/-- The tokens of a value lead to the value, in whatever container it stands. -/
theorem run_tokens {v : Value} (hv : Natural v) : Spelt v := by
  induction hv with
  | null => exact fun _ _ => rfl
  | bool b => exact fun _ _ => rfl
  | nat hn => exact fun _ _ => rfl
  | str s => exact fun _ _ => rfl
  | @arr items _ ih =>
    intro frames ts
    cases items with
    | nil => rfl
    | cons v vs =>
      obtain ⟨us, hus⟩ := itemTokens_cons v vs (.closeArr :: ts)
      have hitems := run_itemTokens ih [] frames ts
      rw [hus, ← run_itemOrEnd, ← hus] at hitems
      exact hitems
  | @obj fields _ ih =>
    intro frames ts
    cases fields with
    | nil => rfl
    | cons f fs => exact run_fieldTokens ih (.inr rfl) [] frames ts

/-- **Reading back.**  A value without real or negative numbers is found again in its text. -/
theorem parse?_compact {v : Value} (hv : Natural v) :
    Document.parse? (compact v) = some (document v) := by
  have hlex : lex? (write v []) = some (tokens v []) :=
    (lexes_write hv (fun c hc => absurd hc (by simp)) lexes_nil).lex?
  have hread : ofTokens? (tokens v []) = some (document v) := by
    rw [ofTokens?, run_tokens hv]
    rfl
  rw [Document.parse?, compact, String.toList_ofList, hlex, Option.bind_some, hread]

end Json

end XQueryScope
