import Liquid.Proofs.MarkupGrammar

/-!
# Names, quotes and numbers of markup

What the readers of the smallest pieces find, in both directions: a piece in front of a text that
cannot belong to it is read as that piece, and what is read is such a piece.

The characters that pieces begin with and those that can stand behind one are kept apart here, once
for all: white space, separators and brackets are no characters of names, and digits are no
beginnings of names.
-/

namespace Liquid

namespace Markup

open Text

/-! ### Characters -/

/-- A name character as a code point. -/
def isNameCode (n : Nat) : Bool :=
  inRanges letterRanges n || inRanges numeralRanges n || n == '_'.toNat || n == '-'.toNat

private theorem isNameCode_of_isNameChar {c : Char} (h : isNameChar c = true) :
    isNameCode c.toNat = true := by
  simp only [isNameChar, isAlphanumeric, isLetter, isNumeral, Bool.or_eq_true, beq_iff_eq] at h
  simp only [isNameCode, Bool.or_eq_true, beq_iff_eq]
  rcases h with (h | rfl) | rfl
  · exact .inl (.inl h)
  · exact .inl (.inr rfl)
  · exact .inr rfl

theorem isNameChar_of_isBlank {c : Char} (blank : isBlank c = true) : isNameChar c = false := by
  -- There are few blank code points, so each of them is looked up among those of names.
  have apart : ∀ r ∈ blankRanges, ∀ k < r.2 + 1 - r.1, isNameCode (r.1 + k) = false := by
    decide +kernel
  obtain ⟨r, member, low, high⟩ := inRanges_of_mem blank
  have code := apart r member (c.toNat - r.1) (by omega)
  rw [Nat.add_sub_cancel' low] at code
  refine Bool.eq_false_iff.mpr fun name => ?_
  rw [isNameCode_of_isNameChar name] at code
  cases code

theorem isNameChar_of_isNameStart {c : Char} (start : isNameStart c = true) :
    isNameChar c = true := by
  simp only [isNameStart, Bool.or_eq_true] at start
  rcases start with letter | underscore
  · simp [isNameChar, isAlphanumeric, letter]
  · simp [isNameChar, underscore]

theorem toNat_of_isDigit {c : Char} (digit : isDigit c = true) : 48 ≤ c.toNat ∧ c.toNat ≤ 57 := by
  simpa [isDigit, Char.le_def, UInt32.le_iff_toNat_le] using digit

theorem isNameChar_of_isDigit {c : Char} (digit : isDigit c = true) : isNameChar c = true := by
  -- The ten digits are among the numerals of the table.
  have numerals : ∀ k < 10, inRanges numeralRanges (48 + k) = true := by decide
  obtain ⟨low, high⟩ := toNat_of_isDigit digit
  have numeral := numerals (c.toNat - 48) (by omega)
  rw [Nat.add_sub_cancel' low] at numeral
  simp [isNameChar, isAlphanumeric, isNumeral, numeral]

theorem isNameStart_of_isDigit {c : Char} (digit : isDigit c = true) : isNameStart c = false := by
  have others : ∀ k < 10, inRanges letterRanges (48 + k) = false := by decide
  obtain ⟨low, high⟩ := toNat_of_isDigit digit
  have other := others (c.toNat - 48) (by omega)
  rw [Nat.add_sub_cancel' low] at other
  have underscore : c ≠ '_' := by
    rintro rfl
    cases digit
  simp [isNameStart, isLetter, other, underscore]

/-- Neither quote has the property, so nothing that has it is a quote. -/
theorem isQuote_of_apart {P : Char → Bool} (single : P '\x27' = false) (double : P '\x22' = false)
    {c : Char} (holds : P c = true) : isQuote c = false := by
  refine Bool.eq_false_iff.mpr fun quote => ?_
  simp only [isQuote, Bool.or_eq_true, beq_iff_eq] at quote
  rcases quote with rfl | rfl
  · cases holds.symm.trans single
  · cases holds.symm.trans double

/-! ### White space -/

theorem blank_nil : Blank [] := by simp [Blank]

theorem Blank.append {a b : List Char} (first : Blank a) (second : Blank b) : Blank (a ++ b) := by
  intro c member
  rcases List.mem_append.mp member with inFirst | inSecond
  · exact first c inFirst
  · exact second c inSecond

theorem Blank.dropBlank_append {a : List Char} (blank : Blank a) (s : List Char) :
    dropBlank (a ++ s) = dropBlank s := List.dropWhile_append_of_pos blank

theorem Blank.dropBlank {a : List Char} (blank : Blank a) : dropBlank a = [] := by
  have nothing := blank.dropBlank_append []
  rwa [List.append_nil] at nothing

theorem dropBlank_cons {c : Char} (ink : isBlank c = false) (s : List Char) :
    dropBlank (c :: s) = c :: s := by
  simp [Text.dropBlank, ink]

/-- What is dropped is white space. -/
theorem exists_dropBlank (s : List Char) : ∃ a, Blank a ∧ s = a ++ dropBlank s :=
  ⟨s.takeWhile isBlank, List.all_eq_true.mp List.all_takeWhile,
    (List.takeWhile_append_dropWhile).symm⟩

theorem dropBlank_dropBlank (s : List Char) : dropBlank (dropBlank s) = dropBlank s := by
  obtain ⟨a, blank, parts⟩ := exists_dropBlank s
  conv => rhs; rw [parts, blank.dropBlank_append]

/-! ### Where a piece ends -/

/-- Nothing that follows can belong to a name. -/
structure EndsName (rest : List Char) : Prop where
  name : ∀ c ∈ rest.head?, isNameChar c = false
  mark : rest.head? ≠ some '?'

/-- Nothing that follows can belong to a name, a number or a path. -/
structure Ends (rest : List Char) : Prop extends EndsName rest where
  index : rest.head? ≠ some '['
  point : ∀ more, rest = '.' :: more → more.head? = some '.'

theorem endsName_cons {c : Char} (rest : List Char) (name : isNameChar c = false) (mark : c ≠ '?') :
    EndsName (c :: rest) := ⟨by simpa using name, by simpa using mark⟩

theorem ends_nil : Ends [] := ⟨⟨by simp, by simp⟩, by simp, by simp⟩

theorem ends_cons {c : Char} (rest : List Char) (name : isNameChar c = false) (mark : c ≠ '?')
    (index : c ≠ '[') (point : c ≠ '.') : Ends (c :: rest) :=
  ⟨endsName_cons rest name mark, by simpa using index, by simp [point]⟩

theorem ends_points (rest : List Char) : Ends ('.' :: '.' :: rest) :=
  ⟨endsName_cons _ (by decide) (by decide), by simp, by simp⟩

theorem Blank.ends {a rest : List Char} (blank : Blank a) (ends : Ends rest) :
    Ends (a ++ rest) := by
  cases a with
  | nil => exact ends
  | cons c more =>
    have white := blank c List.mem_cons_self
    refine ends_cons _ (isNameChar_of_isBlank white) ?_ ?_ ?_
    all_goals
      rintro rfl
      cases white

/-! ### Names -/

theorem IsName.cons {s : List Char} (name : IsName s) :
    ∃ c rest, s = c :: rest ∧ isNameStart c = true := by
  cases name with
  | plain start _ => exact ⟨_, _, rfl, start⟩
  | asking start _ => exact ⟨_, _, rfl, start⟩

theorem name?_append {name rest : List Char} (isName : IsName name) (ends : EndsName rest) :
    name? (name ++ rest) = some (String.ofList name, rest) := by
  -- The name stops in front of the rest, whatever it is made of.
  have none : rest.takeWhile isNameChar = [] ∧ rest.dropWhile isNameChar = rest := by
    cases rest with
    | nil => exact ⟨rfl, rfl⟩
    | cons c rest =>
      have other := ends.name c rfl
      simp [other]
  have mark : isNameChar '?' = false := by decide
  cases isName with
  | @plain c body start chars =>
    have all : ∀ d ∈ c :: body, isNameChar d = true := by
      simpa [isNameChar_of_isNameStart start] using chars
    have front : (c :: (body ++ rest)).takeWhile isNameChar = c :: body := by
      rw [← List.cons_append, List.takeWhile_append_of_pos all, none.1, List.append_nil]
    have back : (c :: (body ++ rest)).dropWhile isNameChar = rest := by
      rw [← List.cons_append, List.dropWhile_append_of_pos all, none.2]
    simp only [List.cons_append, name?, start, ↓reduceIte, front, back]
    -- No question mark follows.
    split
    next after => exact absurd rfl ends.mark
    next => rfl
  | @asking c body start chars =>
    have all : ∀ d ∈ c :: body, isNameChar d = true := by
      simpa [isNameChar_of_isNameStart start] using chars
    have front : (c :: (body ++ ['?'] ++ rest)).takeWhile isNameChar = c :: body := by
      rw [List.append_assoc, ← List.cons_append, List.takeWhile_append_of_pos all]
      simp [mark]
    have back : (c :: (body ++ ['?'] ++ rest)).dropWhile isNameChar = '?' :: rest := by
      rw [List.append_assoc, ← List.cons_append, List.dropWhile_append_of_pos all]
      simp [mark]
    simp only [List.cons_append, name?, start, ↓reduceIte, front, back]

theorem isName_of_name? {s rest : List Char} {name : String} (read : name? s = some (name, rest)) :
    IsName name.toList ∧ s = name.toList ++ rest := by
  cases s with
  | nil => cases read
  | cons c s =>
    by_cases start : isNameStart c = true
    · have char := isNameChar_of_isNameStart start
      have chars : ∀ d ∈ s.takeWhile isNameChar, isNameChar d = true :=
        List.all_eq_true.mp List.all_takeWhile
      have parts : s = s.takeWhile isNameChar ++ s.dropWhile isNameChar :=
        List.takeWhile_append_dropWhile.symm
      simp only [name?, start, ↓reduceIte, List.takeWhile_cons, List.dropWhile_cons, char] at read
      generalize s.takeWhile isNameChar = body at read chars parts
      -- Either the name ends with a question mark or it ends where its characters do.
      split at read
      next mark =>
        obtain ⟨rfl, rfl⟩ := Prod.mk.inj (Option.some.inj read)
        rw [mark] at parts
        rw [String.toList_ofList, parts]
        exact ⟨.asking start chars, by simp⟩
      next =>
        obtain ⟨rfl, rfl⟩ := Prod.mk.inj (Option.some.inj read)
        rw [String.toList_ofList]
        exact ⟨.plain start chars, congrArg (c :: ·) parts⟩
    · simp [name?, start] at read

/-! ### Quoted texts -/

theorem quoted?_append {quote : Char} {inside : List Char} (free : quote ∉ inside)
    (rest : List Char) : quoted? quote (inside ++ quote :: rest) = some (inside, rest) := by
  induction inside with
  | nil => simp [quoted?]
  | cons c inside ih =>
    have other : c ≠ quote := fun same => free (same ▸ List.mem_cons_self)
    have later : quote ∉ inside := fun member => free (List.mem_cons_of_mem c member)
    simp [quoted?, other, ih later]

theorem quoted?_of_some {quote : Char} {s inside rest : List Char}
    (read : quoted? quote s = some (inside, rest)) :
    quote ∉ inside ∧ s = inside ++ quote :: rest := by
  induction s generalizing inside with
  | nil => cases read
  | cons c s ih =>
    unfold quoted? at read
    by_cases same : c = quote
    · simp only [same, beq_self_eq_true, ↓reduceIte, Option.some.injEq, Prod.mk.injEq] at read
      obtain ⟨rfl, rfl⟩ := read
      exact ⟨List.not_mem_nil, by rw [same]; rfl⟩
    · simp only [beq_iff_eq, same, ↓reduceIte, Option.map_eq_some_iff] at read
      obtain ⟨⟨more, _⟩, later, parts⟩ := read
      cases parts
      obtain ⟨free, rfl⟩ := ih later
      exact ⟨by simp [free, Ne.symm same], rfl⟩

/-! ### Numbers -/

theorem IsDigits.cons {s : List Char} (digits : IsDigits s) :
    ∃ c rest, s = c :: rest ∧ isDigit c = true := by
  cases s with
  | nil => exact absurd rfl digits.some
  | cons c rest => exact ⟨c, rest, rfl, digits.digits c List.mem_cons_self⟩

/-- Digits in front of what does not begin with one. -/
theorem IsDigits.spans {s : List Char} (digits : IsDigits s) (rest : List Char)
    (other : ∀ c ∈ rest.head?, isDigit c = false) :
    (s ++ rest).takeWhile isDigit = s ∧ (s ++ rest).dropWhile isDigit = rest := by
  rw [List.takeWhile_append_of_pos digits.digits, List.dropWhile_append_of_pos digits.digits]
  cases rest with
  | nil => simp
  | cons c rest => simp [other c rfl]

theorem IsDigits.takeWhile {d : Char} (digit : isDigit d = true) (s : List Char) :
    IsDigits ((d :: s).takeWhile isDigit) :=
  ⟨by simp [digit], List.all_eq_true.mp List.all_takeWhile⟩

theorem Ends.digit {rest : List Char} (ends : Ends rest) : ∀ c ∈ rest.head?, isDigit c = false := by
  intro c member
  refine Bool.eq_false_iff.mpr fun digit => ?_
  have other := ends.name c member
  rw [isNameChar_of_isDigit digit] at other
  cases other

theorem readSign_sign {s : List Char} (digits : IsDigits s) (negative : Bool) (rest : List Char) :
    readSign (Double.sign negative ++ (s ++ rest)) = (negative, s ++ rest) := by
  obtain ⟨c, more, rfl, digit⟩ := digits.cons
  cases negative with
  | true => rfl
  | false =>
    have plain : c ≠ '-' ∧ c ≠ '+' := by
      constructor
      all_goals
        rintro rfl
        cases digit
    simp [Double.sign, readSign, plain]

private theorem readInt64?_signed {s : List Char} (digits : IsDigits s) (negative : Bool) :
    readInt64? (Double.sign negative ++ s) = int64? (Double.signed negative (digitsValue s)) := by
  have signed := readSign_sign digits negative []
  have all : s.all isDigit = true := List.all_eq_true.mpr digits.digits
  rw [List.append_nil] at signed
  simp [readInt64?, signed, allDigits?, digits.some, all]

/-- Text with a digit in front is none of the names of doubles. -/
theorem map_asciiLower_ne {c : Char} (digit : isDigit c = true) (s : List Char) :
    ∀ name ∈ ["inf", "infinity", "nan"], ((c :: s).map asciiLower == name.toList) = false := by
  -- A digit is no capital, so it stays what it is and differs from every first letter.
  have small : ¬ 'A' ≤ c := by
    simp only [Char.le_def, UInt32.le_iff_toNat_le]
    exact fun least => absurd (Nat.le_trans least (toNat_of_isDigit digit).2) (by decide)
  have same : asciiLower c = c := by simp [asciiLower, small]
  intro name member
  refine beq_eq_false_iff_ne.mpr fun equal => ?_
  have first := congrArg List.head? equal
  simp only [List.map_cons, List.head?_cons, same] at first
  simp only [List.mem_cons, List.not_mem_nil, or_false] at member
  rcases member with rfl | rfl | rfl
  all_goals
    obtain rfl := Option.some.inj first
    cases digit

/-- Digits on both sides of a point are always read as a double. -/
theorem readDouble?_decimal {whole fraction : List Char} (left : IsDigits whole)
    (right : IsDigits fraction) (negative : Bool) :
    readDouble? (Double.sign negative ++ (whole ++ '.' :: fraction)) =
      some (decimal negative whole fraction) := by
  have spans := left.spans ('.' :: fraction) (by simp; decide)
  have spansRight := right.spans [] (by simp)
  rw [List.append_nil] at spansRight
  have named : ∀ name ∈ ["inf", "infinity", "nan"],
      ((whole ++ '.' :: fraction).map asciiLower == name.toList) = false := by
    obtain ⟨c, more, rfl, digit⟩ := left.cons
    exact map_asciiLower_ne digit (more ++ '.' :: fraction)
  have unsigned : readUnsigned? (whole ++ '.' :: fraction) =
      some (.finite (digitsValue (whole ++ fraction)) (-Int.ofNat fraction.length)) := by
    simp only [readUnsigned?, named "inf" (by simp), named "infinity" (by simp),
      named "nan" (by simp), Bool.or_self, Bool.false_eq_true, ↓reduceIte, spans, spansRight]
    simp [left.some, readExponent?]
  simp only [readDouble?, readSigned?, readSign_sign left negative, unsigned, Option.map_some,
    decimal]

/-! ### Numbers of markup -/

/-- Behind the sign and the digits only the two next characters matter. -/
theorem number_sign {whole : List Char} (digits : IsDigits whole) (negative : Bool)
    (rest : List Char) :
    (∀ c ∈ rest.head?, isDigit c = false) →
    number (Double.sign negative ++ (whole ++ rest)) =
      match rest with
      | '.' :: d :: more =>
        if isDigit d then
          let text := Double.sign negative ++ whole ++ '.' :: (d :: more).takeWhile isDigit
          match readDouble? text with
          | some f => .ok (.literal (.float f), (d :: more).dropWhile isDigit)
          | none => .error (.invalidNumber (String.ofList text))
        else number.ofInt (Double.sign negative ++ whole) rest
      | _ => number.ofInt (Double.sign negative ++ whole) rest := by
  intro other
  have spans := digits.spans rest other
  have filled : whole.isEmpty = false := by simp [digits.some]
  cases negative with
  | true =>
    simp only [number, Double.sign, ↓reduceIte, List.cons_append, List.nil_append, spans, filled]
    rfl
  | false =>
    obtain ⟨c, more, rfl, digit⟩ := digits.cons
    have plain : c ≠ '-' := by
      rintro rfl
      cases digit
    simp only [number, Double.sign, Bool.false_eq_true, ↓reduceIte, List.nil_append,
      List.cons_append]
    split
    next same => exact absurd (List.cons.inj same).1 plain
    next =>
      simp only [← List.cons_append, spans]
      rfl

theorem number_int {i : Int64} {digits rest : List Char} (negative : Bool)
    (isDigits : IsDigits digits) (value : i.toInt = Double.signed negative (digitsValue digits))
    (ends : Ends rest) :
    number (Double.sign negative ++ digits ++ rest) = .ok (.literal (.int i), rest) := by
  have whole : number.ofInt (Double.sign negative ++ digits) rest =
      .ok (.literal (.int i), rest) := by
    rw [number.ofInt, readInt64?_signed isDigits, ← value, int64?_toInt]
  rw [List.append_assoc, number_sign isDigits negative rest ends.digit]
  split
  -- A point that follows is the first of two and begins no fraction.
  next d more =>
    have second : d = '.' := by simpa using ends.point _ rfl
    rw [if_neg (by rw [second]; decide), whole]
  next => exact whole

theorem number_decimal {whole fraction rest : List Char} (negative : Bool) (left : IsDigits whole)
    (right : IsDigits fraction) (ends : Ends rest) :
    number (Double.sign negative ++ (whole ++ '.' :: fraction) ++ rest) =
      .ok (.literal (.float (decimal negative whole fraction)), rest) := by
  have spans := right.spans rest ends.digit
  obtain ⟨d, more, rfl, digit⟩ := right.cons
  have text := readDouble?_decimal left right negative
  rw [← List.append_assoc] at text
  rw [List.append_assoc, List.append_assoc, List.cons_append,
    number_sign left negative _ (by simp; decide)]
  simp only [List.cons_append] at spans ⊢
  simp only [digit, ↓reduceIte, spans, text]

/-- What reads as a number begins with digits behind an optional minus. -/
theorem exists_sign_of_number {s rest : List Char} {e : Expr} (read : number s = .ok (e, rest)) :
    ∃ negative whole after, s = Double.sign negative ++ (whole ++ after) ∧ IsDigits whole ∧
      ∀ c ∈ after.head?, isDigit c = false := by
  -- Behind the minus, or at once, there must be a digit.
  have split : ∃ negative t, s = Double.sign negative ++ t ∧ t.takeWhile isDigit ≠ [] := by
    unfold number at read
    split at read
    next parts =>
      split at parts
      next =>
        cases parts
        refine ⟨true, _, rfl, fun none => ?_⟩
        simp [none] at read
      next =>
        cases parts
        refine ⟨false, s, rfl, fun none => ?_⟩
        simp [none] at read
  obtain ⟨negative, t, parts, some⟩ := split
  refine ⟨negative, t.takeWhile isDigit, t.dropWhile isDigit, ?_, ⟨some, ?_⟩, ?_⟩
  · rw [parts, List.takeWhile_append_dropWhile]
  · exact List.all_eq_true.mp List.all_takeWhile
  · intro c member
    have first := List.head?_dropWhile_not isDigit t
    rw [member] at first
    simpa using first

theorem isExpr_of_number {s rest : List Char} {e : Expr} (read : number s = .ok (e, rest)) :
    ∃ t, IsExpr e t ∧ s = t ++ rest := by
  obtain ⟨negative, whole, after, rfl, left, other⟩ := exists_sign_of_number read
  have ofInt : number.ofInt (Double.sign negative ++ whole) after = .ok (e, rest) →
      ∃ t, IsExpr e t ∧ Double.sign negative ++ (whole ++ after) = t ++ rest := by
    intro read
    rw [number.ofInt, readInt64?_signed left] at read
    split at read
    next i value =>
      obtain ⟨rfl, rfl⟩ := Prod.mk.inj (Except.ok.inj read)
      exact ⟨_, .int negative left (toInt_of_int64? value), (List.append_assoc ..).symm⟩
    next => cases read
  rw [number_sign left negative after other] at read
  split at read
  next d more =>
    split at read
    next digit =>
      have right := IsDigits.takeWhile digit more
      have text := readDouble?_decimal left right negative
      rw [← List.append_assoc] at text
      simp only [text] at read
      obtain ⟨rfl, rfl⟩ := Prod.mk.inj (Except.ok.inj read)
      refine ⟨_, .float negative left right, ?_⟩
      simp [List.append_assoc, List.takeWhile_append_dropWhile]
    next => exact ofInt read
  next => exact ofInt read

end Markup

end Liquid
