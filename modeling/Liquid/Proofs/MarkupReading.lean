import Liquid.Proofs.MarkupScanning

/-!
# The parser of variables reads exactly the grammar

## Main result

`Markup.parse_eq_ok_iff`: a text reads as a variable exactly if it is one of the ways to write it.

## Proof strategy

Both directions go by induction on the depth, which bounds the nesting, with one lemma for a level
of each reader. In front of what `Ends` a piece, every way to write the piece is read whole; and
what is read is a way to write what comes out, whatever follows. Depth is never short: each nested
expression stands behind a character of its own.
-/

namespace Liquid

namespace Markup

open Text

/-! ### Keywords -/

/-- A keyword is spelled like a name, in letters alone. -/
theorem isName_of_keyword {word : String} {l : Literal} (keyword : keyword? word = some l) :
    IsName word.toList := by
  have plain : ∀ w ∈ ["true", "false", "nil", "null", "empty", "blank"], IsName w.toList := by
    intro w member
    simp only [List.mem_cons, List.not_mem_nil, or_false] at member
    rcases member with rfl | rfl | rfl | rfl | rfl | rfl
    all_goals exact .plain (by decide) (List.all_eq_true.mp (by decide))
  refine plain word ?_
  unfold keyword? at keyword
  split at keyword
  case h_7 => cases keyword
  all_goals simp

private theorem lookupOrKeyword_keyword {word : String} {l : Literal}
    (keyword : keyword? word = some l) :
    lookupOrKeyword word [] = .literal l := by
  simp [lookupOrKeyword, keyword]

private theorem lookupOrKeyword_name {name : String} {path : List Segment}
    (free : path = [] → keyword? name = none) : lookupOrKeyword name path = .lookup name path := by
  cases path with
  | nil => simp [lookupOrKeyword, free rfl]
  | cons => simp [lookupOrKeyword]

/-! ### First characters -/

/-- What an expression can begin with. -/
def isExprStart (c : Char) : Bool :=
  isQuote c || c == '(' || isDigit c || c == '-' || isNameStart c

theorem isExprStart_of_number {c : Char} (first : (isDigit c || c == '-') = true) :
    isExprStart c = true := by
  rw [Bool.or_eq_true] at first
  rcases first with digit | minus
  · simp [isExprStart, digit]
  · simp [isExprStart, minus]

theorem IsDigits.cons_sign {digits : List Char} (isDigits : IsDigits digits) (negative : Bool)
    (after : List Char) :
    ∃ c rest, Double.sign negative ++ (digits ++ after) = c :: rest ∧
      (isDigit c || c == '-') = true := by
  obtain ⟨c, rest, rfl, digit⟩ := isDigits.cons
  cases negative with
  | true => exact ⟨_, _, rfl, by decide⟩
  | false => exact ⟨_, _, rfl, by simp [digit]⟩

theorem IsExpr.cons {e : Expr} {t : List Char} (isExpr : IsExpr e t) :
    ∃ c rest, t = c :: rest ∧ isExprStart c = true := by
  cases isExpr with
  | str quote _ => exact ⟨_, _, rfl, by simp [isExprStart, quote]⟩
  | int negative digits _ =>
    obtain ⟨c, rest, text, first⟩ := digits.cons_sign negative []
    rw [List.append_nil] at text
    exact ⟨c, rest, text, isExprStart_of_number first⟩
  | float negative left _ =>
    obtain ⟨c, rest, text, first⟩ := left.cons_sign negative ('.' :: _)
    exact ⟨c, rest, text, isExprStart_of_number first⟩
  | keyword keyword =>
    obtain ⟨c, rest, spelled, start⟩ := (isName_of_keyword keyword).cons
    exact ⟨c, rest, spelled, by simp [isExprStart, start]⟩
  | range => exact ⟨_, _, rfl, by decide⟩
  | lookup name _ _ =>
    obtain ⟨c, rest, spelled, start⟩ := name.cons
    exact ⟨c, rest ++ _, by rw [spelled]; rfl, by simp [isExprStart, start]⟩

theorem ink_of_isExprStart {c : Char} (start : isExprStart c = true) : isBlank c = false := by
  refine Bool.eq_false_iff.mpr fun blank => ?_
  have other := isNameChar_of_isBlank blank
  simp only [isExprStart, isQuote, Bool.or_eq_true, beq_iff_eq] at start
  rcases start with ((((rfl | rfl) | rfl) | digit) | rfl) | start
  · cases blank
  · cases blank
  · cases blank
  · cases other.symm.trans (isNameChar_of_isDigit digit)
  · cases blank
  · cases other.symm.trans (isNameChar_of_isNameStart start)

theorem IsExpr.dropBlank {e : Expr} {t : List Char} (isExpr : IsExpr e t) (rest : List Char) :
    dropBlank (t ++ rest) = t ++ rest := by
  obtain ⟨c, more, rfl, start⟩ := isExpr.cons
  exact dropBlank_cons (ink_of_isExprStart start) _

theorem IsName.dropBlank {name : List Char} (isName : IsName name) (rest : List Char) :
    dropBlank (name ++ rest) = name ++ rest := by
  obtain ⟨c, more, rfl, start⟩ := isName.cons
  exact dropBlank_cons (ink_of_isExprStart (by simp [isExprStart, start])) _

/-! ### Everything written is read -/

theorem exprWithin_blank {a : List Char} (blank : Blank a) (depth : Nat) (s : List Char) :
    exprWithin depth (a ++ s) = exprWithin depth s := by
  cases depth with
  | zero => simp [exprWithin]
  | succ depth => simp only [exprWithin, blank.dropBlank_append]

/-- Expressions with texts shorter than the depth are read. -/
def ReadsExpr (depth : Nat) : Prop :=
  ∀ {e : Expr} {t : List Char} (rest : List Char), IsExpr e t → t.length < depth → Ends rest →
    exprWithin depth (t ++ rest) = .ok (e, rest)

def ReadsPath (depth : Nat) : Prop :=
  ∀ {path : List Segment} {t : List Char} (rest : List Char),
    IsPath path t → t.length < depth → Ends rest → pathWithin depth (t ++ rest) = .ok (path, rest)

private theorem exprWithin_name {depth : Nat} {name s : List Char} (isName : IsName name)
    (ends : EndsName s) :
    exprWithin (depth + 1) (name ++ s) = (do
      let (path, rest) ← pathWithin depth s
      .ok (lookupOrKeyword (String.ofList name) path, rest)) := by
  have read := name?_append isName ends
  obtain ⟨c, more, rfl, start⟩ := isName.cons
  have ink : isBlank c = false := ink_of_isExprStart (by simp [isExprStart, start])
  -- What begins a name begins no other kind of expression.
  have quote : isQuote c = false := isQuote_of_apart (by decide) (by decide) start
  have bracket : c ≠ '(' := by
    rintro rfl
    cases start
  have number : (isDigit c || c == '-') = false := by
    refine Bool.eq_false_iff.mpr fun number => ?_
    simp only [Bool.or_eq_true, beq_iff_eq] at number
    rcases number with digit | rfl
    · cases start.symm.trans (isNameStart_of_isDigit digit)
    · cases start
  rw [List.cons_append] at read ⊢
  simp [exprWithin, dropBlank_cons ink, quote, bracket, number, read]

private theorem exprWithin_number {depth : Nat} {c : Char} {s : List Char}
    (first : (isDigit c || c == '-') = true) :
    exprWithin (depth + 1) (c :: s) = number (c :: s) := by
  have ink := ink_of_isExprStart (isExprStart_of_number first)
  have other : isQuote c = false ∧ c ≠ '(' := by
    constructor
    · exact isQuote_of_apart (P := fun c => isDigit c || c == '-') (by decide) (by decide) first
    · rintro rfl
      cases first
  simp only [exprWithin, dropBlank_cons ink, other, Bool.false_eq_true, ↓reduceIte, beq_iff_eq,
    first]

theorem IsPath.endsName {path : List Segment} {t rest : List Char} (isPath : IsPath path t)
    (ends : Ends rest) : EndsName (t ++ rest) := by
  cases isPath with
  | done => exact ends.toEndsName
  | field => exact endsName_cons _ (by decide) (by decide)
  | index => exact endsName_cons _ (by decide) (by decide)

theorem readsExpr_succ {depth : Nat} (exprs : ReadsExpr depth) (paths : ReadsPath depth) :
    ReadsExpr (depth + 1) := by
  intro e t rest isExpr short ends
  cases isExpr with
  | @str quote inside quotes free =>
    have ink : isBlank quote = false := ink_of_isExprStart (by simp [isExprStart, quotes])
    simp [exprWithin, dropBlank_cons ink, quotes, quoted?_append free]
  | @int i digits negative isDigits value =>
    obtain ⟨c, more, text, first⟩ := isDigits.cons_sign negative rest
    have read := number_int negative isDigits value ends
    rw [List.append_assoc, text] at read ⊢
    rw [exprWithin_number first, read]
  | @float whole fraction negative left right =>
    obtain ⟨c, more, text, first⟩ := left.cons_sign negative ('.' :: (fraction ++ rest))
    have read := number_decimal negative left right ends
    simp only [List.append_assoc, List.cons_append] at read ⊢
    rw [text] at read ⊢
    rw [exprWithin_number first, read]
  | @keyword word l keyword =>
    obtain ⟨c, more, spelled, -⟩ := (isName_of_keyword keyword).cons
    rw [spelled, List.length_cons] at short
    -- A keyword is read as a name without a path.
    have none := paths rest .done (by rw [List.length_nil]; omega) ends
    rw [List.nil_append] at none
    rw [exprWithin_name (isName_of_keyword keyword) ends.toEndsName, none]
    simp [bind, Except.bind, lookupOrKeyword_keyword keyword]
  | @range first last a s b c t d blankA isFirst blankB blankC isLast blankD =>
    simp only [List.length_cons, List.length_append] at short
    -- Both ends of the range are shorter, and what follows each of them ends it.
    have readFirst := exprs (b ++ '.' :: '.' :: (c ++ (t ++ (d ++ ')' :: rest)))) isFirst
      (by omega) (blankB.ends (ends_points _))
    have readLast := exprs (d ++ ')' :: rest) isLast (by omega)
      (blankD.ends (ends_cons _ (by decide) (by decide) (by decide) (by decide)))
    have text : '(' :: (a ++ s ++ b ++ '.' :: '.' :: (c ++ t ++ d ++ [')'])) ++ rest =
        '(' :: (a ++ (s ++ (b ++ '.' :: '.' :: (c ++ (t ++ (d ++ ')' :: rest)))))) := by simp
    rw [text, exprWithin, dropBlank_cons (by decide)]
    simp only [show isQuote '(' = false by decide, Bool.false_eq_true, ↓reduceIte, beq_self_eq_true,
      exprWithin_blank blankA, readFirst, bind, Except.bind, blankB.dropBlank_append,
      dropBlank_cons (show isBlank '.' = false by decide), exprWithin_blank blankC, readLast,
      blankD.dropBlank_append, dropBlank_cons (show isBlank ')' = false by decide)]
  | @lookup name path s isName free isPath =>
    simp only [List.length_append] at short
    obtain ⟨c, more, spelled, -⟩ := isName.cons
    have read := paths rest isPath (by rw [spelled, List.length_cons] at short; omega) ends
    rw [List.append_assoc, exprWithin_name isName (isPath.endsName ends), read]
    simp [bind, Except.bind, lookupOrKeyword_name free]

private theorem readsPath_succ {depth : Nat} (exprs : ReadsExpr depth) (paths : ReadsPath depth) :
    ReadsPath (depth + 1) := by
  intro path t rest isPath short ends
  cases isPath with
  | done =>
    rw [List.nil_append]
    unfold pathWithin
    split
    next more =>
      have second := ends.point _ rfl
      simp [second]
    next => exact absurd rfl ends.index
    next => rfl
  | @field name path s isName isPath =>
    simp only [List.length_cons, List.length_append] at short
    have read := paths rest isPath (by omega) ends
    have found := name?_append isName (isPath.endsName ends)
    rw [String.ofList_toList] at found
    obtain ⟨c, more, spelled, start⟩ := isName.cons
    -- Two points would be those of a range, but a name begins with none.
    have single : (name.toList ++ s ++ rest).head? ≠ some '.' := by
      rw [spelled]
      rintro same
      obtain rfl := Option.some.inj same
      cases start
    rw [List.cons_append, pathWithin, if_neg (by simpa using single), List.append_assoc, found]
    simp only [read, bind, Except.bind]
  | @index e path a s b t blankA isExpr blankB isPath =>
    simp only [List.length_cons, List.length_append] at short
    have readIndex := exprs (b ++ ']' :: (t ++ rest)) isExpr (by omega)
      (blankB.ends (ends_cons _ (by decide) (by decide) (by decide) (by decide)))
    have readPath := paths rest isPath (by omega) ends
    have text : '[' :: (a ++ s ++ b ++ ']' :: t) ++ rest =
        '[' :: (a ++ (s ++ (b ++ ']' :: (t ++ rest)))) := by simp
    rw [text, pathWithin]
    simp only [exprWithin_blank blankA, readIndex, bind, Except.bind, blankB.dropBlank_append,
      dropBlank_cons (show isBlank ']' = false by decide), readPath]

theorem reads (depth : Nat) : ReadsExpr depth ∧ ReadsPath depth := by
  induction depth with
  | zero =>
    exact ⟨fun _ _ short => (Nat.not_lt_zero _ short).elim,
      fun _ _ short => (Nat.not_lt_zero _ short).elim⟩
  | succ depth ih => exact ⟨readsExpr_succ ih.1 ih.2, readsPath_succ ih.1 ih.2⟩

theorem expr_append {e : Expr} {a t rest : List Char} (blank : Blank a) (isExpr : IsExpr e t)
    (ends : Ends rest) : expr (a ++ t ++ rest) = .ok (e, rest) := by
  rw [expr, List.append_assoc, exprWithin_blank blank]
  refine (reads _).1 rest isExpr ?_ ends
  simp only [List.length_append]
  omega

/-! ### Filters that are written are read -/

/-- Behind white space nothing follows, or a filter. -/
def Closes (rest : List Char) : Prop :=
  dropBlank rest = [] ∨ ∃ more, dropBlank rest = '|' :: more

theorem Closes.ends {rest : List Char} (closes : Closes rest) : Ends rest := by
  obtain ⟨a, blank, parts⟩ := exists_dropBlank rest
  rw [parts]
  refine blank.ends ?_
  rcases closes with none | ⟨more, filter⟩
  · rw [none]
    exact ends_nil
  · rw [filter]
    exact ends_cons _ (by decide) (by decide) (by decide) (by decide)

theorem IsFilters.closes {calls : List FilterCall} {t b : List Char} (isFilters : IsFilters calls t)
    (blank : Blank b) : Closes (t ++ b) := by
  have bar : isBlank '|' = false := by decide
  cases isFilters with
  | done => exact .inl blank.dropBlank
  | more blankA isFilter _ =>
    refine .inr ?_
    cases isFilter with
    | bare | called =>
      simp only [List.append_assoc, blankA.dropBlank_append, List.cons_append, dropBlank_cons bar]
      exact ⟨_, rfl⟩

private theorem argsWithin_append {args : List Expr} {t rest : List Char} (isArgs : IsArgs args t)
    (closes : Closes rest) {count : Nat} (short : t.length < count) :
    argsWithin count (t ++ rest) = .ok (args, dropBlank rest) := by
  induction isArgs generalizing count with
  | last blank isExpr =>
    obtain ⟨count, rfl⟩ : ∃ n, count = n + 1 := ⟨count - 1, by omega⟩
    rw [argsWithin, expr_append blank isExpr closes.ends]
    rcases closes with none | ⟨more, filter⟩
    · simp [bind, Except.bind, none]
    · simp [bind, Except.bind, filter]
  | @more e args a s b t blankA isExpr blankB isArgs ih =>
    obtain ⟨count, rfl⟩ : ∃ n, count = n + 1 := ⟨count - 1, by omega⟩
    simp only [List.length_append, List.length_cons] at short
    have comma : isBlank ',' = false := by decide
    have ends : Ends (b ++ ',' :: (t ++ rest)) :=
      blankB.ends (ends_cons _ (by decide) (by decide) (by decide) (by decide))
    have read := expr_append blankA isExpr ends
    have text : a ++ s ++ b ++ ',' :: t ++ rest = a ++ s ++ (b ++ ',' :: (t ++ rest)) := by simp
    rw [text, argsWithin, read]
    simp only [bind, Except.bind, blankB.dropBlank_append, dropBlank_cons comma,
      ih (show t.length < count by omega)]

private theorem filtersWithin_dropBlank {count : Nat} (some : 0 < count) (s : List Char) :
    filtersWithin count (dropBlank s) = filtersWithin count s := by
  obtain ⟨count, rfl⟩ : ∃ n, count = n + 1 := ⟨count - 1, by omega⟩
  simp only [filtersWithin, dropBlank_dropBlank]

/-- The filters from a bar and a name on. -/
theorem filtersWithin_name {count : Nat} {name : String} {a b s : List Char} (blankA : Blank a)
    (blankB : Blank b) (isName : IsName name.toList) (ends : EndsName s) :
    filtersWithin (count + 1) (a ++ '|' :: (b ++ (name.toList ++ s))) = (do
      let (args, rest) ←
        match dropBlank s with
        | ':' :: rest => argsWithin (rest.length + 1) rest
        | rest => .ok ([], rest)
      let (calls, rest) ← filtersWithin count rest
      .ok (⟨name, args⟩ :: calls, rest)) := by
  have found := name?_append isName ends
  rw [String.ofList_toList] at found
  have bar : isBlank '|' = false := by decide
  have step := filtersWithin.eq_2 (a ++ '|' :: (b ++ (name.toList ++ s))) count
  simp only [blankA.dropBlank_append, dropBlank_cons bar, blankB.dropBlank_append,
    isName.dropBlank, found] at step
  exact step

private theorem filtersWithin_append {calls : List FilterCall} {t b : List Char}
    (isFilters : IsFilters calls t) (blank : Blank b) {count : Nat} (short : t.length < count) :
    filtersWithin count (t ++ b) = .ok (calls, []) := by
  induction isFilters generalizing count with
  | done =>
    obtain ⟨count, rfl⟩ : ∃ n, count = n + 1 := ⟨count - 1, by omega⟩
    simp [filtersWithin, blank.dropBlank]
  | @more call calls a s t blankA isFilter isFilters ih =>
    obtain ⟨count, rfl⟩ : ∃ n, count = n + 1 := ⟨count - 1, by omega⟩
    have closes := isFilters.closes blank
    cases isFilter with
    | @bare name c blankC isName =>
      simp only [List.length_cons, List.length_append] at short
      have later := ih (show t.length < count by omega)
      rw [← filtersWithin_dropBlank (by omega)] at later
      have text : a ++ '|' :: (c ++ name.toList) ++ t ++ b =
          a ++ '|' :: (c ++ (name.toList ++ (t ++ b))) := by simp
      rw [text, filtersWithin_name blankA blankC isName closes.ends.toEndsName]
      -- No colon follows the name.
      rcases closes with none | ⟨more, filter⟩
      · rw [none] at later ⊢
        simp [later, bind, Except.bind]
      · rw [filter] at later ⊢
        simp [later, bind, Except.bind]
    | @called name args c d u blankC isName blankD isArgs =>
      simp only [List.length_cons, List.length_append] at short
      have later := ih (show t.length < count by omega)
      rw [← filtersWithin_dropBlank (by omega)] at later
      have colon : isBlank ':' = false := by decide
      have ends : Ends (d ++ ':' :: (u ++ (t ++ b))) :=
        blankD.ends (ends_cons _ (by decide) (by decide) (by decide) (by decide))
      have text : a ++ '|' :: (c ++ name.toList ++ d ++ ':' :: u) ++ t ++ b =
          a ++ '|' :: (c ++ (name.toList ++ (d ++ ':' :: (u ++ (t ++ b))))) := by simp
      have read := argsWithin_append isArgs closes
        (show u.length < (u ++ (t ++ b)).length + 1 by simp only [List.length_append]; omega)
      rw [text, filtersWithin_name blankA blankC isName ends.toEndsName]
      simp only [blankD.dropBlank_append, dropBlank_cons colon, read, bind, Except.bind, later]

/-- White space in front of filters goes with the first of them, or follows none. -/
theorem IsFilters.behind {calls : List FilterCall} {a t b : List Char} (blankA : Blank a)
    (isFilters : IsFilters calls t) (blankB : Blank b) :
    ∃ t' b', IsFilters calls t' ∧ Blank b' ∧ a ++ t ++ b = t' ++ b' := by
  cases isFilters with
  | done => exact ⟨[], a ++ b, .done, blankA.append blankB, by simp⟩
  | @more call calls c s t blankC isFilter isFilters =>
    exact ⟨a ++ c ++ s ++ t, b, .more (blankA.append blankC) isFilter isFilters, blankB, by simp⟩

/-- The same filters without the white space in front. -/
theorem IsFilters.dropBlank {calls : List FilterCall} {t b : List Char}
    (isFilters : IsFilters calls t) (blank : Blank b) :
    ∃ t' b', IsFilters calls t' ∧ Blank b' ∧ dropBlank (t ++ b) = t' ++ b' := by
  cases isFilters with
  | done => exact ⟨[], [], .done, blank_nil, blank.dropBlank⟩
  | @more call calls c s t blankC isFilter isFilters =>
    refine ⟨[] ++ s ++ t, b, .more blank_nil isFilter isFilters, blank, ?_⟩
    have bar : isBlank '|' = false := by decide
    cases isFilter with
    | bare | called => simp [blankC.dropBlank_append, dropBlank_cons bar]

private theorem filtersWithin_all {calls : List FilterCall} {t b : List Char}
    (isFilters : IsFilters calls t) (blank : Blank b) :
    filtersWithin ((t ++ b).length + 1) (t ++ b) = .ok (calls, []) := by
  refine filtersWithin_append isFilters blank ?_
  simp only [List.length_append]
  omega

private theorem piped_append {v : Variable} {s : List Char} (isVariable : IsVariable v s) :
    piped s = .ok (v, []) := by
  cases isVariable with
  | @given e filters a s t b blankA isExpr isFilters blankB =>
    have read := filtersWithin_all isFilters blankB
    have expr := expr_append blank_nil isExpr (isFilters.closes blankB).ends
    rw [List.nil_append] at expr
    have front : dropBlank (a ++ s ++ t ++ b) = s ++ (t ++ b) := by
      rw [List.append_assoc, List.append_assoc, blankA.dropBlank_append, isExpr.dropBlank]
    unfold piped
    rw [front]
    obtain ⟨c, more, rfl, start⟩ := isExpr.cons
    split
    next same => cases same
    next same =>
      obtain rfl := (List.cons.inj same).1
      cases start
    next =>
      rw [expr]
      simp only [bind, Except.bind, read]
  | @absent filters a t b blankA isFilters blankB =>
    obtain ⟨t', b', isFilters', blankB', front⟩ := isFilters.dropBlank blankB
    have read := filtersWithin_all isFilters' blankB'
    rw [← front] at read
    unfold piped
    rw [List.append_assoc, blankA.dropBlank_append]
    rcases isFilters.closes blankB with none | ⟨more, filter⟩
    · rw [none] at read ⊢
      simp only [bind, Except.bind, read]
    · rw [filter] at read ⊢
      simp only [bind, Except.bind, read]

/-! ### Everything read is written -/

/-- What is read to the depth is written. -/
def FindsExpr (depth : Nat) : Prop :=
  ∀ {e : Expr} {s rest : List Char}, exprWithin depth s = .ok (e, rest) →
    ∃ a t, Blank a ∧ IsExpr e t ∧ s = a ++ t ++ rest

def FindsPath (depth : Nat) : Prop :=
  ∀ {path : List Segment} {s rest : List Char}, pathWithin depth s = .ok (path, rest) →
    ∃ t, IsPath path t ∧ s = t ++ rest

/-- A character behind white space. -/
theorem exists_blank_cons {s rest : List Char} {c : Char} (next : dropBlank s = c :: rest) :
    ∃ a, Blank a ∧ s = a ++ c :: rest := by
  obtain ⟨a, blank, parts⟩ := exists_dropBlank s
  exact ⟨a, blank, by rw [← next]; exact parts⟩

private theorem isExpr_lookupOrKeyword {name : String} {path : List Segment} {t : List Char}
    (isName : IsName name.toList) (isPath : IsPath path t) :
    IsExpr (lookupOrKeyword name path) (name.toList ++ t) := by
  by_cases keyword : path = [] ∧ (keyword? name).isSome
  · obtain ⟨rfl, some⟩ := keyword
    obtain ⟨l, keyword⟩ := Option.isSome_iff_exists.mp some
    cases isPath
    rw [lookupOrKeyword_keyword keyword, List.append_nil]
    exact .keyword keyword
  · have free : path = [] → keyword? name = none := by simpa using keyword
    rw [lookupOrKeyword_name free]
    exact .lookup isName free isPath

theorem findsExpr_succ {depth : Nat} (exprs : FindsExpr depth) (paths : FindsPath depth) :
    FindsExpr (depth + 1) := by
  intro e s rest read
  unfold exprWithin at read
  split at read
  next => cases read
  next c after next =>
    obtain ⟨a, blankA, rfl⟩ := exists_blank_cons next
    refine ⟨a, ?_⟩
    suffices ∃ t, IsExpr e t ∧ c :: after = t ++ rest by
      obtain ⟨t, isExpr, text⟩ := this
      exact ⟨t, blankA, isExpr, by rw [text, List.append_assoc]⟩
    -- The first character decides: a quote, a bracket, a digit or minus, or a name.
    split at read
    next quote =>
      split at read
      next inside _ closed =>
        cases read
        obtain ⟨free, rfl⟩ := quoted?_of_some closed
        exact ⟨_, .str quote free, by simp⟩
      next => cases read
    next =>
      split at read
      next bracket =>
        obtain rfl : c = '(' := by simpa using bracket
        obtain ⟨⟨first, afterFirst⟩, readFirst, behindFirst⟩ := bind_eq_ok.mp read
        obtain ⟨b, s, blankB, isFirst, rfl⟩ := exprs readFirst
        dsimp only at behindFirst
        split at behindFirst
        next afterDots dots =>
          obtain ⟨d, blankD, rfl⟩ := exists_blank_cons dots
          obtain ⟨⟨last, afterLast⟩, readLast, behindLast⟩ := bind_eq_ok.mp behindFirst
          obtain ⟨f, u, blankF, isLast, rfl⟩ := exprs readLast
          dsimp only at behindLast
          split at behindLast
          next closed =>
            obtain ⟨g, blankG, rfl⟩ := exists_blank_cons closed
            cases behindLast
            exact ⟨_, .range blankB isFirst blankD blankF isLast blankG, by simp⟩
          next => cases behindLast
        next => cases behindFirst
      next =>
        split at read
        next => exact isExpr_of_number read
        next =>
          split at read
          next name _ named =>
            obtain ⟨isName, text⟩ := isName_of_name? named
            obtain ⟨⟨path, _⟩, readPath, last⟩ := bind_eq_ok.mp read
            cases last
            obtain ⟨t, isPath, rfl⟩ := paths readPath
            exact ⟨_, isExpr_lookupOrKeyword isName isPath, by rw [text, List.append_assoc]⟩
          next => cases read

private theorem findsPath_succ {depth : Nat} (exprs : FindsExpr depth) (paths : FindsPath depth) :
    FindsPath (depth + 1) := by
  intro path s rest read
  unfold pathWithin at read
  split at read
  next after =>
    split at read
    next =>
      cases read
      exact ⟨[], .done, rfl⟩
    next =>
      split at read
      next field _ named =>
        obtain ⟨isName, rfl⟩ := isName_of_name? named
        obtain ⟨⟨path, _⟩, readPath, last⟩ := bind_eq_ok.mp read
        cases last
        obtain ⟨t, isPath, rfl⟩ := paths readPath
        exact ⟨_, .field isName isPath, by simp⟩
      next => cases read
  next after =>
    obtain ⟨⟨index, afterIndex⟩, readIndex, behindIndex⟩ := bind_eq_ok.mp read
    obtain ⟨a, t, blankA, isExpr, rfl⟩ := exprs readIndex
    dsimp only at behindIndex
    split at behindIndex
    next closed =>
      obtain ⟨b, blankB, rfl⟩ := exists_blank_cons closed
      obtain ⟨⟨path, _⟩, readPath, last⟩ := bind_eq_ok.mp behindIndex
      cases last
      obtain ⟨u, isPath, rfl⟩ := paths readPath
      exact ⟨_, .index blankA isExpr blankB isPath, by simp⟩
    next => cases behindIndex
  next =>
    cases read
    exact ⟨[], .done, rfl⟩

theorem finds (depth : Nat) : FindsExpr depth ∧ FindsPath depth := by
  induction depth with
  | zero =>
    refine ⟨fun read => ?_, fun read => ?_⟩
    · rw [exprWithin] at read
      cases read
    · rw [pathWithin] at read
      cases read
      exact ⟨[], .done, rfl⟩
  | succ depth ih => exact ⟨findsExpr_succ ih.1 ih.2, findsPath_succ ih.1 ih.2⟩

private theorem isExpr_of_expr {e : Expr} {s rest : List Char} (read : expr s = .ok (e, rest)) :
    ∃ a t, Blank a ∧ IsExpr e t ∧ s = a ++ t ++ rest := (finds _).1 read

/-- White space behind the last argument is read with it, though it is no part of it. -/
theorem isArgs_of_argsWithin {count : Nat} {args : List Expr} {s rest : List Char}
    (read : argsWithin count s = .ok (args, rest)) (enough : s.length < count) :
    ∃ t b, IsArgs args t ∧ Blank b ∧ s = t ++ b ++ rest := by
  induction count generalizing args s with
  | zero => exact absurd enough (Nat.not_lt_zero _)
  | succ count ih =>
    unfold argsWithin at read
    obtain ⟨⟨e, after⟩, readArg, behindArg⟩ := bind_eq_ok.mp read
    obtain ⟨a, t, blankA, isExpr, rfl⟩ := isExpr_of_expr readArg
    dsimp only at behindArg
    split at behindArg
    next more comma =>
      obtain ⟨b, blankB, rfl⟩ := exists_blank_cons comma
      obtain ⟨⟨args, _⟩, readArgs, last⟩ := bind_eq_ok.mp behindArg
      cases last
      simp only [List.length_append, List.length_cons] at enough
      obtain ⟨u, c, isArgs, blankC, rfl⟩ := ih readArgs (by omega)
      exact ⟨_, c, .more blankA isExpr blankB isArgs, blankC, by simp⟩
    next =>
      cases behindArg
      obtain ⟨b, blankB, parts⟩ := exists_dropBlank after
      exact ⟨_, b, .last blankA isExpr, blankB, by rw [List.append_assoc (a ++ t), ← parts]⟩

private theorem isFilters_of_filtersWithin {count : Nat} {calls : List FilterCall}
    {s rest : List Char}
    (read : filtersWithin count s = .ok (calls, rest)) (enough : s.length < count) :
    ∃ t b, IsFilters calls t ∧ Blank b ∧ s = t ++ b ++ rest := by
  induction count generalizing calls s with
  | zero => exact absurd enough (Nat.not_lt_zero _)
  | succ count ih =>
    unfold filtersWithin at read
    split at read
    next more bar =>
      obtain ⟨a, blankA, rfl⟩ := exists_blank_cons bar
      obtain ⟨c, blankC, spaced⟩ := exists_dropBlank more
      split at read
      next => cases read
      next name afterName named =>
        obtain ⟨isName, spelled⟩ := isName_of_name? named
        rw [spelled] at spaced
        simp only [spaced, List.length_append, List.length_cons] at enough
        split at read
        next afterColon colon =>
          obtain ⟨d, blankD, rfl⟩ := exists_blank_cons colon
          obtain ⟨⟨args, afterArgs⟩, readArgs, behindArgs⟩ := bind_eq_ok.mp read
          obtain ⟨⟨calls, _⟩, readCalls, last⟩ := bind_eq_ok.mp behindArgs
          cases last
          obtain ⟨u, f, isArgs, blankF, rfl⟩ := isArgs_of_argsWithin readArgs (Nat.lt_succ_self _)
          simp only [List.length_append, List.length_cons] at enough
          obtain ⟨t, b, isFilters, blankB, rfl⟩ := ih readCalls (by omega)
          obtain ⟨t', b', isFilters', blankB', moved⟩ := isFilters.behind blankF blankB
          refine ⟨_, b', .more blankA (.called blankC isName blankD isArgs) isFilters', blankB', ?_⟩
          simp [spaced, ← moved]
        next =>
          obtain ⟨_, same, behindName⟩ := bind_eq_ok.mp read
          cases same
          obtain ⟨⟨calls, _⟩, readCalls, last⟩ := bind_eq_ok.mp behindName
          cases last
          obtain ⟨d, blankD, partsName⟩ := exists_dropBlank afterName
          have shorter := dropBlank_length_le afterName
          obtain ⟨t, b, isFilters, blankB, parts⟩ := ih readCalls (by omega)
          obtain ⟨t', b', isFilters', blankB', moved⟩ := isFilters.behind blankD blankB
          refine ⟨_, b', .more blankA (.bare blankC isName) isFilters', blankB', ?_⟩
          rw [parts] at partsName
          simp [spaced, partsName, ← moved]
    next =>
      cases read
      obtain ⟨b, blankB, parts⟩ := exists_dropBlank s
      exact ⟨[], b, .done, blankB, parts⟩

private theorem isVariable_of_piped {v : Variable} {s rest : List Char}
    (read : piped s = .ok (v, rest))
    (finished : Blank rest) : IsVariable v s := by
  obtain ⟨a, blankA, parts⟩ := exists_dropBlank s
  -- The filters start behind `front`, which is all that the three cases differ in.
  have finish {e : Expr} {front s' : List Char} (text : s = front ++ s')
      (built : ∀ {filters t b}, IsFilters filters t → Blank b →
        IsVariable ⟨e, filters⟩ (front ++ t ++ b))
      (read : (do
        let (filters, rest) ← filtersWithin (s'.length + 1) s'
        .ok (⟨e, filters⟩, rest) : Except MarkupError (Variable × List Char)) = .ok (v, rest)) :
      IsVariable v s := by
    obtain ⟨⟨filters, _⟩, readFilters, last⟩ := bind_eq_ok.mp read
    cases last
    obtain ⟨t, b, isFilters, blankB, rfl⟩ :=
      isFilters_of_filtersWithin readFilters (Nat.lt_succ_self _)
    have whole := built isFilters (blankB.append finished)
    rwa [← List.append_assoc, List.append_assoc front, List.append_assoc front, ← text] at whole
  unfold piped at read
  split at read
  next none =>
    obtain ⟨_, same, behind⟩ := bind_eq_ok.mp read
    cases same
    rw [none] at parts
    exact finish parts (.absent blankA) behind
  next filter =>
    obtain ⟨_, same, behind⟩ := bind_eq_ok.mp read
    cases same
    rw [filter] at parts
    exact finish parts (.absent blankA) behind
  next =>
    obtain ⟨⟨e, after⟩, readExpr, behind⟩ := bind_eq_ok.mp read
    obtain ⟨c, t, blankC, isExpr, text⟩ := isExpr_of_expr readExpr
    rw [text] at parts
    have parts : s = a ++ c ++ t ++ after := by simpa using parts
    exact finish parts (.given (blankA.append blankC) isExpr) behind

theorem parse_eq_ok_iff {v : Variable} {s : String} :
    Variable.parse s = .ok v ↔ IsVariable v s.toList := by
  constructor
  · intro read
    obtain ⟨⟨_, rest⟩, readPiped, last⟩ := bind_eq_ok.mp read
    unfold finish at last
    split at last
    next none =>
      cases last
      obtain ⟨a, blank, parts⟩ := exists_dropBlank rest
      rw [none, List.append_nil] at parts
      exact isVariable_of_piped readPiped (parts ▸ blank)
    next => cases last
  · intro isVariable
    simp [Variable.parse, piped_append isVariable, finish, bind, Except.bind]

end Markup

end Liquid
