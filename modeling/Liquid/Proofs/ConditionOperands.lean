import Liquid.Proofs.ConditionWords
import Liquid.Proofs.MarkupReading

/-!
# Operands as markup

What a condition relies on when it cuts markup into words: a text that reads as a variable has all
its quotes closed, and it reads as the same variable without the white space around it.

Both come from the grammar. Every quote belongs to a quoted text, which ends with the same one, and
no piece but the white space at the end ends with white space.
-/

namespace Liquid

namespace Markup

open Text Condition

/-! ### Ends of pieces -/

/-- The last character is there, and it is not white space. -/
def Inked (s : List Char) : Prop := ∃ c ∈ s.getLast?, isBlank c = false

private theorem inked_concat {c : Char} (ink : isBlank c = false) (s : List Char) :
    Inked (s ++ [c]) :=
  ⟨c, by simp, ink⟩

theorem Inked.behind {t : List Char} (inked : Inked t) (s : List Char) : Inked (s ++ t) := by
  obtain ⟨c, last, ink⟩ := inked
  exact ⟨c, by simp [List.getLast?_append, Option.mem_def.mp last], ink⟩

/-- No white space is taken off the end. -/
theorem Inked.eq_nil {s t : List Char} (inked : Inked (s ++ t)) (blank : Blank t) : t = [] := by
  obtain ⟨c, last, ink⟩ := inked
  cases ending : t.getLast? with
  | none => exact List.getLast?_eq_none_iff.mp ending
  | some d =>
    rw [List.getLast?_append, ending] at last
    obtain rfl := Option.some.inj last
    rw [blank d (List.mem_of_getLast? ending)] at ink
    cases ink

/-- A piece that leaves no quote open and does not end with white space. -/
structure Bounded (s : List Char) : Prop where
  closed : QuotesClosed s
  inked : Inked s

theorem Bounded.append {s t : List Char} (closed : QuotesClosed s) (bounded : Bounded t) :
    Bounded (s ++ t) := ⟨closed.append bounded.closed, bounded.inked.behind s⟩

theorem Bounded.cons {c : Char} {s : List Char} (quote : isQuote c = false) (bounded : Bounded s) :
    Bounded (c :: s) := ⟨bounded.closed.cons quote, bounded.inked.behind [c]⟩

private theorem bounded_concat {s : List Char} {c : Char} (closed : QuotesClosed s)
    (quote : isQuote c = false) (ink : isBlank c = false) : Bounded (s ++ [c]) :=
  ⟨closed.append (quotesClosed_of_free (by simpa using quote)), inked_concat ink s⟩

/-! ### Names and numbers -/

/-- Characters of names, and those few others that numbers and names have. -/
def isPlain (c : Char) : Bool := isNameChar c || c == '?' || c == '.'

private theorem isQuote_of_isPlain {c : Char} (plain : isPlain c = true) : isQuote c = false :=
  isQuote_of_apart (by decide) (by decide) plain

theorem ink_of_isPlain {c : Char} (plain : isPlain c = true) : isBlank c = false := by
  refine Bool.eq_false_iff.mpr fun blank => ?_
  simp only [isPlain, isNameChar_of_isBlank blank, Bool.false_or, Bool.or_eq_true,
    beq_iff_eq] at plain
  rcases plain with rfl | rfl
  all_goals cases blank

theorem bounded_of_plain {s : List Char} (some : s ≠ []) (plain : ∀ c ∈ s, isPlain c = true) :
    Bounded s := by
  refine ⟨quotesClosed_of_free fun c member => isQuote_of_isPlain (plain c member),
    s.getLast some, List.getLast_mem_getLast? some, ?_⟩
  exact ink_of_isPlain (plain _ (List.getLast_mem some))

theorem IsName.isPlain {name : List Char} (isName : IsName name) :
    ∀ c ∈ name, isPlain c = true := by
  cases isName with
  | plain start chars =>
    refine List.forall_mem_cons.mpr ⟨?_, fun d member => ?_⟩
    · simp [Markup.isPlain, isNameChar_of_isNameStart start]
    · simp [Markup.isPlain, chars d member]
  | asking start chars =>
    refine List.forall_mem_cons.mpr ⟨?_, List.forall_mem_append.mpr ⟨fun d member => ?_, ?_⟩⟩
    · simp [Markup.isPlain, isNameChar_of_isNameStart start]
    · simp [Markup.isPlain, chars d member]
    · simp [Markup.isPlain]

theorem IsName.bounded {name : List Char} (isName : IsName name) : Bounded name := by
  obtain ⟨c, rest, cons, -⟩ := isName.cons
  exact bounded_of_plain (by simp [cons]) isName.isPlain

theorem IsDigits.plain {s : List Char} (digits : IsDigits s) : ∀ c ∈ s, isPlain c = true := by
  intro c member
  simp [isPlain, isNameChar_of_isDigit (digits.digits c member)]

theorem sign_plain (negative : Bool) : ∀ c ∈ Double.sign negative, isPlain c = true := by
  cases negative with
  | true => simp [Double.sign, isPlain]; decide
  | false => simp [Double.sign]

/-! ### Expressions -/

theorem Blank.quotesClosed {a : List Char} (blank : Blank a) : QuotesClosed a := by
  refine quotesClosed_of_free fun c member => ?_
  exact isQuote_of_apart (by decide) (by decide) (blank c member)

theorem Bounded.padded {a s b : List Char} (bounded : Bounded s) (blankA : Blank a)
    (blankB : Blank b) : QuotesClosed (a ++ s ++ b) :=
  (blankA.quotesClosed.append bounded.closed).append blankB.quotesClosed

/-- Inside a quoted text the other kind of quotes opens nothing. -/
theorem openQuote_inside {quote : Char} {inside : List Char} (free : quote ∉ inside) :
    openQuote (some quote) inside = some quote := by
  induction inside with
  | nil => rfl
  | cons c inside ih =>
    have other : c ≠ quote := fun same => free (same ▸ List.mem_cons_self)
    have step : quoteBehind (some quote) c = some quote := by simp [quoteBehind, other]
    rw [openQuote, List.foldl_cons, step]
    exact ih fun member => free (List.mem_cons_of_mem c member)

private theorem bounded_quoted {quote : Char} {inside : List Char} (quotes : isQuote quote = true)
    (free : quote ∉ inside) : Bounded (quote :: (inside ++ [quote])) := by
  have ink : isBlank quote = false := ink_of_isExprStart (by simp [isExprStart, quotes])
  have opened : quoteBehind none quote = some quote := by simp [quoteBehind, quotes]
  refine ⟨?_, inked_concat ink (quote :: inside)⟩
  rw [QuotesClosed, openQuote, List.foldl_cons, opened, ← openQuote, openQuote_append,
    openQuote_inside free]
  simp [openQuote, quoteBehind]

mutual

theorem IsExpr.bounded : {e : Expr} → {t : List Char} → IsExpr e t → Bounded t
  | _, _, .str quotes free => bounded_quoted quotes free
  | _, _, .int negative digits _ => by
    refine bounded_of_plain (by simp [digits.some]) ?_
    exact List.forall_mem_append.mpr ⟨sign_plain negative, digits.plain⟩
  | _, _, .float negative left right => by
    refine bounded_of_plain (by simp) (List.forall_mem_append.mpr ⟨sign_plain negative, ?_⟩)
    refine List.forall_mem_append.mpr ⟨left.plain, List.forall_mem_cons.mpr ⟨by decide, ?_⟩⟩
    exact right.plain
  | _, _, .keyword keyword => (isName_of_keyword keyword).bounded
  | _, _, .range blankA isFirst blankB blankC isLast blankD => by
    have front := isFirst.bounded.padded blankA blankB
    have back := isLast.bounded.padded blankC blankD
    have closing := bounded_concat (c := ')') back (by decide) (by decide)
    exact .cons (by decide) (.append front (.cons (by decide) (.cons (by decide) closing)))
  | _, _, .lookup isName _ isPath => by
    rcases isPath.bounded with rfl | bounded
    · rw [List.append_nil]
      exact isName.bounded
    · exact bounded.append isName.bounded.closed

theorem IsPath.bounded :
    {path : List Segment} → {t : List Char} → IsPath path t → t = [] ∨ Bounded t
  | _, _, .done => .inl rfl
  | _, _, .field isName isPath => by
    refine .inr (.cons (by decide) ?_)
    rcases isPath.bounded with rfl | bounded
    · rw [List.append_nil]
      exact isName.bounded
    · exact bounded.append isName.bounded.closed
  | _, _, .index blankA isExpr blankB isPath => by
    have index := isExpr.bounded.padded blankA blankB
    refine .inr (.cons (by decide) ?_)
    rcases isPath.bounded with rfl | bounded
    · exact bounded_concat index (by decide) (by decide)
    · exact .append index (.cons (by decide) bounded)

end

/-! ### Filters -/

theorem IsArgs.bounded {args : List Expr} {t : List Char} (isArgs : IsArgs args t) : Bounded t := by
  induction isArgs with
  | last blank isExpr => exact isExpr.bounded.append blank.quotesClosed
  | more blankA isExpr blankB _ ih =>
    have front := isExpr.bounded.padded blankA blankB
    exact .append front (.cons (by decide) ih)

theorem IsFilter.bounded {call : FilterCall} {t : List Char} (isFilter : IsFilter call t) :
    Bounded t := by
  cases isFilter with
  | bare blank isName => exact .cons (by decide) (isName.bounded.append blank.quotesClosed)
  | called blankA isName blankB isArgs =>
    have front := isName.bounded.padded blankA blankB
    exact .cons (by decide) (.append front (.cons (by decide) isArgs.bounded))

theorem IsFilters.bounded {calls : List FilterCall} {t : List Char}
    (isFilters : IsFilters calls t) : t = [] ∨ Bounded t := by
  induction isFilters with
  | done => exact .inl rfl
  | more blank isFilter _ ih =>
    have first := isFilter.bounded.append blank.quotesClosed
    rcases ih with rfl | bounded
    · exact .inr (by rwa [List.append_nil])
    · exact .inr (bounded.append first.closed)

/-! ### Variables -/

theorem IsFilters.quotesClosed {calls : List FilterCall} {t : List Char}
    (isFilters : IsFilters calls t) : QuotesClosed t := by
  rcases isFilters.bounded with rfl | bounded
  · exact quotesClosed_nil
  · exact bounded.closed

private theorem IsFilters.inked_append {calls : List FilterCall} {s t : List Char}
    (isFilters : IsFilters calls t) (inked : Inked s) : Inked (s ++ t) := by
  rcases isFilters.bounded with rfl | bounded
  · rwa [List.append_nil]
  · exact bounded.inked.behind s

theorem IsVariable.quotesClosed {v : Variable} {s : List Char} (isVariable : IsVariable v s) :
    QuotesClosed s := by
  cases isVariable with
  | given blankA isExpr isFilters blankB =>
    have front := blankA.quotesClosed.append isExpr.bounded.closed
    exact (front.append isFilters.quotesClosed).append blankB.quotesClosed
  | absent blankA isFilters blankB =>
    exact (blankA.quotesClosed.append isFilters.quotesClosed).append blankB.quotesClosed

/-- White space at the end belongs to none of the pieces in front. -/
theorem exists_of_append_eq {front s b blank : List Char} (text : front ++ b = s ++ blank)
    (inked : Inked front) (blankB : Blank b) (white : Blank blank) :
    ∃ c, Blank c ∧ s = front ++ c := by
  rcases List.append_eq_append_iff.mp text with ⟨c, rfl, rfl⟩ | ⟨c, rfl, rfl⟩
  · exact ⟨c, fun d member => blankB d (List.mem_append_left _ member), rfl⟩
  · have nothing := inked.eq_nil fun d member => white d (List.mem_append_left _ member)
    exact ⟨[], blank_nil, by rw [nothing]; simp⟩

private theorem isVariable_append_blank_iff {v : Variable} {s blank : List Char}
    (white : Blank blank) :
    IsVariable v (s ++ blank) ↔ IsVariable v s := by
  constructor
  · intro isVariable
    generalize text : s ++ blank = whole at isVariable
    cases isVariable with
    | given blankA isExpr isFilters blankB =>
      have front := isExpr.bounded.append blankA.quotesClosed
      have inked := isFilters.inked_append front.inked
      obtain ⟨c, blankC, rfl⟩ := exists_of_append_eq text.symm inked blankB white
      exact .given blankA isExpr isFilters blankC
    | @absent filters a t b blankA isFilters blankB =>
      rcases isFilters.bounded with rfl | bounded
      · -- There is nothing but white space.
        rw [List.append_nil] at text
        have all : Blank (s ++ blank) := text ▸ blankA.append blankB
        have left : Blank s := fun c member => all c (List.mem_append_left _ member)
        simpa using IsVariable.absent left isFilters blank_nil
      · obtain ⟨c, blankC, rfl⟩ :=
          exists_of_append_eq text.symm (bounded.inked.behind a) blankB white
        exact .absent blankA isFilters blankC
  · intro isVariable
    cases isVariable with
    | given blankA isExpr isFilters blankB =>
      rw [List.append_assoc]
      exact .given blankA isExpr isFilters (blankB.append white)
    | absent blankA isFilters blankB =>
      rw [List.append_assoc]
      exact .absent blankA isFilters (blankB.append white)

/-- Readers that read the same may still fail in different ways. -/
theorem toOption_eq_of_iff {ε α : Type} {x y : Except ε α} (same : ∀ a, x = .ok a ↔ y = .ok a) :
    x.toOption = y.toOption := by
  cases read : y with
  | ok a => rw [(same a).mpr read]
  | error _ =>
    cases other : x with
    | ok a => cases read.symm.trans ((same a).mp other)
    | error _ => rfl

/-- A variable is read from the same text with white space around it. -/
theorem parse_trimmed {a b : List Char} (blankA : Blank a) (blankB : Blank b) (s : List Char) :
    (Variable.parse (String.ofList (a ++ s ++ b))).toOption =
      (Variable.parse (String.ofList s)).toOption := by
  have same (v : Variable) : Variable.parse (String.ofList (a ++ s ++ b)) = .ok v ↔
      Variable.parse (String.ofList s) = .ok v := by
    have front : piped (a ++ s) = piped s := by
      unfold piped
      rw [blankA.dropBlank_append]
    rw [parse_eq_ok_iff, String.toList_ofList, isVariable_append_blank_iff blankB]
    rw [← String.toList_ofList (l := a ++ s), ← parse_eq_ok_iff]
    simp only [Variable.parse, String.toList_ofList, front]
  exact toOption_eq_of_iff same

end Markup

end Liquid
