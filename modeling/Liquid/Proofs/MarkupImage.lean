import Liquid.Proofs.MarkupReading

/-!
# What markup can say

## Main result

`Variable.parse_exactly`: a text reads as a variable exactly if it is one of the ways to write it,
and the variables that are read from some text are the well-formed ones.

## Proof strategy

The first half is `Markup.parse_eq_ok_iff`. For the second, a well-formed tree is written without
white space, whole numbers with the digits that `digitsOf` gives, and every piece of a tree that
can be written can be written itself.
-/

namespace Liquid

open Text Markup

/-! ### Whole numbers -/

private theorem digitsValue_digitsOf (n : Nat) : digitsValue (digitsOf n) = n :=
  Nat.ofDigitChars_ten_toDigits

private theorem isDigits_digitsOf (n : Nat) : IsDigits (digitsOf n) where
  some := Nat.toDigits_ne_nil
  digits c member := by
    have digit := Nat.isDigit_of_mem_toDigits (by decide) (by decide) member
    simpa [Char.isDigit, Text.isDigit, Char.le_def] using digit

private theorem exists_isExpr_int (i : Int64) : ∃ t, IsExpr (.literal (.int i)) t := by
  refine ⟨_, .int (decide (i.toInt < 0)) (isDigits_digitsOf i.toInt.natAbs) ?_⟩
  rw [digitsValue_digitsOf, Double.signed]
  simp only [decide_eq_true_eq]
  split <;> simp only [Int.ofNat_eq_natCast] <;> omega

/-! ### Expressions -/

private theorem Literal.wellFormed_of_keyword {word : String} {l : Literal}
    (keyword : keyword? word = some l) : l.WellFormed := by
  unfold keyword? at keyword
  split at keyword
  case h_7 => cases keyword
  all_goals
    cases keyword
    trivial

theorem Literal.wellFormed_iff (l : Literal) : l.WellFormed ↔ ∃ t, IsExpr (.literal l) t := by
  constructor
  · intro formed
    cases l with
    | nil => exact ⟨_, @IsExpr.keyword "nil" .nil rfl⟩
    | bool b =>
      cases b with
      | true => exact ⟨_, @IsExpr.keyword "true" (.bool true) rfl⟩
      | false => exact ⟨_, @IsExpr.keyword "false" (.bool false) rfl⟩
    | int i => exact exists_isExpr_int i
    | float f =>
      obtain ⟨negative, whole, fraction, left, right, rfl⟩ := formed
      exact ⟨_, .float negative left right⟩
    | str s =>
      obtain ⟨quote, quotes, free⟩ := formed
      have isExpr := IsExpr.str quotes free
      rw [String.ofList_toList] at isExpr
      exact ⟨_, isExpr⟩
    | empty => exact ⟨_, @IsExpr.keyword "empty" .empty rfl⟩
    | blank => exact ⟨_, @IsExpr.keyword "blank" .blank rfl⟩
  · rintro ⟨t, isExpr⟩
    cases isExpr with
    | str quotes free => exact ⟨_, quotes, by rwa [String.toList_ofList]⟩
    | int => trivial
    | float negative left right => exact ⟨negative, _, _, left, right, rfl⟩
    | keyword keyword => exact Literal.wellFormed_of_keyword keyword

mutual

theorem Expr.wellFormed_iff : (e : Expr) → (e.WellFormed ↔ ∃ t, IsExpr e t)
  | .literal l => l.wellFormed_iff
  | .range first last => by
    rw [Expr.WellFormed, first.wellFormed_iff, last.wellFormed_iff]
    constructor
    · rintro ⟨⟨s, isFirst⟩, t, isLast⟩
      exact ⟨_, .range blank_nil isFirst blank_nil blank_nil isLast blank_nil⟩
    · rintro ⟨_, isRange⟩
      cases isRange with
      | range _ isFirst _ _ isLast _ => exact ⟨⟨_, isFirst⟩, _, isLast⟩
  | .lookup name path => by
    rw [Expr.WellFormed, pathWellFormed_iff path]
    constructor
    · rintro ⟨isName, free, t, isPath⟩
      exact ⟨_, .lookup isName free isPath⟩
    · rintro ⟨_, isLookup⟩
      cases isLookup with
      | lookup isName free isPath => exact ⟨isName, free, _, isPath⟩

theorem pathWellFormed_iff : (path : List Segment) → (pathWellFormed path ↔ ∃ t, IsPath path t)
  | [] => by
    rw [pathWellFormed]
    exact ⟨fun _ => ⟨[], .done⟩, fun _ => trivial⟩
  | .field name :: path => by
    rw [pathWellFormed, Segment.WellFormed, pathWellFormed_iff path]
    constructor
    · rintro ⟨isName, t, isPath⟩
      exact ⟨_, .field isName isPath⟩
    · rintro ⟨_, isField⟩
      cases isField with
      | field isName isPath => exact ⟨isName, _, isPath⟩
  | .index e :: path => by
    rw [pathWellFormed, Segment.WellFormed, e.wellFormed_iff, pathWellFormed_iff path]
    constructor
    · rintro ⟨⟨s, isExpr⟩, t, isPath⟩
      exact ⟨_, .index blank_nil isExpr blank_nil isPath⟩
    · rintro ⟨_, isIndex⟩
      cases isIndex with
      | index _ isExpr _ isPath => exact ⟨⟨_, isExpr⟩, _, isPath⟩

end

/-! ### Filters -/

private theorem exists_isArgs {args : List Expr} (some : args ≠ [])
    (formed : ∀ e ∈ args, e.WellFormed) :
    ∃ t, IsArgs args t := by
  induction args with
  | nil => exact absurd rfl some
  | cons e args ih =>
    obtain ⟨s, isExpr⟩ := e.wellFormed_iff.mp (formed e List.mem_cons_self)
    cases args with
    | nil => exact ⟨_, .last blank_nil isExpr⟩
    | cons next args =>
      obtain ⟨t, isArgs⟩ := ih (by simp) fun e member => formed e (List.mem_cons_of_mem _ member)
      exact ⟨_, .more blank_nil isExpr blank_nil isArgs⟩

theorem Markup.IsArgs.wellFormed {args : List Expr} {t : List Char} (isArgs : IsArgs args t) :
    ∀ e ∈ args, e.WellFormed := by
  induction isArgs with
  | @last e _ _ _ isExpr => simpa using e.wellFormed_iff.mpr ⟨_, isExpr⟩
  | @more e _ _ _ _ _ _ isExpr _ _ ih => simpa [e.wellFormed_iff.mpr ⟨_, isExpr⟩] using ih

theorem FilterCall.wellFormed_iff (call : FilterCall) : call.WellFormed ↔ ∃ t, IsFilter call t := by
  constructor
  · rintro ⟨isName, formed⟩
    obtain ⟨name, args⟩ := call
    cases args with
    | nil => exact ⟨_, .bare blank_nil isName⟩
    | cons e args =>
      obtain ⟨t, isArgs⟩ := exists_isArgs (by simp) formed
      exact ⟨_, .called blank_nil isName blank_nil isArgs⟩
  · rintro ⟨_, isFilter⟩
    cases isFilter with
    | bare _ isName => exact ⟨isName, by simp⟩
    | called _ isName _ isArgs => exact ⟨isName, isArgs.wellFormed⟩

private theorem filters_wellFormed_iff (calls : List FilterCall) :
    (∀ call ∈ calls, call.WellFormed) ↔ ∃ t, IsFilters calls t := by
  induction calls with
  | nil => exact ⟨fun _ => ⟨[], .done⟩, fun _ _ member => nomatch member⟩
  | cons call calls ih =>
    rw [List.forall_mem_cons, ih, call.wellFormed_iff]
    constructor
    · rintro ⟨⟨s, isFilter⟩, t, isFilters⟩
      exact ⟨_, .more blank_nil isFilter isFilters⟩
    · rintro ⟨_, isFilters⟩
      cases isFilters with
      | more _ isFilter isFilters => exact ⟨⟨_, isFilter⟩, _, isFilters⟩

/-! ### Variables -/

theorem Variable.wellFormed_iff (v : Variable) : v.WellFormed ↔ ∃ t, IsVariable v t := by
  rw [Variable.WellFormed, v.expr.wellFormed_iff, filters_wellFormed_iff]
  constructor
  · rintro ⟨⟨s, isExpr⟩, t, isFilters⟩
    exact ⟨_, .given blank_nil isExpr isFilters blank_nil⟩
  · rintro ⟨_, isVariable⟩
    cases isVariable with
    | given _ isExpr isFilters _ => exact ⟨⟨_, isExpr⟩, _, isFilters⟩
    | absent _ isFilters _ => exact ⟨⟨_, @IsExpr.keyword "nil" .nil rfl⟩, _, isFilters⟩

/-- The parser of variables accepts exactly the grammar and gives back the tree that was written,
and every well-formed tree can be written. -/
theorem Variable.parse_exactly :
    (∀ (v : Variable) (s : String), Variable.parse s = .ok v ↔ IsVariable v s.toList) ∧
      ∀ v : Variable, v.WellFormed ↔ ∃ s, Variable.parse s = .ok v := by
  refine ⟨fun v s => parse_eq_ok_iff, fun v => ?_⟩
  rw [v.wellFormed_iff]
  constructor
  · rintro ⟨t, isVariable⟩
    exact ⟨String.ofList t, parse_eq_ok_iff.mpr (by rwa [String.toList_ofList])⟩
  · rintro ⟨s, read⟩
    exact ⟨s.toList, parse_eq_ok_iff.mp read⟩

end Liquid
