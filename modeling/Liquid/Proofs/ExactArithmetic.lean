import Liquid.Proofs.FilterRuns
import Liquid.Proofs.MarkupScanning
import Liquid.Proofs.WholeDoubles

/-!
# Exact arithmetic on whole numbers

The arithmetic filters take whole numbers as they are and from texts that hold one. Their result is
the exact one, as a whole number if it fits 64 bits and else as a double.

## Main result

`Filter.arithmetic_exact`: sums, differences, products, quotients that are truncated towards zero
and remainders with the sign of the dividend are exact or doubles; quotient and remainder make up
the dividend; and nothing is divided by zero. The remainder of the least whole number by `-1` is
left out: it is zero, and yet a double, because the quotient that goes with it does not fit.

## Proof strategy

`Value.number?_eq_int_iff` says which values the filters take for a whole number. Each operation on
whole numbers is the exact one, as far as that fits (`Number.combine_exactly`); for the remainder
this needs that the quotient fits, which it does but for that one pair (`int64?_tdiv`).
-/

namespace Liquid

open Markup Text

/-! ### Values that hold a whole number -/

/-- Decimal digits behind at most one sign. -/
inductive Number.IsWritten : Int → List Char → Prop where
  | plain {s : List Char} : IsDigits s → IsWritten (digitsValue s) s
  | plus {s : List Char} : IsDigits s → IsWritten (digitsValue s) ('+' :: s)
  | minus {s : List Char} : IsDigits s → IsWritten (-digitsValue s) ('-' :: s)

/-- The value is the whole number, a text of it with white space around it, or computes one. -/
inductive Value.Holds : Value → Int64 → Prop where
  | int (i : Int64) : Holds (.int i) i
  | str {i : Int64} {a s b : List Char} :
      Blank a → Number.IsWritten i.toInt s → Blank b → Holds (.str (String.ofList (a ++ s ++ b))) i
  | lazy {i : Int64} {content : Value} (cell : Cell) :
      Holds content i → Holds (.lazy cell content) i

private theorem allDigits?_eq_some_iff {s : List Char} {n : Nat} :
    allDigits? s = some n ↔ IsDigits s ∧ digitsValue s = n := by
  unfold allDigits?
  split
  next other =>
    refine iff_of_false nofun fun ⟨digits, _⟩ => ?_
    have all := List.all_eq_true.mpr digits.digits
    simp [digits.some, all] at other
  next digits =>
    simp only [Bool.or_eq_true, List.isEmpty_iff, Bool.not_eq_true', not_or,
      Bool.not_eq_false, List.all_eq_true] at digits
    rw [Option.some.injEq, and_iff_right ⟨digits.1, digits.2⟩]

theorem int64?_eq_some_iff {i : Int} {n : Int64} : int64? i = some n ↔ n.toInt = i := by
  constructor
  · exact toInt_of_int64?
  · rintro rfl
    exact int64?_toInt n

/-- Reading a sign is all that the three ways to write a number differ in. -/
theorem isWritten_iff {i : Int} {s rest : List Char} {negative : Bool}
    (parts : readSign s = (negative, rest)) :
    Number.IsWritten i s ↔ IsDigits rest ∧ i = Double.signed negative (digitsValue rest) := by
  constructor
  · intro written
    cases written with
    | plain digits =>
      have unsigned := readSign_sign digits false []
      rw [List.append_nil] at unsigned
      cases parts.symm.trans unsigned
      exact ⟨digits, rfl⟩
    | plus digits =>
      cases parts
      exact ⟨digits, rfl⟩
    | minus digits =>
      cases parts
      exact ⟨digits, rfl⟩
  · rintro ⟨digits, rfl⟩
    unfold readSign at parts
    split at parts
    all_goals cases parts
    · exact .minus digits
    · exact .plus digits
    · exact .plain digits

private theorem readInt64?_eq_some_iff {s : List Char} {i : Int64} :
    readInt64? s = some i ↔ Number.IsWritten i.toInt s := by
  unfold readInt64?
  cases parts : readSign s with
  | mk negative rest =>
    dsimp only
    rw [isWritten_iff parts]
    cases all : allDigits? rest with
    | none =>
      refine iff_of_false nofun fun ⟨digits, _⟩ => ?_
      cases all.symm.trans (allDigits?_eq_some_iff.mpr ⟨digits, rfl⟩)
    | some n =>
      obtain ⟨digits, rfl⟩ := allDigits?_eq_some_iff.mp all
      exact int64?_eq_some_iff.trans (and_iff_right digits).symm

/-! ### White space around a text -/

private theorem isBlank_of_isDigit {c : Char} (digit : isDigit c = true) : isBlank c = false := by
  refine Bool.eq_false_iff.mpr fun blank => ?_
  cases (isNameChar_of_isBlank blank).symm.trans (isNameChar_of_isDigit digit)

private theorem exists_dropBlankTail (s : List Char) : ∃ b, Blank b ∧ s = dropBlankTail s ++ b := by
  obtain ⟨b, blank, parts⟩ := exists_dropBlank s.reverse
  refine ⟨b.reverse, by simpa [Blank] using blank, ?_⟩
  rw [dropBlankTail, dropTail, ← List.reverse_append, ← Text.dropBlank, ← parts,
    List.reverse_reverse]

private theorem exists_trim (s : List Char) :
    ∃ a b, Blank a ∧ Blank b ∧ s = a ++ trim s ++ b := by
  obtain ⟨a, blankA, front⟩ := exists_dropBlank s
  obtain ⟨b, blankB, back⟩ := exists_dropBlankTail (Text.dropBlank s)
  exact ⟨a, b, blankA, blankB, by rw [trim, List.append_assoc, ← back, ← front]⟩

/-- Neither end of the text is white space. -/
structure Trimmed (s : List Char) : Prop where
  front : ∃ c rest, s = c :: rest ∧ isBlank c = false
  back : ∃ c rest, s = rest ++ [c] ∧ isBlank c = false

theorem Trimmed.trim {a b s : List Char} (trimmed : Trimmed s) (blankA : Blank a)
    (blankB : Blank b) :
    trim (a ++ s ++ b) = s := by
  obtain ⟨⟨c, rest, front, inkC⟩, d, others, back, inkD⟩ := trimmed
  have left : Text.dropBlank (a ++ s ++ b) = s ++ b := by
    rw [List.append_assoc, blankA.dropBlank_append, front, List.cons_append, dropBlank_cons inkC]
  have reversed : Blank b.reverse := by simpa [Blank] using blankB
  rw [Text.trim, left, dropBlankTail, dropTail, List.reverse_append, ← Text.dropBlank,
    reversed.dropBlank_append, back, List.reverse_append, List.reverse_singleton,
    List.singleton_append, dropBlank_cons inkD, List.reverse_cons, List.reverse_reverse]

theorem trimmed_of_isDigits {s : List Char} (digits : IsDigits s) : Trimmed s := by
  constructor
  · obtain ⟨c, rest, parts, digit⟩ := digits.cons
    exact ⟨c, rest, parts, isBlank_of_isDigit digit⟩
  · refine ⟨s.getLast digits.some, s.dropLast, (List.dropLast_concat_getLast digits.some).symm, ?_⟩
    exact isBlank_of_isDigit (digits.digits _ (List.getLast_mem digits.some))

theorem Trimmed.cons {s : List Char} {c : Char} (trimmed : Trimmed s) (ink : isBlank c = false) :
    Trimmed (c :: s) := by
  obtain ⟨d, rest, back, inkD⟩ := trimmed.back
  exact ⟨⟨c, s, rfl, ink⟩, d, c :: rest, by rw [back, List.cons_append], inkD⟩

theorem Number.IsWritten.trimmed {i : Int} {s : List Char} (written : IsWritten i s) :
    Trimmed s := by
  cases written with
  | plain digits => exact trimmed_of_isDigits digits
  | plus digits => exact (trimmed_of_isDigits digits).cons (by decide)
  | minus digits => exact (trimmed_of_isDigits digits).cons (by decide)

/-- What the filters take for a whole number. -/
theorem Value.number?_eq_int_iff {v : Value} {i : Int64} :
    v.number? = some (.int i) ↔ v.Holds i := by
  constructor
  · intro number
    induction v using resolved.induct with
    | case1 cell content ih => exact .lazy cell (ih number)
    | case2 v outside =>
      cases v
      case int j =>
        cases number
        exact .int i
      case str s =>
        change Number.read? (trim s.toList) = some (.int i) at number
        obtain ⟨a, b, blankA, blankB, text⟩ := exists_trim s.toList
        rw [Number.read?] at number
        cases read : readInt64? (trim s.toList) with
        | none =>
          -- Then the text is read as a double, if at all.
          simp [read] at number
        | some j =>
          rw [read] at number
          cases number
          rw [← String.ofList_toList (s := s), text]
          exact .str blankA (readInt64?_eq_some_iff.mp read) blankB
      case lazy => exact absurd rfl (outside _ _)
      all_goals cases number
  · intro holds
    induction holds with
    | int i => rfl
    | lazy cell _ ih => exact ih
    | @str i a s b blankA written blankB =>
      have read := readInt64?_eq_some_iff.mpr written
      change Number.read? (Text.trim (String.ofList (a ++ s ++ b)).toList) = some (.int i)
      rw [String.toList_ofList, written.trimmed.trim blankA blankB, Number.read?, read]

/-! ### Whole results -/

/-- The whole number if it fits 64 bits, and else some double. -/
def Exactly (i : Int) (result : Except Error Value) : Prop :=
  (∀ n : Int64, n.toInt = i → result = .ok (.int n)) ∧
  ((∀ n : Int64, n.toInt ≠ i) → ∃ f, result = .ok (.float f))

theorem combine_exactly {op : Number.Operation} {a b : Int64} {i : Int}
    (exact : op.exact a b = int64? i) :
    Exactly i (.ok (.ofNumber (Number.combine op (.int a) (.int b)))) := by
  rw [Number.combine, exact]
  cases fits : int64? i with
  | some m =>
    have value := int64?_eq_some_iff.mp fits
    refine ⟨fun n same => ?_, fun none => absurd value (none m)⟩
    rw [Int64.toInt_inj.mp (value.trans same.symm)]
    rfl
  | none =>
    refine ⟨fun n same => ?_, fun _ => ⟨_, rfl⟩⟩
    cases fits.symm.trans (int64?_eq_some_iff.mpr same)

/-- The only quotient that does not fit is the magnitude of the least whole number. -/
theorem int64?_tdiv {a b : Int64} (nonzero : b.toInt ≠ 0)
    (other : ¬(a = Int64.minValue ∧ b = -1)) : ∃ q, int64? (a.toInt.tdiv b.toInt) = some q := by
  have low := a.minValue_le_toInt
  have high := a.toInt_le
  have limits : Int64.minValue.toInt = -2 ^ 63 ∧ Int64.maxValue.toInt = 2 ^ 63 - 1 := by decide
  have other' : ¬(a.toInt = -2 ^ 63 ∧ b.toInt = -1) := fun ⟨least, minus⟩ =>
    other ⟨Int64.toInt_inj.mp (least.trans limits.1.symm), Int64.toInt_inj.mp minus⟩
  suffices fits : -2 ^ 63 ≤ a.toInt.tdiv b.toInt ∧ a.toInt.tdiv b.toInt ≤ 2 ^ 63 - 1 by
    rw [int64?, limits.1, limits.2]
    exact ⟨_, if_pos fits⟩
  generalize a.toInt = x at *
  generalize b.toInt = y at *
  -- Every other divisor at least halves the dividend, which leaves room for either sign.
  by_cases unit : y = 1 ∨ y = -1
  · rcases unit with rfl | rfl
    · rw [Int.tdiv_one]
      omega
    · rw [Int.tdiv_neg, Int.tdiv_one]
      omega
  · have small : (x.tdiv y).natAbs ≤ x.natAbs / 2 := by
      rw [Int.natAbs_tdiv]
      exact Nat.div_le_div_left (by omega) (by decide)
    omega

theorem quotient_exact {a b : Int64} (nonzero : b.toInt ≠ 0) :
    Number.quotient.exact a b = int64? (a.toInt.tdiv b.toInt) := if_neg nonzero

private theorem modulo_exact {a b : Int64} (nonzero : b.toInt ≠ 0)
    (other : ¬(a = Int64.minValue ∧ b = -1)) :
    Number.modulo.exact a b = int64? (a.toInt.tmod b.toInt) := by
  obtain ⟨q, fits⟩ := int64?_tdiv nonzero other
  change (Number.quotient.exact a b).bind _ = _
  rw [quotient_exact nonzero, fits, Option.bind_some]

/-- What the remainder is, if it comes out whole. -/
theorem modulo_exact_of_some {a b r : Int64}
    (whole : Number.modulo.exact a b = some r) : r.toInt = a.toInt.tmod b.toInt := by
  change (Number.quotient.exact a b).bind _ = _ at whole
  obtain ⟨q, -, fits⟩ := Option.bind_eq_some_iff.mp whole
  exact int64?_eq_some_iff.mp fits

private theorem exact_of_combine {op : Number.Operation} {a b n : Int64}
    (whole : Value.ofNumber (Number.combine op (.int a) (.int b)) = .int n) :
    op.exact a b = some n := by
  rw [Number.combine] at whole
  split at whole
  next m exact =>
    cases whole
    exact exact
  next => cases whole

/-! ### Main result -/

namespace Filter

/-- The arithmetic filters and their exact results on whole numbers. -/
def exactResults : List (String × (Int → Int → Int)) :=
  [("plus", (· + ·)), ("minus", (· - ·)), ("times", (· * ·)), ("divided_by", Int.tdiv),
   ("modulo", Int.tmod)]

/-- Those of them that divide. -/
def divisions : List String := ["divided_by", "modulo"]

section Runs

variable {v w : Value} {a b : Int64}

theorem apply_calculate {name : String} {op : Number.Operation} {i : Int}
    (held : standard.get? name = some (calculate name op)) (left : v.Holds a) (right : w.Holds b)
    (exact : op.exact a b = int64? i) (rest : List Value) (heap : Heap) :
    Exactly i (apply standard name v (w :: rest) heap).1 := by
  rw [apply_ok held, calculate_ok name op (Value.number?_eq_int_iff.mpr left)
    (Value.number?_eq_int_iff.mpr right)]
  exact combine_exactly exact

theorem apply_division {name : String} {op : Number.Operation}
    (held : standard.get? name = some (calculateNonzero name op)) (left : v.Holds a)
    (right : w.Holds b) (nonzero : b.toInt ≠ 0) (rest : List Value) (heap : Heap) :
    (apply standard name v (w :: rest) heap).1 =
      .ok (.ofNumber (Number.combine op (.int a) (.int b))) := by
  rw [apply_ok held]
  refine calculateNonzero_ok name op (Value.number?_eq_int_iff.mpr left)
    (Value.number?_eq_int_iff.mpr right) ?_ rest heap
  rw [Number.isZero_int, decide_eq_false nonzero]

end Runs

/-- Calculations with two whole numbers, apart from the remainder of the least one by `-1`. -/
theorem arithmetic_exact {v w : Value} {a b : Int64} (left : v.Holds a) (right : w.Holds b)
    (rest : List Value) (heap : Heap) :
    (∀ name exact, (name, exact) ∈ exactResults → (name ∈ divisions → b ≠ 0) →
      (name = "modulo" → ¬(a = Int64.minValue ∧ b = -1)) →
      Exactly (exact a.toInt b.toInt) (apply standard name v (w :: rest) heap).1) ∧
    (b ≠ 0 → ∀ (q r : Int64) (heap' : Heap),
      (apply standard "divided_by" v (w :: rest) heap).1 = .ok (.int q) →
      (apply standard "modulo" v (w :: rest) heap').1 = .ok (.int r) →
      a.toInt = b.toInt * q.toInt + r.toInt ∧ r.toInt.natAbs < b.toInt.natAbs) ∧
    (∀ name ∈ divisions, ∀ input zero : Value,
      (zero.Holds 0 ∨ ∃ f, zero.number? = some (.float f) ∧ Double.isZero f = true) →
      (apply standard name input (zero :: rest) heap).1 = .error (.render "divided by 0")) := by
  have nonzero (other : b ≠ 0) : b.toInt ≠ 0 := fun zero => other (Int64.toInt_inj.mp zero)
  refine ⟨?_, ?_, ?_⟩
  · intro name exact member divisor other
    simp only [exactResults, List.mem_cons, List.not_mem_nil, or_false, Prod.mk.injEq] at member
    rcases member with ⟨rfl, rfl⟩ | ⟨rfl, rfl⟩ | ⟨rfl, rfl⟩ | ⟨rfl, rfl⟩ | ⟨rfl, rfl⟩
    · exact apply_calculate rfl left right rfl rest heap
    · exact apply_calculate rfl left right rfl rest heap
    · exact apply_calculate rfl left right rfl rest heap
    · have divisor := nonzero (divisor (by decide))
      rw [apply_division rfl left right divisor]
      exact combine_exactly (quotient_exact divisor)
    · have divisor := nonzero (divisor (by decide))
      rw [apply_division rfl left right divisor]
      exact combine_exactly (modulo_exact divisor (other rfl))
  · intro divisor q r heap' quotient remainder
    have divisor := nonzero divisor
    rw [apply_division rfl left right divisor] at quotient remainder
    -- That both come out whole is known, so no pair of operands is excluded.
    have whole := exact_of_combine (Except.ok.inj quotient)
    rw [quotient_exact divisor] at whole
    have quotient := int64?_eq_some_iff.mp whole
    have remainder := modulo_exact_of_some (exact_of_combine (Except.ok.inj remainder))
    rw [quotient, remainder, Int.natAbs_tmod]
    exact ⟨(Int.mul_tdiv_add_tmod _ _).symm, Nat.mod_lt _ (by omega)⟩
  · intro name member input zero isZero
    obtain ⟨n, number, isZero⟩ : ∃ n, zero.number? = some n ∧ n.isZero = true := by
      rcases isZero with holds | ⟨f, number, isZero⟩
      · exact ⟨_, Value.number?_eq_int_iff.mpr holds, by rw [Number.isZero_int]; rfl⟩
      · exact ⟨_, number, isZero⟩
    simp only [divisions, List.mem_cons, List.not_mem_nil, or_false] at member
    rcases member with rfl | rfl
    · rw [apply_ok (f := dividedBy) rfl]
      exact calculateNonzero_zero _ _ input number isZero rest heap
    · rw [apply_ok (f := modulo) rfl]
      exact calculateNonzero_zero _ _ input number isZero rest heap

theorem arithmetic_exact_minusSeven :
    let text : Value := .str " -7 "
    (apply standard "modulo" text [.int 2] Heap.new).1 = .ok (.int (-1)) ∧
    (-7 : Int) = 2 * (-3) + (-1) ∧
    (∃ f, (apply standard "plus" (.int Int64.maxValue) [.str "1"] Heap.new).1 = .ok (.float f)) ∧
    (apply standard "divided_by" .nil [.str "0"] Heap.new).1 = .error (.render "divided by 0") := by
  intro text
  have seven : text.Holds (-7) := Value.number?_eq_int_iff.mp rfl
  have one : (Value.str "1").Holds 1 := Value.number?_eq_int_iff.mp rfl
  obtain ⟨exact, parts, zero⟩ := arithmetic_exact seven (.int 2) [] Heap.new
  have whole := (exact "modulo" Int.tmod (by simp [exactResults]) (fun _ => by decide)
    (fun _ => by decide)).1 (-1) (by decide)
  refine ⟨whole, (parts (by decide) (-3) (-1) Heap.new rfl whole).1, ?_,
    zero "divided_by" (by decide) .nil (.str "0") (.inl (Value.number?_eq_int_iff.mp rfl))⟩
  have sums := (arithmetic_exact (.int Int64.maxValue) one [] Heap.new).1
  refine (sums "plus" (· + ·) (by simp [exactResults]) (by decide) (by decide)).2 fun n same => ?_
  have high := n.toInt_le
  have sum : n.toInt = Int64.maxValue.toInt + 1 := same.trans (by decide)
  omega

/-- The remainder is zero and fits, and yet the result is a double. -/
theorem modulo_of_least_by_minusOne :
    Int64.minValue.toInt.tmod (-1 : Int64).toInt = (0 : Int64).toInt ∧
    ∀ heap, ∃ f,
      (apply standard "modulo" (.int Int64.minValue) [.int (-1)] heap).1 = .ok (.float f) :=
  ⟨by decide, fun _ => ⟨_, rfl⟩⟩

end Filter

end Liquid
