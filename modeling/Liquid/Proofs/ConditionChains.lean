import Liquid.Proofs.ConditionOperands

/-!
# Conditions as they are written

A condition is written as comparisons with `and` and `or` between them, and a comparison as one
operand or as two with an operator between them, all of them apart by ASCII white space. An operand
is any text with closed quotes in which no word outside of quotes is one that conditions keep for
themselves.

## Main result

`Condition.parse_text`: a written condition is parsed to the tests of its comparisons, linked as
they are written, if it has at most `maxTests` of them and each operand reads as a variable. With
more of them it is refused for their number, whatever the operands read as.

## Proof strategy

Each part is `Cut` into its words. The words of a whole are those of its parts, but for the gaps in
front of the parts, and neither grouping the words nor reading a test looks at such a gap. So each
level of the reader is one lemma: an operand from its words, a comparison from those of its
operands, and the chain by induction on the comparisons.
-/

namespace Liquid

theorem Combinator.ofWord?_word (c : Combinator) : ofWord? c.word = some c := by
  cases c <;> rfl

namespace Condition

open Text Markup

/-! ### Written conditions -/

/-- The words that are no part of an operand. -/
def IsReserved (word : String) : Prop :=
  (Combinator.ofWord? word).isSome ∨ (Operator.ofWord? word).isSome

instance (word : String) : Decidable (IsReserved word) :=
  inferInstanceAs (Decidable (_ ∨ _))

/-- The text of an operand. It may read as a variable or not. -/
structure Operand where
  text : List Char
  filled : ¬ AsciiBlank text
  closed : QuotesClosed text
  free : ∀ word, Stands word text → ¬ IsReserved (String.ofList word)

structure Gap where
  text : List Char
  some : text ≠ []
  blank : AsciiBlank text

inductive Clause where
  | truthy (operand : Operand)
  | compare (left : Operand) (before : Gap) {word : String} {op : Operator}
      (spelled : Operator.ofWord? word = some op) (after : Gap) (right : Operand)

/-- A further comparison and what joins it on. -/
structure Joint where
  before : Gap
  combinator : Combinator
  after : Gap
  next : Clause

structure Chain where
  first : Clause
  more : List Joint

def Operand.value? (o : Operand) : Option Variable :=
  (Variable.parse (String.ofList o.text)).toOption

namespace Clause

def text : Clause → List Char
  | truthy operand => operand.text
  | @compare left before word _ _ after right =>
    left.text ++ before.text ++ (word.toList ++ after.text ++ right.text)

/-- The test, if the operands read as variables. -/
def test? : Clause → Option Test
  | truthy operand => operand.value?.map .truthy
  | @compare left _ _ op _ _ right => do
    return .compare (← left.value?) op (← right.value?)

end Clause

namespace Chain

def textFrom (first : Clause) : List Joint → List Char
  | [] => first.text
  | joint :: more =>
    first.text ++ joint.before.text ++
      (joint.combinator.word.toList ++ joint.after.text ++ textFrom joint.next more)

def text (chain : Chain) : List Char := textFrom chain.first chain.more

def length (chain : Chain) : Nat := chain.more.length + 1

/-- The tests in their order, each linked to the rest as it is written. -/
def conditionFrom? (first : Clause) : List Joint → Option Condition
  | [] => first.test?.map .last
  | joint :: more => do
    return .link (← first.test?) joint.combinator (← conditionFrom? joint.next more)

def condition? (chain : Chain) : Option Condition := conditionFrom? chain.first chain.more

end Chain

/-! ### Reserved words -/

private theorem ofWord?_of_operator {word : String} {op : Operator}
    (spelled : Operator.ofWord? word = some op) : Combinator.ofWord? word = none := by
  unfold Operator.ofWord? at spelled
  split at spelled
  case h_9 => cases spelled
  all_goals rfl

private theorem isWord_of_free {w : List Char}
    (free : ∀ c ∈ w, isQuote c = false ∧ isAsciiBlank c = false) : IsWord none w := by
  induction w with
  | nil => rfl
  | cons c w ih =>
    rw [List.forall_mem_cons] at free
    refine ⟨fun _ => free.1.2, ?_⟩
    simpa [quoteBehind, free.1.1] using ih free.2

/-- Every word that joins or compares. -/
theorem mem_of_reserved {word : String} (reserved : IsReserved word) :
    word ∈ ["and", "or", "==", "!=", "<>", "<", ">", "<=", ">=", "contains"] := by
  unfold IsReserved Combinator.ofWord? Operator.ofWord? at reserved
  rcases reserved with known | known
  · split at known
    case h_3 => cases known
    all_goals simp
  · split at known
    case h_9 => cases known
    all_goals simp

private theorem free_of_reserved {word : String} (reserved : IsReserved word) :
    word.toList ≠ [] ∧ ∀ c ∈ word.toList, isQuote c = false ∧ isAsciiBlank c = false := by
  have all : ∀ w ∈ ["and", "or", "==", "!=", "<>", "<", ">", "<=", ">=", "contains"],
      w.toList ≠ [] ∧ ∀ c ∈ w.toList, isQuote c = false ∧ isAsciiBlank c = false := by
    simp only [List.forall_mem_cons]
    simp [isQuote, isAsciiBlank]
  exact all word (mem_of_reserved reserved)

theorem ink_of_reserved {word : String} (reserved : IsReserved word) :
    ∀ c ∈ word.toList, isBlank c = false := by
  have all : (["and", "or", "==", "!=", "<>", "<", ">", "<=", ">=", "contains"].all
      fun w => w.toList.all fun c => !isBlank c) = true := by decide
  simpa using List.all_eq_true.mp all word (mem_of_reserved reserved)

private theorem isWord_of_reserved {word : String} (reserved : IsReserved word) :
    word.toList ≠ [] ∧ IsWord none word.toList :=
  (free_of_reserved reserved).imp_right isWord_of_free

/-- A quoted text is never cut. -/
theorem isWord_quoted {quote : Char} {inside : List Char} (quotes : isQuote quote = true)
    (free : quote ∉ inside) : IsWord none (quote :: (inside ++ [quote])) := by
  have rest : IsWord (some quote) (inside ++ [quote]) := by
    clear quotes
    induction inside with
    | nil => exact ⟨by simp, by simp [IsWord, quoteBehind]⟩
    | cons c inside ih =>
      have other : c ≠ quote := fun same => free (same ▸ List.mem_cons_self)
      refine ⟨by simp, ?_⟩
      simpa [quoteBehind, other] using ih fun member => free (List.mem_cons_of_mem c member)
  refine ⟨fun _ => ?_, by simpa [quoteBehind, quotes] using rest⟩
  exact Bool.eq_false_iff.mpr fun blank => by
    cases (isQuote_of_isAsciiBlank blank).symm.trans quotes

private theorem cut_word {w : List Char} (some : w ≠ []) (isWord : IsWord none w) :
    Cut w [⟨[], w⟩] [] where
  text := by simp [joined]
  trailing := asciiBlank_nil
  gaps := by simp [asciiBlank_nil]
  whole := by simpa using ⟨some, isWord⟩
  between := by simp

/-- Two texts with a reserved word between them. -/
theorem Cut.append_reserved {s t tail tail' : List Char} {words more : List Word} {word : String}
    (first : Cut s words tail) (before after : Gap) (reserved : IsReserved word)
    (second : Cut t more tail') :
    ∃ gap gap' tail'', Cut (s ++ before.text ++ (word.toList ++ after.text ++ t))
      (words ++ ⟨gap, word.toList⟩ :: behind gap' more) tail'' := by
  obtain ⟨some, isWord⟩ := isWord_of_reserved reserved
  obtain ⟨_, back⟩ := (cut_word some isWord).append after.blank after.some second
  obtain ⟨tail'', cut⟩ := first.append before.blank before.some back
  exact ⟨_, _, tail'', cut⟩

/-! ### Operands -/

/-- Only the words that a text is cut into have to be looked at. -/
def Operand.ofWords (text : List Char) (filled : ∃ c ∈ text, isAsciiBlank c = false)
    (closed : QuotesClosed text) (free : ∀ w ∈ (words? text).getD [], ¬ IsReserved w.name) :
    Operand where
  text := text
  filled blank := by
    obtain ⟨c, member, ink⟩ := filled
    cases (blank c member).symm.trans ink
  closed := closed
  free word stands reserved := by
    obtain ⟨words, tail, cut⟩ := exists_cut closed
    have found : words? text = some words := words?_of_cut cut
    obtain ⟨some, isWord⟩ := isWord_of_reserved reserved
    rw [String.toList_ofList] at some isWord
    obtain ⟨w, member, rfl⟩ := cut.mem_of_stands stands some isWord
    exact free w (by simpa [found] using member) reserved

/-- Whatever is in quotes is an operand. -/
def Operand.quoted {quote : Char} {inside : List Char} (quotes : isQuote quote = true)
    (free : quote ∉ inside) : Operand :=
  have isWord := isWord_quoted quotes free
  .ofWords (quote :: (inside ++ [quote])) ⟨quote, List.mem_cons_self, ink_of_isWord isWord⟩
    isWord.openQuote (by
      have found : words? (quote :: (inside ++ [quote])) =
          some [⟨[], quote :: (inside ++ [quote])⟩] := words?_of_cut (cut_word (by simp) isWord)
      intro w member reserved
      obtain rfl : w = ⟨[], quote :: (inside ++ [quote])⟩ := by simpa [found] using member
      have first := (free_of_reserved reserved).2 quote (by simp [Word.name])
      cases first.1.symm.trans quotes)

section

variable {words more : List Word} {w : Word} (gap : List Char)

private theorem joined_cons (w : Word) (words : List Word) :
    joined (w :: words) = w.gap ++ written (w :: words) := by
  simp [joined, written]

private theorem operand?_cons (w : Word) (words : List Word) :
    operand? (w :: words) =
      (Variable.parse (String.ofList (written (w :: words)))).toOption := by
  cases read : Variable.parse (String.ofList (written (w :: words))) with
  | ok v => simp [operand?, read, Except.toOption]
  | error _ => simp [operand?, read, Except.toOption]

/-- An operand is read from its text with white space on both sides. -/
theorem operand?_padded {w : Word} {words : List Word} {tail : List Char}
    (gap : AsciiBlank w.gap) (trailing : AsciiBlank tail) :
    operand? (w :: words) =
      (Variable.parse (String.ofList (joined (w :: words) ++ tail))).toOption := by
  have blankW : Blank w.gap := fun c member => isBlank_of_isAsciiBlank (gap c member)
  have blankTail : Blank tail := fun c member => isBlank_of_isAsciiBlank (trailing c member)
  rw [operand?_cons, joined_cons, parse_trimmed blankW blankTail]

private theorem operand?_behind : operand? (behind gap words) = operand? words := by
  cases words with
  | nil => rfl
  | cons w words => rfl

private theorem forall_behind {P : String → Prop} (each : ∀ v ∈ words, P v.name) :
    ∀ v ∈ behind gap words, P v.name := by
  cases words with
  | nil => exact each
  | cons w words => exact List.forall_mem_cons.mpr (List.forall_mem_cons.mp each)

/-- An operand is read from its words, and none of them is a reserved one. -/
theorem Operand.cut (o : Operand) :
    ∃ w words tail, Cut o.text (w :: words) tail ∧ (∀ v ∈ w :: words, ¬ IsReserved v.name) ∧
      operand? (w :: words) = o.value? := by
  obtain ⟨words, tail, cut⟩ := exists_cut o.closed
  cases words with
  | nil =>
    have text := cut.text
    rw [joined, List.flatMap_nil, List.nil_append] at text
    exact absurd (text ▸ cut.trailing) o.filled
  | cons w words =>
    refine ⟨w, words, tail, cut, fun v member => o.free v.text (cut.stands v member), ?_⟩
    rw [operand?_padded (cut.gaps w List.mem_cons_self) cut.trailing, ← cut.text, Operand.value?]

/-! ### Comparisons -/

private theorem test?_behind : test? (behind gap words) = test? words := by
  cases words with
  | nil => rfl
  | cons w words => rfl

private theorem not_isOperator_of_free (free : ∀ v ∈ w :: words, ¬ IsReserved v.name) :
    ∀ v ∈ words, isOperator v = false := by
  intro v member
  have other := free v (List.mem_cons_of_mem w member)
  simp only [IsReserved, not_or] at other
  simpa [isOperator] using other.2

theorem test?_left (plain : ∀ v ∈ words, isOperator v = false) :
    test? (w :: words) = (operand? (w :: words)).map .truthy := by
  have front : (words ++ []).takeWhile (fun v => !isOperator v) = words ++ [] :=
    List.takeWhile_append_of_pos (by simpa using plain)
  have back : (words ++ []).dropWhile (fun v => !isOperator v) = [] :=
    List.dropWhile_append_of_pos (by simpa using plain)
  rw [List.append_nil] at front back
  simp only [test?, front, back]

theorem test?_compare {between : Word} {op : Operator} (right : List Word)
    (plain : ∀ v ∈ words, isOperator v = false)
    (spelled : Operator.ofWord? between.name = some op) :
    test? (w :: (words ++ between :: right)) = do
      return .compare (← operand? (w :: words)) op (← operand? right) := by
  have stop : (!isOperator between) = false := by simp [isOperator, spelled]
  have notOperator : ∀ v ∈ words, (!isOperator v) = true := by simpa using plain
  simp only [test?, List.takeWhile_append_of_pos notOperator,
    List.dropWhile_append_of_pos notOperator, List.takeWhile_cons, List.dropWhile_cons, stop,
    Bool.false_eq_true, ↓reduceIte, List.append_nil, spelled]
  cases operand? (w :: words) with
  | none => rfl
  | some l => cases operand? right <;> rfl

/-- A comparison is read from its words, and none of them joins comparisons. -/
theorem Clause.cut (p : Clause) :
    ∃ w words tail, Cut p.text (w :: words) tail ∧
      (∀ v ∈ w :: words, Combinator.ofWord? v.name = none) ∧
      Condition.test? (w :: words) = p.test? := by
  have joinsNothing {words : List Word} (free : ∀ v ∈ words, ¬ IsReserved v.name) :
      ∀ v ∈ words, Combinator.ofWord? v.name = none := by
    intro v member
    have other := free v member
    simp only [IsReserved, not_or] at other
    simpa using other.1
  cases p with
  | truthy o =>
    obtain ⟨w, words, tail, cut, free, value⟩ := o.cut
    refine ⟨w, words, tail, cut, joinsNothing free, ?_⟩
    rw [test?_left (not_isOperator_of_free free), value, Clause.test?]
  | @compare left before word op spelled after right =>
    -- The operator is the first reserved word, so the words in front of it are the left operand.
    obtain ⟨w, words, tail, cutLeft, freeLeft, valueLeft⟩ := left.cut
    obtain ⟨v, more, tail', cutRight, freeRight, valueRight⟩ := right.cut
    have reserved : IsReserved word := .inr (by rw [spelled]; rfl)
    obtain ⟨gap, gap', tail'', cut⟩ := cutLeft.append_reserved before after reserved cutRight
    have named : Operator.ofWord? (Word.name ⟨gap, word.toList⟩) = some op := by
      rw [Word.name, String.ofList_toList, spelled]
    refine ⟨w, _, tail'', cut, ?_, ?_⟩
    · have back := forall_behind gap' (P := fun n => ¬ IsReserved n) freeRight
      refine List.forall_mem_append.mpr ⟨joinsNothing freeLeft, ?_⟩
      exact fun u member => (List.mem_cons.mp member).elim
        (fun same => same ▸ ofWord?_of_operator named) (joinsNothing back u)
    · refine (test?_compare _ (not_isOperator_of_free freeLeft) named).trans ?_
      rw [valueLeft, operand?_behind, valueRight, Clause.test?]

/-! ### Chains -/

private theorem groups_append (plain : ∀ v ∈ words, Combinator.ofWord? v.name = none)
    (more : List Word) :
    groups (words ++ more) = (words ++ (groups more).1, (groups more).2) := by
  induction words with
  | nil => rfl
  | cons w words ih =>
    rw [List.forall_mem_cons] at plain
    simp [groups, plain.1, ih plain.2]

private theorem groups_behind :
    groups (behind gap words) = (behind gap (groups words).1, (groups words).2) := by
  cases words with
  | nil => rfl
  | cons w words =>
    have named : Word.name ⟨gap ++ w.gap, w.text⟩ = w.name := rfl
    simp only [behind, groups, named]
    cases Combinator.ofWord? w.name <;> rfl

private theorem chain?_behind (more : List (Combinator × List Word)) :
    chain? (behind gap words) more = chain? words more := by
  cases more with
  | nil => simp only [chain?, test?_behind]
  | cons next more => simp only [chain?, test?_behind]

/-- A chain is read from its words, one group for each comparison. -/
theorem Chain.cut (first : Clause) (more : List Joint) :
    ∃ words tail, Cut (Chain.textFrom first more) words tail ∧
      (groups words).2.length = more.length ∧
      chain? (groups words).1 (groups words).2 = Chain.conditionFrom? first more := by
  -- On the joints: the first group ends at the first combinator, and the rest is a chain again.
  induction more generalizing first with
  | nil =>
    obtain ⟨w, words, tail, cut, plain, test⟩ := first.cut
    have grouped := groups_append plain []
    rw [List.append_nil] at grouped
    refine ⟨w :: words, tail, cut, by rw [grouped]; rfl, ?_⟩
    rw [grouped]
    simp [groups, chain?, test, conditionFrom?]
  | cons joint more ih =>
    obtain ⟨w, words, tail, cutFirst, plain, test⟩ := first.cut
    obtain ⟨words', tail', cutRest, count, rest⟩ := ih joint.next
    have named := joint.combinator.ofWord?_word
    have reserved : IsReserved joint.combinator.word := .inl (by rw [named]; rfl)
    obtain ⟨gap, gap', tail'', cut⟩ :=
      cutFirst.append_reserved joint.before joint.after reserved cutRest
    have joins : Combinator.ofWord? (Word.name ⟨gap, joint.combinator.word.toList⟩) =
        some joint.combinator := by
      rw [Word.name, String.ofList_toList, named]
    have grouped :
        groups (w :: words ++ ⟨gap, joint.combinator.word.toList⟩ :: behind gap' words') =
        (w :: words, (joint.combinator, behind gap' (groups words').1) :: (groups words').2) := by
      rw [groups_append plain, groups, groups_behind]
      simp [joins]
    refine ⟨_, tail'', cut, by rw [grouped]; simp [count], ?_⟩
    rw [grouped, chain?, test, chain?_behind, rest, conditionFrom?]
    cases first.test? with
    | none => rfl
    | some t => cases conditionFrom? joint.next more <;> rfl

end

/-- A written condition is parsed to the tests of its comparisons, linked as they are written, and
refused when there are too many of them, even if their operands do not read as variables. -/
theorem parse_text (tag : String) (chain : Chain) :
    parse tag (String.ofList chain.text) =
      if maxTests < chain.length then .error (.tooManyConditions tag maxTests)
      else
        match chain.condition? with
        | some c => .ok c
        | none => .error (.tagUsage tag s!"{tag} [expression]") := by
  obtain ⟨words, tail, cut, count, read⟩ := Chain.cut chain.first chain.more
  have found : words? chain.text = some words := words?_of_cut cut
  simp only [parse, String.toList_ofList, found, count, read]
  rfl

end Condition

end Liquid
