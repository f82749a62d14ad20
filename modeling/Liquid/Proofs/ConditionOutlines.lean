import Liquid.Proofs.ConditionChains

/-!
# Outlines of conditions

Of the words of a condition only a few act: those that join tests, and in each test the first
operator that is not its first word. All other words belong to the operands between them. The
outline of a condition says where the words stand that act, and which operands are missing.

## Main result

`Condition.parse_of_cut`: a condition is what its operands make with the words that act between
them, and it is refused if an operand is missing or cannot be read, or if there are too many tests.

## Proof strategy

The words are taken one by one, with the phase in which the current test is. `ReadsOn` says for each
phase what the reader makes of the words that are left, behind those of the test so far.
-/

namespace Liquid

namespace Condition

open Text Markup

/-! ### Words that act -/

inductive Role where
  | joins (c : Combinator)
  | compares (op : Operator)
deriving Repr, DecidableEq

/-- A word that joins tests or compares operands. -/
structure Mark where
  word : List Char
  role : Role
deriving Repr, DecidableEq

/-- How far a test has come: to nothing, to its left operand, or behind its operator. -/
inductive Phase where
  | fresh
  | left
  | right
deriving Repr, DecidableEq

namespace Phase

def role? (phase : Phase) (w : Word) : Option Role :=
  match Combinator.ofWord? w.name with
  | some c => some (.joins c)
  | none => if phase = .left then (Operator.ofWord? w.name).map .compares else none

def behind : Phase → Option Role → Phase
  | _, some (.joins _) => .fresh
  | _, some (.compares _) => .right
  | .fresh, none => .left
  | phase, none => phase

end Phase

/-- The words between two that act, and the white space behind them. -/
structure Stretch where
  words : List Word
  gap : List Char

def Stretch.text (between : Stretch) : List Char := joined between.words ++ between.gap

def Stretch.value? (between : Stretch) : Option Variable := operand? between.words

/-- How long it is, and whether there is nothing in it. -/
def Stretch.shape (between : Stretch) : Nat × Bool :=
  (between.text.length, between.words.isEmpty)

/-- Words that come in some phase of a test, and white space behind them, as what stands in front of
the first word that acts, and each that does with what follows it. -/
def stretches (tail : List Char) : Phase → List Word → Stretch × List (Mark × Stretch)
  | _, [] => (⟨[], tail⟩, [])
  | phase, w :: rest =>
    let (first, more) := stretches tail (phase.behind (phase.role? w)) rest
    match phase.role? w with
    | some role => (⟨[], w.gap⟩, (⟨w.text, role⟩, first) :: more)
    | none => (⟨w :: first.words, first.gap⟩, more)

def shapes (more : List (Mark × Stretch)) : List (Mark × (Nat × Bool)) :=
  more.map fun (mark, between) => (mark, between.shape)

theorem shapes_cons (mark : Mark) (between : Stretch) (more : List (Mark × Stretch)) :
    shapes ((mark, between) :: more) = (mark, between.shape) :: shapes more := rfl

theorem Stretch.shape_cons (w : Word) (between : Stretch) :
    Stretch.shape ⟨w :: between.words, between.gap⟩ =
      (w.gap.length + w.text.length + between.shape.1, false) := by
  simp [shape, text, joined, Nat.add_assoc]

/-- Where the words stand that act in a condition, and between which of them there is nothing. -/
def outline (s : List Char) : Option ((Nat × Bool) × List (Mark × (Nat × Bool))) :=
  (words? s).map fun words =>
    let (first, more) := stretches (s.drop (joined words).length) .fresh words
    (first.shape, shapes more)

/-! ### What is read of them -/

/-- The condition that operands make with the words that act between them. -/
def assemble : Option Variable → List (Role × Option Variable) → Option Condition
  | left, [] => do return .last (.truthy (← left))
  | left, (.joins c, next) :: more => do return .link (.truthy (← left)) c (← assemble next more)
  | left, [(.compares op, right)] => do return .last (.compare (← left) op (← right))
  | left, (.compares op, right) :: (.joins c, next) :: more => do
    return .link (.compare (← left) op (← right)) c (← assemble next more)
  | _, (.compares _, _) :: (.compares _, _) :: _ => none

def values (more : List (Mark × Stretch)) : List (Role × Option Variable) :=
  more.map fun (mark, between) => (mark.role, between.value?)

theorem values_cons (mark : Mark) (between : Stretch) (more : List (Mark × Stretch)) :
    values ((mark, between) :: more) = (mark.role, between.value?) :: values more := rfl

def Role.isJoint : Role → Bool
  | joins _ => true
  | compares _ => false

section

variable {tail : List Char} {phase : Phase} {w : Word} {rest : List Word}

theorem stretches_mark {role : Role} (acts : phase.role? w = some role) :
    stretches tail phase (w :: rest) =
      (⟨[], w.gap⟩, (⟨w.text, role⟩, (stretches tail (phase.behind (some role)) rest).1) ::
        (stretches tail (phase.behind (some role)) rest).2) := by
  simp only [stretches, acts]

theorem stretches_plain (plain : phase.role? w = none) :
    stretches tail phase (w :: rest) =
      (⟨w :: (stretches tail (phase.behind none) rest).1.words,
        (stretches tail (phase.behind none) rest).1.gap⟩,
        (stretches tail (phase.behind none) rest).2) := by
  simp only [stretches, plain]

theorem groups_joint {c : Combinator} (joins : Combinator.ofWord? w.name = some c) :
    groups (w :: rest) = ([], (c, (groups rest).1) :: (groups rest).2) := by
  simp only [groups, joins]

theorem groups_plain (plain : Combinator.ofWord? w.name = none) :
    groups (w :: rest) = (w :: (groups rest).1, (groups rest).2) := by
  simp only [groups, plain]

private theorem Phase.role?_joint {c : Combinator} (joins : Combinator.ofWord? w.name = some c) :
    phase.role? w = some (.joins c) := by
  simp only [role?, joins]

theorem stretches_joint {c : Combinator} (joins : Combinator.ofWord? w.name = some c) :
    stretches tail phase (w :: rest) =
      (⟨[], w.gap⟩, (⟨w.text, .joins c⟩, (stretches tail .fresh rest).1) ::
        (stretches tail .fresh rest).2) := by
  rw [stretches_mark (Phase.role?_joint joins), Phase.behind]

private theorem Phase.role?_operator (plain : Combinator.ofWord? w.name = none) {op : Operator}
    (compares : Operator.ofWord? w.name = some op) :
    Phase.left.role? w = some (.compares op) := by
  simp [role?, plain, compares]

theorem Phase.role?_plain (plain : Combinator.ofWord? w.name = none)
    (other : phase = .left → Operator.ofWord? w.name = none) : phase.role? w = none := by
  cases phase with
  | left => simp [role?, plain, other rfl]
  | fresh | right => simp [role?, plain]

private theorem length_groups (tail : List Char) (phase : Phase) (words : List Word) :
    (groups words).2.length =
      (values (stretches tail phase words).2).countP fun entry => entry.1.isJoint := by
  induction words generalizing phase with
  | nil => rfl
  | cons w rest ih =>
    cases joins : Combinator.ofWord? w.name with
    | some c =>
      rw [groups_joint joins, stretches_joint joins, List.length_cons, values_cons,
        List.countP_cons, ih .fresh]
      rfl
    | none =>
      rw [groups_plain joins]
      cases acts : phase.role? w with
      | none => rw [stretches_plain acts, ih]
      | some role =>
        have compares : role.isJoint = false := by
          cases role with
          | joins c => cases phase <;> simp [Phase.role?, joins] at acts
          | compares op => rfl
        rw [stretches_mark acts, values_cons, List.countP_cons, ih (phase.behind (some role))]
        simp [compares]

end

/-- What is read of the words that come in some phase of a test, with those in front of them. -/
def ReadsOn (tail : List Char) (words : List Word) : Phase → Prop
  | .fresh => chain? (groups words).1 (groups words).2 =
      assemble (stretches tail .fresh words).1.value? (values (stretches tail .fresh words).2)
  | .left => ∀ first left, (∀ v ∈ left, isOperator v = false) →
      chain? (first :: left ++ (groups words).1) (groups words).2 =
        assemble (operand? (first :: left ++ (stretches tail .left words).1.words))
          (values (stretches tail .left words).2)
  | .right => ∀ first left w right op, (∀ v ∈ left, isOperator v = false) →
      Operator.ofWord? w.name = some op →
      chain? (first :: (left ++ w :: (right ++ (groups words).1))) (groups words).2 =
        assemble (operand? (first :: left))
          ((.compares op, operand? (right ++ (stretches tail .right words).1.words)) ::
            values (stretches tail .right words).2)

private theorem chain?_link {first next : List Word} {more : List (Combinator × List Word)}
    {t? : Option Test} {rest? : Option Condition} (c : Combinator) (test : test? first = t?)
    (rest : chain? next more = rest?) :
    chain? first ((c, next) :: more) = t?.bind fun t => rest?.map (.link t c) := by
  rw [chain?, test, rest]
  cases t? <;> cases rest? <;> rfl

private theorem assemble_truthy (left : Option Variable) (c : Combinator) (next : Option Variable)
    (more : List (Role × Option Variable)) :
    assemble left ((.joins c, next) :: more) =
      (left.map .truthy).bind fun t => (assemble next more).map (.link t c) := by
  rw [assemble]
  cases left <;> cases assemble next more <;> rfl

private theorem assemble_compare (left : Option Variable) (op : Operator) (right : Option Variable)
    (c : Combinator) (next : Option Variable) (more : List (Role × Option Variable)) :
    assemble left ((.compares op, right) :: (.joins c, next) :: more) =
      (do return Test.compare (← left) op (← right)).bind fun t =>
        (assemble next more).map (.link t c) := by
  rw [assemble]
  cases left <;> cases right <;> cases assemble next more <;> rfl

section

variable {tail : List Char} {w : Word} {rest : List Word}

private theorem readsOn_nil (tail : List Char) (phase : Phase) : ReadsOn tail [] phase := by
  cases phase with
  | fresh => rfl
  | left =>
    intro first left free
    simp only [groups, stretches, List.append_nil, chain?, test?_left free]
    cases operand? (first :: left) <;> rfl
  | right =>
    intro first left w right op free compares
    simp only [groups, stretches, List.append_nil, chain?, test?_compare right free compares]
    cases operand? (first :: left) <;> cases operand? right <;> rfl

/-- A word that joins ends the test in front of it, and a new one begins. -/
theorem readsOn_joint {c : Combinator} (joins : Combinator.ofWord? w.name = some c)
    (next : ReadsOn tail rest .fresh) (phase : Phase) : ReadsOn tail (w :: rest) phase := by
  rw [ReadsOn] at next
  cases phase with
  | fresh =>
    rw [ReadsOn, groups_joint joins, stretches_joint joins]
    rfl
  | left =>
    intro first left free
    rw [groups_joint joins, stretches_joint joins, List.append_nil, values_cons, assemble_truthy]
    exact chain?_link c (test?_left free) next
  | right =>
    intro first left v right op free compares
    rw [groups_joint joins, stretches_joint joins, values_cons, List.append_nil,
      assemble_compare]
    exact chain?_link c (test?_compare right free compares) next

/-- Any other word goes to the operand that it stands in, or it is the operator of the test. -/
theorem readsOn_plain (plain : Combinator.ofWord? w.name = none)
    (next : ∀ phase, ReadsOn tail rest phase) (phase : Phase) : ReadsOn tail (w :: rest) phase := by
  cases phase with
  | fresh =>
    rw [ReadsOn, groups_plain plain, stretches_plain (Phase.role?_plain plain (by simp))]
    exact next .left w [] (by simp)
  | left =>
    intro first left free
    cases compares : Operator.ofWord? w.name with
    | some op =>
      rw [groups_plain plain, stretches_mark (Phase.role?_operator plain compares),
        List.append_nil]
      exact next .right first left w [] op free compares
    | none =>
      have other : isOperator w = false := by simp [isOperator, compares]
      have free' : ∀ v ∈ left ++ [w], isOperator v = false :=
        List.forall_mem_append.mpr ⟨free, by simpa using other⟩
      have reads := next .left first (left ++ [w]) free'
      rw [groups_plain plain, stretches_plain (Phase.role?_plain plain fun _ => compares)]
      simp only [List.cons_append, List.append_assoc, List.nil_append] at reads
      exact reads
  | right =>
    intro first left v right op free compares
    have reads := next .right first left v (right ++ [w]) op free compares
    rw [groups_plain plain, stretches_plain (Phase.role?_plain plain (by simp))]
    simp only [List.append_assoc, List.cons_append, List.nil_append] at reads
    exact reads

end

theorem readsOn (tail : List Char) (words : List Word) (phase : Phase) :
    ReadsOn tail words phase := by
  induction words generalizing phase with
  | nil => exact readsOn_nil tail phase
  | cons w rest ih =>
    cases joins : Combinator.ofWord? w.name with
    | some c => exact readsOn_joint joins (ih .fresh) phase
    | none => exact readsOn_plain joins ih phase

/-! ### Texts of stretches -/

def textOf (first : Stretch) : List (Mark × Stretch) → List Char
  | [] => first.text
  | (mark, next) :: more => first.text ++ (mark.word ++ textOf next more)

private theorem textOf_cons (w : Word) (first : Stretch) (more : List (Mark × Stretch)) :
    textOf ⟨w :: first.words, first.gap⟩ more = w.gap ++ w.text ++ textOf first more := by
  cases more <;> simp [textOf, Stretch.text, joined]

theorem textOf_stretches (tail : List Char) (phase : Phase) (words : List Word) :
    textOf (stretches tail phase words).1 (stretches tail phase words).2 =
      joined words ++ tail := by
  induction words generalizing phase with
  | nil => rfl
  | cons w rest ih =>
    have whole : joined (w :: rest) ++ tail = w.gap ++ w.text ++ (joined rest ++ tail) := by
      simp [joined]
    cases acts : phase.role? w with
    | some role =>
      rw [stretches_mark acts, whole, textOf, ih]
      simp [Stretch.text, joined]
    | none => rw [stretches_plain acts, whole, textOf_cons, ih]

/-- As words are cut, with nothing but white space around them. -/
structure Stretch.Tidy (between : Stretch) : Prop where
  gaps : ∀ w ∈ between.words, AsciiBlank w.gap
  whole : ∀ w ∈ between.words, w.text ≠ [] ∧ IsWord none w.text
  trailing : AsciiBlank between.gap

theorem Stretch.Tidy.closed {between : Stretch} (tidy : between.Tidy) :
    QuotesClosed between.text :=
  (quotesClosed_joined tidy.gaps tidy.whole).append tidy.trailing.quotesClosed

theorem Stretch.Tidy.value? {between : Stretch} (tidy : between.Tidy)
    (filled : between.words ≠ []) :
    between.value? = (Variable.parse (String.ofList between.text)).toOption := by
  obtain ⟨words, gap⟩ := between
  cases words with
  | nil => exact absurd rfl filled
  | cons w words => exact operand?_padded (tidy.gaps w List.mem_cons_self) tidy.trailing

theorem tidy_stretches {tail : List Char} (trailing : AsciiBlank tail) {words : List Word}
    (gaps : ∀ w ∈ words, AsciiBlank w.gap) (whole : ∀ w ∈ words, w.text ≠ [] ∧ IsWord none w.text)
    (phase : Phase) : (stretches tail phase words).1.Tidy ∧
      ∀ entry ∈ (stretches tail phase words).2, QuotesClosed entry.1.word ∧ entry.2.Tidy := by
  induction words generalizing phase with
  | nil => exact ⟨⟨nofun, nofun, trailing⟩, nofun⟩
  | cons w rest ih =>
    rw [List.forall_mem_cons] at gaps whole
    cases acts : phase.role? w with
    | some role =>
      obtain ⟨first, more⟩ := ih gaps.2 whole.2 (phase.behind (some role))
      rw [stretches_mark acts]
      exact ⟨⟨nofun, nofun, gaps.1⟩,
        List.forall_mem_cons.mpr ⟨⟨whole.1.2.openQuote, first⟩, more⟩⟩
    | none =>
      obtain ⟨first, more⟩ := ih gaps.2 whole.2 (phase.behind none)
      rw [stretches_plain acts]
      exact ⟨⟨List.forall_mem_cons.mpr ⟨gaps.1, first.gaps⟩,
        List.forall_mem_cons.mpr ⟨whole.1, first.whole⟩, first.trailing⟩, more⟩

/-! ### Main result -/

section

variable {s tail : List Char} {words : List Word}

theorem outline_of_cut (cut : Cut s words tail) :
    outline s = some ((stretches tail .fresh words).1.shape,
      shapes (stretches tail .fresh words).2) := by
  have behind : s.drop (joined words).length = tail := by rw [cut.text, List.drop_left]
  simp only [outline, words?_of_cut cut, behind, Option.map_some]

/-- A condition is what its operands and the words that act between them make. -/
theorem parse_of_cut (tag : String) (cut : Cut s words tail) :
    parse tag (String.ofList s) =
      let first := (stretches tail .fresh words).1.value?
      let more := values (stretches tail .fresh words).2
      if maxTests < (more.countP fun entry => entry.1.isJoint) + 1 then
        .error (.tooManyConditions tag maxTests)
      else
        match assemble first more with
        | some c => .ok c
        | none => .error (.tagUsage tag s!"{tag} [expression]") := by
  have reads : chain? (groups words).1 (groups words).2 = _ := readsOn tail words .fresh
  have read := parse.eq_1 tag (String.ofList s)
  simp only [String.toList_ofList, words?_of_cut cut, length_groups tail .fresh words, reads]
    at read
  exact read

end

end Condition

end Liquid
