import Liquid.Proofs.Steps

/-!
# Comparison operators

Equality and order are two functions with coercions of their own, and the literals `empty` and
`blank` take a path beside both. What a template can ask with them still hangs together.

## Main result

`Operator.coherent`: two values that are not nil are either not ordered, and then each of `<`, `>`,
`<=` and `>=` fails whichever way round it is asked, or exactly one of `<`, `==` and `>` holds and
the others say what these three say. Equality is symmetric, and a question about emptiness may be
put either way round.

## Proof strategy

Order changes sides with its operands (`Value.compare?_swap`), and where it has an answer, equality
is one of the answers (`Value.looseEq_of_compare?`). Both look at the values behind the cells, so
the cases that count are those of two numbers and two texts.
-/

namespace Liquid

namespace Value

/-! ### Equality -/

mutual

theorem same_comm : (a b : Value) → a.same b = b.same a
  | .nil, b => by cases b <;> rfl
  | .bool a, b => by cases b <;> simp [same, Bool.beq_comm]
  | .int a, b => by cases b <;> simp [same, Bool.beq_comm]
  | .float a, b => by cases b <;> simp [same, Double.same_comm a]
  | .str a, b => by cases b <;> simp [same, Bool.beq_comm]
  | .array items, b => by cases b <;> simp [same, sameItems_comm items]
  | .hash entries, b => by cases b <;> simp [same, sameEntries_comm entries]
  | .object o, b => by cases b <;> simp [same, Bool.beq_comm]
  | .lazy cell _, b => by cases b <;> simp [same, Bool.beq_comm]

private theorem sameItems_comm : (as bs : List Value) → sameItems as bs = sameItems bs as
  | [], bs => by cases bs <;> rfl
  | a :: as, bs => by cases bs <;> simp [sameItems, same_comm a, sameItems_comm as]

theorem sameEntries_comm : (as bs : List (String × Value)) → sameEntries as bs = sameEntries bs as
  | [], bs => by cases bs <;> rfl
  | (k, a) :: as, bs => by
    cases bs <;> simp [sameEntries, same_comm a, sameEntries_comm as, Bool.beq_comm (a := k)]

end

theorem looseEq_lazy (a : Value) (cell : Cell) (content : Value) :
    a.looseEq (.lazy cell content) = a.looseEq content := by
  induction a using Value.resolved.induct with
  | case1 _ inner ih => exact ih
  | case2 a outside =>
    cases a
    case lazy => exact absurd rfl (outside _ _)
    all_goals rfl

theorem looseEq_resolved_left (a b : Value) : a.resolved.looseEq b = a.looseEq b := by
  induction a using Value.resolved.induct with
  | case1 _ content ih => exact ih
  | case2 a outside => cases a <;> simp_all [resolved]

theorem looseEq_resolved_right (a b : Value) : a.looseEq b.resolved = a.looseEq b := by
  induction b using Value.resolved.induct with
  | case1 cell content ih => rw [looseEq_lazy, resolved, ih]
  | case2 b outside => cases b <;> simp_all [resolved]

private theorem isNil_resolved (v : Value) : v.resolved.isNil = v.isNil := by
  simp only [isNil, resolved_resolved]

/-- For values without a cell on the outside. -/
private theorem looseEq_comm_of_items {a b : Value} (left : a.isResolved = true)
    (right : b.isResolved = true)
    (items : ∀ as bs, a = .array as → looseEqItems as bs = looseEqItems bs as) :
    a.looseEq b = b.looseEq a := by
  cases a <;> cases b
  case array.array as bs => simp [looseEq, resolved, items as bs rfl]
  all_goals simp_all [looseEq, resolved, same, isResolved, Bool.beq_comm]
  case float.float f g => exact Double.same_comm f g
  case hash.hash as bs => exact sameEntries_comm as bs

mutual

theorem looseEq_comm : (a b : Value) → a.looseEq b = b.looseEq a
  | .lazy cell content, b => by
    rw [looseEq_lazy, ← looseEq_comm content b]
    rfl
  | .array items, b => by
    rw [← looseEq_resolved_right, ← looseEq_resolved_left b]
    apply looseEq_comm_of_items rfl (isResolved_resolved b)
    intro as bs same
    cases same
    exact looseEqItems_comm items bs
  | .nil, b | .bool _, b | .int _, b | .float _, b | .str _, b | .hash _, b | .object _, b => by
    rw [← looseEq_resolved_right, ← looseEq_resolved_left b]
    exact looseEq_comm_of_items rfl (isResolved_resolved b) nofun

private theorem looseEqItems_comm : (as bs : List Value) → looseEqItems as bs = looseEqItems bs as
  | [], bs => by cases bs <;> rfl
  | a :: as, bs => by cases bs <;> simp [looseEqItems, looseEq_comm a, looseEqItems_comm as]

end

/-! ### Order -/

theorem compare?_swap (a b : Value) : b.compare? a = (a.compare? b).map Ordering.swap := by
  unfold compare?
  -- Two numbers or two texts; nothing else is ordered, either way round.
  cases a.resolved <;> cases b.resolved
  case int.int i j => simp [Int.compare_swap]
  case int.float i g => exact Double.compare?_swap _ _
  case float.int f j => exact Double.compare?_swap _ _
  case float.float f g => exact Double.compare?_swap _ _
  case str.str s t => exact congrArg some Std.OrientedOrd.eq_swap
  all_goals rfl

/-- Values that are ordered are equal just if the order says so. -/
theorem looseEq_of_compare? {a b : Value} {o : Ordering} (ordered : a.compare? b = some o) :
    a.looseEq b = (o == .eq) := by
  rw [← looseEq_resolved_left, ← looseEq_resolved_right]
  unfold compare? at ordered
  generalize a.resolved = v at ordered ⊢
  generalize b.resolved = w at ordered ⊢
  cases v <;> cases w
  case int.int i j =>
    have same : compare i.toInt j.toInt = .eq ↔ i = j :=
      Std.compare_eq_iff_eq.trans Int64.toInt_inj
    cases ordered
    rw [Bool.eq_iff_iff]
    simp [looseEq, resolved, Value.same, same]
  case int.float i g => simp_all [looseEq, resolved, sameNumber, Double.same]
  case float.int f j =>
    change Double.compare? f (Number.int j).toFloat = some o at ordered
    have same : sameNumber j f = (o == .eq) := by
      rw [sameNumber, Double.same_comm, Double.same, ordered]
      rfl
    simpa [looseEq, resolved] using same
  case float.float f g => simp_all [looseEq, resolved, Value.same, Double.same]
  case str.str s t =>
    cases ordered
    rw [Bool.eq_iff_iff]
    simp [looseEq, resolved, Value.same]
  all_goals cases ordered

end Value

/-! ### Operators -/

/-- An operator that asks for the order of its operands. -/
def Operator.isOrdering : Operator → Bool
  | .lt => true
  | .gt => true
  | .le => true
  | .ge => true
  | _ => false

/-- What a comparison of two values comes to, whatever happened before it. -/
def Operator.Gives (op : Operator) (l r : Value) (outcome : Except Error Bool) : Prop :=
  ∀ heap, (compareValues op l r heap).1 = outcome

/-- The error that two values are not ordered. -/
def Operator.Fails (op : Operator) (l r : Value) : Prop :=
  ∃ message, op.Gives l r (.error (.render message))

/-- All operators but `contains` follow from these three answers. -/
structure Operator.Answers (l r : Value) (less equal greater : Bool) : Prop where
  lt : lt.Gives l r (.ok less)
  gt : gt.Gives l r (.ok greater)
  le : le.Gives l r (.ok !greater)
  ge : ge.Gives l r (.ok !less)
  eq : eq.Gives l r (.ok equal)
  ne : ne.Gives l r (.ok !equal)

namespace Operator

variable {l r : Value}

theorem eq_gives (l r : Value) : eq.Gives l r (.ok (l.looseEq r)) := fun _ => rfl

theorem ne_gives (l r : Value) : ne.Gives l r (.ok !(l.looseEq r)) := fun _ => rfl

/-- How values are compared that are not nil. -/
def ordered (op : Operator) (l r : Value) : Except Error Bool :=
  match l.compare? r with
  | some o => .ok (op.holds o)
  | none =>
    let left := l.typeName
    let right := r.typeName
    .error (.render s!"comparison of {left} with {right} failed")

private theorem compareOrdered_fst (op : Operator) (left : l.isNil = false)
    (right : r.isNil = false)
    (heap : Heap) : (compareOrdered op l r heap).1 = op.ordered l r := by
  have first (h : Heap) : (l.read h).1.isNil = false := (Value.isNil_resolved l).trans left
  have second (h : Heap) : (r.read h).1.isNil = false := (Value.isNil_resolved r).trans right
  have third (h : Heap) : (l.readCompare? r h).1 = l.compare? r := rfl
  unfold compareOrdered ordered
  simp only [Eval.lift_bind, first, second, third, Bool.false_eq_true, ↓reduceIte]
  cases l.compare? r <;> rfl

private theorem gives_of_isOrdering {op : Operator} (ordering : op.isOrdering = true)
    (left : l.isNil = false) (right : r.isNil = false) : op.Gives l r (op.ordered l r) := by
  intro heap
  rw [← compareOrdered_fst op left right heap]
  cases op
  case eq | ne | contains => cases ordering
  all_goals rfl

private theorem fails_of_compare? {op : Operator} (ordering : op.isOrdering = true)
    (left : l.isNil = false) (right : r.isNil = false) (unordered : l.compare? r = none) :
    op.Fails l r := by
  have gives := gives_of_isOrdering ordering left right
  rw [Operator.ordered, unordered] at gives
  exact ⟨_, gives⟩

private theorem answers_of_compare? {o : Ordering} (left : l.isNil = false)
    (right : r.isNil = false)
    (ordered : l.compare? r = some o) : Answers l r (o == .lt) (o == .eq) (o == .gt) := by
  have equal := Value.looseEq_of_compare? ordered
  have gives (op : Operator) (ordering : op.isOrdering = true) :
      op.Gives l r (.ok (op.holds o)) := by
    have gives := gives_of_isOrdering ordering left right
    rwa [Operator.ordered, ordered] at gives
  constructor
  · exact gives .lt rfl
  · exact gives .gt rfl
  · exact gives .le rfl
  · exact gives .ge rfl
  · exact equal ▸ eq_gives l r
  · exact equal ▸ ne_gives l r

end Operator

/-! ### Questions about emptiness -/

/-- Used whole, the literals `empty` and `blank` are texts of no length. -/
theorem Variable.exposed_of_emptiness? {v : Variable} {e : Emptiness}
    (asks : v.emptiness? = some e) (env : Environment) (names : String → Value) :
    v.exposed env names = pure (.str "") := by
  obtain ⟨expr, filters⟩ := v
  cases filters with
  | cons call rest => cases expr <;> cases asks
  | nil =>
    cases expr with
    | literal l =>
      cases l
      case empty | blank => rfl
      all_goals cases asks
    | range first last => cases asks
    | lookup name path => cases asks

/-- A text of no length is empty and blank. -/
theorem Emptiness.test_empty (e e' : Emptiness) (op : Operator) :
    e.test op (.str "") = e'.test op (.str "") := by
  cases e <;> cases e' <;> rfl

private theorem Test.evaluate_comm_of_emptiness? {left right : Variable}
    (asks : left.emptiness?.isSome = true ∨ right.emptiness?.isSome = true)
    (env : Environment) (names : String → Value) (op : Operator) :
    (Test.compare left op right).evaluate env names =
      (Test.compare right op left).evaluate env names := by
  cases first : left.emptiness? with
  | none =>
    cases second : right.emptiness? with
    | none => simp [first, second] at asks
    | some e => simp only [Test.evaluate, first, second]
  | some e =>
    cases second : right.emptiness? with
    | none => simp only [Test.evaluate, first, second]
    | some e' =>
      -- Each side asks about the other one, which is a literal of the same kind.
      simp only [Test.evaluate, first, second, Variable.exposed_of_emptiness? first,
        Variable.exposed_of_emptiness? second, pure_bind]
      exact Emptiness.test_empty e' e op

/-! ### Main result -/

/-- Comparisons of values that conditions compare hang together, whichever way round they are
asked. -/
theorem Operator.coherent :
    (∀ (env : Environment) (names : String → Value) (left right : Variable) (op : Operator)
      (heap between after : Heap) (l r : Value),
      left.emptiness? = none → right.emptiness? = none →
      left.exposed env names heap = (.ok l, between) →
      right.exposed env names between = (.ok r, after) →
      (Test.compare left op right).evaluate env names heap = compareValues op l r after) ∧
    (∀ l r : Value, l.isNil = false → r.isNil = false →
      (∀ op : Operator, op.isOrdering = true → op.Fails l r ∧ op.Fails r l) ∨
      ∃ less equal greater : Bool, [less, equal, greater].count true = 1 ∧
        Answers l r less equal greater ∧ Answers r l greater equal less) ∧
    (∀ l r : Value, ∃ equal : Bool,
      Operator.eq.Gives l r (.ok equal) ∧ Operator.eq.Gives r l (.ok equal) ∧
      ∀ word ∈ ["!=", "<>"], ∃ op, Operator.ofWord? word = some op ∧
        op.Gives l r (.ok !equal) ∧ op.Gives r l (.ok !equal)) ∧
    (∀ left right : Variable, left.emptiness?.isSome = true ∨ right.emptiness?.isSome = true →
      ∀ (env : Environment) (names : String → Value) (op : Operator),
        (Test.compare left op right).evaluate env names =
          (Test.compare right op left).evaluate env names) := by
  refine ⟨?_, ?_, ?_, ?_⟩
  · intro env names left right op heap between after l r first second left_ok right_ok
    simp only [Test.evaluate, first, second]
    rw [Eval.bind_ok left_ok, Eval.bind_ok right_ok]
  · intro l r left right
    have swapped := Value.compare?_swap l r
    cases ordered : l.compare? r with
    | none =>
      rw [ordered] at swapped
      left
      intro op ordering
      constructor
      · exact fails_of_compare? ordering left right ordered
      · exact fails_of_compare? ordering right left swapped
    | some o =>
      rw [ordered] at swapped
      right
      refine ⟨o == .lt, o == .eq, o == .gt, by cases o <;> rfl, ?_, ?_⟩
      · exact answers_of_compare? left right ordered
      · have answers := answers_of_compare? right left swapped
        cases o <;> exact answers
  · intro l r
    have comm := Value.looseEq_comm l r
    refine ⟨l.looseEq r, eq_gives l r, comm ▸ eq_gives r l, ?_⟩
    intro word either
    refine ⟨.ne, ?_, ne_gives l r, comm ▸ ne_gives r l⟩
    simp only [List.mem_cons, List.not_mem_nil, or_false] at either
    rcases either with rfl | rfl <;> rfl
  · intro left right asks env names op
    exact Test.evaluate_comm_of_emptiness? asks env names op

/-- A number and a lazy one, which a condition compares. -/
theorem Operator.coherent_oneTwo :
    let env := Template.bareEngine.env
    let names := fun name : String =>
      if name = "a" then Value.int 1 else Value.lazy ⟨7, "b"⟩ (.int 2)
    let a : Variable := ⟨.lookup "a" [], []⟩
    let b : Variable := ⟨.lookup "b" [], []⟩
    let blank : Variable := ⟨.literal .blank, []⟩
    let after : Heap := { Heap.new with computed := [⟨7, "b"⟩] }
    (a.emptiness? = none ∧ b.emptiness? = none ∧
      a.exposed env names Heap.new = (.ok (.int 1), Heap.new) ∧
      b.exposed env names Heap.new = (.ok (.int 2), after) ∧
      (Test.compare a .lt b).evaluate env names Heap.new = (.ok true, after)) ∧
    ((Value.int 1).isNil = false ∧ (Value.int 2).isNil = false ∧
      Answers (.int 1) (.int 2) true false false ∧ Answers (.int 2) (.int 1) false false true) ∧
    (blank.emptiness?.isSome = true ∧
      (Test.compare blank .ne b).evaluate env names =
        (Test.compare b .ne blank).evaluate env names) := by
  intro env names a b blank after
  obtain ⟨evaluated, values, -, emptiness⟩ := Operator.coherent
  refine ⟨⟨rfl, rfl, rfl, rfl, ?_⟩, ⟨rfl, rfl, ?_⟩, rfl, emptiness blank b (.inl rfl) env names .ne⟩
  · rw [evaluated env names a b .lt Heap.new Heap.new after (.int 1) (.int 2) rfl rfl rfl rfl]
    rfl
  · rcases values (.int 1) (.int 2) rfl rfl with fails | ⟨less, equal, greater, -, answers, swapped⟩
    · obtain ⟨message, failed⟩ := (fails .lt rfl).1
      cases failed Heap.new
    · cases answers.lt Heap.new
      cases answers.eq Heap.new
      cases answers.gt Heap.new
      exact ⟨answers, swapped⟩

end Liquid
