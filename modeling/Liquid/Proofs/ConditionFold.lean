import Liquid.Proofs.ConditionChains
import Liquid.Proofs.Parts
import Liquid.Proofs.Steps

/-!
# Conditions fold from the right

## Main result

`Condition.chain_exact`: a written condition is parsed to its tests in their order with their links,
and evaluated as the fold of their results from the right, where no test is evaluated that the
results before it make needless.

## Proof strategy

Parsing is `Condition.parse_text`. Evaluation goes by induction on the condition: the first test is
always needed, for all results true and all results false come to different ends, and it either
settles the condition or leaves what the rest of it comes to.
-/

namespace Liquid

open Text Markup

def Combinator.apply : Combinator → Bool → Bool → Bool
  | .and => fun a b => a && b
  | .or => fun a b => a || b

namespace Condition

variable (env : Environment) (names : String → Value)

/-- What a condition comes to when its tests come to the given results. -/
def fold : Condition → List Bool → Bool
  | last _, results => results.headD false
  | link _ c rest, results => c.apply (results.headD false) (rest.fold results.tail)

/-- Whatever the other tests come to, this is the result. -/
def Settles (c : Condition) (results : List Bool) (b : Bool) : Prop :=
  ∀ others, (results ++ others).length = c.length → c.fold (results ++ others) = b

/-- The other tests still make a difference. -/
def Open (c : Condition) (results : List Bool) : Prop :=
  ∃ others others', (results ++ others).length = c.length ∧
    (results ++ others').length = c.length ∧
    c.fold (results ++ others) ≠ c.fold (results ++ others')

/-- Evaluates tests one after the other. -/
def inTurn : List Test → Eval (List Bool)
  | [] => return []
  | t :: rest => do
    let b ← t.evaluate env names
    return b :: (← inTurn rest)

/-! ### Folds -/

private theorem fold_replicate (c : Condition) (b : Bool) :
    c.fold (List.replicate c.length b) = b := by
  induction c with
  | last t => rfl
  | link t c rest ih =>
    rw [length, List.replicate_succ, fold, List.headD_cons, List.tail_cons, ih]
    cases c <;> simp [Combinator.apply]

/-- Nothing is settled before the first test. -/
theorem open_nil (c : Condition) : c.Open [] := by
  refine ⟨List.replicate c.length true, List.replicate c.length false, by simp, by simp, ?_⟩
  simp [fold_replicate]

section

variable {t : Test} {c : Combinator} {rest : Condition}

/-- The first result alone decides. -/
theorem settles_of_first {b : Bool} (stops : ∀ r, c.apply b r = b) :
    (link t c rest).Settles [b] b := by
  intro others _
  rw [List.singleton_append, fold, List.headD_cons, stops]

/-- The rest decides, so what is settled and what is open there is so here. -/
theorem settles_cons {b r : Bool} {results : List Bool} (passes : ∀ r, c.apply b r = r)
    (settles : rest.Settles results r) : (link t c rest).Settles (b :: results) r := by
  intro others count
  rw [List.cons_append, fold, List.headD_cons, List.tail_cons, passes]
  exact settles others (by simpa [length] using count)

private theorem open_cons {b : Bool} {results : List Bool} (passes : ∀ r, c.apply b r = r)
    (isOpen : rest.Open results) : (link t c rest).Open (b :: results) := by
  obtain ⟨others, others', count, count', differ⟩ := isOpen
  refine ⟨others, others', by simpa [length] using count, by simpa [length] using count', ?_⟩
  simpa [fold, passes] using differ

/-- A result stops the chain or passes it on. -/
theorem stops_or_passes (c : Combinator) (b : Bool) :
    (∀ r, c.apply b r = b) ∨ ∀ r, c.apply b r = r := by
  cases c <;> cases b <;> simp [Combinator.apply]

end

/-! ### Evaluation -/

/-- The tests that are evaluated, in their order, until one fails or their results settle the
condition: each is evaluated because the results before it leave the condition open. -/
structure Asks (env : Environment) (names : String → Value) (c : Condition) (heap : Heap)
    (n : Nat) : Prop where
  count : n ≤ c.length
  needed : ∀ k < n, ∃ results between,
    inTurn env names (c.tests.take k) heap = (.ok results, between) ∧ c.Open results
  outcome :
    (∃ results after b, inTurn env names (c.tests.take n) heap = (.ok results, after) ∧
      c.Settles results b ∧ c.evaluate env names heap = (.ok b, after)) ∨
    ∃ e after, inTurn env names (c.tests.take n) heap = (.error e, after) ∧
      c.evaluate env names heap = (.error e, after)

section

variable {env names} {t : Test} {c : Combinator} {rest : Condition} {heap between : Heap} {b : Bool}

private theorem evaluate_link_of_stops (run : t.evaluate env names heap = (.ok b, between))
    (stops : ∀ r, c.apply b r = b) :
    (link t c rest).evaluate env names heap = (.ok b, between) := by
  rw [evaluate, Eval.bind_ok run]
  cases c with
  | and =>
    cases b with
    | true => cases stops false
    | false => rfl
  | or =>
    cases b with
    | true => rfl
    | false => cases stops true

private theorem evaluate_link_of_passes (run : t.evaluate env names heap = (.ok b, between))
    (passes : ∀ r, c.apply b r = r) :
    (link t c rest).evaluate env names heap = rest.evaluate env names between := by
  rw [evaluate, Eval.bind_ok run]
  cases c with
  | and =>
    cases b with
    | true => rfl
    | false => cases passes true
  | or =>
    cases b with
    | true => cases passes false
    | false => rfl

theorem inTurn_cons_ok {ts : List Test} (run : t.evaluate env names heap = (.ok b, between)) :
    inTurn env names (t :: ts) heap =
      ((inTurn env names ts between).1.map (b :: ·), (inTurn env names ts between).2) := by
  rw [inTurn, Eval.bind_ok run]
  rcases later : inTurn env names ts between with ⟨r, after⟩
  cases r with
  | ok results => rw [Eval.bind_ok later]; rfl
  | error e => rw [Eval.bind_error later]; rfl

private theorem inTurn_cons_error {ts : List Test} {e : Error}
    (run : t.evaluate env names heap = (.error e, between)) :
    inTurn env names (t :: ts) heap = (.error e, between) := by
  rw [inTurn, Eval.bind_error run]

/-- The first test settles the condition or fails. -/
theorem Asks.one {c : Condition} {ts : List Test} (first : c.tests = t :: ts)
    (filled : 1 ≤ c.length)
    (outcome : (∃ b between, t.evaluate env names heap = (.ok b, between) ∧ c.Settles [b] b ∧
        c.evaluate env names heap = (.ok b, between)) ∨
      ∃ e between, t.evaluate env names heap = (.error e, between) ∧
        c.evaluate env names heap = (.error e, between)) :
    Asks env names c heap 1 where
  count := filled
  needed k small := by
    obtain rfl : k = 0 := by omega
    exact ⟨[], heap, rfl, open_nil c⟩
  outcome := by
    rw [first, List.take_succ_cons, List.take_zero]
    rcases outcome with ⟨b, between, run, settles, evaluated⟩ | ⟨e, between, run, evaluated⟩
    · exact .inl ⟨[b], between, b, inTurn_cons_ok run, settles, evaluated⟩
    · exact .inr ⟨e, between, inTurn_cons_error run, evaluated⟩

/-- Behind a test that passes the rest is asked. -/
theorem Asks.cons {n : Nat} (run : t.evaluate env names heap = (.ok b, between))
    (passes : ∀ r, c.apply b r = r) (asks : Asks env names rest between n) :
    Asks env names (link t c rest) heap (n + 1) where
  count := Nat.succ_le_succ asks.count
  needed k small := by
    cases k with
    | zero => exact ⟨[], heap, rfl, open_nil _⟩
    | succ k =>
      obtain ⟨results, after, earlier, isOpen⟩ := asks.needed k (by omega)
      refine ⟨b :: results, after, ?_, open_cons passes isOpen⟩
      rw [tests, List.take_succ_cons, inTurn_cons_ok run, earlier]
      rfl
  outcome := by
    rw [tests, List.take_succ_cons, inTurn_cons_ok run, evaluate_link_of_passes run passes]
    rcases asks.outcome with
      ⟨results, after, r, earlier, settles, evaluated⟩ | ⟨e, after, failed, evaluated⟩
    · refine .inl ⟨b :: results, after, r, by rw [earlier]; rfl, ?_, evaluated⟩
      exact settles_cons passes settles
    · exact .inr ⟨e, after, by rw [failed]; rfl, evaluated⟩

end

theorem exists_asks (c : Condition) (heap : Heap) : ∃ n, Asks env names c heap n := by
  -- On the chain; the rest of it is evaluated on the heap that the first test leaves.
  induction c generalizing heap with
  | last t =>
    have first : (last t).tests = [t] := rfl
    refine ⟨1, .one first (by simp [length]) ?_⟩
    rcases run : t.evaluate env names heap with ⟨r, between⟩
    cases r with
    | error e => exact .inr ⟨e, between, rfl, run⟩
    | ok b =>
      refine .inl ⟨b, between, rfl, fun others count => ?_, run⟩
      simp [fold]
  | link t c rest ih =>
    rcases run : t.evaluate env names heap with ⟨r, between⟩
    cases r with
    | error e =>
      refine ⟨1, .one (t := t) rfl (by simp [length]) (.inr ⟨e, between, run, ?_⟩)⟩
      rw [evaluate, Eval.bind_error run]
    | ok b =>
      rcases stops_or_passes c b with stops | passes
      · refine ⟨1, .one (t := t) rfl (by simp [length]) (.inl ⟨b, between, run, ?_, ?_⟩)⟩
        · exact settles_of_first stops
        · exact evaluate_link_of_stops run stops
      · obtain ⟨n, asks⟩ := ih between
        exact ⟨n + 1, asks.cons run passes⟩

/-- Written conditions are parsed to their tests in their order with their links, and conditions
are evaluated as the fold of their tests from the right, with no test evaluated needlessly. -/
theorem chain_exact :
    (∀ (tag : String) (chain : Chain), parse tag (String.ofList chain.text) =
      if maxTests < chain.length then .error (.tooManyConditions tag maxTests)
      else
        match chain.condition? with
        | some c => .ok c
        | none => .error (.tagUsage tag s!"{tag} [expression]")) ∧
    (∀ (s : String) (v : Variable), Variable.parse s = .ok v → QuotesClosed s.toList) ∧
    ∀ (env : Environment) (names : String → Value) (c : Condition) (heap : Heap),
      ∃ n, Asks env names c heap n := by
  refine ⟨parse_text, fun s v read => ?_, exists_asks⟩
  exact (parse_eq_ok_iff.mp read).quotesClosed

def space : Gap := ⟨[' '], by decide, by simp [AsciiBlank, isAsciiBlank]⟩

/-- An `and` that is only quoted, and an `or` that takes all that follows. -/
def quoting : Chain where
  first := .truthy (.ofWords "a".toList ⟨'a', by simp, rfl⟩ rfl (by decide))
  more := [{
    before := space
    combinator := .or
    after := space
    next := @Clause.compare (@Operand.quoted '\x27' "b and c".toList rfl (by decide)) space
      "==" .eq rfl space (.ofWords "d".toList ⟨'d', by simp, rfl⟩ rfl (by decide)) }]

theorem chain_exact_quoting :
    parse "if" "a or 'b and c' == d" =
      .ok (.link (.truthy ⟨.lookup "a" [], []⟩) .or
        (.last (.compare ⟨.literal (.str "b and c"), []⟩ .eq ⟨.lookup "d" [], []⟩))) ∧
      QuotesClosed "'b and c'".toList := by
  have quoted : Variable.parse "'b and c'" = .ok ⟨.literal (.str "b and c"), []⟩ := rfl
  exact ⟨(chain_exact.1 "if" quoting).trans rfl, chain_exact.2.1 _ _ quoted⟩

end Condition

end Liquid
