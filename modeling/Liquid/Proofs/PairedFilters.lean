import Liquid.Filter.Standard
import Liquid.Proofs.PairedRuns

/-!
# The standard filters in paired runs

A filter is impartial if it gives counterparts for counterparts and draws as many numbers in both
runs. The standard filters read what they are given and draw nothing.

## Main result

`Filter.standard_impartial`: all standard filters are impartial.
-/

namespace Liquid

open Pairing Value

/-- Handed counterparts, the filter gives counterparts or fails with the same error. What it keeps
from before has numbers less than `base`. -/
def Filter.Impartial (l : Ledger) (base : Nat) (f : Filter) : Prop :=
  ∀ σ : Shift, base ≤ σ.start → ∀ n {v w : Value} {args args' : List Value},
    Counterpart l.nature σ n v w → List.Forall₂ (Counterpart l.nature σ n) args args' →
    (heaps l σ).Attempts n (Counterpart l.nature σ) (f v args) (f w args')

namespace Filter

variable {l : Ledger} {base : Nat} {σ : Shift} {n k : Nat} {v w : Value} {args args' : List Value}

/-! ### Arguments -/

/-- Arguments stay counterparts while more numbers are drawn. -/
theorem laterAll (related : List.Forall₂ (Counterpart l.nature σ n) args args') (later : n ≤ k) :
    List.Forall₂ (Counterpart l.nature σ k) args args' :=
  related.imp fun _ _ related => related.later later

theorem argument_counterpart (related : List.Forall₂ (Counterpart l.nature σ n) args args')
    (index : Nat) : Option.Rel (Counterpart l.nature σ n) args[index]? args'[index]? := by
  induction related generalizing index with
  | nil => exact .none
  | cons related _ ih =>
    cases index with
    | zero => exact .some related
    | succ index => exact ih index

theorem arg_attempts (filter : String)
    (related : List.Forall₂ (Counterpart l.nature σ n) args args') (index : Nat) :
    (heaps l σ).Attempts n (Counterpart l.nature σ) (arg filter args index)
      (arg filter args' index) := by
  have given := argument_counterpart related index
  unfold arg
  generalize args[index]? = a, args'[index]? = a' at given
  cases given with
  | none => exact .throw _
  | some related => exact .pure fun _ later => related.later later

theorem plain_attempts (related : Counterpart l.nature σ n v w) :
    (heaps l σ).Attempts n (fun _ => Eq) (liftM v.readPlain) (liftM w.readPlain) :=
  .lift (readPlain_matches related)

theorem number_attempts (filter : String) (related : Counterpart l.nature σ n v w) :
    (heaps l σ).Attempts n (fun _ => Eq) (number filter v) (number filter w) := by
  -- What is no number is refused with its text, which is the same on both sides.
  refine (Attempts.lift (readNumber?_matches related)).next fun k late found => ?_
  cases found with
  | some number => exact .same number
  | none => exact (plain_attempts (related.later late)).next fun _ _ _ => .throw _

/-- A result without numbers. -/
theorem plain_result {u : Value} (sound : u.Sound l.nature 0) :
    (heaps l σ).Attempts n (Counterpart l.nature σ) (pure u) (pure u) :=
  .pure fun _ _ => .plain sound

/-! ### Arithmetic -/

private theorem sound_ofNumber {nature : String → Bool} (number : Number) :
    (ofNumber number).Sound nature n := by
  cases number <;> trivial

theorem calculate_impartial (filter : String) (op : Number.Operation) :
    Impartial l base (calculate filter op) := by
  intro σ _ n v w args args' related all
  refine (number_attempts filter related).next fun k late left => ?_
  refine (arg_attempts filter (laterAll all late) 0).bind fun k late _ _ given => ?_
  exact (number_attempts filter given).next fun _ _ right => plain_result (sound_ofNumber _)

private theorem calculateNonzero_impartial (filter : String) (op : Number.Operation) :
    Impartial l base (calculateNonzero filter op) := by
  intro σ begun n v w args args' related all
  refine (arg_attempts filter all 0).bind fun k late _ _ given => ?_
  refine (number_attempts filter given).next fun k' later divisor => ?_
  -- Both sides divide by the same number, so both do or both fail.
  cases divisor.isZero with
  | true => exact .throw _
  | false =>
    have late := Nat.le_trans late later
    exact calculate_impartial filter op σ begun k' (related.later late) (laterAll all late)

/-! ### Texts -/

theorem onText_impartial (f : String → String) : Impartial l base (onText f) := by
  intro σ _ n v w args args' related _
  exact (plain_attempts related).next fun _ _ text => plain_result trivial

private theorem append_impartial : Impartial l base append := by
  intro σ _ n v w args args' related all
  refine (arg_attempts "append" all 0).bind fun k late _ _ given => ?_
  refine (plain_attempts (related.later late)).next fun k late text => ?_
  exact (plain_attempts (given.later late)).next fun _ _ suffix => plain_result trivial

/-- The text of the first argument, then that of the input. -/
theorem texts_attempts (filter : String) {f : String → String → Value}
    (sound : ∀ given text, (f given text).Sound l.nature 0) (related : Counterpart l.nature σ n v w)
    (all : List.Forall₂ (Counterpart l.nature σ n) args args') :
    (heaps l σ).Attempts n (Counterpart l.nature σ)
      (do
        let given ← (← arg filter args 0).readPlain
        return f given (← v.readPlain))
      (do
        let given ← (← arg filter args' 0).readPlain
        return f given (← w.readPlain)) := by
  refine (arg_attempts filter all 0).bind fun k late _ _ first => ?_
  refine (plain_attempts first).next fun k' later given => ?_
  have related := related.later (Nat.le_trans late later)
  exact (plain_attempts related).next fun _ _ text => plain_result (sound given text)

private theorem prepend_impartial : Impartial l base prepend := by
  intro σ _ n v w args args' related all
  exact texts_attempts "prepend" (f := fun front text => .str (front ++ text))
    (fun _ _ => trivial) related all

private theorem sound_texts {nature : String → Bool} (texts : List String) :
    (array (texts.map str)).Sound nature n :=
  soundItems_iff.mpr fun v member => by
    obtain ⟨text, -, rfl⟩ := List.mem_map.mp member
    trivial

private theorem split_impartial : Impartial l base split := by
  intro σ _ n v w args args' related all
  let pieces (pattern text : String) : List String :=
    if pattern.isEmpty then charTexts text else splitText text pattern
  exact texts_attempts "split" (f := fun pattern text => .array ((pieces pattern text).map .str))
    (fun _ _ => sound_texts _) related all

private theorem replace_impartial : Impartial l base replace := by
  intro σ _ n v w args args' related all
  refine (arg_attempts "replace" all 0).bind fun k late _ _ first => ?_
  refine (plain_attempts first).next fun k later pattern => ?_
  have late := Nat.le_trans late later
  refine (arg_attempts "replace" (laterAll all late) 1).bind fun k later _ _ second => ?_
  have late := Nat.le_trans late later
  refine (plain_attempts second).next fun k later replacement => ?_
  have late := Nat.le_trans late later
  exact (plain_attempts (related.later late)).next fun _ _ text => plain_result trivial

private theorem remove_impartial : Impartial l base remove := by
  intro σ _ n v w args args' related all
  exact texts_attempts "remove" (f := fun pattern text => .str (replaced pattern "" text))
    (fun _ _ => trivial) related all

private theorem truncateLength_attempts (all : List.Forall₂ (Counterpart l.nature σ n) args args') :
    (heaps l σ).Attempts n (fun _ => Eq) (truncateLength args) (truncateLength args') := by
  have given := argument_counterpart all 0
  unfold truncateLength
  generalize args[0]? = a, args'[0]? = a' at given
  cases given with
  | none => exact .same 50
  | some related =>
    refine (Attempts.lift (readInt?_matches related)).next fun k late i => ?_
    cases i with
    | some i => exact .same _
    | none => exact (plain_attempts (related.later late)).next fun _ _ _ => .throw _

/-- An argument that may be left out. -/
theorem optional_attempts {f g : String → Eval Value}
    (rest : ∀ k, n ≤ k → ∀ s, (heaps l σ).Attempts k (Counterpart l.nature σ) (f s) (g s))
    (absent : String) (all : List.Forall₂ (Counterpart l.nature σ n) args args') (index : Nat) :
    (heaps l σ).Attempts n (Counterpart l.nature σ)
      (match args[index]? with
        | some v => do f (← v.readPlain)
        | none => do f (← pure absent))
      (match args'[index]? with
        | some v => do g (← v.readPlain)
        | none => do g (← pure absent)) := by
  have given := argument_counterpart all index
  generalize args[index]? = a, args'[index]? = a' at given
  cases given with
  | none => exact (Attempts.same absent).next rest
  | some related => exact (plain_attempts related).next rest

private theorem truncate_impartial : Impartial l base truncate := by
  intro σ _ n v w args args' related all
  refine (truncateLength_attempts all).next fun k late length => ?_
  refine optional_attempts (fun k' later ellipsis => ?_) "..." (laterAll all late) 1
  have related := related.later (Nat.le_trans late later)
  exact (plain_attempts related).next fun _ _ text => plain_result trivial

/-! ### Containers -/

private theorem size_impartial : Impartial l base size := by
  rintro σ _ n v _ args args' ⟨-, rfl⟩ _
  have sizes : size (v.renumbered σ) args' = size v args := by
    cases v
    case array items => simp only [size, renumbered, length_renumberedItems]
    case hash entries => simp only [size, renumbered, length_renumberedEntries]
    all_goals rfl
  rw [sizes]
  exact plain_result (sound_ofNat _)

private theorem first_impartial : Impartial l base first := by
  rintro σ _ n v _ args args' ⟨sound, rfl⟩ _
  cases v
  case array items =>
    have related : Counterpart l.nature σ n (.array items) _ := ⟨sound, rfl⟩
    have ends := related.member? "first"
    exact .pure fun _ later => (Counterpart.getD ends).later later
  all_goals exact plain_result trivial

private theorem last_impartial : Impartial l base last := by
  rintro σ _ n v _ args args' ⟨sound, rfl⟩ _
  cases v
  case array items =>
    have related : Counterpart l.nature σ n (.array items) _ := ⟨sound, rfl⟩
    have ends := related.member? "last"
    exact .pure fun _ later => (Counterpart.getD ends).later later
  all_goals exact plain_result trivial

/-- How `reverse` fails for what is no array. -/
theorem refused_attempts (related : Counterpart l.nature σ n v w) :
    (heaps l σ).Attempts n (Counterpart l.nature σ)
      (do throw (.render s!"reverse: expected array, got {(← v.read).typeName}"))
      (do throw (.render s!"reverse: expected array, got {(← w.read).typeName}")) := by
  refine (Attempts.lift (read_matches related)).bind fun k late u u' read => ?_
  rw [read.reading typeName (typeName_renumbered σ)]
  exact .throw _

private theorem reverse_impartial : Impartial l base reverse := by
  intro σ _ n v w args args' related _
  have refused := refused_attempts related
  obtain ⟨sound, rfl⟩ := related
  cases v
  case array items =>
    have turned : (renumberedItems σ items).reverse = renumberedItems σ items.reverse := by
      rw [renumberedItems_eq_map, renumberedItems_eq_map, List.map_reverse]
    have reversed : (array items.reverse).Sound l.nature n :=
      soundItems_iff.mpr fun v member => soundItems_iff.mp sound v (List.mem_reverse.mp member)
    simp only [reverse, renumbered, turned]
    exact .pure fun _ later => ⟨reversed.later later _, rfl⟩
  all_goals exact refused

private theorem join_impartial : Impartial l base join := by
  rintro σ _ n v w args args' related all
  refine optional_attempts (fun k late glue => ?_) " " all 0
  -- What is no array is joined as one text.
  have whole : (heaps l σ).Attempts k (Counterpart l.nature σ) (do return .str (← v.readPlain))
      (do return .str (← w.readPlain)) :=
    (plain_attempts (related.later late)).next fun _ _ _ => plain_result trivial
  obtain ⟨sound, rfl⟩ := related
  cases v
  case array items =>
    have texts : (renumberedItems σ items).map plain = items.map plain := by
      rw [renumberedItems_eq_map, List.map_map]
      exact List.map_congr_left fun v _ => plain_renumbered σ v
    refine (Attempts.lift (Pairing.compute _ _)).next fun _ _ _ => ?_
    rw [texts]
    exact plain_result trivial
  all_goals exact whole

private theorem default_impartial : Impartial l base default := by
  intro σ _ n v w args args' related all
  refine (arg_attempts "default" all 0).bind fun k late _ _ fallback => ?_
  refine (Attempts.lift (read_matches (related.later late))).bind fun k' later u u' read => ?_
  have taken : (u'.isTruthy && !u'.isEmpty) = (u.isTruthy && !u.isEmpty) :=
    read.reading (fun u => u.isTruthy && !u.isEmpty) fun u => by simp
  simp only [taken]
  split
  next =>
    have late := Nat.le_trans late later
    exact .pure fun _ later => related.later (Nat.le_trans late later)
  next => exact .pure fun _ later' => fallback.later (Nat.le_trans later later')

/-! ### All of them -/

private theorem standardFilters_impartial :
    ∀ entry ∈ standardFilters, Impartial l base entry.2 := by
  simp only [standardFilters, List.forall_mem_cons]
  exact ⟨calculate_impartial _ _, calculate_impartial _ _, calculate_impartial _ _,
    calculateNonzero_impartial _ _, calculateNonzero_impartial _ _, size_impartial,
    onText_impartial _, onText_impartial _, onText_impartial _, append_impartial,
    prepend_impartial, onText_impartial _, onText_impartial _, onText_impartial _,
    split_impartial, join_impartial, first_impartial, last_impartial, reverse_impartial,
    replace_impartial, remove_impartial, truncate_impartial, default_impartial,
    onText_impartial _, by simp⟩

theorem standard_impartial (name : String) (f : Filter) (held : standard.get? name = some f) :
    Impartial l base f := by
  unfold standard Bindings.ofPairs at held
  exact Bindings.holds_of_get?_overlay (fun _ _ found => nomatch found)
    standardFilters_impartial name f held

end Filter

end Liquid
