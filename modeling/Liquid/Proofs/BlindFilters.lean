import Liquid.Filter.Standard
import Liquid.Proofs.Blindness

/-!
# The standard filters are blind to laziness

Handed other versions of its input and its arguments, a standard filter gives a version of the same
value, or fails with the same error.
-/

namespace Liquid

open Value

/-- Gives versions of one value for all versions of its input and its arguments. -/
def Filter.Blind (f : Filter) : Prop :=
  ∀ {v w : Value} {args args' : List Value}, Twin v w → List.Forall₂ Version args args' →
    Eval.Alike Version (f v args) (f w args')

namespace Filter

variable {v w : Value} {args args' : List Value}

/-! ### Arguments -/

theorem argument_version (versions : List.Forall₂ Version args args') (index : Nat) :
    Option.Rel Version args[index]? args'[index]? := by
  induction versions generalizing index with
  | nil => exact .none
  | cons version _ ih =>
    cases index with
    | zero => exact .some version
    | succ index => exact ih index

theorem arg_alike (filter : String) (versions : List.Forall₂ Version args args') (index : Nat) :
    Eval.Alike Version (arg filter args index) (arg filter args' index) := by
  have given := argument_version versions index
  unfold arg
  generalize args[index]? = a, args'[index]? = a' at given
  cases given with
  | none => exact .throw _
  | some version => exact .pure version

theorem plain_alike (version : Version v w) :
    Eval.Alike Eq (liftM v.readPlain) (liftM w.readPlain) := .lift (readPlain_alike version)

theorem number_alike (filter : String) (version : Version v w) :
    Eval.Alike Eq (number filter v) (number filter w) := by
  refine (Eval.Alike.lift (readNumber?_alike version)).next fun n => ?_
  cases n with
  | some n => exact .pure rfl
  | none => exact (plain_alike version).next fun _ => .throw _

/-! ### Arithmetic -/

theorem calculate_blind (filter : String) (op : Number.Operation) :
    Blind (calculate filter op) := by
  intro v w args args' twin versions
  refine (number_alike filter twin.version).next fun left => ?_
  refine (arg_alike filter versions 0).bind fun _ _ given => ?_
  exact (number_alike filter given).next fun right => .pure .same

private theorem calculateNonzero_blind (filter : String) (op : Number.Operation) :
    Blind (calculateNonzero filter op) := by
  intro v w args args' twin versions
  refine (arg_alike filter versions 0).bind fun _ _ given => ?_
  refine (number_alike filter given).next fun divisor => ?_
  -- Both sides divide by the same number, so both do or both fail.
  cases divisor.isZero with
  | true => exact .throw _
  | false => exact calculate_blind filter op twin versions

/-! ### Texts -/

theorem onText_blind (f : String → String) : Blind (onText f) := by
  intro v w args args' twin _
  exact (plain_alike twin.version).next fun text => .pure .same

private theorem append_blind : Blind append := by
  intro v w args args' twin versions
  refine (arg_alike "append" versions 0).bind fun _ _ given => ?_
  refine (plain_alike twin.version).next fun text => ?_
  exact (plain_alike given).next fun suffix => .pure .same

/-- The text of the first argument, then that of the input. -/
theorem texts_alike (filter : String) (f : String → String → Value) (version : Version v w)
    (versions : List.Forall₂ Version args args') :
    Eval.Alike Version
      (do
        let given ← (← arg filter args 0).readPlain
        return f given (← v.readPlain))
      (do
        let given ← (← arg filter args' 0).readPlain
        return f given (← w.readPlain)) := by
  refine (arg_alike filter versions 0).bind fun _ _ first => ?_
  refine (plain_alike first).next fun given => ?_
  exact (plain_alike version).next fun text => .pure .same

private theorem prepend_blind : Blind prepend := by
  intro v w args args' twin versions
  exact texts_alike "prepend" (fun front text => .str (front ++ text)) twin.version versions

private theorem split_blind : Blind split := by
  intro v w args args' twin versions
  let pieces (pattern text : String) : List String :=
    if pattern.isEmpty then charTexts text else splitText text pattern
  exact texts_alike "split" (fun pattern text => .array ((pieces pattern text).map .str))
    twin.version versions

private theorem replace_blind : Blind replace := by
  intro v w args args' twin versions
  refine (arg_alike "replace" versions 0).bind fun _ _ first => ?_
  refine (plain_alike first).next fun pattern => ?_
  refine (arg_alike "replace" versions 1).bind fun _ _ second => ?_
  refine (plain_alike second).next fun replacement => ?_
  exact (plain_alike twin.version).next fun text => .pure .same

private theorem remove_blind : Blind remove := by
  intro v w args args' twin versions
  exact texts_alike "remove" (fun pattern text => .str (replaced pattern "" text)) twin.version
    versions

private theorem truncateLength_alike (versions : List.Forall₂ Version args args') :
    Eval.Alike Eq (truncateLength args) (truncateLength args') := by
  have given := argument_version versions 0
  unfold truncateLength
  generalize args[0]? = a, args'[0]? = a' at given
  cases given with
  | none => exact .pure rfl
  | some version =>
    refine (Eval.Alike.lift (readInt?_alike version)).next fun i => ?_
    cases i with
    | some i => exact .pure rfl
    | none => exact (plain_alike version).next fun _ => .throw _

/-- An argument that may be left out. -/
theorem optional_alike {f g : String → Eval Value} (rest : ∀ s, Eval.Alike Version (f s) (g s))
    (absent : String) (versions : List.Forall₂ Version args args') (index : Nat) :
    Eval.Alike Version
      (match args[index]? with
        | some v => do f (← v.readPlain)
        | none => do f (← pure absent))
      (match args'[index]? with
        | some v => do g (← v.readPlain)
        | none => do g (← pure absent)) := by
  have given := argument_version versions index
  generalize args[index]? = a, args'[index]? = a' at given
  cases given with
  | none => exact (Eval.Alike.pure rfl).next rest
  | some version => exact (plain_alike version).next rest

private theorem truncate_blind : Blind truncate := by
  intro v w args args' twin versions
  refine (truncateLength_alike versions).next fun length => ?_
  refine optional_alike (fun ellipsis => ?_) "..." versions 1
  exact (plain_alike twin.version).next fun text => .pure .same

/-! ### Containers -/

private theorem size_blind : Blind size := by
  intro v w args args' twin _
  cases twin with
  | same => exact .pure .same
  | forced bare =>
    have sizes : size v.forced args' = size v args := by
      cases v
      case array items => simp only [size, forced, length_forcedItems]
      case hash entries => simp only [size, forced, length_forcedEntries]
      -- What is left holds nothing, or is lazy and has no twin but itself.
      all_goals first | rfl | contradiction
    rw [sizes]
    exact .pure .same

private theorem first_blind : Blind first := by
  intro v w args args' twin _
  cases twin with
  | same => exact .pure .same
  | forced bare =>
    cases v
    case array items =>
      cases items with
      | nil => exact .pure .same
      | cons item _ => exact .pure .forced
    all_goals first | exact .pure .same | contradiction

private theorem last_blind : Blind last := by
  intro v w args args' twin _
  cases twin with
  | same => exact .pure .same
  | forced bare =>
    cases v
    case array items =>
      have ends : (forcedItems items).getLast?.getD .nil = (items.getLast?.getD .nil).forced := by
        rw [forcedItems_eq_map, List.getLast?_map]
        cases items.getLast? <;> rfl
      simp only [last, forced, ends]
      exact .pure .forced
    all_goals first | exact .pure .same | contradiction

/-- How `reverse` fails for what is no array. -/
theorem refused_alike (version : Version v w) :
    Eval.Alike Version
      (do throw (.render s!"reverse: expected array, got {(← v.read).typeName}"))
      (do throw (.render s!"reverse: expected array, got {(← w.read).typeName}")) := by
  refine (Eval.Alike.lift (read_alike version)).bind fun u u' read => ?_
  rw [read.version.reading typeName typeName_forced]
  exact .throw _

private theorem reverse_blind : Blind reverse := by
  intro v w args args' twin _
  have refused := refused_alike twin.version
  cases v
  case array items =>
    cases twin with
    | same => exact .pure .same
    | forced _ =>
      have turned : (forcedItems items).reverse = forcedItems items.reverse := by
        rw [forcedItems_eq_map, forcedItems_eq_map, List.map_reverse]
      simp only [reverse, forced, turned]
      exact .pure .forced
  all_goals cases twin <;> first | exact refused | contradiction

private theorem texts_version {items others : List Value}
    (versions : List.Forall₂ Version items others) :
    others.map plain = items.map plain := by
  induction versions with
  | nil => rfl
  | cons version _ ih => rw [List.map_cons, List.map_cons, ih, version.reading plain plain_forced]

private theorem join_blind : Blind join := by
  intro v w args args' twin versions
  refine optional_alike (fun glue => ?_) " " versions 0
  -- What is no array is joined as one text.
  have whole : Eval.Alike Version (do return .str (← v.readPlain))
      (do return .str (← w.readPlain)) := (plain_alike twin.version).next fun _ => .pure .same
  cases v
  case array items =>
    obtain ⟨others, rfl, versions⟩ := twin.version.array
    refine (Eval.Alike.lift (Live.Alike.compute _ _)).next fun _ => ?_
    rw [texts_version versions]
    exact .pure .same
  all_goals cases twin <;> first | exact whole | contradiction

private theorem default_blind : Blind default := by
  intro v w args args' twin versions
  refine (arg_alike "default" versions 0).bind fun _ _ fallback => ?_
  refine (Eval.Alike.lift (read_alike twin.version)).bind fun u u' read => ?_
  have taken : (u'.isTruthy && !u'.isEmpty) = (u.isTruthy && !u.isEmpty) :=
    read.version.reading (fun u => u.isTruthy && !u.isEmpty) fun u => by simp
  simp only [taken]
  split
  next => exact .pure twin.version
  next => exact .pure fallback

/-! ### All of them -/

private theorem standardFilters_blind : ∀ entry ∈ standardFilters, Blind entry.2 := by
  simp only [standardFilters, List.forall_mem_cons]
  exact ⟨calculate_blind _ _, calculate_blind _ _, calculate_blind _ _, calculateNonzero_blind _ _,
    calculateNonzero_blind _ _, size_blind, onText_blind _, onText_blind _, onText_blind _,
    append_blind, prepend_blind, onText_blind _, onText_blind _, onText_blind _, split_blind,
    join_blind, first_blind, last_blind, reverse_blind, replace_blind, remove_blind,
    truncate_blind, default_blind, onText_blind _, by simp⟩

private theorem standard_blind (name : String) (f : Filter) (held : standard.get? name = some f) :
    Blind f := by
  unfold standard Bindings.ofPairs at held
  exact Bindings.holds_of_get?_overlay (fun _ _ found => nomatch found) standardFilters_blind
    name f held

theorem apply_alike (name : String) (twin : Twin v w)
    (versions : List.Forall₂ Version args args') :
    Eval.Alike Version (apply standard name v args) (apply standard name w args') := by
  unfold apply
  split
  next f held => exact standard_blind name f held twin versions
  next => exact .throw _

end Filter

end Liquid
