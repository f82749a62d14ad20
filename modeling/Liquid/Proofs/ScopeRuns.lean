import Liquid.Proofs.ScopeDiscipline
import Mathlib.Data.List.Induction
import Mathlib.Data.List.Infix

/-!
# Runs on the scopes

Whatever is rendered does four things to the scopes: it pushes a frame, pops one, binds a name in
the innermost frame, or assigns it in the outermost. Here such steps follow one another in any
order. What a name stands for behind them is read off the steps themselves: each step that binds
the name does so in the frame of some level, and its binding stands as long as that frame is open.

## Main result

`Render.shadowing`: of the bindings of a name that stand, the latest in the innermost frame counts.
Without any, the name stands for what the assigns of the render, the data, the store, or the globals
hold, in this order. Popping a frame brings back what it hid, and an assign is never popped.

## Proof strategy

Each frame reflects the steps: it binds just the names that have a standing binding at its level,
each to the latest. One more step makes all standing bindings older by one, closes those of the
frame that it pops, and adds its own, and this is what it does to the frames.
-/

namespace Liquid

inductive ScopeStep where
  | push
  | pop
  | set (name : String) (v : Value)
  | assign (name : String) (v : Value)

namespace ScopeStep

def run : ScopeStep → Render Unit
  | push => Render.push
  | pop => Render.pop
  | set name v => Render.set name v
  | assign name v => Render.assign name v

def runAll : List ScopeStep → Render Unit
  | [] => pure ()
  | step :: rest => do
    step.run
    runAll rest

/-! ### What can be read off the steps -/

/-- How many frames are open behind a step. The outermost one is never popped. -/
def depthAfter (before : Nat) : ScopeStep → Nat
  | push => before + 1
  | pop => max 1 (before - 1)
  | set _ _ => before
  | assign _ _ => before

def depthOf (steps : List ScopeStep) : Nat := steps.foldl depthAfter 1

/-- The name that a step binds. -/
def name? : ScopeStep → Option String
  | set name _ => some name
  | assign name _ => some name
  | _ => none

/-- What a step binds a name to, and at which level: in the innermost frame of so many, or in
the outermost. -/
def binds? (innermost : Nat) (name : String) : ScopeStep → Option (Nat × Value)
  | set other v => if other = name then some (innermost, v) else none
  | assign other v => if other = name then some (1, v) else none
  | _ => none

/-- Behind the first steps, the others never close the frame at a level. -/
def StaysOpen (level : Nat) (first others : List ScopeStep) : Prop :=
  ∀ early, early <+: others → level ≤ depthOf (first ++ early)

/-- The name was bound to the value at this level, so many steps ago, and the frame it was bound in
is still open. -/
def Stands (steps : List ScopeStep) (name : String) (level age : Nat) (v : Value) : Prop :=
  ∃ before step after, steps = before ++ step :: after ∧ after.length = age ∧
    step.binds? (depthOf before) name = some (level, v) ∧
    StaysOpen level (before ++ [step]) after

/-- The latest of the standing bindings in the innermost frame that has any. -/
def Governs (steps : List ScopeStep) (name : String) (v : Value) : Prop :=
  ∃ level age, Stands steps name level age v ∧
    ∀ level' age' v', Stands steps name level' age' v' →
      level' < level ∨ level' = level ∧ age ≤ age'

/-- The bindings that the assigns among the steps give. -/
def assigned (steps : List ScopeStep) : List (String × Value) :=
  steps.filterMap fun
    | assign name v => some (name, v)
    | _ => none

/-! ### Levels -/

variable {steps before after : List ScopeStep} {step : ScopeStep} {name : String}
  {level age : Nat} {v : Value}

theorem depthOf_concat (steps : List ScopeStep) (step : ScopeStep) :
    depthOf (steps ++ [step]) = step.depthAfter (depthOf steps) := by
  rw [depthOf, List.foldl_append]
  rfl

theorem depthOf_pos (steps : List ScopeStep) : 1 ≤ depthOf steps := by
  induction steps using List.reverseRecOn with
  | nil => exact Nat.le_refl 1
  | append_singleton steps step ih =>
    rw [depthOf_concat]
    cases step with
    | push => exact Nat.le_add_left 1 _
    | pop => exact Nat.le_max_left 1 _
    | set _ _ | assign _ _ => exact ih

theorem level_of_binds? (binds : step.binds? (depthOf steps) name = some (level, v)) :
    1 ≤ level ∧ level ≤ depthOf steps ∧ depthOf (steps ++ [step]) = depthOf steps := by
  rw [depthOf_concat]
  have pos := depthOf_pos steps
  cases step with
  | push | pop => cases binds
  | set other w =>
    simp only [binds?] at binds
    split at binds
    next =>
      cases binds
      exact ⟨pos, Nat.le_refl _, rfl⟩
    next => cases binds
  | assign other w =>
    simp only [binds?] at binds
    split at binds
    next =>
      cases binds
      exact ⟨Nat.le_refl 1, pos, rfl⟩
    next => cases binds

private theorem name?_of_binds? (binds : step.binds? level name = some (age, v)) :
    step.name? = some name := by
  cases step with
  | push | pop => cases binds
  | set other w | assign other w =>
    simp only [binds?] at binds
    split at binds
    next same => rw [name?, same]
    next => cases binds

/-! ### Standing bindings -/

theorem Stands.level_le (stands : Stands steps name level age v) : level ≤ depthOf steps := by
  obtain ⟨before, step, after, rfl, _, _, stays⟩ := stands
  simpa using stays after List.prefix_rfl

private theorem Stands.level_pos (stands : Stands steps name level age v) : 1 ≤ level := by
  obtain ⟨before, step, after, _, _, binds, _⟩ := stands
  exact (level_of_binds? binds).1

theorem staysOpen_concat : StaysOpen level before (after ++ [step]) ↔
    StaysOpen level before after ∧ level ≤ depthOf (before ++ (after ++ [step])) := by
  constructor
  · intro stays
    exact ⟨fun early first => stays early (first.trans (List.prefix_append after [step])),
      stays _ List.prefix_rfl⟩
  · rintro ⟨stays, last⟩ early first
    rcases List.prefix_concat_iff.mp first with rfl | first
    · exact last
    · exact stays early first

instance : Decidable (StaysOpen level before after) :=
  decidable_of_iff (∀ early ∈ after.inits, level ≤ depthOf (before ++ early)) <| by
    simp only [StaysOpen, List.mem_inits]

/-- One step more makes standing bindings older, unless it closes their frame, and may add one. -/
theorem stands_concat : Stands (steps ++ [step]) name level age v ↔
    (age = 0 ∧ step.binds? (depthOf steps) name = some (level, v)) ∨
    ∃ earlier, age = earlier + 1 ∧ Stands steps name level earlier v ∧
      level ≤ depthOf (steps ++ [step]) := by
  constructor
  · rintro ⟨before, binding, after, whole, rfl, binds, stays⟩
    -- The last step made the binding, or it comes behind the one that did.
    induction after using List.reverseRecOn with
    | nil =>
      obtain ⟨rfl, last⟩ := List.append_inj' whole rfl
      cases last
      exact .inl ⟨rfl, binds⟩
    | append_singleton after last =>
      rw [← List.cons_append, ← List.append_assoc] at whole
      obtain ⟨rfl, last⟩ := List.append_inj' whole rfl
      cases last
      obtain ⟨stays, last⟩ := staysOpen_concat.mp stays
      refine .inr ⟨after.length, by simp, ⟨before, binding, after, rfl, rfl, binds, stays⟩, ?_⟩
      simpa using last
  · rintro (⟨rfl, binds⟩ | ⟨earlier, rfl, ⟨before, binding, after, rfl, rfl, binds, stays⟩, last⟩)
    · refine ⟨steps, step, [], rfl, rfl, binds, fun early first => ?_⟩
      obtain ⟨_, below, same⟩ := level_of_binds? binds
      rw [List.prefix_nil.mp first, List.append_nil, same]
      exact below
    · refine ⟨before, binding, after ++ [step], by simp, by simp, binds, ?_⟩
      exact staysOpen_concat.mpr ⟨stays, by simpa using last⟩

/-- At most one binding was made so many steps ago. -/
theorem Stands.unique {level' : Nat} {v' : Value} (stands : Stands steps name level age v)
    (other : Stands steps name level' age v') : level' = level ∧ v' = v := by
  obtain ⟨before, step, after, rfl, rfl, binds, _⟩ := stands
  obtain ⟨before', step', after', whole, age, binds', _⟩ := other
  obtain ⟨rfl, same⟩ := List.append_inj' whole (by simp [age])
  rw [List.cons.injEq] at same
  rw [← same.1, binds, Option.some.injEq, Prod.mk.injEq] at binds'
  exact ⟨binds'.1.symm, binds'.2.symm⟩

theorem Governs.unique {v' : Value} (governs : Governs steps name v)
    (other : Governs steps name v') : v' = v := by
  obtain ⟨level, age, stands, latest⟩ := governs
  obtain ⟨level', age', stands', latest'⟩ := other
  have one := latest level' age' v' stands'
  have two := latest' level age v stands
  obtain rfl : age' = age := by omega
  exact (stands.unique stands').2

/-- A standing binding is made by one of the later steps, or by the step itself, or before it and
then at an open level. -/
theorem Stands.place (stands : Stands (before ++ step :: after) name level age v) :
    (∃ later ∈ after, later.name? = some name) ∨
    (age = after.length ∧ step.binds? (depthOf before) name = some (level, v)) ∨
    (after.length < age ∧ level ≤ depthOf before) := by
  obtain ⟨front, binding, rest, whole, rfl, binds, stays⟩ := stands
  rcases List.append_eq_append_iff.mp whole with ⟨between, rfl, same⟩ | ⟨between, rfl, same⟩
  · -- The binding step is the step itself or one of those behind it.
    cases between with
    | nil =>
      cases same
      rw [List.append_nil] at binds
      exact .inr (.inl ⟨rfl, binds⟩)
    | cons first between =>
      rw [List.cons_append, List.cons.injEq] at same
      obtain ⟨_, rfl⟩ := same
      exact .inl ⟨binding, by simp, name?_of_binds? binds⟩
  · cases between with
    | nil =>
      cases same
      exact .inr (.inl ⟨rfl, by simpa using binds⟩)
    | cons first between =>
      rw [List.cons_append, List.cons.injEq] at same
      obtain ⟨rfl, rfl⟩ := same
      refine .inr (.inr ⟨?_, ?_⟩)
      · rw [List.length_append, List.length_cons]
        omega
      · simpa using stays between (List.prefix_append _ _)

private theorem governs_of_stands
    (stands : Stands (before ++ step :: after) name level after.length v)
    (unbound : ∀ later ∈ after, later.name? ≠ some name)
    (innermost : ∀ level' age' v', Stands (before ++ step :: after) name level' age' v' →
      level' ≤ level) : Governs (before ++ step :: after) name v := by
  refine ⟨level, after.length, stands, fun level' age' v' other => ?_⟩
  have below := innermost level' age' v' other
  rcases other.place with ⟨later, member, binds⟩ | ⟨same, _⟩ | ⟨older, _⟩
  · exact absurd binds (unbound later member)
  · omega
  · omega

/-! ### Frames -/

/-- What a frame at this level holds for a name by the steps: the latest standing binding. -/
def ReflectsAt (steps : List ScopeStep) (level : Nat) (name : String) : Option Value → Prop
  | some v => ∃ age, Stands steps name level age v ∧
    ∀ age' v', Stands steps name level age' v' → age ≤ age'
  | none => ∀ age v, ¬ Stands steps name level age v

def Reflects (steps : List ScopeStep) (level : Nat) (frame : Bindings Value) : Prop :=
  ∀ name, ReflectsAt steps level name (frame.get? name)

/-- The same for the frames above the outermost, from the innermost on. -/
def ReflectsAll (steps : List ScopeStep) : List (Bindings Value) → Prop
  | [] => True
  | frame :: rest => Reflects steps (rest.length + 2) frame ∧ ReflectsAll steps rest

structure Reflected (steps : List ScopeStep) (s : Scopes) : Prop where
  depth : s.depth = depthOf steps
  outermost : Reflects steps 1 s.outermost
  inner : ReflectsAll steps s.inner

section

variable {frame : Bindings Value} {frames : List (Bindings Value)}

/-- A step that neither closes the frame nor binds the name in it makes the bindings older. -/
theorem ReflectsAt.kept {found : Option Value} (held : ReflectsAt steps level name found)
    (stays : level ≤ depthOf (steps ++ [step]))
    (other : ∀ v, step.binds? (depthOf steps) name ≠ some (level, v)) :
    ReflectsAt (steps ++ [step]) level name found := by
  cases found with
  | none =>
    intro age v stands
    rcases stands_concat.mp stands with ⟨_, binds⟩ | ⟨earlier, _, stands, _⟩
    · exact other v binds
    · exact held earlier v stands
  | some v =>
    obtain ⟨age, stands, latest⟩ := held
    refine ⟨age + 1, stands_concat.mpr (.inr ⟨age, rfl, stands, stays⟩), fun age' v' stands => ?_⟩
    rcases stands_concat.mp stands with ⟨_, binds⟩ | ⟨earlier, rfl, stands, _⟩
    · exact absurd binds (other v')
    · exact Nat.succ_le_succ (latest earlier v' stands)

theorem Reflects.kept (reflects : Reflects steps level frame)
    (stays : level ≤ depthOf (steps ++ [step]))
    (other : ∀ name v, step.binds? (depthOf steps) name ≠ some (level, v)) :
    Reflects (steps ++ [step]) level frame := fun name => (reflects name).kept stays (other name)

/-- The frame that a step binds in. -/
theorem Reflects.insert (reflects : Reflects steps level frame)
    (binds : ∀ other, step.binds? (depthOf steps) other =
      if name = other then some (level, v) else none) :
    Reflects (steps ++ [step]) level (frame.insert name v) := by
  obtain ⟨_, below, same⟩ := level_of_binds? ((binds name).trans (if_pos rfl))
  intro other
  rw [Bindings.get?_insert]
  by_cases new : name = other
  · rw [if_pos new]
    have bound := (binds other).trans (if_pos new)
    exact ⟨0, stands_concat.mpr (.inl ⟨rfl, bound⟩), fun _ _ _ => Nat.zero_le _⟩
  · rw [if_neg new]
    refine (reflects other).kept (same ▸ below) fun w bound => ?_
    rw [binds other, if_neg new] at bound
    cases bound

theorem ReflectsAll.kept (reflects : ReflectsAll steps frames)
    (stays : frames.length + 1 ≤ depthOf (steps ++ [step]))
    (other : ∀ name level v, step.binds? (depthOf steps) name = some (level, v) →
      level = 1 ∨ frames.length + 1 < level) :
    ReflectsAll (steps ++ [step]) frames := by
  induction frames with
  | nil => trivial
  | cons frame rest ih =>
    rw [List.length_cons] at stays other
    refine ⟨reflects.1.kept (by omega) fun name v binds => ?_,
      ih reflects.2 (by omega) fun name level v binds => ?_⟩
    · have := other name _ v binds
      omega
    · have := other name level v binds
      omega

end

/-! ### Steps on frames -/

/-- What a step makes of the scopes. -/
def act (s : Scopes) : ScopeStep → Scopes
  | push => s.push
  | pop => s.pop
  | set name v => s.set name v
  | assign name v => s.assign name v

theorem Reflected.act {s : Scopes} (reflected : Reflected steps s) (step : ScopeStep) :
    Reflected (steps ++ [step]) (step.act s) := by
  obtain ⟨outermost, inner⟩ := s
  obtain ⟨deep, outer, frames⟩ := reflected
  change inner.length + 1 = depthOf steps at deep
  change Reflects steps 1 outermost at outer
  change ReflectsAll steps inner at frames
  have next := depthOf_concat steps step
  have pos := depthOf_pos (steps ++ [step])
  cases step with
  | push =>
    rw [depthAfter] at next
    -- Nothing stands at the level of the new frame.
    have free : Reflects (steps ++ [push]) (inner.length + 2) Bindings.empty := by
      intro name age v stands
      rcases stands_concat.mp stands with ⟨_, binds⟩ | ⟨_, _, stands, _⟩
      · cases binds
      · have := stands.level_le
        omega
    refine ⟨?_, outer.kept pos fun _ _ => nofun, free, frames.kept (by omega) fun _ _ _ => nofun⟩
    exact (congrArg (· + 1) deep).trans next.symm
  | pop =>
    have outer := outer.kept pos fun _ _ => nofun
    rw [depthAfter] at next
    cases inner with
    | nil =>
      refine ⟨?_, outer, trivial⟩
      change 1 = _
      rw [List.length_nil] at deep
      omega
    | cons frame rest =>
      rw [List.length_cons] at deep
      refine ⟨?_, outer, frames.2.kept (by omega) fun _ _ _ => nofun⟩
      change rest.length + 1 = _
      omega
  | set name v =>
    rw [depthAfter] at next
    have here (other : String) (level : Nat) (w : Value)
        (binds : (set name v).binds? (depthOf steps) other = some (level, w)) :
        level = depthOf steps := by
      simp only [binds?] at binds
      split at binds
      next => exact (Prod.mk.inj (Option.some.inj binds)).1.symm
      next => cases binds
    -- Without a pushed frame the innermost one is the outermost.
    cases inner with
    | nil =>
      have one : depthOf steps = 1 := deep.symm
      refine ⟨deep.trans next.symm, outer.insert fun other => ?_, trivial⟩
      rw [binds?, one]
    | cons frame rest =>
      rw [List.length_cons] at deep
      refine ⟨deep.trans next.symm, outer.kept pos fun other w binds => ?_,
        frames.1.insert fun other => ?_, frames.2.kept (by omega) fun other level w binds => ?_⟩
      · have := here other 1 w binds
        omega
      · rw [binds?, ← deep]
      · have := here other level w binds
        omega
  | assign name v =>
    rw [depthAfter] at next
    refine ⟨deep.trans next.symm, outer.insert fun _ => rfl,
      frames.kept (by omega) fun other level w binds => .inl ?_⟩
    simp only [binds?] at binds
    split at binds
    next => exact (Prod.mk.inj (Option.some.inj binds)).1.symm
    next => cases binds

theorem reflected_of_new (steps : List ScopeStep) :
    Reflected steps (steps.foldl act Scopes.new) := by
  induction steps using List.reverseRecOn with
  | nil =>
    refine ⟨rfl, fun name age v stands => ?_, trivial⟩
    obtain ⟨before, step, after, whole, _⟩ := stands
    simp at whole
  | append_singleton steps step ih =>
    rw [List.foldl_append]
    exact ih.act step

/-- What the frames up to a depth hold for a name by the steps: the latest binding in the innermost
of them that has any. -/
def Answers (steps : List ScopeStep) (depth : Nat) (name : String) : Option Value → Prop
  | some v => ∃ level age, level ≤ depth ∧ Stands steps name level age v ∧
    ∀ level' age' v', level' ≤ depth → Stands steps name level' age' v' →
      level' < level ∨ level' = level ∧ age ≤ age'
  | none => ∀ level age v, level ≤ depth → ¬ Stands steps name level age v

private theorem answers_zero : Answers steps 0 name none := fun level _ _ below stands => by
  have := stands.level_pos
  omega

/-- One frame more hides those outside where it binds the name. -/
theorem Answers.within {depth : Nat} {found outside : Option Value}
    (outer : Answers steps depth name outside) (held : ReflectsAt steps (depth + 1) name found) :
    Answers steps (depth + 1) name (found.or outside) := by
  cases found with
  | some v =>
    obtain ⟨age, stands, latest⟩ := held
    refine ⟨depth + 1, age, Nat.le_refl _, stands, fun level' age' v' below other => ?_⟩
    by_cases same : level' = depth + 1
    · subst same
      exact .inr ⟨rfl, latest age' v' other⟩
    · exact .inl (by omega)
  | none =>
    have free (level age : Nat) (v : Value) (stands : Stands steps name level age v)
        (below : level ≤ depth + 1) : level ≤ depth := by
      by_cases same : level = depth + 1
      · subst same
        exact absurd stands (held age v)
      · omega
    cases outside with
    | some v =>
      obtain ⟨level, age, below, stands, latest⟩ := outer
      exact ⟨level, age, by omega, stands, fun level' age' v' below' other =>
        latest level' age' v' (free level' age' v' other below') other⟩
    | none =>
      exact fun level age v below stands => outer level age v (free level age v stands below) stands

theorem ReflectsAll.getFrom? {outermost : Bindings Value} {frames : List (Bindings Value)}
    (inner : ReflectsAll steps frames) (outer : Reflects steps 1 outermost) (name : String) :
    Answers steps (frames.length + 1) name (Scopes.getFrom? outermost name frames) := by
  induction frames with
  | nil =>
    have held := answers_zero.within (outer name)
    rw [Option.or_none] at held
    exact held
  | cons frame rest ih =>
    have held := (ih inner.2).within (inner.1 name)
    rw [Scopes.getFrom?]
    cases found : frame.get? name <;> rw [found] at held <;> exact held

/-! ### Popped frames -/

theorem assigned_append (first others : List ScopeStep) :
    assigned (first ++ others) = assigned first ++ assigned others := List.filterMap_append

private theorem mem_assigned : (name, v) ∈ assigned steps ↔ assign name v ∈ steps := by
  rw [assigned, List.mem_filterMap]
  constructor
  · rintro ⟨step, among, gives⟩
    cases step with
    | push | pop | set _ _ => cases gives
    | assign _ _ =>
      cases gives
      exact among
  · exact fun among => ⟨assign name v, among, rfl⟩

section

variable {s : Scopes} {top : Bindings Value} {own base : List (Bindings Value)}

/-- A step that does not close the first frame above some others leaves these alone. -/
theorem act_above (above : s.inner = top :: (own ++ base)) (step : ScopeStep)
    (stays : base.length + 2 ≤ (step.act s).depth) :
    (∃ top own, (step.act s).inner = top :: (own ++ base)) ∧
    (step.act s).outermost = s.outermost.overlay ⟨assigned [step]⟩ := by
  obtain ⟨outermost, inner⟩ := s
  cases above
  cases step with
  | push => exact ⟨⟨Bindings.empty, top :: own, rfl⟩, rfl⟩
  | pop =>
    refine ⟨?_, rfl⟩
    cases own with
    | nil =>
      change base.length + 2 ≤ base.length + 1 at stays
      omega
    | cons next own => exact ⟨next, own, rfl⟩
  | set name v => exact ⟨⟨top.insert name v, own, rfl⟩, rfl⟩
  | assign name v => exact ⟨⟨top, own, rfl⟩, rfl⟩

/-- So does a run. -/
theorem foldl_act_above {first : List ScopeStep}
    (begun : (first.foldl act Scopes.new).inner = top :: (own ++ base)) {body : List ScopeStep}
    (stays : StaysOpen (base.length + 2) first body) :
    (∃ top own, ((first ++ body).foldl act Scopes.new).inner = top :: (own ++ base)) ∧
    ((first ++ body).foldl act Scopes.new).outermost =
      (first.foldl act Scopes.new).outermost.overlay ⟨assigned body⟩ := by
  induction body using List.reverseRecOn with
  | nil =>
    rw [List.append_nil]
    exact ⟨⟨top, own, begun⟩, rfl⟩
  | append_singleton body step ih =>
    obtain ⟨stays, last⟩ := staysOpen_concat.mp stays
    obtain ⟨⟨top, own, above⟩, outer⟩ := ih stays
    rw [← List.append_assoc] at last ⊢
    rw [← (reflected_of_new _).depth, List.foldl_append] at last
    obtain ⟨inner, assigned⟩ := act_above above step last
    rw [List.foldl_append]
    refine ⟨inner, assigned.trans ?_⟩
    rw [outer, assigned_append, Bindings.overlay_append]

end

/-- What was done in a frame is gone with it, but for the assigns. -/
theorem foldl_act_popped {first body : List ScopeStep}
    (stays : StaysOpen (depthOf first + 1) (first ++ [push]) body)
    (innermost : depthOf (first ++ push :: body) = depthOf first + 1) :
    (first ++ push :: (body ++ [pop])).foldl act Scopes.new =
      { first.foldl act Scopes.new with
        outermost := (first.foldl act Scopes.new).outermost.overlay ⟨assigned body⟩ } := by
  have deep := (reflected_of_new first).depth
  have deeper := (reflected_of_new (first ++ push :: body)).depth
  have begun : ((first ++ [push]).foldl act Scopes.new).inner =
      Bindings.empty :: ([] ++ (first.foldl act Scopes.new).inner) := by
    rw [List.foldl_append]
    rfl
  rw [← deep] at stays
  obtain ⟨⟨top, own, inner⟩, outer⟩ := foldl_act_above begun stays
  rw [List.append_assoc, List.singleton_append] at inner outer
  -- No other frame is left above the one that is popped.
  obtain rfl : own = [] := by
    rw [innermost, ← deep, Scopes.depth, Scopes.depth, inner, List.length_cons,
      List.length_append] at deeper
    exact List.eq_nil_of_length_eq_zero (by omega)
  rw [← List.cons_append, ← List.append_assoc, List.foldl_append]
  refine Scopes.mk.injEq .. ▸ ⟨?_, ?_⟩
  · refine outer.trans ?_
    rw [List.foldl_append]
    rfl
  · exact congrArg List.tail inner

/-! ### Runs in a render -/

private theorem run_apply (step : ScopeStep) (s : Setting) (p : Progress) :
    step.run s p = (.ok (), { p with
      scopes := step.act p.scopes
      store := if s.persists then p.store.overlay ⟨assigned [step]⟩ else p.store }) := by
  cases step with
  | push | pop | set _ _ =>
    cases s.persists <;> rfl
  | assign _ _ => rfl

theorem runAll_apply (steps : List ScopeStep) (s : Setting) (p : Progress) :
    runAll steps s p = (.ok (), { p with
      scopes := steps.foldl act p.scopes
      store := if s.persists then p.store.overlay ⟨assigned steps⟩ else p.store }) := by
  induction steps generalizing p with
  | nil => cases s.persists <;> rfl
  | cons step rest ih =>
    have store : p.store.overlay ⟨assigned (step :: rest)⟩ =
        (p.store.overlay ⟨assigned [step]⟩).overlay ⟨assigned rest⟩ := by
      rw [← Bindings.overlay_append, ← assigned_append]
      rfl
    rw [runAll, Render.bind_ok (step.run_apply s p), ih, store]
    cases s.persists <;> rfl

end ScopeStep

theorem Bindings.get?_overlay {α : Type} (b : Bindings α) (entries : List (String × α))
    (name : String) :
    (b.overlay ⟨entries⟩).get? name = ((ofPairs entries).get? name).or (b.get? name) := by
  induction entries using List.reverseRecOn with
  | nil => rfl
  | append_singleton entries entry ih =>
    obtain ⟨key, v⟩ := entry
    rw [ofPairs, overlay_append, overlay_append]
    change ((b.overlay ⟨entries⟩).insert key v).get? name =
      (((ofPairs entries).insert key v).get? name).or (b.get? name)
    rw [get?_insert, get?_insert, ih]
    split <;> rfl

/-! ### Names -/

namespace ScopeStep

variable {steps : List ScopeStep} {name : String} {v : Value}

/-- A name that is bound by no frame stands for what holds it first: the assigns of the render, the
data, the store, the globals. -/
def beneath (options : List (String × Value)) (data store globals : Bindings Value)
    (name : String) : Value :=
  (((Bindings.ofPairs options).get? name).or
    ((data.get? name).or ((store.get? name).or (globals.get? name)))).getD .nil

/-- An assign stands for good. -/
theorem stands_of_assign {before after : List ScopeStep} :
    Stands (before ++ assign name v :: after) name 1 after.length v :=
  ⟨before, assign name v, after, rfl, rfl, if_pos rfl, fun _ _ => depthOf_pos _⟩

private theorem exists_stands_of_assigned (member : (name, v) ∈ assigned steps) :
    ∃ age, Stands steps name 1 age v := by
  obtain ⟨before, after, rfl⟩ := List.append_of_mem (mem_assigned.mp member)
  exact ⟨after.length, stands_of_assign⟩

theorem answers_get? (steps : List ScopeStep) (name : String) :
    Answers steps (depthOf steps) name ((steps.foldl act Scopes.new).get? name) := by
  have reflected := reflected_of_new steps
  rw [← reflected.depth]
  exact reflected.inner.getFrom? reflected.outermost name

theorem Answers.governs (answers : Answers steps (depthOf steps) name (some v)) :
    Governs steps name v := by
  obtain ⟨level, age, _, stands, latest⟩ := answers
  exact ⟨level, age, stands, fun level' age' v' other =>
    latest level' age' v' other.level_le other⟩

theorem Answers.unbound (answers : Answers steps (depthOf steps) name none) (level age : Nat)
    (v : Value) : ¬ Stands steps name level age v := fun stands =>
  answers level age v stands.level_le stands

end ScopeStep

/-! ### Main result -/

namespace Render

open ScopeStep

section

variable {s : Setting} {options : List (String × Value)} {data store : Bindings Value}
  {heap : Heap} {steps : List ScopeStep} {name : String} {v : Value}

/-- Behind the steps, from a new context. -/
def behind (s : Setting) (store : Bindings Value) (heap : Heap) (steps : List ScopeStep) :
    Progress := (runAll steps s (Template.start store heap)).2

theorem behind_scopes (s : Setting) (store : Bindings Value) (heap : Heap)
    (steps : List ScopeStep) : (behind s store heap steps).scopes = steps.foldl act Scopes.new := by
  rw [behind, runAll_apply]
  rfl

theorem behind_store : (behind s store heap steps).store =
    if s.persists then store.overlay ⟨ScopeStep.assigned steps⟩ else store := by
  rw [behind, runAll_apply]
  rfl

/-- What a name stands for in the store changes only by assigns. -/
theorem behind_store_get? (unbound : ∀ v, (name, v) ∉ ScopeStep.assigned steps) :
    (behind s store heap steps).store.get? name = store.get? name := by
  rw [behind_store]
  split
  next => exact Bindings.get?_overlay_of_not_mem store unbound
  next => rfl

/-- Popping a frame brings back what it hid. -/
theorem valueOf_popped {before body : List ScopeStep}
    (stays : StaysOpen (depthOf before + 1) (before ++ [.push]) body)
    (innermost : depthOf (before ++ .push :: body) = depthOf before + 1)
    (unbound : ∀ v, .assign name v ∉ body) :
    valueOf s (behind s store heap (before ++ .push :: (body ++ [.pop]))) name =
      valueOf s (behind s store heap before) name := by
  have untouched : ∀ v, (name, v) ∉ ScopeStep.assigned body := fun v member =>
    unbound v (mem_assigned.mp member)
  have scopes : (behind s store heap (before ++ .push :: (body ++ [.pop]))).scopes.get? name =
      (behind s store heap before).scopes.get? name := by
    rw [behind_scopes, behind_scopes, foldl_act_popped stays innermost]
    exact Scopes.get?_congr rfl (Bindings.get?_overlay_of_not_mem _ untouched)
  have store : (behind s store heap (before ++ .push :: (body ++ [.pop]))).store.get? name =
      (behind s store heap before).store.get? name := by
    have given : ScopeStep.assigned (before ++ .push :: (body ++ [.pop])) =
        ScopeStep.assigned before ++ ScopeStep.assigned body := by
      simp [ScopeStep.assigned]
    rw [behind_store, behind_store, given, Bindings.overlay_append]
    split
    next => exact Bindings.get?_overlay_of_not_mem _ untouched
    next => rfl
  rw [valueOf, valueOf, scopes, store]

/-- What a step binds in the innermost frame counts while the frame is open and the name is not
bound again. -/
theorem governs_of_set {before after : List ScopeStep}
    (stays : StaysOpen (depthOf before) (before ++ [.set name v]) after)
    (unbound : ∀ later ∈ after, later.name? ≠ some name) :
    Governs (before ++ .set name v :: after) name v := by
  -- No frame above that of the step was open then.
  refine governs_of_stands ⟨before, _, after, rfl, rfl, if_pos rfl, stays⟩ unbound
    fun level age w other => ?_
  rcases other.place with ⟨later, member, binds⟩ | ⟨_, binds⟩ | ⟨_, below⟩
  · exact absurd binds (unbound later member)
  · rw [binds?, if_pos rfl, Option.some.injEq, Prod.mk.injEq] at binds
    exact Nat.le_of_eq binds.1.symm
  · exact below

theorem get_of_governs (governs : Governs steps name v) :
    (get name s (behind s store heap steps)).1 = .ok v.resolved := by
  have found := answers_get? steps name
  rw [← behind_scopes s store heap steps] at found
  change Except.ok (valueOf s (behind s store heap steps) name).resolved = _
  rw [valueOf]
  cases held : (behind s store heap steps).scopes.get? name with
  | some w =>
    rw [held] at found
    rw [governs.unique found.governs]
  | none =>
    rw [held] at found
    obtain ⟨level, age, stands, _⟩ := governs
    exact absurd stands (found.unbound level age v)

private theorem get_of_unbound (layered : s.data = data.overlay ⟨options⟩)
    (unbound : ∀ level age v, ¬ Stands steps name level age v) :
    (get name s (behind s store heap steps)).1 =
      .ok (beneath options data store s.env.globals name).resolved := by
  have found := answers_get? steps name
  rw [← behind_scopes s store heap steps] at found
  have untouched : ∀ v, (name, v) ∉ ScopeStep.assigned steps := fun v member =>
    (exists_stands_of_assigned member).elim fun age stands => unbound 1 age v stands
  change Except.ok (valueOf s (behind s store heap steps) name).resolved = _
  rw [valueOf, beneath, behind_store_get? untouched, layered, Bindings.get?_overlay]
  cases held : (behind s store heap steps).scopes.get? name with
  | some w =>
    rw [held] at found
    obtain ⟨level, age, stands, _⟩ := found.governs
    exact absurd stands (unbound level age w)
  | none =>
    cases (Bindings.ofPairs options).get? name <;> cases data.get? name <;>
      cases store.get? name <;> rfl

end

/-- Names keep to their frames in every run: what is bound last in the innermost frame that binds a
name counts, then what lies beneath the frames; a frame hides what it binds until it is popped, and
then brings it back; and the outermost frame, in which assigns bind, is never popped. -/
theorem shadowing (s : Setting) (options : List (String × Value)) (data store : Bindings Value)
    (heap : Heap) (steps : List ScopeStep) :
    let s : Setting := { s with data := data.overlay ⟨options⟩ }
    let behind := behind s store heap
    let get (steps : List ScopeStep) (name : String) := (get name s (behind steps)).1
    (runAll steps s (Template.start store heap)).1 = .ok () ∧
    ((behind steps).scopes.depth = depthOf steps ∧ 1 ≤ depthOf steps) ∧
    (∀ name,
      (∃ v, Governs steps name v ∧ get steps name = .ok v.resolved) ∨
      (∀ level age v, ¬ Stands steps name level age v) ∧
        get steps name = .ok (beneath options data store s.env.globals name).resolved) ∧
    (∀ before after name v, steps = before ++ .set name v :: after →
      StaysOpen (depthOf before) (before ++ [.set name v]) after →
      (∀ later ∈ after, later.name? ≠ some name) → get steps name = .ok v.resolved) ∧
    (∀ before body name, steps = before ++ .push :: (body ++ [.pop]) →
      StaysOpen (depthOf before + 1) (before ++ [.push]) body →
      depthOf (before ++ .push :: body) = depthOf before + 1 →
      (∀ v, .assign name v ∉ body) → get steps name = get before name) ∧
    (∀ before after name v, steps = before ++ .assign name v :: after →
      (∀ level age w, Stands steps name level age w → level = 1 ∧ after.length ≤ age) →
      get steps name = .ok v.resolved) ∧
    (depthOf steps = 1 → Render.pop s (behind steps) = (.ok (), behind steps)) := by
  intro s behind get
  have depth : (behind steps).scopes.depth = depthOf steps := by
    rw [show (behind steps).scopes = _ from behind_scopes s store heap steps]
    exact (reflected_of_new steps).depth
  refine ⟨?_, ⟨depth, depthOf_pos steps⟩, fun name => ?_, ?_, ?_, ?_, fun outermost => ?_⟩
  · rw [runAll_apply]
  · have found := answers_get? steps name
    cases held : (steps.foldl act Scopes.new).get? name with
    | some v =>
      rw [held] at found
      exact .inl ⟨v, found.governs, get_of_governs found.governs⟩
    | none =>
      rw [held] at found
      exact .inr ⟨found.unbound, get_of_unbound rfl found.unbound⟩
  · rintro before after name v rfl stays unbound
    exact get_of_governs (governs_of_set stays unbound)
  · rintro before body name rfl stays innermost unbound
    exact congrArg (fun v => Except.ok v.resolved) (valueOf_popped stays innermost unbound)
  · rintro before after name v rfl outermost
    exact get_of_governs ⟨1, after.length, stands_of_assign, fun level age w other =>
      .inr (outermost level age w other)⟩
  · have none : (behind steps).scopes.inner = [] := by
      rw [outermost] at depth
      exact List.eq_nil_of_length_eq_zero (Nat.succ.inj depth)
    have same : (behind steps).scopes.pop = (behind steps).scopes := by
      rw [Scopes.pop, none, List.tail_nil, ← none]
    change (Except.ok (), { behind steps with scopes := (behind steps).scopes.pop }) = _
    rw [same]

theorem shadowing_inner :
    let s : Setting :=
      ⟨Template.bareEngine.env, ⟨[("x", .str "data")]⟩, .inline, Format.plain, none, true⟩
    let options := [("x", .str "option")]
    let layered : Setting := { s with data := s.data.overlay ⟨options⟩ }
    let get (steps : List ScopeStep) :=
      (get "x" layered (behind layered Bindings.empty Heap.new steps)).1
    let outer : List ScopeStep := [.set "x" (.str "outer")]
    let body : List ScopeStep := [.set "x" (.str "inner")]
    get (outer ++ .push :: body) = .ok (.str "inner") ∧
    get (outer ++ .push :: (body ++ [.pop])) = get outer ∧
    get outer = .ok (.str "outer") ∧
    get ([.push] ++ .assign "x" (.str "assigned") :: [.pop, .pop]) = .ok (.str "assigned") ∧
    get [.push, .pop] = .ok (.str "option") := by
  intro s options layered get outer body
  have runs := shadowing s options s.data Bindings.empty Heap.new
  obtain ⟨_, _, _, latest, _⟩ := runs (outer ++ .push :: body)
  obtain ⟨_, _, _, _, popped, _⟩ := runs (outer ++ .push :: (body ++ [.pop]))
  obtain ⟨_, _, _, only, _⟩ := runs outer
  obtain ⟨_, _, _, _, _, assigned, _⟩ :=
    runs ([.push] ++ .assign "x" (.str "assigned") :: [.pop, .pop])
  obtain ⟨_, _, _, _, beneath, _⟩ := runs [.push, .pop]
  have unbound : ∀ later ∈ [ScopeStep.pop, .pop], later.name? ≠ some "x" := by decide
  refine ⟨latest (outer ++ [.push]) [] "x" (.str "inner") rfl (by decide) (by decide),
    popped outer body "x" rfl (by decide) rfl fun _ => by simp [body],
    only [] [] "x" (.str "outer") rfl (by decide) (by decide),
    assigned [.push] _ "x" (.str "assigned") rfl fun level age w stands => ⟨?_, ?_⟩,
    beneath [] [] "x" rfl (by decide) rfl fun _ => by simp⟩
  · exact Nat.le_antisymm stands.level_le stands.level_pos
  · rcases stands.place with ⟨later, member, binds⟩ | ⟨same, _⟩ | ⟨older, _⟩
    · exact absurd binds (unbound later member)
    · exact Nat.le_of_eq same.symm
    · exact Nat.le_of_lt older

end Render

end Liquid
