import Liquid.Proofs.Blindness
import Liquid.Proofs.Renumbering
import Liquid.Proofs.SchemaCache

/-!
# Paired runs

The same code is run twice, the second time when more numbers were drawn. As long as the code does
not look at the numbers themselves, both runs draw the same number of numbers and give the same
values, but for the shift. The relation between results depends on how many numbers were drawn
when they are compared, since a result is made of these and of no others.

## Main result

`Registry.member?_matches`, `Registry.index?_matches`, `Registry.expose_matches`: what objects are
asked for is found alike, if the host code behind them is impartial.

## Proof strategy

Schemas are remembered from run to run. Both runs remember different ones, but all that either of
them remembers is right for the ledger, so whatever one finds in its table the other computes.
-/

namespace Liquid

/-- What pairs the states of two runs, and how many numbers the first of them has drawn. -/
structure Pairing (S : Type) where
  Paired : S → S → Prop
  supply : S → Nat

namespace Pairing

variable {S α β γ δ : Type} {P : Pairing S} {n : Nat} {R : Nat → α → β → Prop}
  {Q : Nat → γ → δ → Prop}

/-- Related results in paired states, with no number given back. -/
structure Ends (P : Pairing S) (n : Nat) (R : Nat → α → β → Prop) (o : α × S) (o' : β × S) :
    Prop where
  later : n ≤ P.supply o.2
  result : R (P.supply o.2) o.1 o'.1
  paired : P.Paired o.2 o'.2

/-- From paired states, once `n` numbers were drawn, to related results in paired states. -/
def Matches (P : Pairing S) (n : Nat) (R : Nat → α → β → Prop) (x : StateM S α)
    (y : StateM S β) : Prop :=
  ∀ s s', P.Paired s s' → n ≤ P.supply s → P.Ends (P.supply s) R (x s) (y s')

namespace Matches

theorem pure {a : α} {b : β} (related : ∀ k, n ≤ k → R k a b) :
    P.Matches n R (pure a) (pure b) :=
  fun _ _ paired late => ⟨Nat.le_refl _, related _ late, paired⟩

/-- What comes second may use all that was drawn by what comes first. -/
theorem bind {x : StateM S α} {y : StateM S β} {f : α → StateM S γ} {g : β → StateM S δ}
    (first : P.Matches n R x y)
    (rest : ∀ k, n ≤ k → ∀ a b, R k a b → P.Matches k Q (f a) (g b)) :
    P.Matches n Q (x >>= f) (y >>= g) := by
  intro s s' paired late
  obtain ⟨later, related, between⟩ := first s s' paired late
  obtain ⟨later', related', after⟩ :=
    rest _ (Nat.le_trans late later) _ _ related _ _ between (Nat.le_refl _)
  exact ⟨Nat.le_trans later later', related', after⟩

/-- Both sides go on from the same result. -/
theorem next {x y : StateM S α} {f : α → StateM S γ} {g : α → StateM S δ}
    (first : P.Matches n (fun _ => Eq) x y)
    (rest : ∀ k, n ≤ k → ∀ a, P.Matches k Q (f a) (g a)) :
    P.Matches n Q (x >>= f) (y >>= g) :=
  first.bind fun k late a _ same => same ▸ rest k late a

end Matches

/-- The same for steps that may fail, as they do with the same error. -/
def Attempts (P : Pairing S) (n : Nat) (R : Nat → α → β → Prop)
    (x : ExceptT Error (StateM S) α) (y : ExceptT Error (StateM S) β) : Prop :=
  P.Matches n (fun k => Outcome (R k)) x.run y.run

namespace Attempts

theorem pure {a : α} {b : β} (related : ∀ k, n ≤ k → R k a b) :
    P.Attempts n R (pure a) (pure b) := Matches.pure fun k late => .ok (related k late)

theorem same (a : α) : P.Attempts n (fun _ => Eq) (Pure.pure a) (Pure.pure a) := pure fun _ _ => rfl

theorem throw (e : Error) : P.Attempts n R (throw e) (throw e) := Matches.pure fun _ _ => .error e

theorem bind {x : ExceptT Error (StateM S) α} {y : ExceptT Error (StateM S) β}
    {f : α → ExceptT Error (StateM S) γ} {g : β → ExceptT Error (StateM S) δ}
    (first : P.Attempts n R x y)
    (rest : ∀ k, n ≤ k → ∀ a b, R k a b → P.Attempts k Q (f a) (g b)) :
    P.Attempts n Q (x >>= f) (y >>= g) := by
  unfold Attempts
  rw [ExceptT.run_bind, ExceptT.run_bind]
  refine Matches.bind first fun k late r r' outcome => ?_
  -- Neither side goes on after an error.
  cases outcome with
  | ok related => exact rest k late _ _ related
  | error e => exact throw e

theorem next {x y : ExceptT Error (StateM S) α} {f : α → ExceptT Error (StateM S) γ}
    {g : α → ExceptT Error (StateM S) δ} (first : P.Attempts n (fun _ => Eq) x y)
    (rest : ∀ k, n ≤ k → ∀ a, P.Attempts k Q (f a) (g a)) :
    P.Attempts n Q (x >>= f) (y >>= g) :=
  first.bind fun k late a _ same => same ▸ rest k late a

theorem lift {x : StateM S α} {y : StateM S β} (run : P.Matches n R x y) :
    P.Attempts n R (liftM x) (liftM y) := by
  intro s s' paired late
  obtain ⟨later, related, after⟩ := run s s' paired late
  exact ⟨later, .ok related, after⟩

end Attempts

/-! ### Numbers and heaps -/

/-- The next number of both runs. -/
def numbers (σ : Shift) : Pairing Nat where
  Paired m m' := σ.start ≤ m ∧ m' = m + σ.gap
  supply := id

/-- What two heaps have in common: the numbers still to come, but for the shift, and that the
schemas remembered are right. -/
structure PairedHeaps (l : Ledger) (σ : Shift) (h h' : Heap) : Prop where
  begun : σ.start ≤ h.supply
  supply : h'.supply = h.supply + σ.gap
  left : l.Faithful h
  right : l.Faithful h'

def heaps (l : Ledger) (σ : Shift) : Pairing Heap where
  Paired := PairedHeaps l σ
  supply := Heap.supply

end Pairing

open Pairing

variable {l : Ledger} {σ : Shift} {n : Nat}

namespace Pairing

theorem draw {α β : Type} {R : Nat → α → β → Prop} {x : Fresh α} {y : Fresh β}
    (run : (numbers σ).Matches n R x y) :
    (heaps l σ).Matches n R (Live.draw x) (Live.draw y) := by
  intro h h' paired late
  obtain ⟨later, related, begun, supply⟩ :=
    run h.supply h'.supply ⟨paired.begun, paired.supply⟩ late
  exact ⟨later, related, begun, supply, ⟨paired.left.registries, paired.left.schemas⟩,
    ⟨paired.right.registries, paired.right.schemas⟩⟩

/-- Which cells are computed makes no difference. -/
theorem compute (cells cells' : List Cell) :
    (heaps l σ).Matches n (fun _ => Eq) (Live.compute cells) (Live.compute cells') := by
  intro h h' paired _
  obtain ⟨begun, supply, left, right⟩ := paired
  cases cells <;> cases cells' <;>
    exact ⟨Nat.le_refl _, rfl, begun, supply, ⟨left.registries, left.schemas⟩,
      ⟨right.registries, right.schemas⟩⟩

theorem reading {α : Type} {x y : α} {cells cells' : List Cell} (same : y = x) :
    (heaps l σ).Matches n (fun _ => Eq) (do Live.compute cells; return x)
      (do Live.compute cells'; return y) :=
  (compute cells cells').next fun _ _ _ => .pure fun _ _ => same.symm

end Pairing

/-! ### Reading -/

namespace Value

variable {v v' w w' : Value}

theorem read_matches (related : Counterpart l.nature σ n v w) :
    (heaps l σ).Matches n (Counterpart l.nature σ) v.read w.read :=
  (compute _ _).next fun _ late _ => .pure fun _ later =>
    related.resolved.later (Nat.le_trans late later)

theorem readText_matches (format : Format) (related : Counterpart l.nature σ n v w) :
    (heaps l σ).Matches n (fun _ => Eq) (v.readText format) (w.readText format) :=
  reading (related.reading (text format) (text_renumbered σ format))

theorem readPlain_matches (related : Counterpart l.nature σ n v w) :
    (heaps l σ).Matches n (fun _ => Eq) v.readPlain w.readPlain :=
  readText_matches Format.plain related

theorem readNumber?_matches (related : Counterpart l.nature σ n v w) :
    (heaps l σ).Matches n (fun _ => Eq) v.readNumber? w.readNumber? :=
  (read_matches related).bind fun _ _ _ _ read => .pure fun _ _ =>
    (read.reading number? (number?_renumbered σ)).symm

theorem readInt?_matches (related : Counterpart l.nature σ n v w) :
    (heaps l σ).Matches n (fun _ => Eq) v.readInt? w.readInt? :=
  (read_matches related).bind fun _ _ _ _ read => .pure fun _ _ =>
    (read.reading int? (int?_renumbered σ)).symm

theorem readCompare?_matches (left : Counterpart l.nature σ n v v')
    (right : Counterpart l.nature σ n w w') :
    (heaps l σ).Matches n (fun _ => Eq) (v.readCompare? w) (v'.readCompare? w') := by
  obtain ⟨-, rfl⟩ := left
  obtain ⟨-, rfl⟩ := right
  exact (compute _ _).next fun _ _ _ => reading (compare?_renumbered σ v w)

theorem readLooseEq_matches (left : Counterpart l.nature σ n v v')
    (right : Counterpart l.nature σ n w w') :
    (heaps l σ).Matches n (fun _ => Eq) (v.readLooseEq w) (v'.readLooseEq w') := by
  obtain ⟨-, rfl⟩ := left
  obtain ⟨-, rfl⟩ := right
  exact reading (looseEq_renumbered σ v w)

theorem readContains_matches (left : Counterpart l.nature σ n v v')
    (right : Counterpart l.nature σ n w w') :
    (heaps l σ).Matches n (fun _ => Eq) (v.readContains w) (v'.readContains w') := by
  obtain ⟨-, rfl⟩ := left
  obtain ⟨-, rfl⟩ := right
  exact reading (contains_renumbered σ v w)

end Value

/-! ### Host code -/

/-- Host code that answers for an object is impartial if numbers mean nothing to it: for a
renumbered object it gives the renumbered answer and draws as many numbers. What it keeps from
before has numbers less than `base`. -/
def Impartial {α : Type} (nature : String → Bool) (base : Nat)
    (R : Shift → Nat → α → α → Prop) (answer : HostObject Value → Fresh α) : Prop :=
  ∀ σ : Shift, base ≤ σ.start → ∀ n o, Value.SoundObject nature n o →
    (numbers σ).Matches n (R σ) (answer o) (answer (Value.renumberedObject σ o))

/-- Host code that gives a value. -/
def Getter.Impartial (nature : String → Bool) (base : Nat) (getter : Getter) : Prop :=
  Liquid.Impartial nature base (Value.Counterpart nature) getter

/-- Host code that may give a value. -/
def Answer.Impartial (nature : String → Bool) (base : Nat)
    (answer : HostObject Value → String → Fresh (Option Value)) : Prop :=
  ∀ name, Liquid.Impartial nature base (fun σ n => Option.Rel (Value.Counterpart nature σ n))
    (answer · name)

structure NativeType.Impartial (nature : String → Bool) (base : Nat) (t : NativeType) : Prop where
  members : ∀ member ∈ t.members, Getter.Impartial nature base member.2
  beforeMethod : Answer.Impartial nature base t.beforeMethod

structure Adapter.Impartial (nature : String → Bool) (base : Nat) (a : Adapter) : Prop where
  members : ∀ member ∈ a.members, Getter.Impartial nature base member.2
  transform : ∀ f, a.transform = some f → Getter.Impartial nature base f
  catchAll : ∀ f, a.catchAll = some f → Answer.Impartial nature base f

/-- The ledger knows the registry, and all the host code in it is impartial. -/
structure Registry.Impartial (l : Ledger) (base : Nat) (r : Registry) : Prop where
  known : l.Knows r
  natives : ∀ type t, r.natives type = some t → t.Impartial l.nature base
  adapters : r.All (·.Impartial l.nature base)

/-- What is made anew is impartial: it has the next number on both sides. -/
theorem Fresh.object_matches {nature : String → Bool} {type : String} {native : Bool}
    {fields : List (String × Value)} (agrees : native = nature type)
    (sound : Value.SoundEntries nature n fields) :
    (numbers σ).Matches n (Value.Counterpart nature σ) (Fresh.object type native fields)
      (Fresh.object type native (Value.renumberedEntries σ fields)) := by
  rintro m _ ⟨begun, rfl⟩ late
  -- Both sides draw one number, which is not among the early ones and so is moved by the gap.
  have later : n ≤ m + 1 := Nat.le_succ_of_le late
  refine ⟨Nat.le_succ m, ⟨⟨Nat.lt_succ_self m, agrees, sound.later later fields⟩, ?_⟩,
    Nat.le_succ_of_le begun, Nat.add_right_comm m σ.gap 1⟩
  change Value.object ⟨m + σ.gap, type, native, _⟩ = .object ⟨σ.number m, type, native, _⟩
  rw [σ.number_of_le begun]

namespace Registry

open Value

variable {base : Nat} {r : Registry} {o : HostObject Value}

/-- A member is described by the type or by its adapter. -/
theorem of_mem_described {member : String × Getter} (found : member ∈ r.described o) :
    (∃ type, r.natives o.type = some type ∧ member ∈ type.members) ∨
      ∃ a, r.adapters.get? o.type = some a ∧ member ∈ a.members := by
  unfold described at found
  split at found
  next type _ known =>
    dsimp only at found
    split at found
    next a given =>
      rcases List.mem_append.mp found with own | added
      · exact .inl ⟨type, known, own⟩
      · exact .inr ⟨a, given, added⟩
    next => exact .inl ⟨type, known, found⟩
  next =>
    dsimp only at found
    split at found
    next a given => exact .inr ⟨a, given, found⟩
    next => cases found

private theorem described_impartial (fair : r.Impartial l base) (o : HostObject Value) :
    ∀ member ∈ r.described o, Getter.Impartial l.nature base member.2 := by
  intro member found
  rcases of_mem_described found with ⟨type, known, own⟩ | ⟨a, given, added⟩
  · exact (fair.natives o.type type known).members member own
  · exact (fair.adapters o.type a given).members member added

theorem getter_impartial (fair : r.Impartial l base) {o : HostObject Value} {name : String}
    {getter : Getter} (found : (r.schema o).get? name = some getter) :
    Getter.Impartial l.nature base getter := by
  obtain ⟨member, first, rfl⟩ := Option.map_eq_some_iff.mp found
  have described := List.mem_of_mem_filter (List.mem_reverse.mp (List.mem_of_find?_eq_some first))
  exact described_impartial fair o member described

theorem transform_impartial (fair : r.Impartial l base) {type : String}
    {transform : HostObject Value → Fresh Value} (given : r.transform? type = some transform) :
    Getter.Impartial l.nature base transform := by
  obtain ⟨a, fit, same⟩ := fair.adapters.of_transform? given
  exact fit.transform transform same

variable (fair : r.Impartial l base) (begun : base ≤ σ.start) (sound : SoundObject l.nature n o)

include fair

/-- Whatever the two heaps remember, it is the schema of both handles. -/
theorem fetchSchema_matches (sound : SoundObject l.nature n o) :
    (heaps l σ).Matches n (fun _ schema schema' => schema = r.schema o ∧ schema' = schema)
      (r.fetchSchema o) (r.fetchSchema (renumberedObject σ o)) := by
  obtain ⟨handle, type, native, fields⟩ := o
  obtain ⟨-, rfl, -⟩ := sound
  -- The schema of one handle is that of all handles of its type, for their natures agree.
  have fresh : l.Right ⟨r.number, type⟩ (r.schema ⟨handle, type, l.nature type, fields⟩) := by
    refine ⟨fair.known.used, fun o' same native => ?_⟩
    rw [fair.known.state]
    exact r.schema_congr same.symm (by rw [native, same])
  have moved : r.schema (renumberedObject σ ⟨handle, type, l.nature type, fields⟩) =
      r.schema ⟨handle, type, l.nature type, fields⟩ := r.schema_congr rfl rfl
  have given {schema : Schema} (right : l.Right ⟨r.number, type⟩ schema) :
      schema = r.schema ⟨handle, type, l.nature type, fields⟩ := by
    have found := right.2 ⟨handle, type, l.nature type, fields⟩ rfl rfl
    rwa [fair.known.state] at found
  intro h h' paired _
  obtain ⟨right, holds, -⟩ := SchemaTable.fetch_spec paired.left.schemas ⟨r.number, type⟩
    (fun _ => r.schema ⟨handle, type, l.nature type, fields⟩) fresh
  obtain ⟨right', holds', -⟩ := SchemaTable.fetch_spec paired.right.schemas ⟨r.number, type⟩
    (fun _ => r.schema (renumberedObject σ ⟨handle, type, l.nature type, fields⟩)) (moved ▸ fresh)
  exact ⟨Nat.le_refl _, ⟨given right, (given right').trans (given right).symm⟩, paired.begun,
    paired.supply, ⟨paired.left.registries, holds⟩, ⟨paired.right.registries, holds'⟩⟩

include begun sound

private theorem getter_matches {name : String} {getter : Getter}
    (found : (r.schema o).get? name = some getter) :
    (heaps l σ).Matches n (Counterpart l.nature σ) (Live.draw (getter o))
      (Live.draw (getter (renumberedObject σ o))) :=
  draw (getter_impartial fair found σ begun n o sound)

private theorem catchAll?_matches (name : String) :
    (heaps l σ).Matches n (fun k => Option.Rel (Counterpart l.nature σ k)) (r.catchAll? o name)
      (r.catchAll? (renumberedObject σ o) name) := by
  unfold catchAll?
  rw [type_renumberedObject]
  split
  next answer given =>
    obtain ⟨a, held, same⟩ := Option.bind_eq_some_iff.mp given
    exact draw ((fair.adapters o.type a held).catchAll answer same name σ begun n o sound)
  next => exact .pure fun _ _ => .none

private theorem beforeMethod?_matches (name : String) :
    (heaps l σ).Matches n (fun k => Option.Rel (Counterpart l.nature σ k))
      (r.beforeMethod? o name) (r.beforeMethod? (renumberedObject σ o) name) := by
  unfold beforeMethod?
  rw [type_renumberedObject, native_renumberedObject]
  split
  next type _ given =>
    exact draw ((fair.natives o.type type given).beforeMethod name σ begun n o sound)
  next => exact .pure fun _ _ => .none

private theorem standIn?_matches (schema : Schema) :
    (heaps l σ).Matches n (fun k => Option.Rel (Counterpart l.nature σ k))
      (r.standIn? schema o) (r.standIn? schema (renumberedObject σ o)) := by
  unfold standIn?
  rw [type_renumberedObject]
  split
  next transform _ given =>
    refine (draw (transform_impartial fair given σ begun n o sound)).bind ?_
    rintro k late v w ⟨sound, rfl⟩
    -- An object does not stand in for another one, and it is one on both sides or on neither.
    cases v
    case object => exact .pure fun _ _ => .none
    all_goals exact .pure fun _ later => .some ⟨sound.later later _, rfl⟩
  next => exact .pure fun _ _ => .none

omit sound

variable {v w : Value}

private theorem memberWithin_matches (name : String) (transforms : Nat)
    (related : Counterpart l.nature σ n v w) :
    (heaps l σ).Matches n (fun k => Option.Rel (Counterpart l.nature σ k))
      (r.memberWithin transforms v name) (r.memberWithin transforms w name) := by
  -- On the stand-ins that may still be looked into.
  induction transforms generalizing n v w with
  | zero => exact .pure fun _ _ => .none
  | succ transforms ih =>
    refine (read_matches related).bind fun k late u u' read => ?_
    have members := read.member? name
    obtain ⟨sound, rfl⟩ := read
    cases u
    case object o =>
      refine (fetchSchema_matches fair sound).bind ?_
      rintro k later schema _ ⟨rfl, rfl⟩
      have sound := sound.later later (.object o)
      -- A member of the schema, the catch-all, a member of the stand-in, or the type's last resort.
      split
      next getter found =>
        exact (getter_matches fair begun sound found).bind fun _ _ _ _ given =>
          .pure fun _ later => .some (given.later later)
      next =>
        refine (catchAll?_matches fair begun sound name).bind fun k later answer answer' given => ?_
        have sound := sound.later later (.object o)
        cases given with
        | some given => exact .pure fun _ later => .some (given.later later)
        | none =>
          refine (standIn?_matches fair begun sound _).bind fun k later other other' given => ?_
          cases given with
          | some given => exact ih given
          | none => exact beforeMethod?_matches fair begun (sound.later later (.object o)) name
    -- All else has its members by itself.
    all_goals exact .pure fun _ later => Counterpart.laterOption members later

theorem member?_matches (name : String) (related : Counterpart l.nature σ n v w) :
    (heaps l σ).Matches n (fun k => Option.Rel (Counterpart l.nature σ k)) (r.member? v name)
      (r.member? w name) := memberWithin_matches fair begun name (_ + 1) related

theorem expose_matches (related : Counterpart l.nature σ n v w) :
    (heaps l σ).Matches n (Counterpart l.nature σ) (r.expose v) (r.expose w) := by
  refine (read_matches related).bind ?_
  rintro k late u u' ⟨sound, rfl⟩
  cases u
  case object o =>
    simp only [renumbered, type_renumberedObject]
    split
    next transform given => exact draw (transform_impartial fair given σ begun k o sound)
    next => exact .pure fun _ later => ⟨sound.later later (.object o), rfl⟩
  all_goals exact .pure fun _ later => ⟨sound.later later _, rfl⟩

private theorem named?_matches {index index' : Value} (related : Counterpart l.nature σ n v w)
    (sought : Counterpart l.nature σ n index index') :
    (heaps l σ).Matches n (fun k => Option.Rel (Counterpart l.nature σ k)) (r.named? v index)
      (r.named? w index') := by
  obtain ⟨-, rfl⟩ := sought
  cases index
  case str name => exact member?_matches fair begun name related
  all_goals exact .pure fun _ _ => .none

theorem index?_matches {index index' : Value} (related : Counterpart l.nature σ n v w)
    (other : Counterpart l.nature σ n index index') :
    (heaps l σ).Matches n (fun k => Option.Rel (Counterpart l.nature σ k)) (r.index? v index)
      (r.index? w index') := by
  rw [index?_eq, index?_eq]
  refine (read_matches related).bind fun k late u u' read => ?_
  refine (read_matches (other.later late)).bind fun k later i i' sought => ?_
  have read := read.later later
  have number : i'.int? = i.int? := sought.reading int? (int?_renumbered σ)
  have member := named?_matches fair begun read sought
  obtain ⟨sound, rfl⟩ := read
  cases u
  case array items =>
    simp only [renumbered, number]
    cases i.int? with
    | none => exact .pure fun _ _ => .none
    | some i =>
      exact .pure fun _ later => Counterpart.laterOption (Counterpart.item? sound i.toInt) later
  all_goals exact member

end Registry

end Liquid
