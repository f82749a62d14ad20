import Liquid.Proofs.Forcing
import Liquid.Proofs.Steps

/-!
# Blindness to laziness

Two computations are alike if, from heaps that differ only in the cells computed so far, they give
related results and leave such heaps again. Whatever reads values, or asks them for members and
items, does alike with different versions of a value. What objects do is done by the host, and it is
the same on both sides because an object has no other versions.
-/

namespace Liquid

/-- The same heap, but for the cells computed. -/
structure Heap.UpToCells (h h' : Heap) : Prop where
  supply : h.supply = h'.supply
  registries : h.registries = h'.registries
  schemas : h.schemas = h'.schemas

theorem Heap.UpToCells.refl (h : Heap) : h.UpToCells h := ⟨rfl, rfl, rfl⟩

/-- Related results, and heaps that are alike. -/
structure Agree {α β : Type} (R : α → β → Prop) (o : α × Heap) (o' : β × Heap) : Prop where
  result : R o.1 o'.1
  heap : o.2.UpToCells o'.2

/-- Both succeed with related results, or both fail with the same error. -/
inductive Outcome {α β : Type} (R : α → β → Prop) : Except Error α → Except Error β → Prop where
  | ok {a : α} {b : β} : R a b → Outcome R (.ok a) (.ok b)
  | error (e : Error) : Outcome R (.error e) (.error e)

theorem Outcome.eq {α : Type} {r r' : Except Error α} (outcome : Outcome Eq r r') : r' = r := by
  cases outcome with
  | ok same => rw [same]
  | error => rfl

namespace Live

variable {α β γ δ : Type} {R : α → β → Prop} {S : γ → δ → Prop}

/-- From heaps that differ in cells only to related results and such heaps. -/
def Alike (R : α → β → Prop) (x : Live α) (y : Live β) : Prop :=
  ∀ h h' : Heap, h.UpToCells h' → Agree R (x h) (y h')

theorem Alike.pure {a : α} {b : β} (related : R a b) :
    Alike R (Pure.pure a) (Pure.pure b) := fun _ _ alike => ⟨related, alike⟩

theorem Alike.bind {x : Live α} {y : Live β} {f : α → Live γ} {g : β → Live δ}
    (first : Alike R x y) (rest : ∀ a b, R a b → Alike S (f a) (g b)) :
    Alike S (x >>= f) (y >>= g) := by
  intro h h' alike
  obtain ⟨related, after⟩ := first h h' alike
  exact rest _ _ related _ _ after

theorem Alike.mono {Q : α → β → Prop} {x : Live α} {y : Live β} (alike : Alike R x y)
    (weaker : ∀ a b, R a b → Q a b) : Alike Q x y := by
  intro h h' same
  obtain ⟨related, after⟩ := alike h h' same
  exact ⟨weaker _ _ related, after⟩

/-- Both sides go on from the same result. -/
theorem Alike.next {x y : Live α} {f : α → Live γ} {g : α → Live δ} (first : Alike Eq x y)
    (rest : ∀ a, Alike S (f a) (g a)) : Alike S (x >>= f) (y >>= g) :=
  first.bind fun a _ same => same ▸ rest a

/-- Which cells are computed makes no difference. -/
theorem Alike.compute (cells cells' : List Cell) :
    Alike Eq (Live.compute cells) (Live.compute cells') := by
  intro h h' alike
  cases cells <;> cases cells' <;> exact ⟨rfl, alike.supply, alike.registries, alike.schemas⟩

theorem Alike.reading {x y : α} {cells cells' : List Cell} (same : x = y) :
    Alike Eq (do Live.compute cells; return x) (do Live.compute cells'; return y) := by
  refine (Alike.compute cells cells').next fun _ => ?_
  exact .pure same

theorem Alike.draw (x : Fresh α) : Alike Eq (Live.draw x) (Live.draw x) := by
  intro h h' alike
  simp only [Live.draw, alike.supply]
  exact ⟨rfl, rfl, alike.registries, alike.schemas⟩

end Live

namespace Eval

variable {α β γ δ : Type} {R : α → β → Prop} {S : γ → δ → Prop}

def Alike (R : α → β → Prop) (x : Eval α) (y : Eval β) : Prop :=
  Live.Alike (Outcome R) x.run y.run

theorem run_bind_ok {x : Eval α} {f : α → Eval γ} {h k : Heap} {a : α}
    (run : x.run h = (.ok a, k)) : (x >>= f).run h = (f a).run k := bind_ok run

private theorem run_bind_error {x : Eval α} {f : α → Eval γ} {h k : Heap} {e : Error}
    (run : x.run h = (.error e, k)) : (x >>= f).run h = (.error e, k) := bind_error run

/-- For steps that are alike only in what they give from these heaps. -/
theorem agree_bind {x : Eval α} {y : Eval β} {f : α → Eval γ} {g : β → Eval δ} {h h' : Heap}
    (first : Agree (Outcome R) (x.run h) (y.run h'))
    (rest : ∀ a b k k', x.run h = (.ok a, k) → R a b → k.UpToCells k' →
      Agree (Outcome S) ((f a).run k) ((g b).run k')) :
    Agree (Outcome S) ((x >>= f).run h) ((y >>= g).run h') := by
  rcases run : x.run h with ⟨r, k⟩
  rcases run' : y.run h' with ⟨r', k'⟩
  rw [run, run'] at first
  obtain ⟨outcome, alike⟩ := first
  -- Neither side goes on after an error.
  cases outcome with
  | ok related =>
    rw [run_bind_ok run, run_bind_ok run']
    exact rest _ _ _ _ run related alike
  | error e =>
    rw [run_bind_error run, run_bind_error run']
    exact ⟨.error e, alike⟩

theorem Alike.pure {a : α} {b : β} (related : R a b) :
    Alike R (Pure.pure a) (Pure.pure b) := fun _ _ alike => ⟨.ok related, alike⟩

theorem Alike.throw (e : Error) : Alike R (throw e) (throw e) := fun _ _ alike =>
  ⟨.error e, alike⟩

theorem Alike.bind {x : Eval α} {y : Eval β} {f : α → Eval γ} {g : β → Eval δ}
    (first : Alike R x y) (rest : ∀ a b, R a b → Alike S (f a) (g b)) :
    Alike S (x >>= f) (y >>= g) := by
  intro h h' alike
  refine agree_bind (first h h' alike) fun a b k k' _ related after => ?_
  exact rest a b related k k' after

theorem Alike.next {x y : Eval α} {f : α → Eval γ} {g : α → Eval δ} (first : Alike Eq x y)
    (rest : ∀ a, Alike S (f a) (g a)) : Alike S (x >>= f) (y >>= g) :=
  first.bind fun a _ same => same ▸ rest a

theorem Alike.lift {x : Live α} {y : Live β} (alike : Live.Alike R x y) :
    Alike R (liftM x) (liftM y) := by
  intro h h' same
  obtain ⟨related, after⟩ := alike h h' same
  exact ⟨.ok related, after⟩

end Eval

/-! ### Reading -/

namespace Value

variable {v v' w w' : Value}

theorem read_alike (version : Version v w) : Live.Alike Twin v.read w.read :=
  (Live.Alike.compute _ _).next fun _ => .pure version.resolved

theorem readText_alike (format : Format) (version : Version v w) :
    Live.Alike Eq (v.readText format) (w.readText format) :=
  .reading (version.reading (text format) (text_forced format)).symm

theorem readPlain_alike (version : Version v w) : Live.Alike Eq v.readPlain w.readPlain :=
  readText_alike Format.plain version

theorem readNumber?_alike (version : Version v w) :
    Live.Alike Eq v.readNumber? w.readNumber? :=
  (read_alike version).bind fun _ _ twin =>
    .pure (twin.version.reading number? number?_forced).symm

theorem readInt?_alike (version : Version v w) : Live.Alike Eq v.readInt? w.readInt? :=
  (read_alike version).bind fun _ _ twin => .pure (twin.version.reading int? int?_forced).symm

theorem readCompare?_alike (left : Version v v') (right : Version w w') :
    Live.Alike Eq (v.readCompare? w) (v'.readCompare? w') := by
  have order : v.compare? w = v'.compare? w' :=
    (left.reading (·.compare? w) fun v => compare?_forced_left v w).symm.trans
      (right.reading v'.compare? (compare?_forced_right v')).symm
  exact (Live.Alike.compute _ _).next fun _ => .reading order

end Value

/-! ### Members -/

namespace Registry

open Value

variable (r : Registry) {v w : Value}

private theorem fetchSchema_alike (o : HostObject Value) :
    Live.Alike Eq (r.fetchSchema o) (r.fetchSchema o) := by
  intro h h' alike
  simp only [fetchSchema, alike.schemas]
  exact ⟨rfl, alike.supply, alike.registries, rfl⟩

private theorem catchAll?_alike (o : HostObject Value) (name : String) :
    Live.Alike Eq (r.catchAll? o name) (r.catchAll? o name) := by
  unfold catchAll?
  split
  next => exact .draw _
  next => exact .pure rfl

private theorem beforeMethod?_alike (o : HostObject Value) (name : String) :
    Live.Alike Eq (r.beforeMethod? o name) (r.beforeMethod? o name) := by
  unfold beforeMethod?
  split
  next => exact .draw _
  next => exact .pure rfl

private theorem standIn?_alike (schema : Schema) (o : HostObject Value) :
    Live.Alike Eq (r.standIn? schema o) (r.standIn? schema o) := by
  unfold standIn?
  split
  next =>
    refine (Live.Alike.draw _).next fun v => ?_
    split <;> exact .pure rfl
  next => exact .pure rfl

theorem memberWithin_alike (name : String) (transforms : Nat) (version : Version v w) :
    Live.Alike (Option.Rel Version) (r.memberWithin transforms v name)
      (r.memberWithin transforms w name) := by
  induction transforms generalizing v w with
  | zero => exact .pure .none
  | succ transforms ih =>
    refine (read_alike version).bind fun u u' twin => ?_
    cases u
    case object o =>
      -- From here on both sides do the same with the same object.
      cases twin.object
      refine (r.fetchSchema_alike o).next fun schema => ?_
      split
      next getter _ => exact (Live.Alike.draw _).next fun found => .pure (.some .same)
      next =>
        refine (r.catchAll?_alike o name).next fun answer => ?_
        cases answer with
        | some found => exact .pure (.some .same)
        | none =>
          refine (r.standIn?_alike schema o).next fun other => ?_
          cases other with
          | some v => exact ih .same
          | none => exact (r.beforeMethod?_alike o name).mono fun _ _ same => same ▸ versions_option
    -- What a value was read as is not lazy, and all else has its members by itself.
    all_goals
      have members := twin.version.member? name
      cases twin <;> first | exact .pure members | contradiction

theorem expose_alike (version : Version v w) :
    Live.Alike Twin (r.expose v) (r.expose w) := by
  refine (read_alike version).bind fun u u' twin => ?_
  cases u
  case object o =>
    cases twin.object
    dsimp only
    split
    next => exact (Live.Alike.draw _).mono fun _ _ same => same ▸ .same _
    next => exact .pure (.same _)
  all_goals cases twin <;> first | exact .pure (.same _) | exact .pure (.forced rfl) | contradiction

/-- What an index leads to where only texts lead anywhere. -/
def named? (v : Value) : Value → Live (Option Value)
  | .str name => r.member? v name
  | _ => return none

theorem index?_eq (v index : Value) :
    r.index? v index = (do
      let u ← v.read
      let i ← index.read
      match u with
      | .array items => return i.int?.bind fun k => item? items k.toInt
      | u => r.named? u i) := by
  refine bind_congr fun u => bind_congr fun i => ?_
  cases u <;> first | rfl | (cases i <;> rfl)

private theorem named?_alike {index index' : Value} (version : Version v w)
    (sought : Twin index index') :
    Live.Alike (Option.Rel Version) (r.named? v index) (r.named? w index') := by
  cases index
  case str name => cases sought <;> exact r.memberWithin_alike name (r.depth + 1) version
  all_goals cases sought <;> first | exact .pure .none | contradiction

theorem index?_alike {index index' : Value} (version : Version v w)
    (other : Version index index') :
    Live.Alike (Option.Rel Version) (r.index? v index) (r.index? w index') := by
  rw [index?_eq, index?_eq]
  refine (read_alike version).bind fun u u' twin => ?_
  refine (read_alike other).bind fun i i' sought => ?_
  have number : i'.int? = i.int? := sought.version.reading int? int?_forced
  have member := r.named?_alike twin.version sought
  cases u
  case array items =>
    dsimp only
    cases twin with
    | same =>
      rw [number]
      exact .pure versions_option
    | forced _ =>
      change Live.Alike _ (pure _) (pure (i'.int?.bind _))
      rw [number]
      cases i.int? with
      | none => exact .pure .none
      | some k =>
        rw [Option.bind_some, Option.bind_some, item?_forced]
        exact .pure versions_option_forced
  all_goals cases twin <;> first | exact member | contradiction

end Registry

end Liquid
