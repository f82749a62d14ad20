import Liquid.Render.Basic
import Mathlib.Data.List.Forall2
import Mathlib.Data.Option.Basic

/-!
# Bindings that agree name by name

Two renders whose names stand for different values are compared through a relation that may depend
on the name. Bindings under such a relation bind the same names in the same order, and so do the
frames of scopes; what a name stands for is related, wherever it is found.
-/

namespace Liquid

namespace Bindings

variable {α : Type} {R : String → α → α → Prop} {b b' : Bindings α}

/-- The same names in the same order, with related values. -/
def Pointwise (R : String → α → α → Prop) (b b' : Bindings α) : Prop :=
  List.Forall₂ (fun entry entry' => entry.1 = entry'.1 ∧ R entry.1 entry.2 entry'.2)
    b.entries b'.entries

private theorem pointwise_empty : Pointwise R (empty : Bindings α) empty := .nil

theorem Pointwise.get? (related : Pointwise R b b') (name : String) :
    Option.Rel (R name) (b.get? name) (b'.get? name) := by
  obtain ⟨entries⟩ := b
  obtain ⟨entries'⟩ := b'
  unfold Pointwise at related
  unfold Bindings.get?
  dsimp only at related ⊢
  -- The entries are searched in the same order, and their names are the same.
  induction related with
  | nil => exact .none
  | @cons entry entry' _ _ first _ ih =>
    obtain ⟨key, v⟩ := entry
    obtain ⟨key', v'⟩ := entry'
    obtain ⟨rfl, held⟩ := first
    by_cases found : key = name
    · subst found
      simpa [getFrom?] using Option.Rel.some held
    · simpa [getFrom?, found] using ih

theorem Pointwise.insert (related : Pointwise R b b') {name : String} {v v' : α}
    (held : R name v v') : Pointwise R (b.insert name v) (b'.insert name v') := by
  obtain ⟨entries⟩ := b
  obtain ⟨entries'⟩ := b'
  unfold Pointwise at related ⊢
  unfold Bindings.insert
  dsimp only at related ⊢
  induction related with
  | nil => exact .cons ⟨rfl, held⟩ .nil
  | @cons entry entry' _ _ first rest ih =>
    obtain ⟨key, old⟩ := entry
    obtain ⟨key', old'⟩ := entry'
    obtain ⟨rfl, older⟩ := first
    by_cases found : key = name
    · simp only [insertInto, found, ↓reduceIte]
      exact .cons ⟨rfl, held⟩ rest
    · simp only [insertInto, found, ↓reduceIte]
      exact .cons ⟨rfl, older⟩ ih

theorem Pointwise.overlay {upper upper' : Bindings α} (related : Pointwise R b b')
    (above : Pointwise R upper upper') : Pointwise R (b.overlay upper) (b'.overlay upper') := by
  obtain ⟨entries⟩ := upper
  obtain ⟨entries'⟩ := upper'
  unfold Pointwise at above
  unfold Bindings.overlay
  dsimp only at above ⊢
  -- The lower bindings change with each entry that is laid over them.
  induction above generalizing b b' with
  | nil => exact related
  | @cons entry entry' _ _ first _ ih =>
    obtain ⟨key, v⟩ := entry
    obtain ⟨key', v'⟩ := entry'
    obtain ⟨rfl, held⟩ := first
    exact ih (related.insert held)

end Bindings

namespace Scopes

variable {R : String → Value → Value → Prop} {s s' : Scopes}

/-- As many frames, with related bindings. -/
structure Pointwise (R : String → Value → Value → Prop) (s s' : Scopes) : Prop where
  outermost : Bindings.Pointwise R s.outermost s'.outermost
  inner : List.Forall₂ (Bindings.Pointwise R) s.inner s'.inner

namespace Pointwise

theorem new : Pointwise R Scopes.new Scopes.new := ⟨Bindings.pointwise_empty, .nil⟩

theorem get? (related : Pointwise R s s') (name : String) :
    Option.Rel (R name) (s.get? name) (s'.get? name) := by
  obtain ⟨outermost, inner⟩ := s
  obtain ⟨outermost', inner'⟩ := s'
  obtain ⟨outer, inner⟩ := related
  unfold Scopes.get?
  dsimp only at outer inner ⊢
  induction inner with
  | nil => exact outer.get? name
  | cons frame _ ih =>
    have found := frame.get? name
    simp only [getFrom?]
    generalize Bindings.get? _ name = here at found ⊢
    generalize Bindings.get? _ name = there at found ⊢
    -- A frame binds the name on both sides or on neither.
    cases found with
    | none => exact ih
    | some held => exact .some held

theorem set (related : Pointwise R s s') {name : String} {v v' : Value} (held : R name v v') :
    Pointwise R (s.set name v) (s'.set name v') := by
  obtain ⟨outermost, inner⟩ := s
  obtain ⟨outermost', inner'⟩ := s'
  obtain ⟨outer, inner⟩ := related
  cases inner with
  | nil => exact ⟨outer.insert held, .nil⟩
  | cons frame rest => exact ⟨outer, .cons (frame.insert held) rest⟩

theorem assign (related : Pointwise R s s') {name : String} {v v' : Value}
    (held : R name v v') : Pointwise R (s.assign name v) (s'.assign name v') :=
  ⟨related.outermost.insert held, related.inner⟩

theorem push (related : Pointwise R s s') : Pointwise R s.push s'.push :=
  ⟨related.outermost, .cons Bindings.pointwise_empty related.inner⟩

theorem pop (related : Pointwise R s s') : Pointwise R s.pop s'.pop := by
  refine ⟨related.outermost, ?_⟩
  have inner := related.inner
  unfold Scopes.pop
  generalize s.inner = frames at inner
  generalize s'.inner = frames' at inner
  cases inner with
  | nil => exact .nil
  | cons _ rest => exact rest

end Pointwise

end Scopes

/-- What a name stands for is related if all its sources are. -/
theorem Render.valueOf_pointwise {R : String → Value → Value → Prop} {s s' : Setting}
    {p p' : Progress} (scopes : Scopes.Pointwise R p.scopes p'.scopes)
    (data : Bindings.Pointwise R s.data s'.data) (store : Bindings.Pointwise R p.store p'.store)
    (globals : Bindings.Pointwise R s.env.globals s'.env.globals) {name : String}
    (nil : R name .nil .nil) : R name (valueOf s p name) (valueOf s' p' name) := by
  have inScopes := scopes.get? name
  have inData := data.get? name
  have inStore := store.get? name
  have inGlobals := globals.get? name
  unfold valueOf
  generalize p.scopes.get? name = v, p'.scopes.get? name = v' at inScopes
  cases inScopes with
  | some related => exact related
  | none =>
    generalize s.data.get? name = v, s'.data.get? name = v' at inData
    cases inData with
    | some related => exact related
    | none =>
      generalize p.store.get? name = v, p'.store.get? name = v' at inStore
      cases inStore with
      | some related => exact related
      | none =>
        generalize s.env.globals.get? name = v, s'.env.globals.get? name = v' at inGlobals
        cases inGlobals with
        | some related => exact related
        | none => exact nil

end Liquid
