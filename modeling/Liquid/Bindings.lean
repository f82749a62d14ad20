/-!
# Bindings

What names stand for: variables, filters, tags, adapters. A later binding of a name takes the
place of the earlier one.
-/

namespace Liquid

structure Bindings (α : Type) where
  entries : List (String × α)

namespace Bindings

variable {α : Type}

def empty : Bindings α := ⟨[]⟩

instance : Inhabited (Bindings α) := ⟨empty⟩

def getFrom? (name : String) : List (String × α) → Option α
  | [] => none
  | (key, value) :: rest => if key = name then some value else getFrom? name rest

def insertInto (name : String) (value : α) : List (String × α) → List (String × α)
  | [] => [(name, value)]
  | (key, old) :: rest =>
    if key = name then (name, value) :: rest else (key, old) :: insertInto name value rest

def get? (b : Bindings α) (name : String) : Option α := getFrom? name b.entries

def insert (b : Bindings α) (name : String) (value : α) : Bindings α :=
  ⟨insertInto name value b.entries⟩

def contains (b : Bindings α) (name : String) : Bool := (b.get? name).isSome

def names (b : Bindings α) : List String := b.entries.map (·.1)

def size (b : Bindings α) : Nat := b.entries.length

/-- The bindings of both; those of `upper` win. -/
def overlay (b upper : Bindings α) : Bindings α :=
  upper.entries.foldl (fun b (name, value) => b.insert name value) b

def ofPairs (pairs : List (String × α)) : Bindings α := overlay empty ⟨pairs⟩

/-! ### Look-up after insertion -/

theorem getFrom?_insertInto (entries : List (String × α)) (name other : String) (value : α) :
    getFrom? other (insertInto name value entries) =
      if name = other then some value else getFrom? other entries := by
  induction entries with
  | nil => simp [insertInto, getFrom?]
  | cons entry rest ih =>
    obtain ⟨key, old⟩ := entry
    by_cases same : key = name
    · subst same
      by_cases h : key = other <;> simp [insertInto, getFrom?, h]
    · by_cases h : key = other
      · subst h
        have distinct : ¬ name = key := fun e => same e.symm
        simp [insertInto, getFrom?, same, distinct]
      · simp [insertInto, getFrom?, same, h, ih]

@[simp] theorem get?_insert (b : Bindings α) (name other : String) (value : α) :
    (b.insert name value).get? other = if name = other then some value else b.get? other :=
  getFrom?_insertInto b.entries name other value

@[simp] theorem get?_empty (name : String) : (empty : Bindings α).get? name = none := rfl

@[simp] theorem overlay_nil (b : Bindings α) : b.overlay ⟨[]⟩ = b := rfl

theorem overlay_append (b : Bindings α) (first later : List (String × α)) :
    b.overlay ⟨first ++ later⟩ = (b.overlay ⟨first⟩).overlay ⟨later⟩ := List.foldl_append

theorem holds_of_get?_overlay {P : α → Prop} {b upper : Bindings α}
    (lower : ∀ name value, b.get? name = some value → P value)
    (above : ∀ entry ∈ upper.entries, P entry.2) :
    ∀ name value, (b.overlay upper).get? name = some value → P value := by
  obtain ⟨entries⟩ := upper
  induction entries generalizing b with
  | nil => exact lower
  | cons entry rest ih =>
    obtain ⟨key, held⟩ := entry
    refine ih (fun name value found => ?_) fun entry member =>
      above entry (List.mem_cons_of_mem _ member)
    rw [get?_insert] at found
    split at found
    next =>
      cases found
      exact above (key, held) List.mem_cons_self
    next => exact lower name value found

theorem get?_overlay_of_not_mem (b : Bindings α) {entries : List (String × α)} {name : String}
    (unbound : ∀ value, (name, value) ∉ entries) :
    (b.overlay ⟨entries⟩).get? name = b.get? name := by
  induction entries generalizing b with
  | nil => rfl
  | cons entry rest ih =>
    obtain ⟨key, value⟩ := entry
    have other : key ≠ name := fun same => unbound value (same ▸ List.mem_cons_self)
    have inserted := ih (b.insert key value) fun value member =>
      unbound value (List.mem_cons_of_mem _ member)
    rw [get?_insert, if_neg other] at inserted
    exact inserted

end Bindings

end Liquid
