import Liquid.Host.Member
import Mathlib.Data.List.Forall2
import Mathlib.Data.Option.Basic

/-!
# Forced values

Forcing a value replaces every lazy value in it, at any depth, by what its cell computes. Whatever
reads a value by looking behind the cells reads its forced version alike: its text, its number, its
members, its place in the order. Strict equality does not look behind the cells, so it can tell the
two apart.
-/

namespace Liquid

namespace Value

mutual

/-- The value without lazy values. Objects are opaque and stay as they are. -/
def forced : Value → Value
  | .lazy _ content => content.forced
  | .array items => .array (forcedItems items)
  | .hash entries => .hash (forcedEntries entries)
  | v => v

def forcedItems : List Value → List Value
  | [] => []
  | v :: rest => v.forced :: forcedItems rest

def forcedEntries : List (String × Value) → List (String × Value)
  | [] => []
  | (key, v) :: rest => (key, v.forced) :: forcedEntries rest

end

theorem forcedItems_eq_map (items : List Value) : forcedItems items = items.map forced := by
  induction items with
  | nil => rfl
  | cons v rest ih => rw [forcedItems, ih, List.map_cons]

private theorem forcedEntries_eq_map (entries : List (String × Value)) :
    forcedEntries entries = entries.map fun entry => (entry.1, entry.2.forced) := by
  induction entries with
  | nil => rfl
  | cons entry rest ih => rw [forcedEntries, ih, List.map_cons]

@[simp] theorem length_forcedItems (items : List Value) :
    (forcedItems items).length = items.length := by
  rw [forcedItems_eq_map, List.length_map]

@[simp] theorem length_forcedEntries (entries : List (String × Value)) :
    (forcedEntries entries).length = entries.length := by
  rw [forcedEntries_eq_map, List.length_map]

/-! ### Behind the cells -/

/-- What looks behind the cells, and takes forced containers for the containers themselves, takes
forced values for the values themselves. -/
theorem reading_forced {α : Type} (f : Value → α) (cells : ∀ cell v, f (.lazy cell v) = f v)
    (arrays : ∀ items, f (.array (forcedItems items)) = f (.array items))
    (hashes : ∀ entries, f (.hash (forcedEntries entries)) = f (.hash entries)) :
    (v : Value) → f v.forced = f v
  | .lazy cell content =>
    (reading_forced f cells arrays hashes content).trans (cells cell content).symm
  | .nil | .bool _ | .int _ | .float _ | .str _ | .object _ => rfl
  | .array items => arrays items
  | .hash entries => hashes entries

theorem isResolved_forced : (v : Value) → v.forced.isResolved = true
  | .lazy _ content => isResolved_forced content
  | .nil | .bool _ | .int _ | .float _ | .str _ | .array _ | .hash _ | .object _ => rfl

@[simp] theorem forced_resolved : (v : Value) → v.resolved.forced = v.forced
  | .lazy _ content => forced_resolved content
  | .nil | .bool _ | .int _ | .float _ | .str _ | .array _ | .hash _ | .object _ => rfl

@[simp] theorem resolved_forced : (v : Value) → v.forced.resolved = v.forced
  | .lazy _ content => resolved_forced content
  | .nil | .bool _ | .int _ | .float _ | .str _ | .array _ | .hash _ | .object _ => rfl

@[simp] theorem kind_forced (v : Value) : v.forced.kind = v.kind :=
  reading_forced kind (fun _ _ => rfl) (fun _ => rfl) (fun _ => rfl) v

@[simp] theorem typeName_forced (v : Value) : v.forced.typeName = v.typeName :=
  reading_forced typeName (fun _ _ => rfl) (fun _ => rfl) (fun _ => rfl) v

@[simp] theorem isTruthy_forced (v : Value) : v.forced.isTruthy = v.isTruthy :=
  reading_forced isTruthy (fun _ _ => rfl) (fun _ => rfl) (fun _ => rfl) v

@[simp] theorem isNil_forced (v : Value) : v.forced.isNil = v.isNil :=
  reading_forced isNil (fun _ _ => rfl) (fun _ => rfl) (fun _ => rfl) v

private theorem isEmpty_forcedItems (items : List Value) :
    (forcedItems items).isEmpty = items.isEmpty := by
  cases items <;> rfl

private theorem isEmpty_forcedEntries (entries : List (String × Value)) :
    (forcedEntries entries).isEmpty = entries.isEmpty := by
  cases entries <;> rfl

@[simp] theorem isEmpty_forced (v : Value) : v.forced.isEmpty = v.isEmpty :=
  reading_forced isEmpty (fun _ _ => rfl) isEmpty_forcedItems isEmpty_forcedEntries v

@[simp] theorem isBlank_forced (v : Value) : v.forced.isBlank = v.isBlank :=
  reading_forced isBlank (fun _ _ => rfl) isEmpty_forcedItems isEmpty_forcedEntries v

@[simp] theorem str?_forced (v : Value) : v.forced.str? = v.str? :=
  reading_forced str? (fun _ _ => rfl) (fun _ => rfl) (fun _ => rfl) v

@[simp] theorem number?_forced (v : Value) : v.forced.number? = v.number? :=
  reading_forced number? (fun _ _ => rfl) (fun _ => rfl) (fun _ => rfl) v

@[simp] theorem int?_forced (v : Value) : v.forced.int? = v.int? := by
  rw [int?, number?_forced, int?]

@[simp] theorem compare?_forced_left (v other : Value) :
    v.forced.compare? other = v.compare? other :=
  reading_forced (compare? · other) (fun _ _ => rfl) (fun _ => rfl) (fun _ => rfl) v

@[simp] theorem compare?_forced_right (v other : Value) :
    v.compare? other.forced = v.compare? other := by
  refine reading_forced (v.compare? ·) (fun _ _ => rfl) (fun _ => ?_) (fun _ => ?_) other
  -- Containers are ordered with nothing, whatever stands on the left.
  all_goals unfold compare?; cases v.resolved <;> rfl

/-! ### The text -/

mutual

theorem write_forced (format : Format) (out : String) :
    (v : Value) → v.forced.write format out = v.write format out
  | .lazy _ content => write_forced format out content
  | .nil | .bool _ | .int _ | .float _ | .str _ | .object _ => rfl
  | .array items => writeItems_forced format out items
  | .hash entries => by
    rw [forced, write, write, writeEntries_forced format (out.push '\x7b') entries]

private theorem writeItems_forced (format : Format) (out : String) : (items : List Value) →
    writeItems format out (forcedItems items) = writeItems format out items
  | [] => rfl
  | v :: rest => by
    rw [forcedItems, writeItems, writeItems, write_forced format out v,
      writeItems_forced format _ rest]

private theorem writeEntries_forced (format : Format) (out : String) :
    (entries : List (String × Value)) →
    writeEntries format out (forcedEntries entries) = writeEntries format out entries
  | [] => rfl
  | [(key, v)] => write_forced format (out ++ key ++ ": ") v
  -- A comma follows, so these entries are not written like the last one.
  | (key, v) :: next :: rest => by
    have first := write_forced format (out ++ key ++ ": ") v
    have others := writeEntries_forced format
      (v.write format (out ++ key ++ ": ") ++ ", ") (next :: rest)
    simp only [forcedEntries, writeEntries, first] at others ⊢
    exact others

end

@[simp] theorem text_forced (format : Format) (v : Value) : v.forced.text format = v.text format :=
  write_forced format "" v

@[simp] theorem plain_forced (v : Value) : v.forced.plain = v.plain := text_forced Format.plain v

/-! ### Members and items -/

theorem entry_forced (name : String) (entries : List (String × Value)) :
    Entries.get? name (forcedEntries entries) = (Entries.get? name entries).map forced := by
  induction entries with
  | nil => rfl
  | cons entry rest ih =>
    obtain ⟨key, v⟩ := entry
    by_cases found : (key == name) = true
    · simp [forcedEntries, Entries.get?, found]
    · simp [forcedEntries, Entries.get?, found, ih]

@[simp] theorem ofNat_forced (n : Nat) : (ofNat n).forced = ofNat n := by
  unfold ofNat
  split <;> rfl

private theorem array_member?_forced (items : List Value) (name : String) :
    (array items).forced.member? name = ((array items).member? name).map forced := by
  unfold member?
  simp only [forced, resolved, forcedItems_eq_map]
  split <;> simp

private theorem hash_member?_forced (entries : List (String × Value)) (name : String) :
    (hash entries).forced.member? name = ((hash entries).member? name).map forced := by
  unfold member?
  simp only [forced, resolved, entry_forced]
  -- An entry hides the member of its name, so it is looked for first.
  cases Entries.get? name entries with
  | some v => rfl
  | none =>
    simp only [Option.map_none, forcedEntries_eq_map]
    split <;> simp [pair, forced, forcedItems, Function.comp_def]

private theorem member?_forced (name : String) :
    (v : Value) → v.forced.member? name = (v.member? name).map forced
  | .lazy _ content => member?_forced name content
  | .nil | .bool _ | .int _ | .float _ | .object _ => rfl
  | .str s => by
    unfold member?
    simp only [forced, resolved]
    split <;> simp
  | .array items => array_member?_forced items name
  | .hash entries => hash_member?_forced entries name

theorem item?_forced (items : List Value) (i : Int) :
    item? (forcedItems items) i = (item? items i).map forced := by
  unfold item?
  rw [length_forcedItems, forcedItems_eq_map]
  split
  · rw [List.getElem?_map]
  · split
    · rw [List.getElem?_map]
    · rfl

/-! ### Versions -/

/-- The value itself or its forced version. -/
inductive Version (v : Value) : Value → Prop where
  | same : Version v v
  | forced : Version v v.forced

/-- A version with the same constructor. -/
inductive Twin : Value → Value → Prop where
  | same (v : Value) : Twin v v
  | forced {v : Value} (bare : v.isResolved = true) : Twin v v.forced

theorem Version.reading {α : Type} {v w : Value} (version : Version v w) (f : Value → α)
    (blind : ∀ v, f v.forced = f v) : f w = f v := by
  cases version with
  | same => rfl
  | forced => exact blind v

theorem Version.resolved {v w : Value} (version : Version v w) : Twin v.resolved w.resolved := by
  cases version with
  | same => exact .same _
  | forced =>
    -- Nothing is left to look behind in a forced value.
    rw [resolved_forced, ← forced_resolved]
    exact .forced (isResolved_resolved v)

theorem Twin.version {v w : Value} (twin : Twin v w) : Version v w := by
  cases twin with
  | same => exact .same
  | forced _ => exact .forced

private theorem versions_forcedItems (items : List Value) :
    List.Forall₂ Version items (forcedItems items) := by
  induction items with
  | nil => exact .nil
  | cons v rest ih => exact .cons .forced ih

theorem Version.array {items : List Value} {w : Value} (version : Version (.array items) w) :
    ∃ others, w = .array others ∧ List.Forall₂ Version items others := by
  cases version with
  | same => exact ⟨items, rfl, List.forall₂_same.mpr fun _ _ => .same⟩
  | forced => exact ⟨forcedItems items, rfl, versions_forcedItems items⟩

theorem Twin.object {o : HostObject Value} {w : Value} (twin : Twin (.object o) w) :
    w = .object o := by
  cases twin <;> rfl

theorem Version.hash {entries : List (String × Value)} {w : Value}
    (version : Version (.hash entries) w) :
    ∃ others, w = .hash others ∧ (others = entries ∨ others = forcedEntries entries) := by
  cases version with
  | same => exact ⟨entries, rfl, .inl rfl⟩
  | forced => exact ⟨forcedEntries entries, rfl, .inr rfl⟩

theorem versions_option {o : Option Value} : Option.Rel Version o o := by
  cases o with
  | none => exact .none
  | some v => exact .some .same

theorem versions_option_forced {o : Option Value} : Option.Rel Version o (o.map forced) := by
  cases o with
  | none => exact .none
  | some v => exact .some .forced

theorem Version.member? {v w : Value} (version : Version v w) (name : String) :
    Option.Rel Version (v.member? name) (w.member? name) := by
  cases version with
  | same => exact versions_option
  | forced =>
    rw [member?_forced]
    exact versions_option_forced

end Value

end Liquid
