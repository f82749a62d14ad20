import Liquid.Host.Member
import Mathlib.Data.List.Forall2
import Mathlib.Data.Option.Basic

/-!
# Renumbered values

Objects and cells have numbers, which are drawn one after the other. When the same host code runs
later, its numbers are greater by as many as were drawn in between, and nothing else about its
values changes. Here the numbers up to some point are kept and all others are moved: what reads a
value, or takes it apart, does the same with the renumbered value.

## Main results

`Value.renumbered_of_sound`: a value whose numbers were all drawn before that point stays what it
is.

`Value.looseEq_renumbered`, `Value.contains_renumbered`, `Value.text_renumbered`: equality and text
do not depend on the numbers, only on which of them are the same.
-/

namespace Liquid

/-- From `start` on, all numbers are greater by `gap`. -/
structure Shift where
  start : Nat
  gap : Nat

namespace Shift

variable (σ : Shift)

def number (n : Nat) : Nat := if n < σ.start then n else n + σ.gap

private theorem number_of_lt {n : Nat} (early : n < σ.start) : σ.number n = n := if_pos early

theorem number_of_le {n : Nat} (late : σ.start ≤ n) : σ.number n = n + σ.gap :=
  if_neg (Nat.not_lt.mpr late)

private theorem number_of_gap (still : σ.gap = 0) (n : Nat) : σ.number n = n := by
  unfold number
  split
  next => rfl
  next => rw [still, Nat.add_zero]

/-- No two numbers become the same. -/
@[simp] theorem number_inj {m n : Nat} : σ.number m = σ.number n ↔ m = n := by
  unfold number
  split <;> split <;> omega

end Shift

namespace Value

/-! ### Renumbering -/

mutual

def renumbered (σ : Shift) : Value → Value
  | .lazy cell content => .lazy { cell with serial := σ.number cell.serial } (content.renumbered σ)
  | .array items => .array (renumberedItems σ items)
  | .hash entries => .hash (renumberedEntries σ entries)
  | .object o => .object (renumberedObject σ o)
  | v => v

def renumberedObject (σ : Shift) : HostObject Value → HostObject Value
  | ⟨handle, type, native, fields⟩ =>
    ⟨σ.number handle, type, native, renumberedEntries σ fields⟩

def renumberedItems (σ : Shift) : List Value → List Value
  | [] => []
  | v :: rest => v.renumbered σ :: renumberedItems σ rest

def renumberedEntries (σ : Shift) : List (String × Value) → List (String × Value)
  | [] => []
  | (key, v) :: rest => (key, v.renumbered σ) :: renumberedEntries σ rest

end

variable (σ : Shift)

theorem renumberedItems_eq_map (items : List Value) :
    renumberedItems σ items = items.map (renumbered σ) := by
  induction items with
  | nil => rfl
  | cons v rest ih => rw [renumberedItems, ih, List.map_cons]

private theorem renumberedEntries_eq_map (entries : List (String × Value)) :
    renumberedEntries σ entries = entries.map fun entry => (entry.1, entry.2.renumbered σ) := by
  induction entries with
  | nil => rfl
  | cons entry rest ih => rw [renumberedEntries, ih, List.map_cons]

@[simp] theorem length_renumberedItems (items : List Value) :
    (renumberedItems σ items).length = items.length := by
  rw [renumberedItems_eq_map, List.length_map]

@[simp] theorem length_renumberedEntries (entries : List (String × Value)) :
    (renumberedEntries σ entries).length = entries.length := by
  rw [renumberedEntries_eq_map, List.length_map]

@[simp] theorem handle_renumberedObject (o : HostObject Value) :
    (renumberedObject σ o).handle = σ.number o.handle := by cases o; rfl

@[simp] theorem type_renumberedObject (o : HostObject Value) :
    (renumberedObject σ o).type = o.type := by cases o; rfl

@[simp] theorem native_renumberedObject (o : HostObject Value) :
    (renumberedObject σ o).native = o.native := by cases o; rfl

/-! ### Soundness -/

section

variable (nature : String → Bool) (n : Nat)

mutual

/-- Every number in the value was drawn before `n`, and every object agrees with the others of its
type on whether the type is native. -/
def Sound : Value → Prop
  | .lazy cell content => cell.serial < n ∧ content.Sound
  | .array items => SoundItems items
  | .hash entries => SoundEntries entries
  | .object o => SoundObject o
  | _ => True

def SoundObject : HostObject Value → Prop
  | ⟨handle, type, native, fields⟩ => handle < n ∧ native = nature type ∧ SoundEntries fields

def SoundItems : List Value → Prop
  | [] => True
  | v :: rest => v.Sound ∧ SoundItems rest

def SoundEntries : List (String × Value) → Prop
  | [] => True
  | (_, v) :: rest => v.Sound ∧ SoundEntries rest

end

end

variable {nature : String → Bool} {n : Nat}

theorem soundItems_iff {items : List Value} :
    SoundItems nature n items ↔ ∀ v ∈ items, v.Sound nature n := by
  induction items with
  | nil => simp [SoundItems]
  | cons v rest ih => rw [SoundItems, ih, List.forall_mem_cons]

theorem soundEntries_iff {entries : List (String × Value)} :
    SoundEntries nature n entries ↔ ∀ entry ∈ entries, entry.2.Sound nature n := by
  induction entries with
  | nil => simp [SoundEntries]
  | cons entry rest ih => rw [SoundEntries, ih, List.forall_mem_cons]

mutual

theorem Sound.later {k : Nat} (later : n ≤ k) :
    (v : Value) → v.Sound nature n → v.Sound nature k
  | .lazy _ content, sound =>
    ⟨Nat.lt_of_lt_of_le sound.1 later, Sound.later later content sound.2⟩
  | .array items, sound => SoundItems.later later items sound
  | .hash entries, sound => SoundEntries.later later entries sound
  | .object ⟨_, _, _, fields⟩, sound =>
    ⟨Nat.lt_of_lt_of_le sound.1 later, sound.2.1, SoundEntries.later later fields sound.2.2⟩
  | .nil, _ | .bool _, _ | .int _, _ | .float _, _ | .str _, _ => trivial

theorem SoundItems.later {k : Nat} (later : n ≤ k) :
    (items : List Value) → SoundItems nature n items → SoundItems nature k items
  | [], _ => trivial
  | v :: rest, sound => ⟨Sound.later later v sound.1, SoundItems.later later rest sound.2⟩

theorem SoundEntries.later {k : Nat} (later : n ≤ k) :
    (entries : List (String × Value)) → SoundEntries nature n entries →
    SoundEntries nature k entries
  | [], _ => trivial
  | (_, v) :: rest, sound => ⟨Sound.later later v sound.1, SoundEntries.later later rest sound.2⟩

end

mutual

/-- A value is not renumbered if its numbers are not. -/
theorem renumbered_eq_self (fixed : ∀ m, m < n → σ.number m = m) :
    (v : Value) → v.Sound nature n → v.renumbered σ = v
  | .lazy _ content, sound => by
    rw [renumbered, fixed _ sound.1, renumbered_eq_self fixed content sound.2]
  | .array items, sound => congrArg array (renumberedItems_eq_self fixed items sound)
  | .hash entries, sound => congrArg hash (renumberedEntries_eq_self fixed entries sound)
  | .object ⟨_, _, _, fields⟩, sound => by
    rw [renumbered, renumberedObject, fixed _ sound.1,
      renumberedEntries_eq_self fixed fields sound.2.2]
  | .nil, _ | .bool _, _ | .int _, _ | .float _, _ | .str _, _ => rfl

private theorem renumberedItems_eq_self (fixed : ∀ m, m < n → σ.number m = m) :
    (items : List Value) → SoundItems nature n items → renumberedItems σ items = items
  | [], _ => rfl
  | v :: rest, sound => by
    rw [renumberedItems, renumbered_eq_self fixed v sound.1,
      renumberedItems_eq_self fixed rest sound.2]

theorem renumberedEntries_eq_self (fixed : ∀ m, m < n → σ.number m = m) :
    (entries : List (String × Value)) → SoundEntries nature n entries →
    renumberedEntries σ entries = entries
  | [], _ => rfl
  | (_, v) :: rest, sound => by
    rw [renumberedEntries, renumbered_eq_self fixed v sound.1,
      renumberedEntries_eq_self fixed rest sound.2]

end

theorem renumbered_of_sound (v : Value) (sound : v.Sound nature σ.start) : v.renumbered σ = v :=
  renumbered_eq_self σ (fun _ => σ.number_of_lt) v sound

/-- Without a gap nothing is renumbered. -/
theorem renumbered_of_gap (still : σ.gap = 0) (v : Value) (sound : v.Sound nature n) :
    v.renumbered σ = v :=
  renumbered_eq_self σ (fun m _ => σ.number_of_gap still m) v sound

/-! ### Behind the cells -/

/-- What looks behind the cells, and takes renumbered containers and objects for those themselves,
takes renumbered values for the values themselves. -/
theorem reading_renumbered {α : Type} (f : Value → α)
    (cells : ∀ cell v, f (.lazy cell v) = f v)
    (arrays : ∀ items, f (.array (renumberedItems σ items)) = f (.array items))
    (hashes : ∀ entries, f (.hash (renumberedEntries σ entries)) = f (.hash entries))
    (objects : ∀ o, f (.object (renumberedObject σ o)) = f (.object o)) :
    (v : Value) → f (v.renumbered σ) = f v
  | .lazy cell content => by
    rw [renumbered, cells, cells, reading_renumbered f cells arrays hashes objects content]
  | .nil | .bool _ | .int _ | .float _ | .str _ => rfl
  | .array items => arrays items
  | .hash entries => hashes entries
  | .object o => objects o

@[simp] theorem resolved_renumbered : (v : Value) →
    (v.renumbered σ).resolved = v.resolved.renumbered σ
  | .lazy _ content => resolved_renumbered content
  | .nil | .bool _ | .int _ | .float _ | .str _ | .array _ | .hash _ | .object _ => rfl

theorem Sound.resolved : (v : Value) → v.Sound nature n → v.resolved.Sound nature n
  | .lazy _ content, sound => Sound.resolved content sound.2
  | .nil, sound | .bool _, sound | .int _, sound | .float _, sound | .str _, sound
  | .array _, sound | .hash _, sound | .object _, sound => sound

@[simp] theorem kind_renumbered (v : Value) : (v.renumbered σ).kind = v.kind :=
  reading_renumbered σ kind (fun _ _ => rfl) (fun _ => rfl) (fun _ => rfl) (fun _ => rfl) v

@[simp] theorem typeName_renumbered (v : Value) : (v.renumbered σ).typeName = v.typeName :=
  reading_renumbered σ typeName (fun _ _ => rfl) (fun _ => rfl) (fun _ => rfl)
    (type_renumberedObject σ) v

@[simp] theorem isTruthy_renumbered (v : Value) : (v.renumbered σ).isTruthy = v.isTruthy :=
  reading_renumbered σ isTruthy (fun _ _ => rfl) (fun _ => rfl) (fun _ => rfl) (fun _ => rfl) v

@[simp] theorem isNil_renumbered (v : Value) : (v.renumbered σ).isNil = v.isNil :=
  reading_renumbered σ isNil (fun _ _ => rfl) (fun _ => rfl) (fun _ => rfl) (fun _ => rfl) v

private theorem isEmpty_renumberedItems (items : List Value) :
    (renumberedItems σ items).isEmpty = items.isEmpty := by
  cases items <;> rfl

private theorem isEmpty_renumberedEntries (entries : List (String × Value)) :
    (renumberedEntries σ entries).isEmpty = entries.isEmpty := by
  cases entries <;> rfl

@[simp] theorem isEmpty_renumbered (v : Value) : (v.renumbered σ).isEmpty = v.isEmpty :=
  reading_renumbered σ isEmpty (fun _ _ => rfl) (isEmpty_renumberedItems σ)
    (isEmpty_renumberedEntries σ) (fun _ => rfl) v

@[simp] theorem isBlank_renumbered (v : Value) : (v.renumbered σ).isBlank = v.isBlank :=
  reading_renumbered σ isBlank (fun _ _ => rfl) (isEmpty_renumberedItems σ)
    (isEmpty_renumberedEntries σ) (fun _ => rfl) v

@[simp] theorem str?_renumbered (v : Value) : (v.renumbered σ).str? = v.str? :=
  reading_renumbered σ str? (fun _ _ => rfl) (fun _ => rfl) (fun _ => rfl) (fun _ => rfl) v

@[simp] theorem number?_renumbered (v : Value) : (v.renumbered σ).number? = v.number? :=
  reading_renumbered σ number? (fun _ _ => rfl) (fun _ => rfl) (fun _ => rfl) (fun _ => rfl) v

@[simp] theorem int?_renumbered (v : Value) : (v.renumbered σ).int? = v.int? := by
  rw [int?, number?_renumbered, int?]

@[simp] theorem compare?_renumbered (v w : Value) :
    (v.renumbered σ).compare? (w.renumbered σ) = v.compare? w := by
  have left (u : Value) : (v.renumbered σ).compare? u = v.compare? u :=
    reading_renumbered σ (compare? · u) (fun _ _ => rfl) (fun _ => rfl) (fun _ => rfl)
      (fun _ => rfl) v
  rw [left]
  refine reading_renumbered σ v.compare? (fun _ _ => rfl) (fun _ => ?_) (fun _ => ?_)
    (fun _ => ?_) w
  -- Containers and objects are ordered with nothing, whatever stands on the left.
  all_goals unfold compare?; cases v.resolved <;> rfl

/-! ### The text -/

mutual

theorem write_renumbered (format : Format) (out : String) :
    (v : Value) → (v.renumbered σ).write format out = v.write format out
  | .lazy _ content => write_renumbered format out content
  | .nil | .bool _ | .int _ | .float _ | .str _ | .object _ => rfl
  | .array items => writeItems_renumbered format out items
  | .hash entries => by
    rw [renumbered, write, write, writeEntries_renumbered format (out.push '\x7b') entries]

private theorem writeItems_renumbered (format : Format) (out : String) : (items : List Value) →
    writeItems format out (renumberedItems σ items) = writeItems format out items
  | [] => rfl
  | v :: rest => by
    rw [renumberedItems, writeItems, writeItems, write_renumbered format out v,
      writeItems_renumbered format _ rest]

private theorem writeEntries_renumbered (format : Format) (out : String) :
    (entries : List (String × Value)) →
    writeEntries format out (renumberedEntries σ entries) = writeEntries format out entries
  | [] => rfl
  | [(key, v)] => write_renumbered format (out ++ key ++ ": ") v
  -- A comma follows, so these entries are not written like the last one.
  | (key, v) :: next :: rest => by
    have first := write_renumbered format (out ++ key ++ ": ") v
    have others := writeEntries_renumbered format
      (v.write format (out ++ key ++ ": ") ++ ", ") (next :: rest)
    simp only [renumberedEntries, writeEntries, first] at others ⊢
    exact others

end

@[simp] theorem text_renumbered (format : Format) (v : Value) :
    (v.renumbered σ).text format = v.text format := write_renumbered σ format "" v

@[simp] theorem plain_renumbered (v : Value) : (v.renumbered σ).plain = v.plain :=
  text_renumbered σ Format.plain v

/-! ### Equality -/

private theorem same_cell (cell other : Cell) :
    (({ cell with serial := σ.number cell.serial } : Cell) ==
      { other with serial := σ.number other.serial }) = (cell == other) := by
  obtain ⟨serial, label⟩ := cell
  obtain ⟨serial', label'⟩ := other
  rw [Bool.eq_iff_iff]
  simp

private theorem same_handle (o other : HostObject Value) :
    ((renumberedObject σ o).handle == (renumberedObject σ other).handle) =
      (o.handle == other.handle) := by
  rw [Bool.eq_iff_iff]
  simp

mutual

theorem same_renumbered : (v w : Value) → (v.renumbered σ).same (w.renumbered σ) = v.same w
  | .lazy cell _, w => by
    cases w
    case lazy other _ => exact same_cell σ cell other
    all_goals rfl
  | .array items, w => by
    cases w
    case array others => exact sameItems_renumbered items others
    all_goals rfl
  | .hash entries, w => by
    cases w
    case hash others => exact sameEntries_renumbered entries others
    all_goals rfl
  | .object o, w => by
    cases w
    case object other => exact same_handle σ o other
    all_goals rfl
  | .nil, w | .bool _, w | .int _, w | .float _, w | .str _, w => by cases w <;> rfl

private theorem sameItems_renumbered : (items others : List Value) →
    sameItems (renumberedItems σ items) (renumberedItems σ others) = sameItems items others
  | [], [] => rfl
  | [], _ :: _ => rfl
  | _ :: _, [] => rfl
  | a :: as, b :: bs => by
    rw [renumberedItems, renumberedItems, sameItems, sameItems, same_renumbered a b,
      sameItems_renumbered as bs]

private theorem sameEntries_renumbered : (entries others : List (String × Value)) →
    sameEntries (renumberedEntries σ entries) (renumberedEntries σ others) =
      sameEntries entries others
  | [], [] => rfl
  | [], _ :: _ => rfl
  | _ :: _, [] => rfl
  | (_, a) :: as, (_, b) :: bs => by
    rw [renumberedEntries, renumberedEntries, sameEntries, sameEntries, same_renumbered a b,
      sameEntries_renumbered as bs]

end

mutual

-- On the left value alone, which loose equality takes apart; the right one only has to follow.
theorem looseEq_renumbered : (v w : Value) →
    (v.renumbered σ).looseEq (w.renumbered σ) = v.looseEq w
  | .lazy _ content, w => looseEq_renumbered content w
  | .array items, w => by
    rw [renumbered, looseEq, looseEq, resolved_renumbered]
    generalize w.resolved = u
    cases u
    case array others => exact looseEqItems_renumbered items others
    all_goals rfl
  | .int i, w => by
    simp only [renumbered, looseEq, resolved_renumbered]
    generalize w.resolved = u
    cases u <;> rfl
  | .float f, w => by
    simp only [renumbered, looseEq, resolved_renumbered]
    generalize w.resolved = u
    cases u <;> rfl
  | .nil, w => (congrArg _ (resolved_renumbered σ w)).trans (same_renumbered σ .nil w.resolved)
  | .bool b, w =>
    (congrArg _ (resolved_renumbered σ w)).trans (same_renumbered σ (.bool b) w.resolved)
  | .str s, w =>
    (congrArg _ (resolved_renumbered σ w)).trans (same_renumbered σ (.str s) w.resolved)
  | .hash entries, w =>
    (congrArg _ (resolved_renumbered σ w)).trans (same_renumbered σ (.hash entries) w.resolved)
  | .object o, w =>
    (congrArg _ (resolved_renumbered σ w)).trans (same_renumbered σ (.object o) w.resolved)

private theorem looseEqItems_renumbered : (items others : List Value) →
    looseEqItems (renumberedItems σ items) (renumberedItems σ others) = looseEqItems items others
  | [], [] => rfl
  | [], _ :: _ => rfl
  | _ :: _, [] => rfl
  | a :: as, b :: bs => by
    rw [renumberedItems, renumberedItems, looseEqItems, looseEqItems, looseEq_renumbered a b,
      looseEqItems_renumbered as bs]

end

/-! ### Members and items -/

theorem entry_renumbered (name : String) (entries : List (String × Value)) :
    Entries.get? name (renumberedEntries σ entries) =
      (Entries.get? name entries).map (renumbered σ) := by
  induction entries with
  | nil => rfl
  | cons entry rest ih =>
    obtain ⟨key, v⟩ := entry
    by_cases found : (key == name) = true
    · simp [renumberedEntries, Entries.get?, found]
    · simp [renumberedEntries, Entries.get?, found, ih]

theorem contains_renumbered : (v w : Value) →
    (v.renumbered σ).contains (w.renumbered σ) = v.contains w
  | .lazy _ content, w => contains_renumbered content w
  | .array items, w => by
    change (renumberedItems σ items).any _ = items.any _
    rw [renumberedItems_eq_map, List.any_map]
    exact congrArg items.any (funext fun v => looseEq_renumbered σ v w)
  | .hash entries, w => by
    have held (name : String) : (Entries.get? name (renumberedEntries σ entries)).isSome =
        (Entries.get? name entries).isSome := by
      rw [entry_renumbered, Option.isSome_map]
    simp only [contains, renumbered, Value.resolved, str?_renumbered, held]
  | .str s, w => by
    simp only [contains, renumbered, Value.resolved, resolved_renumbered]
    have plain := plain_renumbered σ w.resolved
    generalize w.resolved = u at plain
    cases u <;> first | rfl | exact congrArg (containsText s) plain
  | .nil, _ | .bool _, _ | .int _, _ | .float _, _ | .object _, _ => rfl

@[simp] theorem ofNat_renumbered (k : Nat) : (ofNat k).renumbered σ = ofNat k := by
  unfold ofNat
  split <;> rfl

private theorem array_member?_renumbered (items : List Value) (name : String) :
    ((array items).renumbered σ).member? name =
      ((array items).member? name).map (renumbered σ) := by
  unfold member?
  simp only [renumbered, Value.resolved, renumberedItems_eq_map]
  split <;> simp

private theorem hash_member?_renumbered (entries : List (String × Value)) (name : String) :
    ((hash entries).renumbered σ).member? name =
      ((hash entries).member? name).map (renumbered σ) := by
  unfold member?
  simp only [renumbered, Value.resolved, entry_renumbered]
  -- An entry hides the member of its name, so it is looked for first.
  cases Entries.get? name entries with
  | some v => rfl
  | none =>
    simp only [Option.map_none, renumberedEntries_eq_map]
    split <;> simp [pair, renumbered, renumberedItems, Function.comp_def]

private theorem member?_renumbered (name : String) :
    (v : Value) → (v.renumbered σ).member? name = (v.member? name).map (renumbered σ)
  | .lazy _ content => member?_renumbered name content
  | .nil | .bool _ | .int _ | .float _ | .object _ => rfl
  | .str s => by
    unfold member?
    simp only [renumbered, Value.resolved]
    split <;> simp
  | .array items => array_member?_renumbered σ items name
  | .hash entries => hash_member?_renumbered σ entries name

private theorem item?_renumbered (items : List Value) (i : Int) :
    item? (renumberedItems σ items) i = (item? items i).map (renumbered σ) := by
  unfold item?
  rw [length_renumberedItems, renumberedItems_eq_map]
  split
  · rw [List.getElem?_map]
  · split
    · rw [List.getElem?_map]
    · rfl

theorem sound_ofNat (k : Nat) : (ofNat k).Sound nature n := by
  unfold ofNat
  split <;> trivial

theorem sound_of_entry {name : String} {v : Value} : (entries : List (String × Value)) →
    SoundEntries nature n entries → Entries.get? name entries = some v → v.Sound nature n
  | (key, held) :: rest, sound, found => by
    unfold Entries.get? at found
    split at found
    next =>
      cases found
      exact sound.1
    next => exact sound_of_entry rest sound.2 found

private theorem sound_pair {entry : String × Value} (sound : entry.2.Sound nature n) :
    (pair entry).Sound nature n := ⟨trivial, sound, trivial⟩

private theorem sound_of_member? {name : String} {w : Value} : (v : Value) → v.Sound nature n →
    v.member? name = some w → w.Sound nature n
  | .lazy _ content, sound, found => sound_of_member? content sound.2 found
  | .str s, _, found => by
    simp only [member?, Value.resolved] at found
    split at found
    next =>
      cases found
      exact sound_ofNat _
    next => cases found
  | .array items, sound, found => by
    have each := soundItems_iff.mp sound
    simp only [member?, Value.resolved] at found
    split at found
    next =>
      cases found
      exact sound_ofNat _
    next => exact each w (List.mem_of_mem_head? found)
    next => exact each w (List.mem_of_getLast? found)
    next => cases found
  | .hash entries, sound, found => by
    have each := soundEntries_iff.mp sound
    simp only [member?, Value.resolved] at found
    split at found
    next held =>
      cases found
      exact sound_of_entry entries sound held
    next =>
      split at found
      next =>
        cases found
        exact sound_ofNat _
      next =>
        obtain ⟨entry, ends, rfl⟩ := Option.map_eq_some_iff.mp found
        exact sound_pair (each entry (List.mem_of_mem_head? ends))
      next =>
        obtain ⟨entry, ends, rfl⟩ := Option.map_eq_some_iff.mp found
        exact sound_pair (each entry (List.mem_of_getLast? ends))
      next => cases found
  | .nil, _, found | .bool _, _, found | .int _, _, found | .float _, _, found
  | .object _, _, found => nomatch found

private theorem sound_of_item? {items : List Value} {i : Int} {v : Value}
    (sound : SoundItems nature n items) (found : item? items i = some v) : v.Sound nature n := by
  have each := soundItems_iff.mp sound
  unfold item? at found
  split at found
  next => exact each v (List.mem_of_getElem? found)
  next =>
    split at found
    next => exact each v (List.mem_of_getElem? found)
    next => cases found

/-! ### Counterparts -/

/-- The same value in a run whose numbers are shifted. All its numbers were drawn before `n`. -/
structure Counterpart (nature : String → Bool) (σ : Shift) (n : Nat) (v w : Value) : Prop where
  sound : v.Sound nature n
  same : w = v.renumbered σ

namespace Counterpart

variable {σ} {v w : Value}

theorem later {k : Nat} (related : Counterpart nature σ n v w) (later : n ≤ k) :
    Counterpart nature σ k v w := ⟨related.sound.later later v, related.same⟩

/-- What was there before is its own counterpart. -/
theorem kept (sound : v.Sound nature σ.start) (late : σ.start ≤ n) : Counterpart nature σ n v v :=
  ⟨sound.later late v, (renumbered_of_sound σ v sound).symm⟩

/-- So is what has no numbers. -/
theorem plain (sound : v.Sound nature 0) : Counterpart nature σ n v v :=
  ⟨sound.later (Nat.zero_le n) v,
    (renumbered_of_sound σ v (sound.later (Nat.zero_le σ.start) v)).symm⟩

theorem reading {α : Type} (related : Counterpart nature σ n v w) (f : Value → α)
    (blind : ∀ v, f (v.renumbered σ) = f v) : f w = f v := by
  rw [related.same, blind]

theorem resolved (related : Counterpart nature σ n v w) :
    Counterpart nature σ n v.resolved w.resolved :=
  ⟨related.sound.resolved v, by rw [related.same, resolved_renumbered]⟩

theorem option {found : Option Value} (sound : ∀ v, found = some v → v.Sound nature n) :
    Option.Rel (Counterpart nature σ n) found (found.map (Value.renumbered σ)) := by
  cases found with
  | none => exact .none
  | some v => exact .some ⟨sound v rfl, rfl⟩

theorem laterOption {found other : Option Value} {k : Nat}
    (related : Option.Rel (Counterpart nature σ n) found other) (later : n ≤ k) :
    Option.Rel (Counterpart nature σ k) found other := by
  cases related with
  | none => exact .none
  | some related => exact .some (related.later later)

theorem getD {found other : Option Value}
    (related : Option.Rel (Counterpart nature σ n) found other) :
    Counterpart nature σ n (found.getD .nil) (other.getD .nil) := by
  cases related with
  | none => exact .plain trivial
  | some related => exact related

theorem member? (related : Counterpart nature σ n v w) (name : String) :
    Option.Rel (Counterpart nature σ n) (v.member? name) (w.member? name) := by
  rw [related.same, member?_renumbered]
  exact option fun u found => sound_of_member? v related.sound found

theorem item? {items : List Value} (sound : SoundItems nature n items) (i : Int) :
    Option.Rel (Counterpart nature σ n) (Value.item? items i)
      (Value.item? (renumberedItems σ items) i) := by
  rw [item?_renumbered]
  exact option fun u found => sound_of_item? sound found

end Counterpart

end Value

end Liquid
