import Liquid.Proofs.FilterRuns
import Liquid.Proofs.RepeatedExposure
import Liquid.Proofs.StructuralEquality
import Mathlib.Data.Finset.Card

/-!
# Filters and members of one name

`size`, `first` and `last` are filters as well as members of texts, arrays and hashes. Filters look
at the constructor of their input on their own, and so does the look-up of members.

## Main result

`Value.member_filters_agree`: the filter gives what the member is, with nil for one that is missing,
whether it is applied or written in a template; for a hash whose least or greatest entry is asked
for, it gives nil. The members of a hash are its entries with the least and the greatest key, and
the number of its keys.

## Proof strategy

Both sides come down to one equation for each kind of value (`Value.Agree`). In a template, texts
and containers are exposed as they are, so a filter gets what the name stands for
(`Variable.evaluate_piped`), and what a member is found to be is read once more
(`Variable.evaluate_dotted`).
-/

namespace Liquid

/-! ### Written in a template -/

namespace Value

/-- Texts, arrays and hashes. -/
def isContainer : Value → Bool
  | .str _ | .array _ | .hash _ => true
  | _ => false

variable {v : Value}

theorem exists_of_isContainer (container : v.isContainer = true) :
    (∃ s, v = .str s) ∨ (∃ items, v = .array items) ∨ ∃ entries, v = .hash entries := by
  cases v
  case str s => exact .inl ⟨s, rfl⟩
  case array items => exact .inr (.inl ⟨items, rfl⟩)
  case hash entries => exact .inr (.inr ⟨entries, rfl⟩)
  all_goals cases container

private theorem isResolved_of_isContainer (container : v.isContainer = true) :
    v.isResolved = true := by
  obtain ⟨s, rfl⟩ | ⟨items, rfl⟩ | ⟨entries, rfl⟩ := exists_of_isContainer container <;> rfl

private theorem isNil_of_isContainer (container : v.resolved.isContainer = true) :
    v.isNil = false := by
  unfold isNil
  obtain ⟨s, same⟩ | ⟨items, same⟩ | ⟨entries, same⟩ := exists_of_isContainer container <;>
    rw [same]

end Value

namespace Registry

variable (r : Registry) {v : Value}

private theorem expose_of_isContainer (container : v.isContainer = true) : r.expose v = pure v := by
  obtain ⟨s, rfl⟩ | ⟨items, rfl⟩ | ⟨entries, rfl⟩ := Value.exists_of_isContainer container <;> rfl

/-- No schema is asked for. -/
theorem member?_of_isContainer (container : v.resolved.isContainer = true) (name : String)
    (heap : Heap) :
    r.member? v name heap = (v.resolved.member? name, heap.compute v.outerCells) := by
  rw [← r.read_member? v, Live.bind_apply, Value.read_apply]
  obtain ⟨s, same⟩ | ⟨items, same⟩ | ⟨entries, same⟩ := Value.exists_of_isContainer container <;>
    rw [same] <;> rfl

end Registry

namespace Variable

/-- The value of a name, sent through a filter without arguments. -/
def piped (name filter : String) : Variable := ⟨.lookup name [], [⟨filter, []⟩]⟩

/-- The member of the value of a name. -/
def dotted (name member : String) : Variable := ⟨.lookup name [.field member], []⟩

variable {env : Environment} {names : String → Value} {name : String}

theorem evaluate_piped {filter : String} {f : Filter} (held : env.filters.get? filter = some f)
    (container : (names name).resolved.isContainer = true) (heap : Heap) :
    (piped name filter).evaluate env names heap =
      f (names name).resolved [] (heap.compute (names name).outerCells) := by
  have read : (Expr.lookup name []).resolve env names heap =
      (.ok (names name).resolved, heap.compute (names name).outerCells) := by
    rw [Expr.resolve, walk, pure_bind]
    exact congrArg (fun read => (Except.ok read.1, read.2)) (Value.read_apply _ heap)
  rw [evaluate, piped, Eval.bind_ok read, pipe, Eval.lift_bind,
    env.registry.expose_of_isContainer container]
  simp only [exposedAll, pure_bind, pipe, bind_pure]
  rw [Filter.apply_ok held]
  rfl

theorem evaluate_dotted (member : String)
    (container : (names name).resolved.isContainer = true) (heap : Heap) :
    ((dotted name member).evaluate env names heap).1 =
      .ok (((names name).resolved.member? member).getD .nil).resolved := by
  have some : (names name).resolved.isNil = false :=
    Value.isNil_of_isContainer (by rwa [Value.resolved_resolved])
  rw [evaluate, dotted]
  simp only [pipe, bind_pure, Expr.resolve]
  rw [Eval.bind_congr (walk_cons_apply env names (.field member) [] (names name) heap), some,
    if_neg Bool.false_ne_true]
  simp only [Segment.step, walk, bind_assoc, pure_bind]
  rw [Eval.lift_bind, env.registry.member?_of_isContainer container]
  rfl

end Variable

/-! ### Both ways to ask -/

namespace Value

/-- The filter of the name gives what the member of the name is, and nil if there is none; and so it
does where both are written in a template, as far as the value is read. -/
structure Agree (name : String) (v : Value) : Prop where
  applied : ∀ (r : Registry) (heap heap' : Heap),
    (Filter.apply Filter.standard name v [] heap).1 = .ok ((r.member? v name heap').1.getD .nil)
  written : ∀ (env : Environment) (names : String → Value) (x : String),
    env.filters.get? name = Filter.standard.get? name → (names x).resolved = v → ∀ heap,
    ((Variable.piped x name).evaluate env names heap).1.map resolved =
      ((Variable.dotted x name).evaluate env names heap).1

/-- It is enough that the filter gives what the member is, whatever was computed before. -/
theorem agree_of_forall {name : String} {v : Value} {f : Filter}
    (held : Filter.standard.get? name = some f) (container : v.isContainer = true)
    (gives : ∀ heap, (f v [] heap).1 = .ok ((v.member? name).getD .nil)) : Agree name v := by
  have resolved : v.resolved = v := resolved_of_isResolved (isResolved_of_isContainer container)
  refine ⟨fun r heap heap' => ?_, fun env names x standard value heap => ?_⟩
  · rw [Filter.apply_ok held, r.member?_of_isContainer (by rwa [resolved]), resolved]
    exact gives heap
  · have container : (names x).resolved.isContainer = true := by rwa [value]
    rw [Variable.evaluate_piped (standard.trans held) container,
      Variable.evaluate_dotted name container, value, gives]
    rfl

/-! ### Hashes -/

section

variable {entries : List (String × Value)} {name : String}

private theorem member?_hash_size (unhidden : Entries.get? "size" entries = none) :
    (Value.hash entries).member? "size" = some (.ofNat entries.length) := by
  simp only [member?, resolved, unhidden]

private theorem member?_hash_first (unhidden : Entries.get? "first" entries = none) :
    (Value.hash entries).member? "first" = entries.head?.map pair := by
  simp only [member?, resolved, unhidden]

private theorem member?_hash_last (unhidden : Entries.get? "last" entries = none) :
    (Value.hash entries).member? "last" = entries.getLast?.map pair := by
  simp only [member?, resolved, unhidden]

/-- No key stands twice. -/
theorem card_keys (ascending : Entries.Ascending entries) :
    (entries.map (·.1)).toFinset.card = entries.length := by
  have distinct : (entries.map (·.1)).Nodup :=
    List.pairwise_map.mpr (ascending.imp fun less => less.ne)
  rw [List.toFinset_card_of_nodup distinct, List.length_map]

private theorem exists_least (ascending : Entries.Ascending entries) (nonempty : entries ≠ []) :
    ∃ entry ∈ entries, (∀ other ∈ entries, entry.1 ≤ other.1) ∧ entries.head? = some entry := by
  cases entries with
  | nil => exact absurd rfl nonempty
  | cons first rest =>
    have above := (List.pairwise_cons.mp ascending).1
    exact ⟨first, List.mem_cons_self,
      List.forall_mem_cons.mpr ⟨le_refl _, fun other member => (above other member).le⟩, rfl⟩

private theorem exists_greatest (ascending : Entries.Ascending entries) (nonempty : entries ≠ []) :
    ∃ entry ∈ entries, (∀ other ∈ entries, other.1 ≤ entry.1) ∧
      entries.getLast? = some entry := by
  obtain ⟨before, last, rfl⟩ := (List.eq_nil_or_concat entries).resolve_left nonempty
  rw [List.concat_eq_append] at ascending ⊢
  have below := (List.pairwise_append.mp ascending).2.2
  refine ⟨last, by simp, fun other member => ?_, List.getLast?_concat⟩
  rcases List.mem_append.mp member with earlier | alone
  · exact (below other earlier last (by simp)).le
  · exact (List.mem_singleton.mp alone ▸ le_refl _)

/-- A filter that finds no entry in a hash agrees with a member that is one of them as long as there
are none. -/
theorem agree_entry {f : Filter} (held : Filter.standard.get? name = some f)
    (nothing : ∀ heap, (f (.hash entries) [] heap).1 = .ok .nil) {found : Option (String × Value)}
    (member : (Value.hash entries).member? name = found.map pair)
    (empty : found = none ↔ entries = []) {extreme : String × Value → Prop}
    (finds : entries ≠ [] → ∃ entry ∈ entries, extreme entry ∧ found = some entry) :
    (Agree name (.hash entries) ↔ entries = []) ∧
    (entries ≠ [] → ∃ entry ∈ entries, extreme entry ∧ ∀ (r : Registry) (heap : Heap),
      (r.member? (.hash entries) name heap).1 = some (.array [.str entry.1, entry.2])) := by
  have asked (r : Registry) (heap : Heap) :
      (r.member? (.hash entries) name heap).1 = found.map pair := by
    rw [r.member?_of_isContainer rfl]
    exact member
  refine ⟨⟨fun agree => ?_, fun none => ?_⟩, fun nonempty => ?_⟩
  · have applied := agree.applied Template.bareEngine.env.registry Heap.new Heap.new
    rw [Filter.apply_ok held, nothing, asked] at applied
    rw [← empty]
    cases found with
    | none => rfl
    | some entry => cases applied
  · exact agree_of_forall held rfl fun heap => by rw [nothing, member, empty.mpr none]; rfl
  · obtain ⟨entry, inside, extremal, rfl⟩ := finds nonempty
    exact ⟨entry, inside, extremal, asked⟩

end

/-! ### Main result -/

/-- The names that are both of a filter and of a member. -/
def sharedNames : List String := ["size", "first", "last"]

/-- Texts, arrays, and hashes by key none of whose keys hides a member. -/
inductive Unhidden : Value → Prop
  | str (s : String) : Unhidden (.str s)
  | array (items : List Value) : Unhidden (.array items)
  | hash (entries : List (String × Value)) (ascending : Entries.Ascending entries)
      (free : ∀ name ∈ sharedNames, Entries.get? name entries = none) : Unhidden (.hash entries)

private theorem agree_shared {v : Value} (container : v.isContainer = true)
    (size : ∀ heap, (Filter.size v [] heap).1 = .ok ((v.member? "size").getD .nil))
    (first : ∀ heap, (Filter.first v [] heap).1 = .ok ((v.member? "first").getD .nil))
    (last : ∀ heap, (Filter.last v [] heap).1 = .ok ((v.member? "last").getD .nil)) :
    ∀ name ∈ sharedNames, Agree name v := by
  simp only [sharedNames, List.forall_mem_cons]
  exact ⟨agree_of_forall rfl container size, agree_of_forall rfl container first,
    agree_of_forall rfl container last, nofun⟩

private theorem agree_str (s : String) : ∀ name ∈ sharedNames, Agree name (.str s) :=
  agree_shared rfl (fun _ => rfl) (fun _ => rfl) fun _ => rfl

private theorem agree_array (items : List Value) :
    ∀ name ∈ sharedNames, Agree name (.array items) :=
  agree_shared rfl (fun _ => rfl) (fun _ => rfl) fun _ => rfl

/-- Filters and members of one name agree, but for the first and the last entry of a hash, which are
those of its least and its greatest key and which no filter finds. -/
theorem member_filters_agree (v : Value) (unhidden : Unhidden v) :
    Agree "size" v ∧
    (∀ name ∈ ["first", "last"], Agree name v ↔ ∀ entries, v = .hash entries → entries = []) ∧
    ∀ entries, v = .hash entries →
      (∀ r heap, ((r : Registry).member? v "size" heap).1 =
        some (.ofNat (entries.map (·.1)).toFinset.card)) ∧
      (entries ≠ [] →
        (∃ entry ∈ entries, (∀ other ∈ entries, entry.1 ≤ other.1) ∧
          ∀ r heap, ((r : Registry).member? v "first" heap).1 =
            some (.array [.str entry.1, entry.2])) ∧
        ∃ entry ∈ entries, (∀ other ∈ entries, other.1 ≤ entry.1) ∧
          ∀ r heap, ((r : Registry).member? v "last" heap).1 =
            some (.array [.str entry.1, entry.2])) := by
  cases unhidden with
  | str s =>
    have agree := agree_str s
    refine ⟨agree _ (by decide), fun name inside => ?_, by rintro _ ⟨⟩⟩
    exact iff_of_true (agree name (List.mem_cons_of_mem _ inside)) (by rintro _ ⟨⟩)
  | array items =>
    have agree := agree_array items
    refine ⟨agree _ (by decide), fun name inside => ?_, by rintro _ ⟨⟩⟩
    exact iff_of_true (agree name (List.mem_cons_of_mem _ inside)) (by rintro _ ⟨⟩)
  | hash entries ascending free =>
    have size := member?_hash_size (free _ (by decide))
    obtain ⟨first, least⟩ := agree_entry (f := Filter.first) rfl (fun _ => rfl)
      (member?_hash_first (free _ (by decide))) List.head?_eq_none_iff (exists_least ascending)
    obtain ⟨last, greatest⟩ := agree_entry (f := Filter.last) rfl (fun _ => rfl)
      (member?_hash_last (free _ (by decide))) List.getLast?_eq_none_iff
      (exists_greatest ascending)
    have itself : (∀ others, Value.hash entries = .hash others → others = []) ↔ entries = [] :=
      ⟨fun all => all entries rfl, fun none others same => Value.hash.inj same ▸ none⟩
    refine ⟨agree_of_forall (f := Filter.size) rfl rfl fun heap => by rw [size]; rfl, ?_, ?_⟩
    · simp only [List.forall_mem_cons, itself]
      exact ⟨first, last, nofun⟩
    · rintro _ ⟨⟩
      refine ⟨fun r heap => ?_, fun nonempty => ⟨least nonempty, greatest nonempty⟩⟩
      rw [r.member?_of_isContainer rfl, card_keys ascending]
      exact size

/-- Characters beyond ASCII, an array with a lazy item, and a hash of two entries. -/
theorem member_filters_agree_lastItem :
    let entries : List (String × Value) := [("a", .int 1), ("b", .nil)]
    let env := Template.bareEngine.env
    let names : String → Value := fun _ => .array [.nil, .lazy ⟨0, ""⟩ (.str "é")]
    (Filter.apply Filter.standard "size" (.str "é") [] Heap.new).1 = .ok (.int 1) ∧
    ((Variable.dotted "x" "last").evaluate env names Heap.new).1 = .ok (.str "é") ∧
    Agree "size" (.hash entries) ∧ ¬ Agree "first" (.hash entries) ∧
    ∃ entry ∈ entries, (env.registry.member? (.hash entries) "last" Heap.new).1 =
      some (.array [.str entry.1, entry.2]) := by
  intro entries env names
  have ascending : Entries.Ascending entries := by
    rw [Entries.Ascending, List.pairwise_pair]
    decide
  have free : ∀ name ∈ sharedNames, Entries.get? name entries = none := by
    simp only [sharedNames, List.forall_mem_cons]
    exact ⟨rfl, rfl, rfl, nofun⟩
  obtain ⟨text, -, -⟩ := member_filters_agree _ (.str "é")
  obtain ⟨-, array, -⟩ := member_filters_agree _ (.array [.nil, .lazy ⟨0, ""⟩ (.str "é")])
  obtain ⟨size, first, members⟩ := member_filters_agree _ (.hash entries ascending free)
  obtain ⟨entry, inside, -, found⟩ := ((members entries rfl).2 (List.cons_ne_nil _ _)).2
  refine ⟨text.applied env.registry Heap.new Heap.new, ?_, size, fun agree => ?_, entry, inside,
    found env.registry Heap.new⟩
  · have agree := (array "last" (by decide)).mpr (by rintro _ ⟨⟩)
    rw [← agree.written env names "x" rfl rfl Heap.new]
    rfl
  · exact List.cons_ne_nil _ _ ((first "first" (by decide)).mp agree entries rfl)

/-- A hash with one entry, whose pair is its first member and is not found by the filter. -/
theorem first_entry_unfound :
    let entries : List (String × Value) := [("a", .int 1)]
    Entries.Ascending entries ∧ (∀ name ∈ sharedNames, Entries.get? name entries = none) ∧
    (∀ heap, (Filter.apply Filter.standard "first" (.hash entries) [] heap).1 = .ok .nil) ∧
    ∀ (r : Registry) heap, (r.member? (.hash entries) "first" heap).1 =
      some (.array [.str "a", .int 1]) := by
  intro entries
  refine ⟨List.pairwise_singleton _ _, ?_, fun _ => rfl, fun _ _ => rfl⟩
  simp only [sharedNames, List.forall_mem_cons]
  exact ⟨rfl, rfl, rfl, nofun⟩

end Value

end Liquid
