import Liquid.Proofs.PairedTemplates
import Liquid.Sample.Filters
import Liquid.Sample.Tags

/-!
# The sample host is impartial

The sample objects, filters, transformers and tags stand for what a host may bring along: they make
new objects, fail, write what is left out, run blocks in frames of their own, and look at the errors
so far. None of them looks at a number.

## Main result

`Sample.Serves.impartial`: an engine is impartial if all that it has of a host is of this one.
-/

namespace Liquid

namespace Sample

open Pairing Value

variable {l : Ledger} {nature : String → Bool} {base : Nat} {σ : Shift} {n : Nat}
  {o : HostObject Value}

/-! ### Objects -/

private theorem field_counterpart (sound : SoundObject nature n o) (name : String) :
    Counterpart nature σ n (field o name) (field (renumberedObject σ o) name) := by
  obtain ⟨handle, type, native, fields⟩ := o
  obtain ⟨-, -, sound⟩ := sound
  unfold field
  rw [renumberedObject, entry_renumbered]
  exact Counterpart.getD (Counterpart.option fun v => sound_of_entry fields sound)

@[simp] theorem mainText_renumbered (o : HostObject Value) :
    mainText (renumberedObject σ o) = mainText o := by
  obtain ⟨handle, type, native, fields⟩ := o
  cases fields with
  | nil => rfl
  | cons first rest => exact plain_renumbered σ first.2

/-- The same value without numbers for an object and for the renumbered one. -/
theorem plain_matches {v : Value} (sound : v.Sound nature 0) :
    (numbers σ).Matches n (Counterpart nature σ) (pure v) (pure v) :=
  .pure fun _ _ => .plain sound

private theorem renewed_matches {v w : Value} (held : Counterpart nature σ n v w) :
    (numbers σ).Matches n (Counterpart nature σ) (renewed v) (renewed w) := by
  obtain ⟨sound, rfl⟩ := held
  cases v
  case object o =>
    obtain ⟨handle, type, native, fields⟩ := o
    exact Fresh.object_matches sound.2.1 sound.2.2
  all_goals exact .pure fun _ later => ⟨sound.later later _, rfl⟩

theorem reads_impartial (name : String) : Getter.Impartial nature base (reads name).2 :=
  fun _ _ _ _ sound => .pure fun _ later => (field_counterpart sound name).later later

private theorem readField_impartial (s : Species) (name : String) :
    Getter.Impartial nature base (readField s name) := by
  intro σ _ n o sound
  unfold readField
  rw [mainText_renumbered]
  split
  next => exact plain_matches trivial
  next => exact plain_matches trivial
  next => exact renewed_matches (field_counterpart sound _)

theorem getter_impartial (s : Species) (name : String) :
    Getter.Impartial nature base (getter s name) := by
  intro σ begun n o sound
  unfold getter
  rw [mainText_renumbered]
  split
  next => exact readField_impartial s name σ begun n o sound
  next =>
    split
    next => exact plain_matches trivial
    next => exact plain_matches trivial
    next => exact plain_matches ⟨trivial, trivial, trivial⟩
    next => exact plain_matches trivial

variable {path : String}

/-- The object is made of fields without numbers, which are the same on both sides. -/
theorem object_matches {s : Species} (agrees : nature (typeName path s) = s.isNative)
    {given : List (String × Value)} (sound : SoundEntries nature 0 given) :
    (numbers σ).Matches n (Counterpart nature σ) (object path s given) (object path s given) := by
  have defaults : SoundEntries nature 0 s.fields := by
    cases s <;> simp [Species.fields, SoundEntries, Value.Sound]
  have fields : SoundEntries nature 0
      (s.fields.map fun field => (field.1, (Entries.get? field.1 given).getD field.2)) := by
    refine soundEntries_iff.mpr fun entry member => ?_
    obtain ⟨field, present, rfl⟩ := List.mem_map.mp member
    cases found : Entries.get? field.1 given with
    | none => exact soundEntries_iff.mp defaults field present
    | some held => exact sound_of_entry given sound found
  have made : (numbers σ).Matches n (Counterpart nature σ) _ _ :=
    Fresh.object_matches agrees.symm (fields.later (Nat.zero_le n) _)
  rwa [renumberedEntries_eq_self σ (fun m absent => absurd absent (Nat.not_lt_zero m)) _ fields]
    at made

theorem transform_impartial (agrees : nature (typeName path .plain) = false) {name : String}
    {transform : HostObject Value → Fresh Value} (known : transform? path name = some transform) :
    Getter.Impartial nature base transform := by
  intro σ _ n o _
  unfold transform? at known
  split at known <;> cases known
  all_goals simp only [mainText_renumbered]
  case h_1 | h_2 | h_6 => exact plain_matches trivial
  case h_3 | h_4 => exact plain_matches ⟨trivial, trivial, trivial⟩
  case h_5 => exact plain_matches (sound_ofNat _)
  case h_7 => exact object_matches agrees trivial

/-- An answer without numbers, if there is one. -/
theorem plain_answer {found : Option Value} (sound : ∀ v, found = some v → v.Sound nature 0) :
    (numbers σ).Matches n (fun k => Option.Rel (Counterpart nature σ k)) (pure found)
      (pure found) := by
  refine .pure fun _ _ => ?_
  cases found with
  | none => exact .none
  | some v => exact .some (.plain (sound v rfl))

private theorem sound_str_map {α : Type} {found : Option α} {f : α → String} :
    ∀ v, found.map (fun a => Value.str (f a)) = some v → v.Sound nature 0 := by
  intro v given
  obtain ⟨a, -, rfl⟩ := Option.map_eq_some_iff.mp given
  trivial

private theorem catchAll_impartial {name : String}
    {answer : HostObject Value → String → Fresh (Option Value)}
    (known : catchAll? name = some answer) : Answer.Impartial nature base answer := by
  intro asked σ _ n o _
  unfold catchAll? at known
  split at known <;> cases known
  all_goals simp only [mainText_renumbered]
  case h_1 =>
    refine plain_answer fun v given => ?_
    cases given
    exact sound_ofNat _
  case h_2 => exact plain_answer sound_str_map
  case h_3 =>
    refine plain_answer fun v given => ?_
    cases given
    trivial

private theorem adapter_impartial (agrees : nature (typeName path .plain) = false) (s : Species)
    (members : List String) (only : Option (List String)) (transform catchAll : Option String) :
    (adapter path s members only transform catchAll).Impartial nature base where
  members member listed := by
    obtain ⟨name, -, rfl⟩ := List.mem_map.mp listed
    exact getter_impartial s name
  transform f given := by
    obtain ⟨name, -, known⟩ := Option.bind_eq_some_iff.mp given
    exact transform_impartial agrees known
  catchAll f given := by
    obtain ⟨name, -, known⟩ := Option.bind_eq_some_iff.mp given
    exact catchAll_impartial known

private theorem natives_impartial {type : String} {t : NativeType}
    (known : natives path type = some t) :
    t.Impartial nature base := by
  unfold natives at known
  split at known
  next =>
    cases known
    refine ⟨?_, fun asked σ _ n o _ => ?_⟩
    · simp only [person, List.forall_mem_cons]
      exact ⟨reads_impartial _, reads_impartial _, fun _ absent => nomatch absent⟩
    · simp only [person, mainText_renumbered]
      exact plain_answer sound_str_map
  next =>
    split at known
    next =>
      cases known
      refine ⟨?_, fun asked σ _ n o _ => .pure fun _ _ => .none⟩
      simp only [product, List.forall_mem_cons]
      exact ⟨reads_impartial _, reads_impartial _, reads_impartial _,
        fun _ absent => nomatch absent⟩
    next => cases known

/-! ### Filters and transformers -/

private theorem addTwo_impartial : Filter.Impartial l base addTwo := by
  intro σ _ n v w args args' related _
  exact (Attempts.lift (readInt?_matches related)).next fun _ _ _ => Filter.plain_result trivial

private theorem typeOf_impartial : Filter.Impartial l base typeOf := by
  intro σ _ n v w args args' related _
  refine (Attempts.lift (read_matches related)).bind fun _ _ _ _ read => ?_
  rw [read.reading Value.typeName (typeName_renumbered σ)]
  exact Filter.plain_result trivial

private theorem array_counterpart {items others : List Value}
    (related : List.Forall₂ (Counterpart nature σ n) items others) :
    Counterpart nature σ n (.array items) (.array others) := by
  have sound : SoundItems nature n items := by
    induction related with
    | nil => trivial
    | cons first _ ih => exact ⟨first.sound, ih⟩
  have same : others = renumberedItems σ items := by
    induction related with
    | nil => rfl
    | cons first _ ih => rw [renumberedItems, ← first.same, ih sound.2]
  exact ⟨sound, congrArg Value.array same⟩

private theorem allArgs_impartial : Filter.Impartial l base allArgs := by
  intro σ _ n v w args args' related all
  exact .pure fun _ later => (array_counterpart (.cons related all)).later later

private theorem countArgs_impartial : Filter.Impartial l base countArgs := by
  intro σ _ n v w args args' _ all
  unfold countArgs
  rw [all.length_eq]
  exact Filter.plain_result (sound_ofNat _)

private theorem failing_impartial {fault : String → Error} :
    Filter.Impartial l base (fun input _ => do throw (fault (← input.readPlain))) := by
  intro σ _ n v w args args' related _
  exact (Filter.plain_attempts related).next fun _ _ _ => .throw _

private theorem toObject_impartial (agrees : l.nature (typeName path .foo) = false) :
    Filter.Impartial l base (toObject path) := by
  intro σ _ n v w args args' related _
  refine (Filter.plain_attempts related).next fun _ _ text => ?_
  exact .lift (Pairing.draw (object_matches agrees ⟨trivial, trivial⟩))

private theorem filter_impartial (agrees : l.nature (typeName path .foo) = false) {name : String}
    {f : Filter} (known : filter? path name = some f) : Filter.Impartial l base f := by
  unfold filter? at known
  split at known <;> cases known
  case h_1 => exact addTwo_impartial
  case h_2 => exact Filter.onText_impartial _
  case h_3 => exact typeOf_impartial
  case h_4 => exact allArgs_impartial
  case h_5 => exact countArgs_impartial
  case h_6 => exact fun _ _ _ _ _ _ _ _ _ => Filter.plain_result trivial
  case h_7 => exact failing_impartial
  case h_8 => exact failing_impartial
  case h_9 => exact toObject_impartial agrees

private theorem transformer_impartial {name : String} {f : Transformer}
    (known : transformer? name = some f) : Transformer.Impartial l base f := by
  intro σ _ n v w related
  unfold transformer? at known
  split at known <;> cases known
  case h_1 =>
    refine (read_matches related).bind fun _ _ _ _ read => ?_
    rw [read.reading isTruthy (isTruthy_renumbered σ)]
    exact .pure fun _ _ => rfl
  case h_2 =>
    refine (read_matches related).bind fun _ _ _ _ read => ?_
    rw [read.reading str? (str?_renumbered σ)]
    exact .pure fun _ _ => rfl
  case h_3 =>
    refine (read_matches related).bind fun _ late _ _ read => ?_
    rw [read.reading Value.typeName (typeName_renumbered σ)]
    exact (readPlain_matches (related.later late)).next fun _ _ _ => .pure fun _ _ => rfl

/-! ### Tags -/

open Render

theorem acting_impartial {run : Header → Render Unit}
    (fair : ∀ header, Render.Impartial l base (run header)) :
    TagReader.Impartial l base (acting run) := by
  intro template header opened read
  cases read
  exact (fair header).bind fun _ => .pure _

private theorem greet_impartial : TagReader.Impartial l base greet := by
  intro template header opened read
  unfold greet at read
  split at read
  next => cases read
  next e _ =>
    cases read
    intro σ begun s fits kept
    refine bind_attempts (eval_attempts begun fits (resolve_attempts fits.env begun e)) ?_
    intro k _ v w held
    refine next_attempts (write_attempts _) fun k later _ => ?_
    exact next_attempts (writeValue_attempts begun fits (held.later later)) fun _ _ _ => .same _

private theorem setValue_impartial : TagReader.Impartial l base setValue := by
  intro template header opened read
  unfold setValue at read
  simp only at read
  split at read
  next => cases read
  next e _ =>
    cases read
    intro σ begun s fits kept
    refine bind_attempts (eval_attempts begun fits (resolve_attempts fits.env begun e)) ?_
    intro k _ v w held
    exact next_attempts (set_attempts _ held) fun _ _ _ => .same _

private theorem once_impartial : TagReader.Impartial l base once := by
  intro template header opened read
  cases read
  exact (Impartial.write "1").bind fun _ => .pure _

private theorem shouting_impartial : TagReader.Impartial l base shouting := by
  intro template header opened read
  cases read
  exact fun nodes fair => ⟨fun x fair => fair.captured upperText, fair⟩

private theorem brackets_impartial : TagReader.Impartial l base brackets := by
  intro template header opened read
  cases read
  refine fun nodes fair => ⟨fun x fair => ?_, fair⟩
  exact (Impartial.write "[").bind fun _ => fair.stack.bind fun flow =>
    (Impartial.write "]").bind fun _ => .pure flow

private theorem echo_impartial : TagReader.Impartial l base echo := by
  intro template header opened read
  cases read
  exact (Impartial.write _).bind fun _ => .pure _

/-- What is seen of the progress of both runs is the same, so it may be written. -/
theorem observing_impartial {f : Progress → String}
    (same : ∀ {σ s kept p q}, PairedProgress l σ s kept p q → f p = f q) :
    Render.Impartial l base (do Render.write (f (← get))) := by
  intro σ _ s _ kept
  refine attempts_iff.mpr fun p q paired _ => ⟨Nat.le_refl _, .ok rfl, { paired with out := ?_ }⟩
  change p.out ++ f p = q.out ++ f q
  rw [paired.out, same paired]

private theorem showDepth_impartial : TagReader.Impartial l base showDepth := by
  refine acting_impartial fun _ => observing_impartial fun paired => ?_
  rw [Scopes.depth, Scopes.depth, paired.scopes.inner.length_eq]

private theorem showErrors_impartial : TagReader.Impartial l base showErrors := by
  refine acting_impartial fun _ => observing_impartial fun paired => ?_
  rw [paired.errors]

private theorem fail_impartial : TagReader.Impartial l base fail :=
  acting_impartial fun _ => (Impartial.write _).bind fun _ => .throw _

theorem tag_impartial {name : String} {reader : TagReader} (known : tag? name = some reader) :
    TagReader.Impartial l base reader := by
  unfold tag? at known
  split at known
  all_goals try cases known
  case h_1 => exact greet_impartial
  case h_2 => exact shouting_impartial
  case h_3 => exact once_impartial
  case h_4 => exact brackets_impartial
  case h_5 => exact setValue_impartial
  case h_6 => exact showDepth_impartial
  case h_7 => exact showErrors_impartial
  case h_8 => exact fail_impartial
  case h_9 => exact acting_impartial fun _ => .throw _
  case h_10 => exact acting_impartial fun _ => .throw _
  case h_11 => exact echo_impartial
  case h_12 => exact Tag.standard_impartial name reader known

/-! ### Engines -/

/-- Whatever an engine has that is not standard is the sample host's. -/
structure Serves (path : String) (engine : Engine) : Prop where
  tags : ∀ name reader, engine.tags.get? name = some reader →
    Tag.standard.get? name = some reader ∨ ∃ word, tag? word = some reader
  filters : ∀ name f, engine.env.filters.get? name = some f →
    Filter.standard.get? name = some f ∨ ∃ word, filter? path word = some f
  transformers : ∀ kind f, engine.env.transformers kind = some f →
    ∃ word, transformer? word = some f
  natives : engine.env.registry.natives = natives path
  adapters : engine.env.registry.All fun a =>
    ∃ s members only transform catchAll, a = adapter path s members only transform catchAll

theorem Serves.impartial {path : String} {engine : Engine} (serves : Serves path engine)
    (known : l.Knows engine.env.registry)
    (agrees : ∀ s, l.nature (typeName path s) = s.isNative)
    (globals : engine.env.globals.Sound l.nature base) : engine.Impartial l base where
  tags name reader held := by
    rcases serves.tags name reader held with standard | ⟨word, read⟩
    · exact Tag.standard_impartial name reader standard
    · exact tag_impartial read
  env :=
    { filters := fun name f held => by
        rcases serves.filters name f held with standard | ⟨word, read⟩
        · exact Filter.standard_impartial name f standard
        · exact filter_impartial (agrees .foo) read
      registry :=
        { known
          natives := fun type t held => by
            rw [serves.natives] at held
            exact natives_impartial held
          adapters := fun type a held => by
            obtain ⟨s, members, only, transform, catchAll, rfl⟩ := serves.adapters type a held
            exact adapter_impartial (agrees .plain) s members only transform catchAll }
      transformers := fun kind f held => by
        obtain ⟨word, read⟩ := serves.transformers kind f held
        exact transformer_impartial read
      globals }

/-- Objects of one type are replaced by new ones wherever they are used whole. -/
def registry : Registry :=
  ⟨0, natives "", 1, ⟨[("Foo", adapter "" .foo ["text"] none (some "object") none)]⟩⟩

def engine : Engine := ⟨Tag.standard, ⟨Filter.standard, registry, fun _ => none, Bindings.empty⟩⟩

/-- The types that describe themselves, and the one registry. -/
def ledger : Ledger := ⟨fun type => type == "Person" || type == "Product", fun _ => registry, 1⟩

private theorem serves_engine : Serves "" engine where
  tags _ _ held := .inl held
  filters _ _ held := .inl held
  transformers _ _ absent := nomatch absent
  natives := rfl
  adapters type a held := by
    change (if "Foo" = type then some (adapter ..) else none) = some a at held
    split at held
    next =>
      cases held
      exact ⟨_, _, _, _, _, rfl⟩
    next => cases held

theorem engine_impartial : engine.Impartial ledger 0 :=
  serves_engine.impartial ⟨Nat.one_pos, rfl⟩ (fun s => by cases s <;> rfl) Bindings.sound_empty

end Sample

end Liquid
