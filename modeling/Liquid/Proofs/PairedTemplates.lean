import Liquid.Proofs.ImpartialTags

/-!
# Rendering a template from different heaps

Between two renders of a template others may have run. They drew numbers and left schemas behind,
of which the render must not notice anything.

## Main result

`Template.render_paired`: on the later heap a render gives the same. It leaves counterparts in the
store, which is the one it found if the template is isolated.
-/

namespace Liquid

open Pairing Value

variable {l : Ledger} {base : Nat} {σ : Shift} {n : Nat}

/-- What an engine has of the host is impartial. -/
structure Engine.Impartial (l : Ledger) (base : Nat) (engine : Engine) : Prop where
  tags : ImpartialReaders l base engine.tags
  env : engine.env.Impartial l base

/-! ### Bindings -/

namespace Bindings

variable {nature : String → Bool} {b upper : Bindings Value}

theorem Sound.later {k : Nat} (sound : b.Sound nature n) (later : n ≤ k) : b.Sound nature k :=
  fun entry member => (sound entry member).later later entry.2

theorem sound_empty : (empty : Bindings Value).Sound nature n := fun _ absent => nomatch absent

private theorem mem_insertInto {name : String} {v : Value} {entry : String × Value} :
    {entries : List (String × Value)} → entry ∈ insertInto name v entries →
    entry = (name, v) ∨ entry ∈ entries
  | [], member => .inl (List.mem_singleton.mp member)
  | (key, old) :: rest, member => by
    unfold insertInto at member
    split at member
    next =>
      rcases List.mem_cons.mp member with here | later
      · exact .inl here
      · exact .inr (List.mem_cons_of_mem _ later)
    next =>
      rcases List.mem_cons.mp member with rfl | later
      · exact .inr List.mem_cons_self
      · exact (mem_insertInto later).imp_right (List.mem_cons_of_mem _)

theorem Sound.insert (sound : b.Sound nature n) {name : String} {v : Value}
    (new : v.Sound nature n) : (b.insert name v).Sound nature n := by
  intro entry member
  rcases mem_insertInto member with rfl | old
  · exact new
  · exact sound entry old

theorem Sound.overlay (sound : b.Sound nature n) (above : upper.Sound nature n) :
    (b.overlay upper).Sound nature n := by
  obtain ⟨entries⟩ := upper
  induction entries generalizing b with
  | nil => exact sound
  | cons entry rest ih =>
    obtain ⟨first, others⟩ := List.forall_mem_cons.mp above
    exact ih (sound.insert first) others

theorem sound_of_pointwise {b' : Bindings Value}
    (related : Bindings.Pointwise (fun _ => Counterpart nature σ n) b b') :
    b.Sound nature n := by
  intro entry member
  obtain ⟨entries⟩ := b
  obtain ⟨entries'⟩ := b'
  unfold Bindings.Pointwise at related
  dsimp only at related member
  induction related with
  | nil => cases member
  | cons first _ ih =>
    rcases List.mem_cons.mp member with rfl | later
    · exact first.2.sound
    · exact ih later

/-- Without a gap, counterparts are the same. -/
theorem eq_of_pointwise {b' : Bindings Value} (still : σ.gap = 0)
    (related : Bindings.Pointwise (fun _ => Counterpart nature σ n) b b') : b' = b := by
  obtain ⟨entries⟩ := b
  obtain ⟨entries'⟩ := b'
  unfold Bindings.Pointwise at related
  dsimp only at related
  induction related with
  | nil => rfl
  | @cons entry entry' _ _ first _ ih =>
    obtain ⟨key, v⟩ := entry
    obtain ⟨key', v'⟩ := entry'
    obtain ⟨rfl, sound, rfl⟩ := first
    simp only [mk.injEq] at ih ⊢
    dsimp only at sound ⊢
    rw [ih, renumbered_of_gap σ still v sound]

end Bindings

namespace Template

variable {t : Template} {data : Value} {o : Options} {clock : Clock} {store : Bindings Value}
  {h h' : Heap}

/-! ### The setting -/

private theorem dataBindings_attempts (sound : data.Sound l.nature σ.start) :
    (heaps l σ).Attempts σ.start
      (fun _ (b b' : Bindings Value) => b = b' ∧ b.Sound l.nature σ.start)
      (dataBindings data) (dataBindings data) := by
  -- Only a failure looks at the data, which were made before and are the same on both sides.
  have looked := read_matches (.kept sound (Nat.le_refl σ.start))
  have refused : (heaps l σ).Attempts σ.start
      (fun _ (b b' : Bindings Value) => b = b' ∧ b.Sound l.nature σ.start)
      (do
        let type := (← data.read).typeName
        throw (.argument s!"data context must be a hash, got {type}"))
      (do
        let type := (← data.read).typeName
        throw (.argument s!"data context must be a hash, got {type}")) := by
    refine (Attempts.lift looked).bind fun _ _ v w read => ?_
    rw [read.reading typeName (typeName_renumbered σ)]
    exact .throw _
  cases data
  case hash entries => exact .pure fun _ _ => ⟨rfl, soundEntries_iff.mp sound⟩
  case nil => exact .pure fun _ _ => ⟨rfl, Bindings.sound_empty⟩
  all_goals exact refused

private theorem setting_attempts (clock : Clock) (fair : t.engine.env.Impartial l base)
    (sound : data.Sound l.nature σ.start) (assigns : o.assigns.Sound l.nature σ.start) :
    (heaps l σ).Attempts σ.start
      (fun _ s s' => s = s' ∧ s.Fits l base σ ∧ s.persists = !t.isolated)
      (t.setting data o clock) (t.setting data o clock) := by
  refine (dataBindings_attempts sound).bind ?_
  rintro _ - b _ ⟨rfl, given⟩
  exact .pure fun _ _ => ⟨rfl, ⟨fair, given.overlay assigns⟩, rfl⟩

/-! ### Renders -/

/-- What two renders of one template have in common that begin with the same store. -/
structure PairedOutcome (l : Ledger) (σ : Shift) (t : Template) (kept : Bindings Value) (h : Heap)
    (r r' : Except Error Rendered × Bindings Value × Heap) : Prop where
  result : r'.1 = r.1
  later : h.supply ≤ r.2.2.supply
  store : Bindings.Pointwise (fun _ => Counterpart l.nature σ r.2.2.supply) r.2.1 r'.2.1
  heap : PairedHeaps l σ r.2.2 r'.2.2
  lasting : t.isolated = true → r.2.1 = kept

theorem result_same {r r' : Except Error Flow × Progress} (outcome : Outcome Eq r.1 r'.1)
    (out : r.2.out = r'.2.out) (errors : r.2.errors = r'.2.errors) :
    (result r').1 = (result r).1 := by
  unfold result
  rw [out, errors, outcome.eq]

theorem render_paired (fair : t.engine.env.Impartial l base)
    (nodes : AllImpartial l base t.document.nodes) (begun : base ≤ σ.start)
    (sound : data.Sound l.nature σ.start) (assigns : o.assigns.Sound l.nature σ.start)
    (stored : store.Sound l.nature σ.start) (heaps : PairedHeaps l σ h h') :
    PairedOutcome l σ t store h (t.render data o clock store h)
      (t.render data o clock store h') := by
  have setting := setting_attempts clock fair sound assigns h h' heaps heaps.begun
  -- The render begins on both sides or on neither, and then with the same setting.
  rcases run : t.setting data o clock h with ⟨r, k⟩
  rcases run' : t.setting data o clock h' with ⟨r', k'⟩
  simp only [ExceptT.run, run, run'] at setting
  obtain ⟨late, outcome, between⟩ := setting
  cases outcome with
  | error e =>
    rw [render_of_setting_refused store run, render_of_setting_refused store run']
    exact ⟨rfl, late, stored.pointwise between.begun, between, fun _ => rfl⟩
  | @ok s _ same =>
    obtain ⟨rfl, fits, persists⟩ := same
    rw [render_of_setting store run, render_of_setting store run']
    have started : PairedProgress l σ s store (start store k) (start store k') :=
      ⟨.new, stored.pointwise between.begun, rfl, rfl, between, fun _ => rfl, rfl⟩
    obtain ⟨later, outcome, after⟩ := Render.attempts_iff.mp
      (renderAll_impartial t.document.nodes nodes σ begun s fits store) _ _ started (Nat.zero_le _)
    refine ⟨result_same outcome after.out after.errors, Nat.le_trans late later, after.store,
      after.heap, fun isolated => after.lasting ?_⟩
    rw [persists, isolated, Bool.not_true]

end Template

end Liquid
