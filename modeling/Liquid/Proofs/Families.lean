import Liquid.Proofs.ImpartialSamples
import Liquid.Template.Shelf

/-!
# Families of clones

A template and its clones share the assigns that last. Each has its own document, and decides for
itself whether its renders are isolated.

## Main result

`Family.clones_share_only_assigns`: after any row of operations all clones see the same store; an
operation leaves all templates but its own as they are, and a reparse also the store; one that
fails leaves no trace at all. What a render gives depends on the document and the isolation of its
clone, the store, the data, the options and the clock. Renders of isolated clones can be put in any
order. `Family.time_and_handles_matter` shows that the clock has to be named here, and that the
handles of a type have to agree.

## Proof strategy

A render leaves more behind than the store: numbers are drawn, and schemas remembered. The values
in the store have numbers less than the next one to be drawn, and the remembered schemas are right
for the ledger. This much holds at every moment, and it is what paired runs need to end alike.

Of the host it is asked that its code does not look at numbers, that its handles of a type agree on
whether the type describes itself, and that it hands over no value before it made it.
-/

namespace Liquid

open Pairing

/-! ### Shelves and templates -/

namespace Shelf

variable {shelf : Shelf} {place : Nat}

private theorem store_setStore {store : Bindings Value} (inside : place < shelf.stores.size) :
    (shelf.setStore place store).store place = store := by
  simp [Shelf.store, setStore, inside]

/-- What is put back where it was changes nothing. -/
theorem setStore_store : shelf.setStore place (shelf.store place) = shelf := by
  obtain ⟨templates, stores⟩ := shelf
  simp only [setStore, Shelf.store, mk.injEq, true_and]
  by_cases inside : place < stores.size <;> simp [Array.setIfInBounds, inside]

end Shelf

namespace Template

private theorem reparse_ok {t changed : Template} {source : String}
    (parsed : t.reparse source = .ok changed) :
    ∃ d, Document.parse t.engine.tags t.name source = .ok d ∧
      changed = { t with source, document := d } := by
  obtain ⟨d, read, last⟩ := bind_eq_ok.mp parsed
  cases last
  exact ⟨d, read, rfl⟩

/-- Of a template, a render reads the engine, the document and whether it is isolated. -/
theorem render_congr {t t' : Template} (engine : t.engine = t'.engine)
    (document : t.document = t'.document) (isolated : t.isolated = t'.isolated) :
    t.render = t'.render := by
  obtain ⟨engine, name, source, document, isolated⟩ := t
  obtain ⟨engine', name', source', document', isolated'⟩ := t'
  subst engine document isolated
  rfl

end Template

/-- A template and its clones under their names, and the heap that they are rendered on. -/
structure Family where
  shelf : Shelf
  heap : Heap

namespace Family

/-! ### Operations -/

inductive Operation where
  | clone (id copy : String)
  | isolate (id : String)
  | assign (id name : String) (v : Value)
  | reparse (id source : String)
  | render (id : String) (data : Value) (o : Options) (clock : Clock)
  /-- The host makes values of its own, with so many numbers. -/
  | draw (count : Nat)

inductive Answer where
  | done
  | refused (e : SyntaxError)
  | rendered (r : Except Error Rendered)
  /-- No clone has this name. -/
  | unknown
deriving DecidableEq

def member? (f : Family) (id : String) : Option Shelved := f.shelf.templates.get? id

/-- The assigns that the renders of a clone see. -/
def storeOf (f : Family) (held : Shelved) : Bindings Value := f.shelf.store held.place

/-- A template without clones. -/
def single (id : String) (t : Template) (heap : Heap) : Family := ⟨Shelf.empty.add id t, heap⟩

/-- Does something with one of the clones, if it is there. -/
def withMember (f : Family) (id : String) (act : Shelved → Answer × Family) : Answer × Family :=
  match f.member? id with
  | some held => act held
  | none => (.unknown, f)

def perform (f : Family) : Operation → Answer × Family
  | .clone id copy => f.withMember id fun held =>
    (.done, { f with shelf := f.shelf.clone held copy })
  | .isolate id => f.withMember id fun held =>
    (.done, { f with shelf := f.shelf.change id held held.template.isolate })
  | .assign id name v => f.withMember id fun held =>
    (.done, { f with shelf := f.shelf.assign held name v })
  | .reparse id source => f.withMember id fun held =>
    match held.template.reparse source with
    | .ok t => (.done, { f with shelf := f.shelf.change id held t })
    | .error e => (.refused e, f)
  | .render id data o clock => f.withMember id fun held =>
    let (result, shelf, heap) := f.shelf.render held data o clock f.heap
    (.rendered result, ⟨shelf, heap⟩)
  | .draw count => (.done, { f with heap := { f.heap with supply := f.heap.supply + count } })

def performAll (f : Family) : List Operation → List Answer × Family
  | [] => ([], f)
  | op :: rest =>
    let (answer, f) := f.perform op
    let (answers, f) := performAll f rest
    (answer :: answers, f)

private theorem performAll_append (f : Family) (first later : List Operation) :
    f.performAll (first ++ later) =
      ((f.performAll first).1 ++ ((f.performAll first).2.performAll later).1,
        ((f.performAll first).2.performAll later).2) := by
  induction first generalizing f with
  | nil => rfl
  | cons op rest ih => simp only [List.cons_append, performAll, ih]

/-- The one name under which an operation may put another template. -/
def Operation.changes? : Operation → Option String
  | .clone _ copy => some copy
  | .isolate id => some id
  | .reparse id _ => some id
  | .assign .. | .render .. | .draw _ => none

/-- The values that are handed over were made before. -/
def Operation.Sound (nature : String → Bool) (n : Nat) : Operation → Prop
  | .assign _ _ v => v.Sound nature n
  | .render _ data o _ => data.Sound nature n ∧ o.assigns.Sound nature n
  | .clone .. | .isolate _ | .reparse .. | .draw _ => True

/-- Every operation is only handed what was made before it. -/
def Admissible (nature : String → Bool) (f : Family) : List Operation → Prop
  | [] => True
  | op :: rest => op.Sound nature f.heap.supply ∧ Admissible nature (f.perform op).2 rest

/-- A render of a clone that is isolated. -/
inductive IsolatedRender (f : Family) : Operation → Prop where
  | mk {id : String} {held : Shelved} (data : Value) (o : Options) (clock : Clock) :
      f.member? id = some held → held.template.isolated = true →
      IsolatedRender f (.render id data o clock)

/-! ### What holds at every moment -/

variable {l : Ledger} {base : Nat} {engine : Engine} {name : String}

/-- A clone of this family: its assigns are the ones of all, and its document was parsed. -/
structure IsMember (l : Ledger) (base : Nat) (engine : Engine) (name : String) (held : Shelved) :
    Prop where
  place : held.place = 0
  engine : held.template.engine = engine
  name : held.template.name = name
  nodes : AllImpartial l base held.template.document.nodes

structure Fits (l : Ledger) (base : Nat) (engine : Engine) (name : String) (f : Family) : Prop where
  begun : base ≤ f.heap.supply
  faithful : l.Faithful f.heap
  members : ∀ id held, f.member? id = some held → IsMember l base engine name held
  stores : f.shelf.stores.size = 1
  store : (f.shelf.store 0).Sound l.nature f.heap.supply

variable {f : Family} {id : String} {held : Shelved}

theorem withMember_of_found (found : f.member? id = some held) (act : Shelved → Answer × Family) :
    f.withMember id act = act held := by rw [withMember, found]

/-- Either there is no such clone, and nothing happens, or there is. -/
theorem withMember_spec {P : Answer × Family → Prop} {act : Shelved → Answer × Family}
    (missing : P (.unknown, f)) (each : ∀ held, f.member? id = some held → P (act held)) :
    P (f.withMember id act) := by
  unfold withMember
  split
  next held found => exact each held found
  next => exact missing

theorem Fits.storeOf (fits : f.Fits l base engine name) (found : f.member? id = some held) :
    f.storeOf held = f.shelf.store 0 := by
  rw [Family.storeOf, (fits.members id held found).place]

/-- A name is given to a clone. -/
theorem Fits.put (fits : f.Fits l base engine name) (new : IsMember l base engine name held)
    (id : String) :
    Fits l base engine name
      { f with shelf := { f.shelf with templates := f.shelf.templates.insert id held } } := by
  refine { fits with members := fun other found member => ?_ }
  rw [member?, Bindings.get?_insert] at member
  split at member
  next =>
    cases member
    exact new
  next => exact fits.members other found member

/-- Another store, when more numbers were drawn. -/
theorem Fits.setStore (fits : f.Fits l base engine name) {store : Bindings Value} {heap : Heap}
    (later : f.heap.supply ≤ heap.supply) (faithful : l.Faithful heap)
    (sound : store.Sound l.nature heap.supply) :
    Fits l base engine name ⟨f.shelf.setStore 0 store, heap⟩ where
  begun := Nat.le_trans fits.begun later
  faithful := faithful
  members := fits.members
  stores := by rw [Shelf.setStore, Array.size_setIfInBounds, fits.stores]
  store := by
    have inside : 0 < f.shelf.stores.size := by rw [fits.stores]; exact Nat.one_pos
    rw [Shelf.store_setStore inside]
    exact sound

/-- The same family on another heap, when no fewer numbers were drawn. -/
theorem Fits.render_paired (fits : f.Fits l base engine name) (fair : engine.Impartial l base)
    (found : f.member? id = some held) {data : Value} {o : Options} (clock : Clock)
    (sound : data.Sound l.nature f.heap.supply) (assigns : o.assigns.Sound l.nature f.heap.supply)
    {heap : Heap} (later : f.heap.supply ≤ heap.supply) (faithful : l.Faithful heap) :
    Template.PairedOutcome l ⟨f.heap.supply, heap.supply - f.heap.supply⟩ held.template
      (f.storeOf held) f.heap (held.template.render data o clock (f.storeOf held) f.heap)
      (held.template.render data o clock (f.storeOf held) heap) := by
  have member := fits.members id held found
  have heaps : PairedHeaps l ⟨f.heap.supply, heap.supply - f.heap.supply⟩ f.heap heap :=
    ⟨Nat.le_refl _, (Nat.add_sub_of_le later).symm, fits.faithful, faithful⟩
  exact Template.render_paired (member.engine ▸ fair.env) member.nodes fits.begun sound assigns
    (fits.storeOf found ▸ fits.store) heaps

theorem Fits.perform (fits : f.Fits l base engine name) (fair : engine.Impartial l base)
    (op : Operation) (sound : op.Sound l.nature f.heap.supply) :
    (f.perform op).2.Fits l base engine name := by
  cases op with
  | clone id copy =>
    refine withMember_spec (P := (·.2.Fits l base engine name)) fits fun held found => ?_
    exact fits.put (fits.members id held found) copy
  | isolate id =>
    refine withMember_spec (P := (·.2.Fits l base engine name)) fits fun held found => ?_
    obtain ⟨place, engine, name, nodes⟩ := fits.members id held found
    have new : IsMember l base _ _ { held with template := held.template.isolate } :=
      ⟨place, engine, name, nodes⟩
    exact fits.put new id
  | assign id key v =>
    refine withMember_spec (P := (·.2.Fits l base engine name)) fits fun held found => ?_
    have place := (fits.members id held found).place
    simp only [Shelf.assign, place]
    exact fits.setStore (Nat.le_refl _) fits.faithful (fits.store.insert sound)
  | reparse id source =>
    refine withMember_spec (P := (·.2.Fits l base engine name)) fits fun held found => ?_
    obtain ⟨place, engine, name, nodes⟩ := fits.members id held found
    split
    next changed parsed =>
      obtain ⟨d, read, rfl⟩ := Template.reparse_ok parsed
      rw [engine] at read
      have new : IsMember l base _ _
          { held with template := { held.template with source, document := d } } :=
        ⟨place, engine, name, Document.parse_impartial fair.tags read⟩
      exact fits.put new id
    next => exact fits
  | render id data o clock =>
    refine withMember_spec (P := (·.2.Fits l base engine name)) fits fun held found => ?_
    have outcome := fits.render_paired fair found clock sound.1 sound.2 (Nat.le_refl _)
      fits.faithful
    have place := (fits.members id held found).place
    simp only [Shelf.render]
    -- Paired with itself, the render says of its own store that the values in it are sound.
    rw [place, ← fits.storeOf found]
    exact fits.setStore outcome.later outcome.heap.left (Bindings.sound_of_pointwise outcome.store)
  | draw count =>
    have later : f.heap.supply ≤ f.heap.supply + count := Nat.le_add_right _ _
    exact { fits with
      begun := Nat.le_trans fits.begun later
      faithful := ⟨fits.faithful.registries, fits.faithful.schemas⟩
      store := fits.store.later later }

theorem Fits.performAll (fits : f.Fits l base engine name) (fair : engine.Impartial l base)
    {ops : List Operation} (admissible : f.Admissible l.nature ops) :
    (f.performAll ops).2.Fits l base engine name := by
  induction ops generalizing f with
  | nil => exact fits
  | cons op rest ih => exact ih (fits.perform fair op admissible.1) admissible.2

private theorem fits_single (fair : engine.Impartial l base) {source : String} {t : Template}
    (parsed : Template.parse engine name source = .ok t) {heap : Heap} (begun : base ≤ heap.supply)
    (faithful : l.Faithful heap) (id : String) : (single id t heap).Fits l base engine name := by
  obtain ⟨d, read, rfl⟩ := Template.parse_eq_ok_iff.mp parsed
  refine ⟨begun, faithful, fun other held found => ?_, rfl, Bindings.sound_empty⟩
  change (Bindings.insert Bindings.empty _ _).get? other = some held at found
  rw [Bindings.get?_insert] at found
  split at found
  next =>
    cases found
    exact ⟨rfl, rfl, rfl, Document.parse_impartial fair.tags read⟩
  next => cases found

/-! ### What an operation changes -/

/-- All templates but one stay what they are. -/
theorem member?_perform (f : Family) (op : Operation) {other : String}
    (spared : op.changes? ≠ some other) : (f.perform op).2.member? other = f.member? other := by
  have put {id : String} (held : Shelved) (different : some id ≠ some other) :
      (f.shelf.templates.insert id held).get? other = f.shelf.templates.get? other := by
    rw [Bindings.get?_insert, if_neg fun same => different (congrArg some same)]
  cases op with
  | clone id copy =>
    refine withMember_spec (P := (·.2.member? other = _)) rfl fun held _ => ?_
    exact put held spared
  | isolate id =>
    refine withMember_spec (P := (·.2.member? other = _)) rfl fun held _ => ?_
    exact put _ spared
  | reparse id source =>
    refine withMember_spec (P := (·.2.member? other = _)) rfl fun held _ => ?_
    split
    next => exact put _ spared
    next => rfl
  | assign => exact withMember_spec (P := (·.2.member? other = _)) rfl fun _ _ => rfl
  | render => exact withMember_spec (P := (·.2.member? other = _)) rfl fun _ _ => rfl
  | draw => rfl

private theorem perform_reparse_error (found : f.member? id = some held) {source : String}
    {e : SyntaxError} (refused : held.template.reparse source = .error e) :
    f.perform (.reparse id source) = (.refused e, f) := by
  rw [Family.perform, withMember_of_found found, refused]

private theorem perform_reparse_ok (found : f.member? id = some held) {source : String}
    {t : Template}
    (parsed : held.template.reparse source = .ok t) :
    f.perform (.reparse id source) =
      (.done, { f with shelf := f.shelf.change id held t }) := by
  rw [Family.perform, withMember_of_found found, parsed]

theorem perform_render (found : f.member? id = some held) (data : Value) (o : Options)
    (clock : Clock) :
    f.perform (.render id data o clock) =
      let r := held.template.render data o clock (f.storeOf held) f.heap
      (.rendered r.1, ⟨f.shelf.setStore held.place r.2.1, r.2.2⟩) := by
  rw [Family.perform, withMember_of_found found]
  rfl

/-! ### Other heaps -/

theorem Fits.onHeap (fits : f.Fits l base engine name) {heap : Heap}
    (later : f.heap.supply ≤ heap.supply) (faithful : l.Faithful heap) :
    Fits l base engine name ⟨f.shelf, heap⟩ :=
  { fits with
    begun := Nat.le_trans fits.begun later
    faithful
    store := fits.store.later later }

/-- The same clones and assigns, with as many numbers drawn. -/
structure Alike (l : Ledger) (f f' : Family) : Prop where
  shelf : f'.shelf = f.shelf
  supply : f'.heap.supply = f.heap.supply
  faithful : l.Faithful f'.heap

theorem Alike.withMember {f' : Family} (alike : Alike l f f') {act act' : Shelved → Answer × Family}
    (each : ∀ held, f.member? id = some held →
      (act' held).1 = (act held).1 ∧ Alike l (act held).2 (act' held).2) :
    (f'.withMember id act').1 = (f.withMember id act).1 ∧
      Alike l (f.withMember id act).2 (f'.withMember id act').2 := by
  have named : f'.member? id = f.member? id := congrArg (·.templates.get? id) alike.shelf
  unfold Family.withMember
  rw [named]
  split
  next held found => exact each held found
  next => exact ⟨rfl, alike⟩

/-- Which schemas are remembered, and which cells were computed, makes no difference. -/
theorem Alike.perform {f' : Family} (alike : Alike l f f') (fits : f.Fits l base engine name)
    (fair : engine.Impartial l base) (op : Operation) (sound : op.Sound l.nature f.heap.supply) :
    (f'.perform op).1 = (f.perform op).1 ∧ Alike l (f.perform op).2 (f'.perform op).2 := by
  obtain ⟨shelf, heap⟩ := f'
  have supply := alike.supply
  have faithful := alike.faithful
  obtain rfl : shelf = f.shelf := alike.shelf
  -- Only a render looks at the heap.
  cases op with
  | clone id copy => exact alike.withMember fun _ _ => ⟨rfl, rfl, supply, faithful⟩
  | isolate id => exact alike.withMember fun _ _ => ⟨rfl, rfl, supply, faithful⟩
  | assign id key v => exact alike.withMember fun _ _ => ⟨rfl, rfl, supply, faithful⟩
  | reparse id source =>
    refine alike.withMember fun held _ => ?_
    cases held.template.reparse source with
    | ok t => exact ⟨rfl, rfl, supply, faithful⟩
    | error e => exact ⟨rfl, alike⟩
  | render id data o clock =>
    refine alike.withMember fun held found => ?_
    have outcome := fits.render_paired fair found clock sound.1 sound.2 (Nat.le_of_eq supply.symm)
      faithful
    have still : heap.supply - f.heap.supply = 0 := by rw [supply, Nat.sub_self]
    have stores := Bindings.eq_of_pointwise still outcome.store
    have after := outcome.heap.supply
    rw [still, Nat.add_zero] at after
    exact ⟨congrArg Answer.rendered outcome.result,
      congrArg (f.shelf.setStore held.place) stores, after, outcome.heap.right⟩
  | draw count =>
    exact ⟨rfl, rfl, congrArg (· + count) supply, faithful.registries, faithful.schemas⟩

theorem Alike.performAll {f' : Family} (alike : Alike l f f') (fits : f.Fits l base engine name)
    (fair : engine.Impartial l base) {ops : List Operation}
    (admissible : f.Admissible l.nature ops) :
    (f'.performAll ops).1 = (f.performAll ops).1 := by
  induction ops generalizing f f' with
  | nil => rfl
  | cons op rest ih =>
    obtain ⟨answer, after⟩ := alike.perform fits fair op admissible.1
    have others := ih after (fits.perform fair op admissible.1) admissible.2
    simp only [Family.performAll, answer, others]

/-! ### What a render depends on -/

/-- The later one of two families, or of two moments of one, draws other numbers. -/
theorem render_of_le {f' : Family} {id' : String} {held' : Shelved}
    (fits : f.Fits l base engine name) (fits' : f'.Fits l base engine name)
    (fair : engine.Impartial l base) (found : f.member? id = some held)
    (found' : f'.member? id' = some held')
    (document : held.template.document = held'.template.document)
    (isolated : held.template.isolated = held'.template.isolated)
    (store : f.storeOf held = f'.storeOf held') {data : Value} {o : Options} (clock : Clock)
    (sound : data.Sound l.nature f.heap.supply) (assigns : o.assigns.Sound l.nature f.heap.supply)
    (later : f.heap.supply ≤ f'.heap.supply) :
    (f'.perform (.render id' data o clock)).1 = (f.perform (.render id data o clock)).1 := by
  have engines : held.template.engine = held'.template.engine :=
    (fits.members id held found).engine.trans (fits'.members id' held' found').engine.symm
  have outcome := fits.render_paired fair found clock sound assigns later fits'.faithful
  rw [perform_render found, perform_render found', ← store,
    ← Template.render_congr engines document isolated]
  exact congrArg Answer.rendered outcome.result

/-- Two families with a history of their own, or two moments of one. -/
theorem render_depends {f' : Family} {id' : String} {held' : Shelved}
    (fits : f.Fits l base engine name) (fits' : f'.Fits l base engine name)
    (fair : engine.Impartial l base) (found : f.member? id = some held)
    (found' : f'.member? id' = some held')
    (document : held.template.document = held'.template.document)
    (isolated : held.template.isolated = held'.template.isolated)
    (store : f.storeOf held = f'.storeOf held') (data : Value) (o : Options) (clock : Clock)
    (sound : (Operation.render id data o clock).Sound l.nature f.heap.supply)
    (sound' : (Operation.render id' data o clock).Sound l.nature f'.heap.supply) :
    (f.perform (.render id data o clock)).1 = (f'.perform (.render id' data o clock)).1 := by
  rcases Nat.le_total f.heap.supply f'.heap.supply with later | later
  · exact (render_of_le fits fits' fair found found' document isolated store clock sound.1 sound.2
      later).symm
  · exact render_of_le fits' fits fair found' found document.symm isolated.symm store.symm clock
      sound'.1 sound'.2 later

/-! ### Renders of isolated clones -/

/-- How many numbers an operation draws. -/
def drawn (f : Family) (op : Operation) : Nat := (f.perform op).2.heap.supply - f.heap.supply

/-- How many numbers operations draw together, when each of them is performed here. -/
def drawnByAll (f : Family) : List Operation → Nat
  | [] => 0
  | op :: rest => f.drawn op + f.drawnByAll rest

private theorem drawnByAll_perm {ops others : List Operation} (reordered : ops.Perm others) :
    f.drawnByAll ops = f.drawnByAll others := by
  induction reordered with
  | nil => rfl
  | cons op _ ih => simp only [drawnByAll, ih]
  | swap op other rest => exact Nat.add_left_comm _ _ _
  | trans _ _ first second => exact first.trans second

/-- A family that is as before, but for the numbers drawn and the schemas remembered. -/
structure Undisturbed (l : Ledger) (f : Family) (heap : Heap) (count : Nat) (after : Family) :
    Prop where
  shelf : after.shelf = f.shelf
  supply : after.heap.supply = heap.supply + count
  faithful : l.Faithful after.heap

theorem Undisturbed.fits {heap : Heap} {count : Nat} {after : Family}
    (undisturbed : Undisturbed l f heap count after) (fits : f.Fits l base engine name)
    (later : f.heap.supply ≤ heap.supply) : after.Fits l base engine name := by
  obtain ⟨shelf, heap'⟩ := after
  obtain ⟨rfl, supply, faithful⟩ := undisturbed
  exact fits.onHeap (Nat.le_trans later (supply ▸ Nat.le_add_right _ _)) faithful

/-- Later, when others drew numbers, an isolated render gives what it gives now. -/
theorem perform_isolated (fits : f.Fits l base engine name) (fair : engine.Impartial l base)
    {op : Operation} (isolated : f.IsolatedRender op) (sound : op.Sound l.nature f.heap.supply)
    {heap : Heap} (later : f.heap.supply ≤ heap.supply) (faithful : l.Faithful heap) :
    (perform ⟨f.shelf, heap⟩ op).1 = (f.perform op).1 ∧
      Undisturbed l f heap (f.drawn op) (perform ⟨f.shelf, heap⟩ op).2 := by
  cases isolated with
  | @mk id held data o clock found flag =>
    have outcome := fits.render_paired fair found clock sound.1 sound.2 later faithful
    have found' : Family.member? ⟨f.shelf, heap⟩ id = some held := found
    -- That it leaves the store alone is known of any run, so also of the later one.
    have alone := (fits.onHeap later faithful).render_paired fair found' clock
      (sound.1.later later data) (sound.2.later later) (Nat.le_refl heap.supply) faithful
    have same : Family.storeOf ⟨f.shelf, heap⟩ held = f.storeOf held := rfl
    rw [drawn, perform_render found, perform_render found', same]
    rw [same] at alone
    generalize held.template.render data o clock (f.storeOf held) f.heap = r at outcome
    generalize held.template.render data o clock (f.storeOf held) heap = r' at outcome alone
    refine ⟨congrArg Answer.rendered outcome.result, ?_, ?_, outcome.heap.right⟩
    · change f.shelf.setStore held.place r'.2.1 = f.shelf
      rw [alone.lasting flag]
      exact Shelf.setStore_store
    · have supply : r'.2.2.supply = r.2.2.supply + (heap.supply - f.heap.supply) :=
        outcome.heap.supply
      have grown : f.heap.supply ≤ r.2.2.supply := outcome.later
      dsimp only
      omega

private theorem performAll_isolated (fits : f.Fits l base engine name)
    (fair : engine.Impartial l base)
    {renders : List Operation} (isolated : ∀ op ∈ renders, f.IsolatedRender op)
    (sound : ∀ op ∈ renders, op.Sound l.nature f.heap.supply) {heap : Heap}
    (later : f.heap.supply ≤ heap.supply) (faithful : l.Faithful heap) :
    (performAll ⟨f.shelf, heap⟩ renders).1 = renders.map (fun op => (f.perform op).1) ∧
      Undisturbed l f heap (f.drawnByAll renders) (performAll ⟨f.shelf, heap⟩ renders).2 := by
  induction renders generalizing heap with
  | nil => exact ⟨rfl, rfl, rfl, faithful⟩
  | cons op rest ih =>
    obtain ⟨first, others⟩ := List.forall_mem_cons.mp isolated
    obtain ⟨here, there⟩ := List.forall_mem_cons.mp sound
    obtain ⟨answer, between⟩ := perform_isolated fits fair first here later faithful
    simp only [performAll, List.map_cons, drawnByAll]
    generalize perform ⟨f.shelf, heap⟩ op = ran at answer between
    obtain ⟨given, shelf, heap'⟩ := ran
    obtain ⟨rfl, supply, faithful⟩ := between
    have grown : f.heap.supply ≤ heap'.supply := by
      have drawn : heap'.supply = heap.supply + f.drawn op := supply
      omega
    -- The rest begins where this render ended, with the same clones and the same store.
    obtain ⟨answers, shelf, drawn, faithful⟩ := ih others there grown faithful
    refine ⟨by rw [← answer, ← answers], shelf, ?_, faithful⟩
    rw [drawn]
    exact (congrArg (· + _) supply).trans (Nat.add_assoc _ _ _)

/-- In any order the renders give the same, and what comes behind them too. -/
theorem performAll_perm (fits : f.Fits l base engine name) (fair : engine.Impartial l base)
    {renders others : List Operation} (reordered : renders.Perm others)
    (isolated : ∀ op ∈ renders, f.IsolatedRender op)
    (sound : ∀ op ∈ renders, op.Sound l.nature f.heap.supply) {later : List Operation}
    (admissible : (f.performAll renders).2.Admissible l.nature later) :
    let behind := ((f.performAll renders).2.performAll later).1
    (f.performAll (renders ++ later)).1 = renders.map (fun op => (f.perform op).1) ++ behind ∧
      (f.performAll (others ++ later)).1 = others.map (fun op => (f.perform op).1) ++ behind := by
  obtain ⟨answers, first⟩ := performAll_isolated fits fair isolated sound (Nat.le_refl _)
    fits.faithful
  obtain ⟨answers', second⟩ := performAll_isolated fits fair
    (fun op member => isolated op (reordered.mem_iff.mpr member))
    (fun op member => sound op (reordered.mem_iff.mpr member)) (Nat.le_refl _) fits.faithful
  -- Both orders draw as many numbers, so what comes behind them cannot tell them apart.
  have alike : Alike l (f.performAll renders).2 (f.performAll others).2 :=
    ⟨second.shelf.trans first.shelf.symm,
      by rw [second.supply, first.supply, drawnByAll_perm reordered], second.faithful⟩
  have behind := first.fits fits (Nat.le_refl _)
  rw [performAll_append, performAll_append]
  exact ⟨congrArg (· ++ _) answers,
    congr (congrArg _ answers') (alike.performAll behind fair admissible)⟩

/-! ### What clones share -/

/-- At every moment, the clones of a template share its assigns and nothing else. -/
theorem clones_share_only_assigns (fair : engine.Impartial l base) {source : String} {t : Template}
    (parsed : Template.parse engine name source = .ok t) {heap : Heap} (begun : base ≤ heap.supply)
    (faithful : l.Faithful heap) (id : String) {ops : List Operation}
    (admissible : (single id t heap).Admissible l.nature ops) :
    let f := ((single id t heap).performAll ops).2
    -- There is one store.
    (∀ a b held held', f.member? a = some held → f.member? b = some held' →
      f.storeOf held = f.storeOf held') ∧
    -- No operation changes any template but its own.
    (∀ op other, op.changes? ≠ some other → (f.perform op).2.member? other = f.member? other) ∧
    -- A reparse changes the document and the source, or nothing.
    (∀ a held text changed, f.member? a = some held → held.template.reparse text = .ok changed →
      let after := (f.perform (.reparse a text)).2
      (∃ d, Document.parse engine.tags name text = .ok d ∧ after.member? a =
        some { held with template := { held.template with source := text, document := d } }) ∧
      after.shelf.stores = f.shelf.stores ∧ after.heap = f.heap) ∧
    (∀ a held text e, f.member? a = some held → held.template.reparse text = .error e →
      ∀ later, f.performAll (.reparse a text :: later) =
        (.refused e :: (f.performAll later).1, (f.performAll later).2)) ∧
    -- A render of a clone that has come here in another way gives the same.
    (∀ ops', (single id t heap).Admissible l.nature ops' →
      let f' := ((single id t heap).performAll ops').2
      ∀ a b held held', f.member? a = some held → f'.member? b = some held' →
        held.template.document = held'.template.document →
        held.template.isolated = held'.template.isolated →
        f.storeOf held = f'.storeOf held' →
        ∀ data o clock, (Operation.render a data o clock).Sound l.nature f.heap.supply →
          (Operation.render b data o clock).Sound l.nature f'.heap.supply →
          (f.perform (.render a data o clock)).1 = (f'.perform (.render b data o clock)).1) ∧
    -- Isolated renders give in any order what they give now, and so does what comes behind them.
    (∀ renders others later, renders.Perm others → (∀ op ∈ renders, f.IsolatedRender op) →
      (∀ op ∈ renders, op.Sound l.nature f.heap.supply) →
      (f.performAll renders).2.Admissible l.nature later →
      let now := renders.map fun op => (f.perform op).1
      let reordered := others.map fun op => (f.perform op).1
      ∃ behind, (f.performAll (renders ++ later)).1 = now ++ behind ∧
        (f.performAll (others ++ later)).1 = reordered ++ behind) := by
  intro f
  -- All that is needed of the history is the invariant that it keeps.
  have start := fits_single fair parsed begun faithful id
  have fits : f.Fits l base engine name := start.performAll fair admissible
  refine ⟨?store, fun op _ => member?_perform f op, ?reparsed, ?refused, ?depends, ?reordered⟩
  case store =>
    intro a b held held' found found'
    rw [fits.storeOf found, fits.storeOf found']
  case reparsed =>
    intro a held text changed found parsed after
    have member := fits.members a held found
    obtain ⟨d, read, rfl⟩ := Template.reparse_ok parsed
    rw [member.engine, member.name] at read
    have performed : after = _ := congrArg Prod.snd (perform_reparse_ok found parsed)
    rw [performed]
    refine ⟨⟨d, read, ?_⟩, rfl, rfl⟩
    exact (Bindings.get?_insert _ a a _).trans (if_pos rfl)
  case refused =>
    intro a held text e found refused later
    rw [performAll, perform_reparse_error found refused]
  case depends =>
    intro ops' admissible' f' a b held held' found found' document isolated store data o clock
    exact render_depends fits (start.performAll fair admissible') fair found found' document
      isolated store data o clock
  case reordered =>
    intro renders others later reordered isolated sound admissible
    exact ⟨_, performAll_perm fits fair reordered isolated sound admissible⟩

/-- What is written in place of `x` is a new object, which has no text. -/
def remembering : Template where
  engine := Sample.engine
  name := "t"
  source := "{% assign y = x %}{{ x }}{{ y.text }}"
  document :=
    ⟨[.tag ⟨0, 18⟩ "assign" "y = x" (.assign "y" ⟨.lookup "x" [], []⟩),
      .output ⟨18, 7⟩ "x" ⟨.lookup "x" [], []⟩,
      .output ⟨25, 12⟩ "y.text" ⟨.lookup "y" [.field "text"], []⟩], ⟨0, 37⟩⟩
  isolated := false

/-- Objects that were made before; the first two numbers are theirs. -/
def textData (handle : Nat) (text : String) : Value :=
  .hash [("x", .object ⟨handle, "Foo", false, [("text", .str text)]⟩)]

theorem clones_share_only_assigns_remembering :
    let heap : Heap := { Heap.new with supply := 2, registries := 1 }
    let ops : List Operation :=
      [.clone "t" "u", .isolate "u", .render "t" (textData 0 "a") Options.plain (.stopped 0),
       .reparse "t" "{% if %}", .reparse "t" "{{ y.text }}"]
    let first := Operation.render "u" (textData 0 "a") Options.plain (.stopped 0)
    let second := Operation.render "u" (textData 1 "b") Options.plain (.stopped 0)
    let last := Operation.render "t" .nil Options.plain (.stopped 0)
    Template.parse Sample.engine "t" remembering.source = .ok remembering ∧
      (single "t" remembering heap).Admissible Sample.ledger.nature ops ∧
      let f := ((single "t" remembering heap).performAll ops).2
      (f.performAll [first, second, last]).1 =
        [.rendered (.ok ⟨"a", #[]⟩), .rendered (.ok ⟨"b", #[]⟩), .rendered (.ok ⟨"a", #[]⟩)] ∧
      (f.performAll [second, first, last]).1 =
        [.rendered (.ok ⟨"b", #[]⟩), .rendered (.ok ⟨"a", #[]⟩), .rendered (.ok ⟨"a", #[]⟩)] := by
  intro heap ops first second last
  have parsed : Template.parse Sample.engine "t" remembering.source = .ok remembering := by rfl
  have faithful : Sample.ledger.Faithful heap := ⟨rfl, SchemaTable.holds_new _ _⟩
  have made {handle n : Nat} (early : handle < n) (text : String) :
      (textData handle text).Sound Sample.ledger.nature n :=
    ⟨⟨early, rfl, trivial, trivial⟩, trivial⟩
  have noAssigns {n : Nat} : Options.plain.assigns.Sound Sample.ledger.nature n :=
    Bindings.sound_empty
  have admissible : (single "t" remembering heap).Admissible Sample.ledger.nature ops :=
    ⟨trivial, trivial, ⟨made (by decide) _, noAssigns⟩, trivial, trivial, trivial⟩
  refine ⟨parsed, admissible, ?_⟩
  obtain ⟨-, -, -, -, -, reordered⟩ := clones_share_only_assigns Sample.engine_impartial parsed
    (Nat.zero_le _) faithful "t" admissible
  have supply : ((single "t" remembering heap).performAll ops).2.heap.supply = 3 := by
    decide +kernel
  have flagged : ((((single "t" remembering heap).performAll ops).2.member? "u").map
      (·.template.isolated)) = some true := by decide +kernel
  have before : (((single "t" remembering heap).performAll ops).2.performAll
      [first, second, last]).1 =
        [.rendered (.ok ⟨"a", #[]⟩), .rendered (.ok ⟨"b", #[]⟩), .rendered (.ok ⟨"a", #[]⟩)] := by
    decide +kernel
  -- From here on only these three facts are known of the family.
  generalize ((single "t" remembering heap).performAll ops).2 = f
    at reordered supply flagged before
  obtain ⟨held, found, flag⟩ := Option.map_eq_some_iff.mp flagged
  have isolated : ∀ op ∈ [first, second], f.IsolatedRender op := by
    simp only [List.forall_mem_cons, List.not_mem_nil, false_imp_iff, implies_true, and_true]
    exact ⟨.mk _ _ _ found flag, .mk _ _ _ found flag⟩
  have sound : ∀ op ∈ [first, second], op.Sound Sample.ledger.nature f.heap.supply := by
    simp only [List.forall_mem_cons, List.not_mem_nil, false_imp_iff, implies_true, and_true]
    rw [supply]
    exact ⟨⟨made (by decide) _, noAssigns⟩, made (by decide) _, noAssigns⟩
  have afterwards : (f.performAll [first, second]).2.Admissible Sample.ledger.nature [last] :=
    ⟨⟨trivial, noAssigns⟩, trivial⟩
  obtain ⟨behind, one, two⟩ := reordered [first, second] [second, first] [last] (.swap ..)
    isolated sound afterwards
  refine ⟨before, two.trans ?_⟩
  obtain ⟨here, there, rfl⟩ := by simpa using one.symm.trans before
  simp [here, there]

/-- What is written is a member that the type of `x` describes. -/
def naming : Template where
  engine := Sample.engine
  name := "t"
  source := "{{ x.name }}"
  document := ⟨[.output ⟨0, 12⟩ "x.name" ⟨.lookup "x" [.field "name"], []⟩], ⟨0, 12⟩⟩
  isolated := false

/-- One handle of a person says that the type describes itself, and another one does not. -/
def personData (native : Bool) : Value :=
  .hash [("x", .object ⟨native.toNat, "Person", native, [("name", .str "Ann")]⟩)]

/-- With the same document, store, data and options, a render gives something else on a slower
clock, and something else when a handle was seen before it that does not agree with its own. -/
theorem time_and_handles_matter :
    Template.parse Sample.engine "t" naming.source = .ok naming ∧
    let f := single "t" naming { Heap.new with supply := 2, registries := 1 }
    let hurried : Options := { Options.plain with timeout := some 1 }
    let render := Operation.render "t" (personData true) hurried (.stopped 0)
    let renderSlowly := Operation.render "t" (personData true) hurried Template.ticking
    let disagree := Operation.render "t" (personData false) hurried (.stopped 0)
    (f.perform render).1 = .rendered (.ok ⟨"Ann", #[]⟩) ∧
      (f.perform renderSlowly).1 = .rendered (.error .timeout) ∧
      (f.perform disagree).2.shelf = f.shelf ∧
      ((f.perform disagree).2.perform render).1 = .rendered (.ok ⟨"", #[]⟩) :=
  ⟨by rfl, by decide +kernel, by decide +kernel, by rfl, by decide +kernel⟩

end Family

end Liquid
