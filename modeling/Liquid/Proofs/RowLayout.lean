import Liquid.Proofs.ScopeDiscipline
import Liquid.Proofs.Simulation
import Mathlib.Data.Nat.ModEq

/-!
# The layout of table rows

A table row is written by a loop that counts items, rows and columns side by side, and moves on to
the next row behind a full one. Where a cell stands and what surrounds it is a matter of its index
alone.

## Main result

`TableRow.render_layout`: if the header can be evaluated and no body fails, the table row shows the
window of the array that offset and limit cut out, in cells whose columns and rows are the remainder
and the quotient of their indexes, up to the end or to the first body that leaves the loop.

## Proof strategy

The loop is read as one over indexes (`TableRow.Laid`), where the end of a row belongs to the cell
that starts the next one. The counters of rows and columns agree with the index at every turn
(`TableRow.exists_laid`). All else is an induction over the cells.
-/

namespace Liquid

namespace TableRow

/-! ### Where a cell stands -/

/-- Without a number of columns there is one row of all cells. -/
def columnAt (columns index : Nat) : Nat := if columns = 0 then index else index % columns

/-- What stands in front of a cell: the first of a row, but for the very first, ends the row before
and starts its own. -/
def rowStart (columns index : Nat) : String :=
  if 0 < columns ∧ 0 < index ∧ columnAt columns index = 0 then
    "</tr>\n<tr class=\"row" ++ toString (index / columns + 1) ++ "\">"
  else ""

/-- A cell with what stands in front of it. -/
def cellText (columns index : Nat) (text : String) : String :=
  rowStart columns index ++ ("<td class=\"col" ++ toString (columnAt columns index + 1) ++ "\">") ++
    text ++ "</td>"

private theorem cellStart_eq (column : Nat) :
    cellStart column = "<td class=\"col" ++ toString (column + 1) ++ "\">" := rfl

/-- The table of cells with these texts. -/
def layout (columns : Nat) (texts : List String) : String :=
  "<tr class=\"row1\">\n" ++ String.join (texts.mapIdx (cellText columns)) ++ "</tr>\n"

/-- What the cell with index `i` is told, of `n` cells in so many columns; `c` others stand in front
of it in its row. -/
structure Place (place : Value) (n i c columns : Nat) : Prop where
  length : place.member? "length" = some (.ofNat n)
  index : place.member? "index" = some (.ofNat (i + 1))
  index0 : place.member? "index0" = some (.ofNat i)
  rindex : place.member? "rindex" = some (.ofNat (n - i))
  rindex0 : place.member? "rindex0" = some (.ofNat (n - 1 - i))
  first : place.member? "first" = some (.bool (i = 0))
  last : place.member? "last" = some (.bool (i + 1 = n))
  col : place.member? "col" = some (.ofNat (c + 1))
  col0 : place.member? "col0" = some (.ofNat c)
  col_first : place.member? "col_first" = some (.bool (c = 0))
  col_last : place.member? "col_last" = some (.bool (c + 1 = columns))

private theorem place_loopInfo (n i c columns : Nat) :
    Place (loopInfo i n c columns) n i c columns where
  length := rfl
  index := rfl
  index0 := rfl
  rindex := rfl
  rindex0 := by
    rw [Nat.sub_right_comm]
    rfl
  first := rfl
  last := rfl
  col := rfl
  col0 := rfl
  col_first := rfl
  col_last := rfl

private theorem columnAt_succ_of_full {columns index : Nat}
    (full : columnAt columns index + 1 = columns) :
    columnAt columns (index + 1) = 0 ∧ (index + 1) / columns = index / columns + 1 := by
  by_cases none : columns = 0
  · omega
  · simp only [columnAt, none, ↓reduceIte] at full ⊢
    have parts := Nat.mod_add_div index columns
    have unique : (index + 1) / columns = index / columns + 1 ∧ (index + 1) % columns = 0 := by
      apply (Nat.div_mod_unique (by omega)).mpr
      rw [Nat.mul_add]
      omega
    exact ⟨unique.2, unique.1⟩

private theorem columnAt_succ_of_not_full {columns index : Nat}
    (room : columnAt columns index + 1 ≠ columns) :
    columnAt columns (index + 1) = columnAt columns index + 1 ∧
      (index + 1) / columns = index / columns := by
  by_cases none : columns = 0
  · simp [columnAt, none]
  · simp only [columnAt, none, ↓reduceIte] at room ⊢
    have parts := Nat.mod_add_div index columns
    have less := Nat.mod_lt index (Nat.pos_of_ne_zero none)
    have unique : (index + 1) / columns = index / columns ∧
        (index + 1) % columns = index % columns + 1 := by
      apply (Nat.div_mod_unique (by omega)).mpr
      omega
    exact ⟨unique.2, unique.1⟩

/-- Behind a full row the next one starts. -/
theorem rowStart_succ_of_full {columns index : Nat} (full : columnAt columns index + 1 = columns) :
    rowStart columns (index + 1) = rowBreak (index / columns + 1) := by
  obtain ⟨first, next⟩ := columnAt_succ_of_full full
  rw [rowStart, if_pos ⟨by omega, Nat.succ_pos index, first⟩, next]
  rfl

private theorem rowStart_succ_of_not_full {columns index : Nat}
    (room : columnAt columns index + 1 ≠ columns) : rowStart columns (index + 1) = "" := by
  obtain ⟨within, _⟩ := columnAt_succ_of_not_full room
  rw [rowStart, if_neg]
  omega

/-- What the loop does next depends on its counters, which follow the index. -/
theorem next_counters {α : Type} (go : (row column : Nat) → Progress → α) (columns : Nat)
    {index length : Nat} (following : index + 1 ≠ length) (q : Progress) :
    (if columnAt columns index + 1 = columns ∧ index + 1 ≠ length then
      go (index / columns + 1 + 1) 0 (q.wrote (rowBreak (index / columns + 1)))
    else go (index / columns + 1) (columnAt columns index + 1) q) =
      go ((index + 1) / columns + 1) (columnAt columns (index + 1))
        (q.wrote (rowStart columns (index + 1))) := by
  by_cases full : columnAt columns index + 1 = columns
  · obtain ⟨inColumn, inRow⟩ := columnAt_succ_of_full full
    rw [if_pos ⟨full, following⟩, inColumn, inRow, rowStart_succ_of_full full]
  · obtain ⟨inColumn, inRow⟩ := columnAt_succ_of_not_full full
    rw [if_neg fun both => full both.1, inColumn, inRow, rowStart_succ_of_not_full full,
      Progress.wrote_empty]

/-! ### Cells one behind the other -/

section

variable {name : String} {length columns : Nat} {body : Render Flow} {s : Setting}

/-- The progress from which the body of a cell starts, from that behind the cell before it. -/
def enterAt (name : String) (length columns index : Nat) (item : Value) (p : Progress) :
    Progress :=
  enterCell name length columns index (columnAt columns index) item
    (p.wrote (rowStart columns index))

/-- The cells of the items from an index on: the moments at which their bodies start, and the
progress behind the last of them. -/
inductive Laid (name : String) (length columns : Nat) (body : Render Flow) (s : Setting) :
    (index : Nat) → List Value → Progress → List Progress → Progress → Prop where
  | none (index : Nat) (p : Progress) : Laid name length columns body s index [] p [] p
  | left {index : Nat} {item : Value} {p q : Progress} (rest : List Value) :
      body s (enterAt name length columns index item p) = (.ok .stop, q) →
      Laid name length columns body s index (item :: rest) p
        [enterAt name length columns index item p] (q.wrote "</td>")
  | more {index : Nat} {item : Value} {rest : List Value} {p q after : Progress}
      {starts : List Progress} {flow : Flow} :
      body s (enterAt name length columns index item p) = (.ok flow, q) → flow ≠ .stop →
      Laid name length columns body s (index + 1) rest (q.wrote "</td>") starts after →
      Laid name length columns body s index (item :: rest) p
        (enterAt name length columns index item p :: starts) after

/-- The counters of the loop are the quotient and the remainder of the index. -/
theorem exists_laid (rest : List Value) {item : Value} {index row column : Nat} {p : Progress}
    (whole : index + (item :: rest).length = length) (inColumn : column = columnAt columns index)
    (inRow : row = index / columns + 1)
    (ends : ∀ start ∈ cellStarts name length columns body s index row column (item :: rest)
      (p.wrote (rowStart columns index)), ∃ flow q, body s start = (.ok flow, q)) :
    ∃ after,
      cells name length columns body index row column (item :: rest) s
        (p.wrote (rowStart columns index)) = (.ok (), after) ∧
      Laid name length columns body s index (item :: rest) p
        (cellStarts name length columns body s index row column (item :: rest)
          (p.wrote (rowStart columns index))) after := by
  subst inColumn inRow
  induction rest generalizing item index p with
  | nil =>
    obtain ⟨flow, q, run⟩ := ends _ List.mem_cons_self
    rw [cells_cons_apply, cellStarts]
    have last : ¬(columnAt columns index + 1 = columns ∧ index + 1 ≠ length) := fun h => h.2 whole
    by_cases stopped : flow = .stop
    · subst stopped
      simp only [run, ↓reduceIte]
      exact ⟨_, rfl, .left [] run⟩
    · simp only [run, if_neg stopped, if_neg last]
      exact ⟨_, rfl, .more run stopped (.none _ _)⟩
  | cons next rest ih =>
    obtain ⟨flow, q, run⟩ := ends _ List.mem_cons_self
    rw [cellStarts] at ends
    rw [cells_cons_apply, cellStarts]
    by_cases stopped : flow = .stop
    · subst stopped
      simp only [run, ↓reduceIte]
      exact ⟨_, rfl, .left _ run⟩
    · simp only [run, if_neg stopped] at ends ⊢
      have later : index + 1 + (next :: rest).length = length := by
        rw [← whole]
        simp only [List.length_cons]
        omega
      have following : index + 1 ≠ length := by
        rw [← later, List.length_cons]
        omega
      rw [next_counters (fun row column => cellStarts name length columns body s (index + 1) row
        column (next :: rest)) columns following] at ends ⊢
      rw [next_counters (fun row column => cells name length columns body (index + 1) row column
        (next :: rest) s) columns following]
      obtain ⟨after, done, laid⟩ := ih later fun start member =>
        ends start (List.mem_cons_of_mem _ member)
      exact ⟨after, done, .more run stopped laid⟩

/-- The loop from its first cell on. -/
theorem exists_laid_all {items : List Value} {p : Progress}
    (ends : ∀ start ∈ cellStarts name items.length columns body s 0 1 0 items p,
      ∃ flow q, body s start = (.ok flow, q)) :
    ∃ after, cells name items.length columns body 0 1 0 items s p = (.ok (), after) ∧
      Laid name items.length columns body s 0 items p
        (cellStarts name items.length columns body s 0 1 0 items p) after := by
  cases items with
  | nil => exact ⟨p, rfl, .none 0 p⟩
  | cons item rest =>
    have first : p = p.wrote (rowStart columns 0) := by simp [rowStart, Progress.wrote_empty]
    have inColumn : 0 = columnAt columns 0 := by simp [columnAt]
    have inRow : 1 = 0 / columns + 1 := by simp
    have laid := @exists_laid name _ columns body s rest item 0 1 0 p (Nat.zero_add _) inColumn
      inRow
    rw [← first] at laid
    exact laid ends

/-- A table row whose header can be evaluated and whose cells do not fail. -/
theorem render_laid {row : TableRow} {p q : Progress} {shown : List Value}
    (header : row.header s p = (.ok (some (shown, columns)), q))
    (ends : ∀ start ∈ row.starts body s p, ∃ flow after, body s start = (.ok flow, after)) :
    ∃ last, row.render body s p = (.ok .normal, closeTable last) ∧
      Laid row.name shown.length columns body s 0 shown (openTable q) (row.starts body s p)
        last := by
  have starts : row.starts body s p =
      cellStarts row.name shown.length columns body s 0 1 0 shown (openTable q) := by
    simp only [TableRow.starts, header]
  rw [starts] at ends ⊢
  obtain ⟨last, done, laid⟩ := exists_laid_all ends
  refine ⟨last, ?_, laid⟩
  rw [render_apply]
  simp only [header, done]

namespace Laid

variable {index : Nat} {items : List Value} {p after : Progress} {starts : List Progress}

/-- Not more cells than items. -/
theorem length_le (laid : Laid name length columns body s index items p starts after) :
    starts.length ≤ items.length := by
  induction laid with
  | none => simp
  | left => simp
  | more _ _ _ ih => simpa using ih

/-- Only the last cell can leave the loop. -/
theorem length_of_stop (laid : Laid name length columns body s index items p starts after)
    {k : Nat} {start : Progress} (cell : starts[k]? = some start)
    (stops : (body s start).1 = .ok .stop) : starts.length = k + 1 := by
  induction laid generalizing k with
  | none => cases cell
  | left =>
    cases k with
    | zero => rfl
    | succ k => cases cell
  | more run goesOn _ ih =>
    cases k with
    | zero =>
      cases cell
      rw [run] at stops
      cases stops
      exact absurd rfl goesOn
    | succ k => simpa using ih cell

/-- If no cell leaves the loop, there is one for each item. -/
theorem length_of_no_stop (laid : Laid name length columns body s index items p starts after)
    (goesOn : ∀ start ∈ starts, (body s start).1 ≠ .ok .stop) :
    starts.length = items.length := by
  induction laid with
  | none => rfl
  | left _ run => exact absurd (congrArg Prod.fst run) (goesOn _ List.mem_cons_self)
  | more _ _ _ ih =>
    have later := ih fun start member => goesOn start (List.mem_cons_of_mem _ member)
    simp [later]

/-- Each cell starts with the item under its name and with its own place in the loop. -/
theorem sees (laid : Laid name length columns body s index items p starts after) {k : Nat}
    {start : Progress} (cell : starts[k]? = some start) :
    Place (Render.valueOf s start "tablerowloop") length (index + k)
        (columnAt columns (index + k)) columns ∧
      (name ≠ "tablerowloop" → items[k]? = some (Render.valueOf s start name)) := by
  -- The place is bound behind the item and would hide it under the same name.
  have entered (index : Nat) (item : Value) (p : Progress) :
      Place (Render.valueOf s (enterAt name length columns index item p) "tablerowloop") length
          index (columnAt columns index) columns ∧
        (name ≠ "tablerowloop" →
          Render.valueOf s (enterAt name length columns index item p) name = item) := by
    constructor
    · have told : Render.valueOf s (enterAt name length columns index item p) "tablerowloop" =
          loopInfo index length (columnAt columns index) columns := by
        simp [Render.valueOf, enterAt, enterCell, Scopes.get?_set]
      rw [told]
      exact place_loopInfo _ _ _ _
    · intro other
      simp [Render.valueOf, enterAt, enterCell, Scopes.get?_set, other.symm]
  induction laid generalizing k with
  | none => cases cell
  | @left index item p q rest run =>
    cases k with
    | zero =>
      cases cell
      exact ⟨(entered index item p).1, fun other => by simp [(entered index item p).2 other]⟩
    | succ k => cases cell
  | @more index item rest p q after starts flow run goesOn laid ih =>
    cases k with
    | zero =>
      cases cell
      exact ⟨(entered index item p).1, fun other => by simp [(entered index item p).2 other]⟩
    | succ k =>
      have later := ih cell
      rw [Nat.add_right_comm, Nat.add_assoc] at later
      exact later

/-- What the cells write, from what their bodies write. -/
theorem out {texts : List String}
    (laid : Laid name length columns body s index items p starts after)
    (wrote : List.Forall₂ (fun start text => (body s start).2.out = start.out ++ text)
      starts texts) :
    after.out = p.out ++ String.join (texts.mapIdx fun k => cellText columns (index + k)) := by
  have cell {index : Nat} {item : Value} {p q : Progress} {text : String}
      (wrote : q.out = (enterAt name length columns index item p).out ++ text) :
      (q.wrote "</td>").out = p.out ++ cellText columns index text := by
    simp only [Progress.wrote, wrote, enterAt, enterCell, cellText, cellStart_eq,
      String.append_assoc]
  induction laid generalizing texts with
  | none =>
    cases wrote
    simp
  | left _ run =>
    cases wrote with
    | cons first none =>
      cases none
      rw [run] at first
      simp [cell first]
  | more run goesOn laid ih =>
    cases wrote with
    | cons first rest =>
      rw [run] at first
      rw [ih rest, cell first, List.mapIdx_cons, String.join_cons, String.append_assoc]
      simp only [Nat.add_assoc, Nat.add_comm 1, Nat.add_zero]

/-- What the whole table writes. -/
theorem table_out {items : List Value} {p last : Progress} {texts : List String}
    (laid : Laid name length columns body s 0 items (openTable p) starts last)
    (wrote : List.Forall₂ (fun start text => (body s start).2.out = start.out ++ text)
      starts texts) :
    (closeTable last).out = p.out ++ layout columns texts := by
  have cells : (texts.mapIdx fun k => cellText columns (0 + k)) =
      texts.mapIdx (cellText columns) := by
    simp only [Nat.zero_add]
  have assoc (a b c d : String) : a ++ b ++ c ++ d = a ++ (b ++ c ++ d) := by
    simp only [String.append_assoc]
  calc (closeTable last).out
      = (openTable p).out ++ String.join (texts.mapIdx (cellText columns)) ++ "</tr>\n" := by
        rw [← cells, ← laid.out wrote]
        rfl
    _ = p.out ++ layout columns texts := assoc _ _ _ _

end Laid

end

/-! ### The header -/

section

variable {row : TableRow} {s : Setting} {p q : Progress}

/-- The value of an attribute, if it is there: that of the first expression under its name. Looking
at it computes what is on its outside. -/
inductive Evaluates (row : TableRow) (key : String) (s : Setting) (p : Progress) :
    Option Value → Progress → Prop where
  | absent : (∀ e, (key, e) ∉ row.attributes) → Evaluates row key s p none p
  | present {before after : List (String × Expr)} {e : Expr} {v : Value} {q : Progress} :
      row.attributes = before ++ (key, e) :: after → (∀ e, (key, e) ∉ before) →
      Render.eval (fun env names => e.exposed env names) s p = (.ok v, q) →
      Evaluates row key s p (some v) { q with heap := (v.read q.heap).2 }

/-- The array that is shown and the values of the attributes, in the order of evaluation. -/
inductive Asks (row : TableRow) (s : Setting) (p : Progress) :
    (items : List Value) → (offset limit cols : Option Value) → Progress → Prop where
  | intro {items : List Value} {offset limit cols : Option Value}
      {first second third q : Progress} :
      Render.eval (fun env names => row.collection.exposed env names) s p =
        (.ok (.array items), first) →
      row.Evaluates "offset" s first offset second → row.Evaluates "limit" s second limit third →
      row.Evaluates "cols" s third cols q → Asks row s p items offset limit cols q

/-- The number that an attribute stands for, where a negative one counts as zero. There is none
without the attribute and none for a value that is not a whole number. -/
def number? (v : Option Value) : Option Nat := (v.bind Value.int?).map fun i => i.toInt.toNat

/-- Without a limit there are at most all items. -/
theorem window_eq (offset : Nat) (limit : Option Nat) (items : List Value) :
    window offset limit items = (items.drop offset).take (limit.getD items.length) := by
  cases limit with
  | some limit => rfl
  | none =>
    rw [window, Option.getD_none, List.take_of_length_le]
    rw [List.length_drop]
    exact Nat.sub_le items.length offset

theorem attribute_of_evaluates {key : String} {v : Option Value}
    (given : row.Evaluates key s p v q) :
    row.attribute? key s p = (.ok (v.bind Value.int?), q) := by
  have apart {entries : List (String × Expr)} (missing : ∀ e, (key, e) ∉ entries) :
      ∀ entry ∈ entries, ¬(entry.1 == key) = true := by
    rintro ⟨name, e⟩ member same
    rw [beq_iff_eq] at same
    subst same
    exact missing e member
  unfold attribute?
  cases given with
  | absent missing =>
    rw [List.find?_eq_none.mpr (apart missing)]
    rfl
  | @present before after e v q attributes first run =>
    rw [attributes, List.find?_append, List.find?_eq_none.mpr (apart first), Option.none_or]
    simp only [List.find?_cons, beq_self_eq_true]
    have whole : v.resolved.int? = v.int? := by
      simp only [Value.int?, Value.number?, Value.resolved_resolved]
    refine (Render.eval_bind_ok (g := fun v => liftM v.readInt?) run).trans ?_
    rw [Option.bind_some, ← whole]
    rfl

theorem header_of_asks {items : List Value} {offset limit cols : Option Value}
    (asked : row.Asks s p items offset limit cols q) :
    row.header s p =
      (.ok (some ((items.drop ((number? offset).getD 0)).take ((number? limit).getD items.length),
        (number? cols).getD 0)), q) := by
  rw [← window_eq]
  cases asked with
  | intro collection offset limit cols =>
    unfold header
    rw [Render.bind_ok collection]
    dsimp only
    rw [Render.bind_ok (attribute_of_evaluates offset),
      Render.bind_ok (attribute_of_evaluates limit), Render.bind_ok (attribute_of_evaluates cols)]
    rfl

end

private theorem header_out (row : TableRow) (s : Setting) (p : Progress) :
    (row.header s p).2.out = p.out := by
  obtain ⟨heap, reads⟩ := Render.reads_header row s p
  rw [reads]

/-- What nodes write stands behind what was written. -/
theorem renderAll_appends {nodes : List Node} (standard : isStandard nodes = true) (s : Setting)
    (p : Progress) : ∃ text, (renderAll nodes s p).2.out = p.out ++ text := by
  have behind := renderAll_behind standard s p.out #[] { p with out := "" }
  have same : Render.Progress.behind p.out #[] { p with out := "" } = p := by
    simp [Render.Progress.behind]
  rw [same] at behind
  rw [behind]
  exact ⟨_, rfl⟩

/-- A table row shows the window of its array that offset and limit cut out, in as many columns as
it asks for, up to the end or to the cell that leaves the loop. -/
theorem render_layout (row : TableRow) (nodes : List Node) {s : Setting} {p q : Progress}
    {items : List Value} {offset limit cols : Option Value}
    (asked : row.Asks s p items offset limit cols q)
    (ends : ∀ start ∈ row.starts (renderAll nodes) s p,
      ∃ flow after, renderAll nodes s start = (.ok flow, after)) :
    let shown := (items.drop ((number? offset).getD 0)).take ((number? limit).getD items.length)
    let columns := (number? cols).getD 0
    let starts := row.starts (renderAll nodes) s p
    ∃ after, row.render (renderAll nodes) s p = (.ok .normal, after) ∧
      starts.length ≤ shown.length ∧
      (∀ k start, starts[k]? = some start → (renderAll nodes s start).1 = .ok .stop →
        starts.length = k + 1) ∧
      ((∀ start ∈ starts, (renderAll nodes s start).1 ≠ .ok .stop) →
        starts.length = shown.length) ∧
      (∀ k start, starts[k]? = some start →
        Place (Render.valueOf s start "tablerowloop") shown.length k (columnAt columns k) columns ∧
          (row.name ≠ "tablerowloop" → shown[k]? = some (Render.valueOf s start row.name))) ∧
      (∀ texts,
        List.Forall₂ (fun start text => (renderAll nodes s start).2.out = start.out ++ text)
          starts texts →
        after.out = p.out ++ layout columns texts) ∧
      (isStandard nodes = true → ∃ texts,
        List.Forall₂ (fun start text => (renderAll nodes s start).2.out = start.out ++ text)
          starts texts) ∧
      (∀ v k, number? (some v) = some k →
        (items.drop ((number? none).getD 0)).take ((number? (some v)).getD items.length) ++
          (items.drop ((number? (some v)).getD 0)).take ((number? none).getD items.length) =
            items) := by
  intro shown columns starts
  have header := header_of_asks asked
  obtain ⟨last, done, laid⟩ := render_laid header ends
  refine ⟨closeTable last, done, laid.length_le, fun k start cell => laid.length_of_stop cell,
    laid.length_of_no_stop, fun k start cell => ?_, fun texts wrote => ?_, fun standard => ?_,
    fun v k given => ?_⟩
  · simpa only [Nat.zero_add] using laid.sees cell
  · have untouched : q.out = p.out := by rw [← header_out row s p, header]
    rw [← untouched]
    exact laid.table_out wrote
  · choose text appends using renderAll_appends standard s
    use starts.map text
    rw [List.forall₂_map_right_iff, List.forall₂_same]
    exact fun start _ => appends start
  · have absent : number? none = none := rfl
    rw [given, absent, ← window_eq, ← window_eq]
    exact List.take_append_drop k items

/-- The row of `{% tablerow v in vs cols: 2 offset: 1 limit: "x" %}`. -/
def twoColumns : TableRow :=
  ⟨"v", .lookup "vs" [], [("cols", .literal (.int 2)), ("offset", .literal (.int 1)),
    ("limit", .literal (.str "x"))]⟩

/-- `{{ v }}{% if tablerowloop.rindex0 == 1 %}{% break %}{% endif %}`. -/
def lastButOne : List Node :=
  [.output ⟨0, 0⟩ "v" ⟨.lookup "v" [], []⟩,
   .tag ⟨0, 0⟩ "if" "tablerowloop.rindex0 == 1" (.branches
    [(.last (.compare ⟨.lookup "tablerowloop" [.field "rindex0"], []⟩ .eq
        ⟨.literal (.int 1), []⟩),
      [.tag ⟨0, 0⟩ "break" "" (.interrupt .stop)])])]

/-- Three of four cells, and no fifth item. -/
theorem render_layout_twoColumns :
    let items : List Value := [.str "a", .str "b", .str "c", .str "d", .str "e"]
    let s : Setting :=
      ⟨Template.bareEngine.env, ⟨[("vs", .array items)]⟩, .inline, Format.plain, none, false⟩
    let p := Template.start Bindings.empty Heap.new
    ∃ after, twoColumns.render (renderAll lastButOne) s p = (.ok .normal, after) ∧
      after.out = "<tr class=\"row1\">\n" ++
        "<td class=\"col1\">b</td><td class=\"col2\">c</td></tr>\n" ++
        "<tr class=\"row2\"><td class=\"col1\">d</td></tr>\n" := by
  intro items s p
  have offset : twoColumns.Evaluates "offset" s p (some (.int 1)) p :=
    .present (q := p) (show twoColumns.attributes =
      [("cols", .literal (.int 2))] ++ ("offset", .literal (.int 1)) :: _ from rfl) (by simp) rfl
  have limit : twoColumns.Evaluates "limit" s p (some (.str "x")) p :=
    .present (q := p) (show twoColumns.attributes =
      [("cols", .literal (.int 2)), ("offset", .literal (.int 1))] ++
        ("limit", .literal (.str "x")) :: _ from rfl) (by simp) rfl
  have cols : twoColumns.Evaluates "cols" s p (some (.int 2)) p :=
    .present (q := p) (show twoColumns.attributes =
      [] ++ ("cols", .literal (.int 2)) :: _ from rfl) (by simp) rfl
  have fine : ((twoColumns.starts (renderAll lastButOne) s p).all fun start =>
      (renderAll lastButOne s start).1.isOk) = true := by
    decide +kernel
  have ends : ∀ start ∈ twoColumns.starts (renderAll lastButOne) s p,
      ∃ flow after, renderAll lastButOne s start = (.ok flow, after) := by
    intro start member
    have ok := List.all_eq_true.mp fine start member
    rcases run : renderAll lastButOne s start with ⟨_ | flow, after⟩
    · rw [run] at ok
      cases ok
    · exact ⟨flow, after, rfl⟩
  obtain ⟨after, done, _, _, _, _, out, _⟩ := render_layout twoColumns lastButOne
    (.intro (q := p) rfl offset limit cols) ends
  have texts : List.Forall₂
      (fun start text => (renderAll lastButOne s start).2.out = start.out ++ text)
      (twoColumns.starts (renderAll lastButOne) s p) ["b", "c", "d"] := by
    decide +kernel
  refine ⟨after, done, (out _ texts).trans ?_⟩
  decide +kernel

end TableRow

end Liquid
