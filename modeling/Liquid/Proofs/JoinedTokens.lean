import Liquid.Proofs.Segmentation
import Liquid.Token.Trim

/-!
# The tokens of joined sources

Where a source ends with a closing delimiter, nothing is scanned across that end, and if the
delimiter carries no trim mark, nothing is trimmed across it either: the tokens of the source and of
what is written behind it are found on their own, and only the places of the later ones move.

## Main results

- `Token.tokenize_append`: the tokens of the joined source are those of its parts.
- `Token.tokenize_cut`: the tokens up to one with a closing delimiter are the same whatever is
  written behind that one.

## Proof strategy

Scanning is known by what its tokens have to be (`Segments`), so the tokens of both parts in a row
need only be tokens of the whole. No delimiter is longer than two characters, and behind each token
but the last there are as many, so what follows the first part is never looked at, and can be cut
off as well as put there (`stands_append_iff`). Trimming looks at the neighbours of a text, and no
text stands at the end of the first part.
-/

namespace Liquid

/-- The stretch as far behind another offset. -/
def Span.shift (k : Nat) (span : Span) : Span := { span with offset := k + span.offset }

namespace Token

def shift (k : Nat) (t : Token) : Token := { t with span := t.span.shift k }

/-- Markup with a closing delimiter. -/
structure Closes (t : Token) : Prop where
  markup : t.kind ≠ .text
  terminated : t.terminated = true

/-- Markup with a closing delimiter and no trim mark in front of it. -/
structure ClosesPlainly (t : Token) : Prop where
  markup : t.kind ≠ .text
  terminated : t.terminated = true
  unmarked : t.trimAfter = false

instance (t : Token) : Decidable t.ClosesPlainly :=
  decidable_of_iff (t.kind ≠ .text ∧ t.terminated = true ∧ t.trimAfter = false)
    ⟨fun ⟨markup, terminated, unmarked⟩ => ⟨markup, terminated, unmarked⟩,
      fun closes => ⟨closes.markup, closes.terminated, closes.unmarked⟩⟩

/-- No text and nothing open or marked at the end. -/
def EndPlainly (tokens : List Token) : Prop := ∀ t ∈ tokens.getLast?, t.ClosesPlainly

instance (tokens : List Token) : Decidable (EndPlainly tokens) :=
  inferInstanceAs (Decidable (∀ t ∈ tokens.getLast?, t.ClosesPlainly))

/-- No text and nothing open at the end. -/
def EndClosed (tokens : List Token) : Prop := ∀ t ∈ tokens.getLast?, t.Closes

theorem EndPlainly.endClosed {tokens : List Token} (plain : EndPlainly tokens) :
    EndClosed tokens := fun t last => ⟨(plain t last).markup, (plain t last).terminated⟩

theorem EndClosed.tail {t : Token} {rest : List Token} (closed : EndClosed (t :: rest)) :
    EndClosed rest := by
  cases rest with
  | nil => simp [EndClosed]
  | cons u more =>
    intro last member
    exact closed last (by simpa [List.getLast?_cons_cons] using member)

theorem EndClosed.closes {t : Token} (closed : EndClosed [t]) : t.Closes := closed t rfl

/-! ### More behind a token -/

theorem prefix_append_iff {d s : List Char} (enough : d.length ≤ s.length) (more : List Char) :
    d <+: s ++ more ↔ d <+: s :=
  ⟨fun found => List.prefix_of_prefix_length_le found (List.prefix_append s more) enough,
    fun found => found.trans (List.prefix_append s more)⟩

/-- A delimiter of two characters is not completed by what stands further behind. -/
theorem free_append_iff {d text after : List Char} (two : d.length ≤ 2) (something : after ≠ [])
    (more : List Char) : Free d text (after ++ more) ↔ Free d text after := by
  have enough {v : List Char} (some : v ≠ []) : d.length ≤ (v ++ after).length := by
    have ends := List.length_pos_iff.mpr something
    have starts := List.length_pos_iff.mpr some
    rw [List.length_append]
    omega
  constructor
  · intro free u v parts some found
    refine free u v parts some ?_
    rwa [← List.append_assoc, prefix_append_iff (enough some)]
  · intro free u v parts some found
    rw [← List.append_assoc, prefix_append_iff (enough some)] at found
    exact free u v parts some found

private theorem opener_length_le (kind : TokenKind) : (opener kind).length ≤ 2 := by
  cases kind <;> decide

private theorem closer_length_le (kind : TokenKind) : (closer kind).length ≤ 2 := by
  cases kind <;> decide

private theorem isText_append_iff {t : Token} {after : List Char} (something : after ≠ [])
    (more : List Char) : t.IsText (after ++ more) ↔ t.IsText after := by
  have free (kind : TokenKind) : Free (opener kind) t.raw.toList (after ++ more) ↔
      Free (opener kind) t.raw.toList after :=
    free_append_iff (opener_length_le kind) something more
  constructor <;> intro text
  · exact { text with
      noTag := (free _).mp text.noTag
      noVariable := (free _).mp text.noVariable }
  · exact { text with
      noTag := (free _).mpr text.noTag
      noVariable := (free _).mpr text.noVariable }

private theorem closer_ne_nil {kind : TokenKind} (markup : kind ≠ .text) : closer kind ≠ [] := by
  rw [closer_of_ne_text markup]
  exact List.cons_ne_nil _ _

private theorem closed_append_iff {t : Token} {inside after : List Char} (markup : t.kind ≠ .text)
    (more : List Char) : t.Closed inside (after ++ more) ↔ t.Closed inside after := by
  have ends : closer t.kind ++ after ≠ [] :=
    List.append_ne_nil_of_left_ne_nil (closer_ne_nil markup) _
  have free : Free (closer t.kind) inside (closer t.kind ++ after ++ more) ↔
      Free (closer t.kind) inside (closer t.kind ++ after) :=
    free_append_iff (closer_length_le t.kind) ends more
  rw [List.append_assoc] at free
  constructor <;> intro closed
  · exact { closed with first := free.mp closed.first }
  · exact { closed with first := free.mpr closed.first }

/-- Markup and what follows it are longer than an opening with its trim mark. -/
theorem Closed.opened_length_le {t : Token} {inside after : List Char}
    (closed : t.Closed inside after) (markup : t.kind ≠ .text) :
    (opener t.kind ++ ['-']).length ≤ (t.raw.toList ++ after).length := by
  have opens := opener_length_le t.kind
  rw [closed.raw, closer_of_ne_text markup]
  simp only [opening, Token.opened, List.length_append, List.length_cons, List.length_nil]
  omega

theorem IsMarkup.append {t : Token} {inner after : List Char} (m : t.IsMarkup inner after)
    (closes : t.Closes) (more : List Char) : t.IsMarkup (inner ++ more) (after ++ more) := by
  obtain ⟨inside, closed⟩ := m.closed closes.terminated
  have enough := closed.opened_length_le closes.markup
  constructor
  case opened => rw [← List.append_assoc, m.opened, List.append_assoc]
  case trimBefore => rw [m.trimBefore, ← List.append_assoc, prefix_append_iff enough]
  case terminated =>
    have found := m.terminated.mp closes.terminated
    exact ⟨fun _ => found.trans (List.prefix_append inner more).isInfix,
      fun _ => closes.terminated⟩
  case closed => exact fun _ => ⟨inside, (closed_append_iff closes.markup more).mpr closed⟩
  case unclosed => simp [closes.terminated]

/-- What stands behind the closing delimiter is not looked at. -/
theorem IsMarkup.cut {t : Token} {inner after more : List Char}
    (m : t.IsMarkup inner (after ++ more)) (closes : t.Closes) :
    ∃ kept, t.IsMarkup kept after := by
  obtain ⟨inside, closed⟩ := m.closed closes.terminated
  rw [closed_append_iff closes.markup] at closed
  have enough := closed.opened_length_le closes.markup
  refine ⟨inside ++ closer t.kind ++ after, ?_⟩
  constructor
  case opened => simp only [closed.raw, List.append_assoc]
  case trimBefore => rw [m.trimBefore, ← List.append_assoc, prefix_append_iff enough]
  case terminated => exact ⟨fun _ => ⟨inside, after, rfl⟩, fun _ => closes.terminated⟩
  case closed => exact fun _ => ⟨inside, closed⟩
  case unclosed => simp [closes.terminated]

/-- What a token stands for does not depend on what follows its source, once something does or
markup is closed. -/
theorem stands_append_iff {offset : Nat} {t : Token} {after : List Char}
    (settled : after ≠ [] ∨ t.Closes) (more : List Char) :
    t.Stands offset (after ++ more) ↔ t.Stands offset after := by
  constructor <;> intro stands
  · refine { stands with text := fun text => ?_, markup := fun markup => ?_ }
    · have something := settled.resolve_right fun closes => closes.markup text
      exact (isText_append_iff something more).mp (stands.text text)
    · obtain ⟨inner, m⟩ := stands.markup markup
      refine m.cut (settled.elim (fun something => ⟨markup, ?_⟩) id)
      cases terminated : t.terminated with
      | true => rfl
      | false =>
        exact absurd (List.append_eq_nil_iff.mp (m.unclosed terminated).last).1 something
  · refine { stands with text := fun text => ?_, markup := fun markup => ?_ }
    · have something := settled.resolve_right fun closes => closes.markup text
      exact (isText_append_iff something more).mpr (stands.text text)
    · obtain ⟨inner, m⟩ := stands.markup markup
      refine ⟨inner ++ more, m.append (settled.elim (fun something => ⟨markup, ?_⟩) id) more⟩
      cases terminated : t.terminated with
      | true => rfl
      | false => exact absurd (m.unclosed terminated).last something

/-! ### Rows of tokens -/

theorem source_append (tokens others : List Token) :
    source (tokens ++ others) = source tokens ++ source others := List.flatMap_append

private theorem source_ne_nil {offset : Nat} {t : Token} {rest : List Token}
    (segments : Segments offset (source (t :: rest)) (t :: rest)) : source (t :: rest) ≠ [] :=
  fun none => by
    rw [none, segments_empty] at segments
    cases segments

/-- Behind each token but the last stands something, and the last is closed. -/
theorem settled_of_segments {offset : Nat} {t : Token} {rest : List Token}
    (closed : EndClosed (t :: rest)) (rows : Segments offset (source rest) rest) :
    source rest ≠ [] ∨ t.Closes := by
  cases rest with
  | nil => exact .inr closed.closes
  | cons u more => exact .inl (source_ne_nil rows)

private theorem segments_append {offset : Nat} {s more : List Char} {tokens others : List Token}
    (segments : Segments offset s tokens) (closed : EndClosed tokens)
    (later : Segments (offset + byteLength s) more others) :
    Segments offset (s ++ more) (tokens ++ others) := by
  -- On the tokens of the first part; only the last of them has to be closed to stand on its own.
  induction tokens generalizing offset s with
  | nil =>
    obtain rfl := segments_nil.mp segments
    simpa using later
  | cons t rest ih =>
    obtain ⟨rfl, stands, follows, rows⟩ := segments_cons.mp segments
    rw [byteLength_append, byteLength_eq, String.ofList_toList, ← Nat.add_assoc] at later
    have joined := ih rows closed.tail later
    have settled := settled_of_segments closed rows
    rw [List.cons_append, segments_cons, source_append, later.joined, List.append_assoc]
    refine ⟨rfl, (stands_append_iff settled more).mpr stands, fun text u first => ?_, joined⟩
    cases rest with
    | nil => exact absurd text closed.closes.markup
    | cons v _ => exact follows text u first

/-- The tokens up to one that is closed stand for the source up to there. -/
theorem segments_cut {offset : Nat} {s : List Char} {tokens others : List Token}
    (segments : Segments offset s (tokens ++ others)) (closed : EndClosed tokens) :
    Segments offset (source tokens) tokens := by
  induction tokens generalizing offset s with
  | nil => exact segments_nil.mpr rfl
  | cons t rest ih =>
    rw [List.cons_append] at segments
    obtain ⟨-, stands, follows, rows⟩ := segments_cons.mp segments
    have kept := ih rows closed.tail
    rw [source_append] at stands
    refine segments_cons.mpr ⟨rfl, ?_, fun text u first => ?_, kept⟩
    · exact (stands_append_iff (settled_of_segments closed kept) _).mp stands
    · cases rest with
      | nil => cases first
      | cons v _ => exact follows text u first

/-! ### Places -/

private theorem next?_shift (k offset : Nat) (s : List Char) :
    next? (k + offset) s = (next? offset s).map fun (t, rest) => (t.shift k, rest) := by
  cases s with
  | nil => rfl
  | cons c rest =>
    rw [next?_of_ne_nil (List.cons_ne_nil _ _), next?_of_ne_nil (List.cons_ne_nil _ _)]
    cases opening? (c :: rest) with
    | none => rfl
    | some kind =>
      simp only [markup, Option.map_some]
      cases splitClosing? (closingMark kind) ((c :: rest).drop _) <;> rfl

private theorem scanFrom_shift (steps k offset : Nat) (s : List Char) :
    scanFrom steps (k + offset) s = (scanFrom steps offset s).map (shift k) := by
  induction steps generalizing offset s with
  | zero => rfl
  | succ steps ih =>
    unfold scanFrom
    rw [next?_shift]
    cases next? offset s with
    | none => rfl
    | some parts =>
      obtain ⟨t, rest⟩ := parts
      simp only [Option.map_some, List.map_cons]
      rw [← ih, ← Nat.add_assoc]
      rfl

theorem segments_scan (s : String) : Segments 0 s.toList (scan s) :=
  (segments_iff_scanFrom (Nat.le_refl _)).mpr rfl

private theorem scan_of_segments {s : String} {tokens : List Token}
    (segments : Segments 0 s.toList tokens) : scan s = tokens :=
  ((segments_iff_scanFrom (Nat.le_refl _)).mp segments).symm

/-- The tokens that are found behind a place. -/
theorem segments_shift (k : Nat) (s : String) :
    Segments k s.toList ((scan s).map (shift k)) :=
  (segments_iff_scanFrom (Nat.le_refl _)).mpr (scanFrom_shift s.toList.length k 0 s.toList).symm

private theorem scan_append {s : String} (closed : EndClosed (scan s)) (more : String) :
    scan (s ++ more) = scan s ++ (scan more).map (shift s.utf8ByteSize) := by
  have length : 0 + byteLength s.toList = s.utf8ByteSize := by
    rw [byteLength_eq, String.ofList_toList, Nat.zero_add]
  refine scan_of_segments ?_
  rw [String.toList_append]
  exact segments_append (segments_scan s) closed (length ▸ segments_shift _ more)

/-! ### Trim marks -/

theorem trimmed_of_markup {t : Token} (markup : t.kind ≠ .text) (startMarked endMarked : Bool) :
    trimmed startMarked endMarked t = t := by
  unfold trimmed
  split
  next text => exact absurd text markup
  next => rfl

private theorem trimmed_kind (startMarked endMarked : Bool) (t : Token) :
    (trimmed startMarked endMarked t).kind = t.kind := by
  unfold trimmed
  split <;> rfl

/-- Tokens behind markup are trimmed by its mark alone, and trim nothing in front of it. -/
theorem trimAll_append (marked : Bool) (tokens : List Token) {t : Token} (markup : t.kind ≠ .text)
    (others : List Token) :
    trimAll marked (tokens ++ t :: others) =
      trimAll marked (tokens ++ [t]) ++ trimAll t.trimAfter others := by
  induction tokens generalizing marked with
  | nil => simp only [List.nil_append, trimAll, trimmed_of_markup markup, List.cons_append]
  | cons u rest ih =>
    have marks : marksBefore (rest ++ t :: others) = marksBefore (rest ++ [t]) := by
      cases rest <;> rfl
    simp only [List.cons_append, trimAll, ih, marks]

private theorem trimmed_shift (k : Nat) (startMarked endMarked : Bool) (t : Token) :
    trimmed startMarked endMarked (t.shift k) = (trimmed startMarked endMarked t).shift k := by
  obtain ⟨kind, _⟩ := t
  cases kind <;> rfl

private theorem trimAll_shift (k : Nat) (marked : Bool) (tokens : List Token) :
    trimAll marked (tokens.map (shift k)) = (trimAll marked tokens).map (shift k) := by
  induction tokens generalizing marked with
  | nil => rfl
  | cons t rest ih =>
    have marks : marksBefore (rest.map (shift k)) = marksBefore rest := by
      cases rest <;> rfl
    rw [List.map_cons, trimAll, trimAll, List.map_cons, marks, trimmed_shift, ← ih]
    rfl

theorem tokenize_append {s : String} (plain : EndPlainly (scan s)) (more : String) :
    tokenize (s ++ more) = tokenize s ++ (tokenize more).map (shift s.utf8ByteSize) := by
  unfold tokenize
  rw [scan_append plain.endClosed more]
  rcases List.eq_nil_or_concat (scan s) with none | ⟨tokens, t, ends⟩
  · rw [none]
    exact trimAll_shift _ _ _
  · rw [List.concat_eq_append] at ends
    have closes : t.ClosesPlainly := plain t (by simp [ends])
    rw [ends, List.append_assoc, List.singleton_append, trimAll_append false tokens closes.markup,
      closes.unmarked, trimAll_shift]

/-! ### Cut sources -/

/-- Markup is left as it was scanned, and so is its place in the row. -/
theorem scanned_of_trimAll {marked : Bool} {scanned before after : List Token} {t : Token}
    (markup : t.kind ≠ .text) (parts : trimAll marked scanned = before ++ t :: after) :
    ∃ tokens others, scanned = tokens ++ t :: others ∧
      trimAll marked (tokens ++ [t]) = before ++ [t] := by
  induction before generalizing marked scanned with
  | nil =>
    cases scanned with
    | nil => cases parts
    | cons u rest =>
      obtain ⟨same, -⟩ := List.cons.inj parts
      have kind : u.kind ≠ .text := by
        rwa [← same, trimmed_kind] at markup
      rw [trimmed_of_markup kind] at same
      exact ⟨[], rest, same ▸ rfl, by simp [trimAll, trimmed_of_markup markup]⟩
  | cons b before ih =>
    cases scanned with
    | nil => cases parts
    | cons u rest =>
      obtain ⟨first, later⟩ := List.cons.inj parts
      obtain ⟨tokens, others, rfl, trimmed⟩ := ih later
      have marks : marksBefore (tokens ++ t :: others) = marksBefore (tokens ++ [t]) := by
        cases tokens <;> rfl
      refine ⟨u :: tokens, others, rfl, ?_⟩
      rw [List.cons_append, trimAll, trimmed, ← marks, first]
      rfl

/-- The tokens up to one with a closing delimiter depend only on the source up to its end. -/
theorem tokenize_cut {s : String} {before after : List Token} {t : Token}
    (parts : tokenize s = before ++ t :: after) (closes : t.Closes) :
    ∃ front rest, s = front ++ t.raw ++ rest ∧ front.utf8ByteSize = t.span.offset ∧
      ∀ other, ∃ others, tokenize (front ++ t.raw ++ other) = before ++ t :: others := by
  obtain ⟨tokens, others, scanned, trimmed⟩ := scanned_of_trimAll closes.markup parts
  have segments := scanned ▸ segments_scan s
  have stands := segments.each tokens t others rfl
  have all : source tokens ++ (t.raw.toList ++ source others) = s.toList := by
    rw [← segments.joined, source_append]
    rfl
  have ends : EndClosed (tokens ++ [t]) := fun last member => by
    rw [List.getLast?_concat, Option.mem_some_iff] at member
    exact member ▸ closes
  have raw : (String.ofList (source tokens) ++ t.raw).toList = source (tokens ++ [t]) := by
    rw [source_append, String.toList_append, String.toList_ofList]
    simp [source]
  have kept : scan (String.ofList (source tokens) ++ t.raw) = tokens ++ [t] :=
    scan_of_segments (raw ▸ segments_cut (by simpa using segments) ends)
  refine ⟨String.ofList (source tokens), String.ofList (source others), ?_, ?_, fun other => ?_⟩
  · rw [← String.toList_inj]
    simp [← all]
  · rw [stands.span, ← byteLength_eq, Nat.zero_add]
  · rw [tokenize, scan_append (kept ▸ ends), kept, List.append_assoc, List.singleton_append,
      trimAll_append false tokens closes.markup, trimmed, List.append_assoc,
      List.singleton_append]
    exact ⟨_, rfl⟩

end Token

end Liquid
