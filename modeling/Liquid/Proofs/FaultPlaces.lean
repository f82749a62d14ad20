import Liquid.Proofs.JoinedTokens
import Liquid.Proofs.Parsing
import Mathlib.Data.List.Forall2

/-!
# Where a source is at fault

A source over the standard tags that does not parse is at fault at one of its tokens. Either that
token cannot be taken behind those before it, and then nothing behind it matters; or all tokens
were taken and a block is still open, and then the token is the one that opened it.

## Main result

`Document.parse_error_place`: the place of the fault is the place of exactly one token. If a block
was never closed, that token opened the innermost block that is open at the end. Otherwise, if the
token is closed, whatever else is written behind it leaves the fault as it is.

## Proof strategy

The parser stops at the first token that it cannot take (`build_eq_error_iff`), and what such a
token does wrong is told at its own place (`step_error`). Which blocks are open is counted from the
tokens alone (`Token.stillOpen`) and agrees with the parser along its moves (`opened_of_move`). That
the tokens up to the fault stay the same is `Token.tokenize_cut`.
-/

namespace Liquid

/-! ### The places of tokens -/

namespace Token

private theorem offset_le_of_segments {offset : Nat} {s : List Char} {tokens : List Token}
    (segments : Segments offset s tokens) : ∀ t ∈ tokens, offset ≤ t.span.offset := by
  intro t member
  obtain ⟨before, after, parts⟩ := List.append_of_mem member
  rw [(segments.each before t after parts).span]
  exact Nat.le_add_right _ _

private theorem ascending_of_segments {offset : Nat} {s : List Char} {tokens : List Token}
    (segments : Segments offset s tokens) :
    tokens.Pairwise fun t u => t.span.offset < u.span.offset := by
  induction tokens generalizing offset s with
  | nil => exact .nil
  | cons t rest ih =>
    obtain ⟨-, stands, -, rows⟩ := segments_cons.mp segments
    refine .cons (fun u member => ?_) (ih rows)
    have later := offset_le_of_segments rows u member
    have some : t.raw.utf8ByteSize ≠ 0 := by simpa using stands.nonempty
    rw [stands.span]
    dsimp only
    omega

private theorem trimmed_span (startMarked endMarked : Bool) (t : Token) :
    (trimmed startMarked endMarked t).span = t.span := by
  unfold trimmed
  split <;> rfl

private theorem spans_trimAll (marked : Bool) (tokens : List Token) :
    (trimAll marked tokens).map (·.span) = tokens.map (·.span) := by
  induction tokens generalizing marked with
  | nil => rfl
  | cons t rest ih => rw [trimAll, List.map_cons, List.map_cons, ih, trimmed_span]

theorem ascending_tokenize (s : String) :
    (tokenize s).Pairwise fun t u => t.span.offset < u.span.offset := by
  have spans : ((scan s).map (·.span)).Pairwise fun a b => a.offset < b.offset :=
    List.pairwise_map.mpr (ascending_of_segments (segments_scan s))
  rw [← spans_trimAll false] at spans
  rwa [List.pairwise_map] at spans

/-- No two tokens of a source have the same place. -/
theorem span_ne_of_tokenize {s : String} {before after : List Token} {t : Token}
    (parts : tokenize s = before ++ t :: after) : ∀ u ∈ before ++ after, u.span ≠ t.span := by
  have ascending := parts ▸ ascending_tokenize s
  obtain ⟨-, later, earlier⟩ := List.pairwise_append.mp ascending
  intro u member same
  rcases List.mem_append.mp member with first | last
  · have less := earlier u first t List.mem_cons_self
    rw [same] at less
    exact Nat.lt_irrefl _ less
  · have less := List.rel_of_pairwise_cons later last
    rw [same] at less
    exact Nat.lt_irrefl _ less

/-! ### Open blocks, counted from the tokens -/

/-- The name of a tag that has one and is closed. -/
def tagName? (t : Token) : Option String :=
  match t.kind with
  | .tag => (Header.ofToken t).toOption.map (·.name)
  | _ => none

/-- The tags that opened the blocks that are open behind one more token, innermost first. -/
def nested (opens : List Token) (t : Token) : List Token :=
  match t.tagName? with
  | none => opens
  | some name =>
    if name = "if" ∨ name = "tablerow" then t :: opens
    else
      match opens with
      | [] => []
      | inner :: outer =>
        if some name = inner.tagName?.map ("end" ++ ·) then outer else inner :: outer

/-- The tags that opened the blocks that are open behind a row of tokens, innermost first. -/
def stillOpen (tokens : List Token) : List Token := tokens.foldl nested []

private theorem nested_sublist (opens : List Token) (t : Token) :
    (nested opens t).Sublist (t :: opens) := by
  unfold nested
  split
  next => exact .cons _ (.refl _)
  next =>
    split
    next => exact .refl _
    next =>
      split
      next => exact List.nil_sublist _
      next =>
        split
        next => exact .cons _ (.cons _ (.refl _))
        next => exact .cons _ (.refl _)

private theorem mem_of_foldl_nested {tokens opens : List Token} {t : Token}
    (member : t ∈ tokens.foldl nested opens) : t ∈ opens ∨ t ∈ tokens := by
  induction tokens generalizing opens with
  | nil => exact .inl member
  | cons u rest ih =>
    rcases ih member with older | newer
    · rcases List.mem_cons.mp ((nested_sublist opens u).mem older) with rfl | older
      · exact .inr List.mem_cons_self
      · exact .inl older
    · exact .inr (List.mem_cons_of_mem _ newer)

private theorem mem_of_stillOpen {tokens : List Token} {t : Token} (still : t ∈ stillOpen tokens) :
    t ∈ tokens := by
  exact (mem_of_foldl_nested still).resolve_left List.not_mem_nil

theorem tagName?_of_isTag {t : Token} {name markup : String} (isTag : t.IsTag name markup) :
    t.tagName? = some name := by
  unfold tagName?
  rw [isTag.1, isTag.2]
  rfl

theorem tagName?_of_not_tag {t : Token} (other : t.kind ≠ .tag) : t.tagName? = none := by
  unfold tagName?
  split
  next tag => exact absurd tag other
  next => rfl

private theorem nested_of_not_tag (opens : List Token) {t : Token} (other : t.kind ≠ .tag) :
    nested opens t = opens := by
  rw [nested, tagName?_of_not_tag other]

end Token

/-! ### Faults of tokens -/

/-- The fault that lies with the end of a source. -/
def Fault.isOpen : Fault → Bool
  | .blockNotClosed _ => true
  | _ => false

private theorem Condition.fault_of_parse {tag markup : String} {fault : Fault}
    (failed : Condition.parse tag markup = .error fault) : fault.isOpen = false := by
  unfold Condition.parse at failed
  split at failed
  next =>
    cases failed
    rfl
  next =>
    simp only at failed
    split at failed
    next =>
      cases failed
      rfl
    next =>
      split at failed
      next => cases failed
      next =>
        cases failed
        rfl

private theorem Header.fault_of_ofToken {t : Token} {fault : Fault}
    (failed : Header.ofToken t = .error fault) : fault.isOpen = false := by
  unfold Header.ofToken at failed
  simp only at failed
  split at failed
  next =>
    cases failed
    rfl
  next => cases failed

namespace Building

variable {template : String} {t : Token} {b : Building} {fault : Fault}

private theorem fault_of_output (failed : output t = .error fault) : fault.isOpen = false := by
  unfold output at failed
  split at failed
  next =>
    cases failed
    rfl
  next =>
    split at failed
    next => cases failed
    next =>
      cases failed
      rfl

private theorem fault_of_openTag {h : Header} {reader : TagReader}
    (known : Tag.standard.get? h.name = some reader)
    (failed : openTag b template h reader = .error fault) : fault.isOpen = false := by
  rw [Tag.standard_get?] at known
  split_ifs at known with assign branches row stop skip <;> cases known
  · cases read : Tag.assignment? h.markup with
    | none =>
      simp only [openTag, Tag.readAssign, read, Except.error.injEq] at failed
      exact failed ▸ rfl
    | some target => simp [openTag, Tag.readAssign, read] at failed
  · cases read : Condition.parse h.name h.markup with
    | error _ =>
      simp only [openTag, Tag.readIf, read, Except.error.injEq] at failed
      exact failed ▸ Condition.fault_of_parse read
    | ok c => simp [openTag, Tag.readIf, read] at failed
  · cases read : TableRow.ofMarkup? h.markup with
    | none =>
      simp only [openTag, Tag.readTableRow, read, Except.error.injEq] at failed
      exact failed ▸ rfl
    | some row => simp [openTag, Tag.readTableRow, read] at failed
  · simp [openTag, Tag.readBreak] at failed
  · simp [openTag, Tag.readContinue] at failed

private theorem fault_of_unknownIn (block : String) (h : Header) :
    (unknownIn block h).isOpen = false := by
  unfold unknownIn
  split <;> rfl

private theorem fault_of_unknown {h : Header} (failed : unknown b h = .error fault) :
    fault.isOpen = false := by
  unfold unknown at failed
  split at failed
  next =>
    cases failed
    rfl
  next block outer _ =>
    split at failed
    next complete c _ =>
      simp only [nextBranch] at failed
      split_ifs at failed
      · cases failed
        exact fault_of_unknownIn _ _
      · cases failed
        rfl
      · split at failed
        next => cases failed
        next read =>
          cases failed
          exact Condition.fault_of_parse read
    next =>
      cases failed
      exact fault_of_unknownIn _ _

theorem error_of_located {α : Type} {span : Span} {r : Except Fault α} {e : SyntaxError}
    (failed : located template span r = .error e) :
    ∃ fault, r = .error fault ∧ e = ⟨fault, template, span⟩ := by
  cases r with
  | ok a => cases failed
  | error fault =>
    cases failed
    exact ⟨fault, rfl, rfl⟩

/-- Nothing but an open block at the end is told at another place than that of the token at hand. -/
structure FailsAt (template : String) (t : Token) (e : SyntaxError) : Prop where
  markup : t.kind ≠ .text
  span : e.span = t.span
  source : e.source = template
  fault : e.fault.isOpen = false

private theorem error_of_otherTag {h : Header} {e : SyntaxError}
    (failed : otherTag Tag.standard template b h = .error e) :
    ∃ fault, fault.isOpen = false ∧ e = ⟨fault, template, h.span⟩ := by
  obtain ⟨fault, failed, same⟩ := error_of_located failed
  refine ⟨fault, ?_, same⟩
  split at failed
  next reader known => exact fault_of_openTag known failed
  next => exact fault_of_unknown failed

/-- A standard block can be closed anywhere. -/
theorem closeBlock_ne_error {block : OpenBlock} (standard : StandardBlock block)
    (outer : List OpenBlock) : b.closeBlock block outer ≠ .error fault := by
  cases standard <;> simp [closeBlock, branchBlock, rowBlock]

private theorem error_of_tag (standard : b.IsStandard) {h : Header} {e : SyntaxError}
    (failed : tag Tag.standard template b h = .error e) :
    ∃ fault, fault.isOpen = false ∧ e = ⟨fault, template, h.span⟩ := by
  unfold tag at failed
  split at failed
  next => exact error_of_otherTag failed
  next block outer blocks =>
    split at failed
    next =>
      obtain ⟨fault, failed, -⟩ := error_of_located failed
      exact absurd failed (closeBlock_ne_error (standard block (blocks ▸ List.mem_cons_self)) _)
    next => exact error_of_otherTag failed

theorem step_error (standard : b.IsStandard) {e : SyntaxError}
    (failed : step Tag.standard template b t = .error e) : FailsAt template t e := by
  unfold step at failed
  split at failed
  next => cases failed
  next kind =>
    cases read : located template t.span (output t) with
    | ok n => simp [read, Except.map] at failed
    | error e' =>
      simp only [read, Except.map, Except.error.injEq] at failed
      obtain ⟨fault, read, rfl⟩ := error_of_located (failed ▸ read)
      exact ⟨by simp [kind], rfl, rfl, fault_of_output read⟩
  next kind =>
    have markup : t.kind ≠ .text := by simp [kind]
    split at failed
    next h read =>
      obtain ⟨fault, closed, rfl⟩ := error_of_tag standard failed
      exact ⟨markup, Header.span_of_ofToken (ok_of_located read), rfl, closed⟩
    next e' read =>
      cases failed
      obtain ⟨fault, unread, rfl⟩ := error_of_located read
      exact ⟨markup, rfl, rfl, Header.fault_of_ofToken unread⟩

/-! ### The first token that cannot be taken -/

variable {tags : Bindings TagReader}

/-- The parser fails at a token that it cannot take behind those before it, and looks at none of
those behind it. -/
theorem build_eq_error_iff {ts : List Token} {e : SyntaxError} :
    build tags template b ts = .error e ↔ ∃ before t after mid, ts = before ++ t :: after ∧
      build tags template b before = .ok mid ∧ step tags template mid t = .error e := by
  induction ts generalizing b with
  | nil => simp [build]
  | cons t rest ih =>
    rw [build]
    constructor
    · intro failed
      split at failed
      next between first =>
        obtain ⟨before, u, after, mid, rfl, run, failed⟩ := ih.mp failed
        exact ⟨t :: before, u, after, mid, rfl, by rw [build, first]; exact run, failed⟩
      next e' first =>
        cases failed
        exact ⟨[], t, rest, b, rfl, rfl, first⟩
    · rintro ⟨before, u, after, mid, parts, run, failed⟩
      cases before with
      | nil =>
        cases parts
        cases run
        rw [failed]
      | cons _ before =>
        cases parts
        rw [build] at run
        split at run
        next between first => exact ih.mpr ⟨before, u, after, mid, rfl, run, failed⟩
        next => cases run

end Building

/-! ### Open blocks and the tags that opened them -/

/-- The name of a standard block is that of the tag that opened it. -/
theorem StandardBlock.name_eq {block : OpenBlock} (standard : StandardBlock block) :
    block.name = block.header.name ∧
      (block.header.name = "if" ∨ block.header.name = "tablerow") := by
  cases standard with
  | branches => exact ⟨rfl, .inl rfl⟩
  | tablerow => exact ⟨rfl, .inr rfl⟩

/-- The tag that opened a block. -/
structure Opens (block : OpenBlock) (t : Token) : Prop where
  standard : StandardBlock block
  span : block.header.span = t.span
  name : t.tagName? = some block.name

namespace Token

variable {t : Token} {name markup : String} {blocks : List OpenBlock} {opens : List Token}

private theorem nested_of_opening (isTag : t.IsTag name markup)
    (opening : name = "if" ∨ name = "tablerow")
    (opens : List Token) : nested opens t = t :: opens := by
  rw [nested, tagName?_of_isTag isTag]
  exact if_pos opening

/-- A tag that neither opens a block nor ends one. -/
theorem nested_of_other (isTag : t.IsTag name markup) (opening : name ≠ "if" ∧ name ≠ "tablerow")
    (ending : name ≠ "endif" ∧ name ≠ "endtablerow") (opened : List.Forall₂ Opens blocks opens) :
    nested opens t = opens := by
  rw [nested, tagName?_of_isTag isTag]
  simp only [opening.1, opening.2, or_self, ↓reduceIte]
  cases opened with
  | nil => rfl
  | cons first _ =>
    obtain ⟨standard, -, named⟩ := first
    obtain ⟨same, kinds⟩ := standard.name_eq
    rw [same] at named
    rcases kinds with kind | kind <;> simp [named, kind, ending.1, ending.2]

private theorem nested_of_ending {inner : Token} {block : OpenBlock} {outer : List Token}
    (opened : Opens block inner) (isTag : t.IsTag ("end" ++ block.name) markup) :
    nested (inner :: outer) t = outer := by
  obtain ⟨standard, -, named⟩ := opened
  obtain ⟨same, kinds⟩ := standard.name_eq
  rw [same] at named isTag
  rw [nested, tagName?_of_isTag isTag]
  rcases kinds with kind | kind <;> simp [named, kind]

end Token

namespace Building

variable {template : String} {t : Token} {b b' : Building} {opens : List Token}

theorem opened_of_move (move : Move t b b') (opened : List.Forall₂ Opens b.blocks opens) :
    List.Forall₂ Opens b'.blocks (Token.nested opens t) := by
  cases move with
  | text kind =>
    rw [Token.nested_of_not_tag opens (by simp [kind])]
    split
    next => exact opened
    next => exact opened
  | output kind =>
    rw [Token.nested_of_not_tag opens (by simp [kind])]
    exact opened
  | leaf isTag leaf =>
    have other : Token.nested opens t = opens := by
      cases leaf <;> exact Token.nested_of_other isTag (by simp) (by simp) opened
    rw [other]
    exact opened
  | openBranches isTag =>
    rw [Token.nested_of_opening isTag (.inl rfl)]
    exact .cons ⟨.branches .., rfl, Token.tagName?_of_isTag isTag⟩ opened
  | openRow isTag =>
    rw [Token.nested_of_opening isTag (.inr rfl)]
    exact .cons ⟨.tablerow .., rfl, Token.tagName?_of_isTag isTag⟩ opened
  | nextBranch isTag _ reads =>
    have other : Token.nested opens t = opens := by
      rcases reads with ⟨rfl, -⟩ | ⟨rfl | rfl, -⟩ <;>
        exact Token.nested_of_other isTag (by simp) (by simp) opened
    rw [other]
    cases opened with
    | cons first rest => exact .cons ⟨.branches .., first.span, first.name⟩ rest
  | closeBranches isTag =>
    cases opened with
    | cons first rest =>
      rw [Token.nested_of_ending first isTag]
      exact rest
  | closeRow isTag =>
    cases opened with
    | cons first rest =>
      rw [Token.nested_of_ending first isTag]
      exact rest

private theorem opened_of_moves {ts : List Token} (moves : Moves ts b b')
    (opened : List.Forall₂ Opens b.blocks opens) :
    List.Forall₂ Opens b'.blocks (ts.foldl Token.nested opens) := by
  induction moves generalizing opens with
  | none => exact opened
  | more move _ ih => exact ih (opened_of_move move opened)

end Building

/-! ### A whole source -/

namespace Document

variable {template source : String} {e : SyntaxError}

/-- A source is at fault while it is built, or when it ends. -/
theorem parse_eq_error_iff {tags : Bindings TagReader} :
    parse tags template source = .error e ↔
      Building.build tags template .empty (Token.tokenize source) = .error e ∨
      ∃ b, Building.build tags template .empty (Token.tokenize source) = .ok b ∧
        b.finish template = .error e := by
  unfold parse
  cases built : Building.build tags template .empty (Token.tokenize source) with
  | error e' => simp [bind, Except.bind]
  | ok b => cases ended : b.finish template <;> simp [bind, Except.bind, ended, pure, Except.pure]

/-- A token that cannot be taken stands for the place of the fault, whatever is written behind it
if it is closed. -/
theorem error_of_build (failed : Building.build Tag.standard template .empty
      (Token.tokenize source) = .error e) :
    ∃ before t after, Token.tokenize source = before ++ t :: after ∧
      Building.FailsAt template t e ∧
      (t.terminated = true → ∃ front rest, source = front ++ t.raw ++ rest ∧
        front.utf8ByteSize = t.span.offset ∧
        ∀ other, parse Tag.standard template (front ++ t.raw ++ other) = .error e) := by
  obtain ⟨before, t, after, mid, parts, run, failed⟩ := Building.build_eq_error_iff.mp failed
  have moves := Building.moves_of_build isStandard_empty run
  have fails := Building.step_error (Building.isStandard_of_moves isStandard_empty moves)
    failed
  refine ⟨before, t, after, parts, fails, fun terminated => ?_⟩
  obtain ⟨front, rest, whole, length, same⟩ := Token.tokenize_cut parts ⟨fails.markup, terminated⟩
  refine ⟨front, rest, whole, length, fun other => ?_⟩
  obtain ⟨others, tokens⟩ := same other
  exact parse_eq_error_iff.mpr
    (.inl (Building.build_eq_error_iff.mpr ⟨before, t, others, mid, tokens, run, failed⟩))

/-- A block that is open at the end is told at the tag that opened it. -/
theorem error_of_finish {b : Building}
    (run : Building.build Tag.standard template .empty (Token.tokenize source) = .ok b)
    (failed : b.finish template = .error e) :
    ∃ t block, (Token.stillOpen (Token.tokenize source)).head? = some t ∧
      t.tagName? = some block ∧ e = ⟨.blockNotClosed block, template, t.span⟩ := by
  have opened := Building.opened_of_moves (Building.moves_of_build isStandard_empty run)
    (List.Forall₂.nil (R := Opens))
  unfold Building.finish at failed
  split at failed
  next => cases failed
  next block outer blocks =>
    cases failed
    rw [blocks] at opened
    cases h : Token.stillOpen (Token.tokenize source) with
    | nil =>
      rw [Token.stillOpen] at h
      rw [h] at opened
      cases opened
    | cons t others =>
      rw [Token.stillOpen] at h
      rw [h] at opened
      cases opened with
      | cons first _ => exact ⟨t, block.name, rfl, first.name, by rw [first.span]⟩

/-- The fault of a source lies at exactly one token. For a block that was never closed, this is the
tag that opened the innermost of those that are open at the end; otherwise all that is written
behind the token, if the token is closed, does not change the fault. -/
theorem parse_error_place (failed : parse Tag.standard template source = .error e) :
    ∃ before t after, Token.tokenize source = before ++ t :: after ∧
      e.source = template ∧ e.span = t.span ∧ (∀ u ∈ before ++ after, u.span ≠ t.span) ∧
      (∀ block, e.fault = .blockNotClosed block →
        (Token.stillOpen (Token.tokenize source)).head? = some t ∧ t.tagName? = some block) ∧
      ((∀ block, e.fault ≠ .blockNotClosed block) → t.terminated = true →
        ∃ front rest, source = front ++ t.raw ++ rest ∧ front.utf8ByteSize = t.span.offset ∧
          ∀ other, parse Tag.standard template (front ++ t.raw ++ other) = .error e) := by
  rcases parse_eq_error_iff.mp failed with failed | ⟨b, run, failed⟩
  · obtain ⟨before, t, after, parts, fails, settled⟩ := error_of_build failed
    refine ⟨before, t, after, parts, fails.source, fails.span, Token.span_ne_of_tokenize parts,
      fun block open_ => ?_, fun _ => settled⟩
    have closed := fails.fault
    rw [open_] at closed
    cases closed
  · obtain ⟨t, block, innermost, named, rfl⟩ := error_of_finish run failed
    obtain ⟨before, after, parts⟩ :=
      List.append_of_mem (Token.mem_of_stillOpen (List.mem_of_head? innermost))
    refine ⟨before, t, after, parts, rfl, rfl, Token.span_ne_of_tokenize parts,
      fun other same => ?_, fun closed => absurd rfl (closed block)⟩
    cases same
    exact ⟨innermost, named⟩

/-- What a source over the standard tags is at fault with, if anything. -/
def error? (template source : String) : Option SyntaxError :=
  match parse Tag.standard template source with
  | .ok _ => none
  | .error e => some e

private theorem parse_of_error? (told : error? template source = some e) :
    parse Tag.standard template source = .error e := by
  unfold error? at told
  split at told
  next => cases told
  next failed =>
    cases told
    exact failed

/-- A second `else`, in front of more that could be at fault. -/
def elseTwice : String := "{% if x %}a{%- else %} {% else -%} b {% if %}\x7b\x7b"

/-- Three blocks, of which the second is closed. -/
def openTwice : String :=
  "{% if x %}{% tablerow a in b %}{% endtablerow %}{% if y %}{% elsif z %}{{ z }}"

/-- The first is at fault at its second `else` however it goes on, the second at its second `if`. -/
theorem parse_error_place_elseTwice :
    (∃ front rest, elseTwice = front ++ "{% else -%}" ++ rest ∧ front.utf8ByteSize = 23 ∧
      ∀ other, parse Tag.standard "page" (front ++ "{% else -%}" ++ other) =
        .error ⟨.rule "'else' may not follow 'else' in 'if' tag", "page", ⟨23, 11⟩⟩) ∧
    ∃ t, (Token.stillOpen (Token.tokenize openTwice)).head? = some t ∧ t.span = ⟨48, 10⟩ := by
  constructor
  · have failed : parse Tag.standard "page" elseTwice =
        .error ⟨.rule "'else' may not follow 'else' in 'if' tag", "page", ⟨23, 11⟩⟩ :=
      parse_of_error? (by decide +kernel)
    obtain ⟨before, t, after, parts, -, span, -, -, settled⟩ := parse_error_place failed
    have member : t ∈ Token.tokenize elseTwice := by simp [parts]
    have known : ∀ u ∈ Token.tokenize elseTwice, ⟨23, 11⟩ = u.span →
        u.raw = "{% else -%}" ∧ u.terminated = true := by decide +kernel
    obtain ⟨raw, terminated⟩ := known t member span
    rw [← span, raw] at settled
    exact settled (fun _ same => nomatch same) terminated
  · have failed : parse Tag.standard "page" openTwice =
        .error ⟨.blockNotClosed "if", "page", ⟨48, 10⟩⟩ := parse_of_error? (by decide +kernel)
    obtain ⟨_, t, _, _, -, span, -, innermost, -⟩ := parse_error_place failed
    exact ⟨t, (innermost "if" rfl).1, span.symm⟩

end Document

end Liquid
