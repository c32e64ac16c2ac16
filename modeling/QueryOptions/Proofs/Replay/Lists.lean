import QueryOptions.Proofs.Nested.Consumed
import QueryOptions.Proofs.Neutral
import QueryOptions.Proofs.Replay.Basic

set_option autoImplicit false

namespace QueryOptions

open Parse Expression

-- The text is read as the value before every text of the kind.
structure Rereads (ends : List Char → Prop) (state : ParseState) {α : Type} (p : Parse α) (text : List Char) (value : α) :
    Prop where
  scannable : ∀ tail, ends tail → Scannable (text ++ tail)
  read : ∀ (tail : List Char) (cursor : Cursor), ends tail → cursor.Begins (text ++ tail) →
    cursor.token.kind ≠ .finish ∧
    ∃ moved, p { state with cursor := cursor } = .ok value { state with cursor := moved } ∧ moved.Begins tail

def EndsEntry (mark : Char) (tail : List Char) : Prop := tail = [] ∨ ∃ rest, tail = mark :: rest

structure Marks (mark : Char) (separator : TokenKind) : Prop where
  visible : Text.isBlank mark = false
  found : punctuation? mark = some separator
  punctuates : separator.isPunctuation

theorem comma_marks : Marks ',' .comma := ⟨rfl, rfl, rfl⟩

theorem slash_marks : Marks '/' .slash := ⟨rfl, rfl, rfl⟩

theorem Marks.going {mark : Char} {separator : TokenKind} (marks : Marks mark separator) : separator ≠ .finish := by
  rintro rfl
  exact absurd marks.punctuates (by decide)

theorem Cursor.begins_past_gap {cursor : Cursor} {gap text : List Char} (on : cursor.Begins (gap ++ text))
    (blank : ∀ c ∈ gap, Text.isBlank c) : cursor.Begins text := by
  obtain ⟨before, plain, here, advanced⟩ := on
  rw [Cursor.advance_past_gap plain here blank] at advanced
  exact ⟨{ before with rest := text, offset := _ }, ⟨plain.dialect, plain.blanks⟩, rfl, advanced⟩

theorem scannable_gap {gap text : List Char} (blank : ∀ c ∈ gap, Text.isBlank c) (next : Scannable text) :
    Scannable (gap ++ text) := by
  obtain ⟨kind, taken, rest, scans⟩ := next
  exact ⟨kind, taken, rest, by rw [List.dropWhile_append_of_pos blank, scans]⟩

variable {α : Type} {mark : Char} {separator : TokenKind} {state after : ParseState} {p : Parse α} {value : α}
variable {cursor last : Cursor} {text front gap : List Char} {lexemes : List Lexeme} {ends ends' : List Char → Prop}
variable {alike : Lexeme → Lexeme → Prop} {values : List α} {count : Nat}

theorem rereads_of_again (again : Again alike p { state with cursor := cursor } lexemes value { state with cursor := last })
    (some : lexemes ≠ []) (fronted : Fronted ends front lexemes) (blank : ∀ c ∈ gap, Text.isBlank c)
    (fits : ∀ tail, ends' tail → ends (gap ++ tail) ∧ Scannable tail ∧
      ∀ moved : Cursor, moved.Begins tail → alike last.token.lexeme moved.token.lexeme) :
    Rereads ends' state p (front ++ gap) value := by
  have whole (tail : List Char) (fit : ends' tail) : Scans (front ++ gap ++ tail) lexemes (gap ++ tail) := by
    rw [List.append_assoc]
    exact fronted _ (fits tail fit).1
  have next (tail : List Char) (fit : ends' tail) : Scannable (gap ++ tail) := scannable_gap blank (fits tail fit).2.1
  refine ⟨fun tail fit => scannable_of_scans (whole tail fit) (next tail fit), fun tail cursor' fit on => ?_⟩
  obtain ⟨moved, spans, there⟩ := Cursor.begins_spans on (whole tail fit) (next tail fit)
  have behind := Cursor.begins_past_gap there blank
  refine ⟨?_, moved, again.again cursor' moved spans ((fits tail fit).2.2 moved behind), behind⟩
  cases spans with
  | refl => exact absurd rfl some
  | step going => exact going

theorem ends_entry_kind (marks : Marks mark separator) (ends : EndsEntry mark text) (on : cursor.Begins text) :
    cursor.token.kind = .finish ∧ text = [] ∨ cursor.token.kind = separator ∧ text = mark :: cursor.rest := by
  rcases ends with rfl | ⟨rest, rfl⟩
  · exact .inl ⟨Cursor.begins_nil on, rfl⟩
  · obtain ⟨-, here, kind⟩ := Cursor.begins_mark on marks.visible marks.found
    exact .inr ⟨kind, by rw [here]⟩

theorem ends_entry_scannable (marks : Marks mark separator) (ends : EndsEntry mark text) : Scannable text := by
  rcases ends with rfl | ⟨rest, rfl⟩
  · exact scannable_nil
  · exact ⟨_, _, _, scan_mark marks.visible marks.found rest⟩

theorem ends_entry_of_kind (marks : Marks mark separator) (on : cursor.Begins text)
    (kind : cursor.token.kind = separator ∨ cursor.token.kind = .finish) :
    ∃ gap tail, text = gap ++ tail ∧ (∀ c ∈ gap, Text.isBlank c) ∧ EndsEntry mark tail := by
  rcases kind with same | finish
  · obtain ⟨gap, rfl, blank⟩ := Cursor.begins_gap on (same ▸ marks.found) (same ▸ marks.punctuates)
    exact ⟨gap, _, rfl, blank, .inr ⟨_, rfl⟩⟩
  · exact ⟨text, [], (List.append_nil text).symm, List.dropWhile_eq_nil_iff.mp (Cursor.begins_finish on finish), .inl rfl⟩

structure Consumed (mark : Char) (state : ParseState) (p : Parse α) (text : List Char) (value : α) (after : ParseState)
    (front tail : List Char) : Prop where
  split : text = front ++ tail
  ends : EndsEntry mark tail
  kept : after = { state with cursor := after.cursor }
  behind : after.cursor.Begins tail
  reads : Rereads (EndsEntry mark) state p front value

def Consumes (mark : Char) (separator : TokenKind) (state : ParseState) (p : Parse α) : Prop :=
  ∀ (cursor : Cursor) (text : List Char) (value : α) (after : ParseState), cursor.Begins text →
    p { state with cursor := cursor } = .ok value after →
    after.cursor.token.kind = separator ∨ after.cursor.token.kind = .finish →
    ∃ front tail, Consumed mark state p text value after front tail

theorem neutral_after {settings : Settings} (neutral : Neutral settings .rule p) (done : p state = .ok value after) :
    after = { state with cursor := after.cursor } := by
  have kept := neutral state
  rw [done] at kept
  exact kept_moves kept

theorem consumed_of_again (marks : Marks mark separator) (delimits : isDelimiter mark)
    (again : Again alike p { state with cursor := cursor } lexemes value after) (some : lexemes ≠ [])
    (kept : after = { state with cursor := after.cursor }) (on : cursor.Begins text)
    (kind : after.cursor.token.kind = separator ∨ after.cursor.token.kind = .finish)
    (blind : ∀ x : Lexeme, x.kind = separator ∨ x.kind = .finish → alike after.cursor.token.lexeme x) :
    ∃ front tail, Consumed mark state p text value after front tail := by
  obtain ⟨tail, scans, there⟩ := Cursor.scans_of_spans on again.spans
  obtain ⟨gap, tail, rfl, blank, ends⟩ := ends_entry_of_kind marks there kind
  have delimited {tail : List Char} (ends : EndsEntry mark tail) : Delimited (gap ++ tail) := by
    refine delimited_gap blank ?_
    rcases ends with rfl | ⟨rest, rfl⟩
    · exact fun _ => nofun
    · exact delimited_mark delimits rest
  obtain ⟨front, rfl, fronted⟩ := fronted_of_scans scans again.named (delimited ends)
  refine ⟨front ++ gap, tail, (List.append_assoc _ _ _).symm, ends, kept, Cursor.begins_past_gap there blank, ?_⟩
  rw [kept] at again
  refine rereads_of_again again some fronted blank fun tail ends =>
    ⟨delimited ends, ends_entry_scannable marks ends, fun moved on => blind _ ?_⟩
  exact (ends_entry_kind marks ends on).elim (fun finish => .inr finish.1) fun same => .inl same.1

theorem consumes_of_replays {settings : Settings} {made : α → List String → Prop} (marks : Marks mark separator)
    (delimits : isDelimiter mark) (replays : Replays settings true Anywhere alike made p) (neutral : Neutral settings .rule p)
    (blind : ∀ x y : Lexeme, x.kind = separator ∨ x.kind = .finish → y.kind = separator ∨ y.kind = .finish → alike x y) :
    Consumes mark separator state p := by
  intro cursor text value after on done kind
  obtain ⟨_, _, lexemes, -, -, some, reused⟩ := replays _ value after trivial done
  have kept := neutral_after neutral done
  exact consumed_of_again marks delimits reused.same (some rfl) kept on kind fun x => blind _ x kind

theorem consumes_of_closing {settings : Settings} (marks : Marks mark separator)
    (closes : ∀ state value after, p state = .ok value after →
      ∃ own closing, closing.kind = .closeParen ∧ Again (fun _ _ => True) p state (own ++ [closing]) value after)
    (neutral : Neutral settings .rule p) : Consumes mark separator state p := by
  intro cursor text value after on done kind
  obtain ⟨own, closing, closes, again⟩ := closes _ value after done
  have kept := neutral_after neutral done
  obtain ⟨between, before, single⟩ := Cursor.spans_split again.spans
  obtain ⟨rfl, behind, advanced, last⟩ := Cursor.spans_cons single
  cases Cursor.spans_nil last
  obtain ⟨mid, scans, there⟩ := Cursor.scans_of_spans on before
  replace closes : between.token.kind = .closeParen := closes
  obtain ⟨gap, rfl, blank⟩ := Cursor.begins_gap there (show punctuation? ')' = _ by rw [closes]; rfl) (by rw [closes]; rfl)
  obtain ⟨plain, -, lexeme⟩ := Cursor.begins_token there (scan_behind_gap blank rfl rfl between.rest)
  obtain ⟨front, rfl, fronted⟩ := fronted_closed scans (List.forall_mem_append.mp again.named).1 blank
  have onto : after.cursor.Begins between.rest := ⟨between, plain, rfl, advanced⟩
  obtain ⟨gap, tail, split, blank, ends⟩ := ends_entry_of_kind marks onto kind
  rw [split] at onto ⊢
  refine ⟨front ++ gap, tail, (List.append_assoc _ _ _).symm, ends, kept, Cursor.begins_past_gap onto blank, ?_⟩
  rw [kept, lexeme] at again
  exact rereads_of_again again (by simp) fronted blank fun tail ends =>
    ⟨trivial, ends_entry_scannable marks ends, fun _ _ => trivial⟩

theorem separated_kind (done : separated separator p count state = .ok values after)
    (finish : after.cursor.token.kind = .finish) :
    state.cursor.token.kind = separator ∨ state.cursor.token.kind = .finish := by
  by_cases further : state.cursor.token.kind = separator
  · exact .inl further
  · rw [separated_stops _ further] at done
    cases done
    exact .inr finish

theorem separated_entries (marks : Marks mark separator) (consumes : Consumes mark separator state p)
    (done : separated separator p count { state with cursor := cursor } = .ok values after)
    (on : cursor.Begins text) (ends : EndsEntry mark text) (finish : after.cursor.token.kind = .finish)
    (enough : cursor.token.kind = separator → cursor.rest.length < count) :
    ∃ entries : List (List Char × α), text = (entries.map Prod.fst).flatMap (mark :: ·) ∧ values = entries.map Prod.snd ∧
      ∀ entry ∈ entries, Rereads (EndsEntry mark) state p entry.1 entry.2 := by
  induction count generalizing cursor text values with
  | zero =>
      rcases ends_entry_kind marks ends on with ⟨-, rfl⟩ | ⟨more, -⟩
      · cases done
        exact ⟨[], rfl, rfl, List.forall_mem_nil _⟩
      · exact absurd (enough more) (Nat.not_lt_zero _)
  | succ count ih =>
      rcases ends_entry_kind marks ends on with ⟨stops, rfl⟩ | ⟨more, split⟩
      · rw [separated_stops _ (stops ▸ marks.going.symm)] at done
        cases done
        exact ⟨[], rfl, rfl, List.forall_mem_nil _⟩
      · replace done : (do
            advance
            let first ← p
            let rest ← separated separator p count
            pure (first :: rest) : Parse (List α)) { state with cursor := cursor } = .ok values after :=
          (congrFun (if_pos (beq_of_eq more)) _).symm.trans done
        obtain ⟨_, ready, advanced, done⟩ := bind_ok done
        obtain ⟨first, between, ran, done⟩ := bind_ok done
        obtain ⟨rest, _, ran', ⟨⟩⟩ := bind_ok done
        obtain ⟨onto, stepped, rfl⟩ := advance_ok advanced
        rw [split] at on
        have here : onto.Begins cursor.rest := ⟨cursor, (Cursor.begins_mark on marks.visible marks.found).1, rfl, stepped⟩
        obtain ⟨front, tail, consumed⟩ := consumes onto cursor.rest first between here ran (separated_kind ran' finish)
        have fewer : between.cursor.token.kind = separator → between.cursor.rest.length < count := by
          intro again
          rcases ends_entry_kind marks consumed.ends consumed.behind with ⟨stops, -⟩ | ⟨-, behind⟩
          · exact absurd (again.symm.trans stops) marks.going
          · have shorter := congrArg List.length consumed.split
            rw [behind, List.length_append, List.length_cons] at shorter
            have := enough more
            omega
        rw [consumed.kept] at ran'
        obtain ⟨entries, same, rfl, others⟩ := ih ran' consumed.behind consumed.ends fewer
        refine ⟨(front, first) :: entries, ?_, rfl, List.forall_mem_cons.mpr ⟨consumed.reads, others⟩⟩
        rw [split, consumed.split, same]
        rfl

theorem sep_by_entries (marks : Marks mark separator) (consumes : Consumes mark separator state p)
    (done : sepBy separator p { state with cursor := cursor } = .ok values after) (on : cursor.Begins text)
    (finish : after.cursor.token.kind = .finish) :
    ∃ entries : List (List Char × α), entries ≠ [] ∧ text = punctuated mark (entries.map Prod.fst) ∧
      values = entries.map Prod.snd ∧ ∀ entry ∈ entries, Rereads (EndsEntry mark) state p entry.1 entry.2 := by
  obtain ⟨first, between, ran, done⟩ := bind_ok done
  obtain ⟨_, _, ⟨⟩, done⟩ := bind_ok done
  obtain ⟨rest, _, ran', ⟨⟩⟩ := bind_ok done
  obtain ⟨front, tail, consumed⟩ := consumes cursor text first between on ran (separated_kind ran' finish)
  rw [consumed.kept] at ran'
  obtain ⟨entries, same, rfl, others⟩ :=
    separated_entries marks consumes ran' consumed.behind consumed.ends finish fun _ => Nat.lt_succ_self _
  refine ⟨(front, first) :: entries, List.cons_ne_nil _ _, ?_, rfl, List.forall_mem_cons.mpr ⟨consumed.reads, others⟩⟩
  rw [consumed.split, same, List.map_cons, punctuated_behind]

section

variable {β : Type} {entries : List β} {written : β → List Char} {made : β → α}

theorem behind_ends_entry (mark : Char) (entries : List β) (written : β → List Char) :
    EndsEntry mark ((entries.map written).flatMap (mark :: ·)) := by
  cases entries with
  | nil => exact .inl rfl
  | cons first others => exact .inr ⟨_, rfl⟩

theorem separated_reread (marks : Marks mark separator)
    (each : ∀ entry ∈ entries, Rereads (EndsEntry mark) state p (written entry) (made entry)) (count : Nat)
    (enough : ((entries.map written).flatMap (mark :: ·)).length ≤ count)
    (on : cursor.Begins ((entries.map written).flatMap (mark :: ·))) :
    ∃ moved, separated separator p count { state with cursor := cursor } =
      .ok (entries.map made) { state with cursor := moved } ∧ moved.token.kind = .finish := by
  induction entries generalizing cursor count with
  | nil =>
      have finish := Cursor.begins_nil on
      exact ⟨cursor, separated_stops count (finish ▸ marks.going.symm), finish⟩
  | cons first entries ih =>
      obtain ⟨here, later⟩ := List.forall_mem_cons.mp each
      rw [List.map_cons, List.flatMap_cons] at on enough
      obtain ⟨count, rfl⟩ : ∃ fewer, count = fewer + 1 := by
        rw [List.cons_append, List.length_cons] at enough
        exact ⟨count - 1, by omega⟩
      have ends := behind_ends_entry mark entries written
      obtain ⟨plain, rest, more⟩ := Cursor.begins_mark on marks.visible marks.found
      obtain ⟨between, advanced, there⟩ := Cursor.begins_advance plain rest (here.scannable _ ends)
      obtain ⟨-, moved, read, behind⟩ := here.read _ between ends there
      obtain ⟨last, others, finish⟩ := ih later count
        (by rw [List.cons_append, List.length_cons, List.length_append] at enough; omega) behind
      refine ⟨last, (congrFun (if_pos (beq_of_eq more)) _).trans ?_, finish⟩
      exact (bind_done (advance_done advanced)).trans ((bind_done read).trans (bind_done others))

theorem sep_by_reread (marks : Marks mark separator) (some : entries ≠ [])
    (each : ∀ entry ∈ entries, Rereads (EndsEntry mark) state p (written entry) (made entry))
    (on : cursor.Begins (punctuated mark (entries.map written))) :
    cursor.token.kind ≠ .finish ∧ ∃ moved, sepBy separator p { state with cursor := cursor } =
      .ok (entries.map made) { state with cursor := moved } ∧ moved.token.kind = .finish := by
  obtain ⟨first, entries, rfl⟩ := List.exists_cons_of_ne_nil some
  obtain ⟨here, later⟩ := List.forall_mem_cons.mp each
  rw [List.map_cons, punctuated_behind] at on
  have ends := behind_ends_entry mark entries written
  obtain ⟨going, between, read, there⟩ := here.read _ cursor ends on
  have enough : ((entries.map written).flatMap (mark :: ·)).length ≤ between.rest.length + 1 := by
    rcases ends_entry_kind marks ends there with ⟨-, none⟩ | ⟨-, split⟩
    · rw [none]
      exact Nat.zero_le _
    · rw [split, List.length_cons]
  obtain ⟨moved, others, finish⟩ := separated_reread marks later (between.rest.length + 1) enough there
  exact ⟨going, moved, (bind_done read).trans ((bind_done rfl).trans (bind_done others)), finish⟩

theorem entries_scannable (some : entries ≠ [])
    (each : ∀ entry ∈ entries, ∀ tail, EndsEntry mark tail → Scannable (written entry ++ tail)) :
    Scannable (punctuated mark (entries.map written)) := by
  obtain ⟨first, entries, rfl⟩ := List.exists_cons_of_ne_nil some
  rw [List.map_cons, punctuated_behind]
  exact each first List.mem_cons_self _ (behind_ends_entry mark entries written)

def Parse.entire (separator : TokenKind) (p : Parse α) : Parse (List α) := do
  let values ← sepBy separator p
  expectEnd
  pure values

theorem Items.list_entire {settings : Settings} {kind : ItemKind} {levels : Nat} (going : state.cursor.token.kind ≠ .finish) :
    list settings kind levels (inner settings levels) state =
      entire .comma (item settings kind levels (inner settings levels)) state :=
  congrFun (if_neg fun finish => going (eq_of_beq finish)) _

theorem entire_entries (marks : Marks mark separator) (consumes : Consumes mark separator state p)
    (done : entire separator p { state with cursor := cursor } = .ok values after) (on : cursor.Begins text) :
    ∃ entries : List (List Char × α), entries ≠ [] ∧ text = punctuated mark (entries.map Prod.fst) ∧
      values = entries.map Prod.snd ∧ ∀ entry ∈ entries, Rereads (EndsEntry mark) state p entry.1 entry.2 := by
  obtain ⟨_, between, ran, done⟩ := bind_ok done
  obtain ⟨_, _, ended, ⟨⟩⟩ := bind_ok done
  obtain ⟨rfl, finish⟩ := expect_end_ok ended
  exact sep_by_entries marks consumes ran on finish

theorem entire_reread (marks : Marks mark separator) (some : entries ≠ [])
    (each : ∀ entry ∈ entries, Rereads (EndsEntry mark) state p (written entry) (made entry))
    (on : cursor.Begins (punctuated mark (entries.map written))) :
    cursor.token.kind ≠ .finish ∧ ∃ moved, entire separator p { state with cursor := cursor } =
      .ok (entries.map made) { state with cursor := moved } := by
  obtain ⟨going, moved, read, finish⟩ := sep_by_reread marks some each on
  have ended : expectEnd { state with cursor := moved } = .ok () { state with cursor := moved } :=
    congrFun (if_pos finish) _
  exact ⟨going, moved, (bind_done read).trans (bind_done ended)⟩

end

section

variable {settings : Settings} {option : QueryOption} {make : List α → ParsedOption} {written : String} {parsed : ParsedOption}

theorem entire_of_parse (plain : option.dialect = .expression)
    (grammar : option.grammar settings settings.maxDepth = (do return make (← entire separator p)))
    (accepted : parse settings option written = .ok parsed) :
    ∃ cursor values after, cursor.Begins written.toList ∧ entire separator p (.fresh cursor) = .ok values after ∧
      parsed = make values := by
  obtain ⟨cursor, after, on, ran⟩ := grammar_of_parse plain accepted
  rw [grammar] at ran
  obtain ⟨values, _, ran, ⟨⟩⟩ := bind_ok ran
  exact ⟨cursor, values, _, on, ran, rfl⟩

theorem parse_of_entire (plain : option.dialect = .expression)
    (grammar : option.grammar settings settings.maxDepth = (do return make (← entire separator p)))
    (next : Scannable written.toList)
    (read : ∀ cursor : Cursor, cursor.Begins written.toList →
      ∃ moved, entire separator p (.fresh cursor) = .ok values (.fresh moved)) :
    parse settings option written = .ok (make values) := by
  refine parse_of_grammar plain next fun cursor on => ?_
  obtain ⟨moved, ran⟩ := read cursor on
  rw [grammar]
  exact ⟨_, bind_done ran⟩

end

structure Lists (separator : TokenKind) (state : ParseState) (p : Parse α) (text : List Char) (values : List α) : Prop where
  scannable : Scannable text
  read : ∀ cursor : Cursor, cursor.Begins text → cursor.token.kind ≠ .finish ∧
    ∃ moved, entire separator p { state with cursor := cursor } = .ok values { state with cursor := moved }

theorem lists_joined (marks : Marks mark separator) (consumes : Consumes mark separator state p) {text' : List Char}
    {cursor' : Cursor} {values' : List α} {after' : ParseState}
    (done : entire separator p { state with cursor := cursor } = .ok values after) (on : cursor.Begins text)
    (done' : entire separator p { state with cursor := cursor' } = .ok values' after') (on' : cursor'.Begins text') :
    Lists separator state p (text ++ mark :: text') (values ++ values') := by
  obtain ⟨entries, some, rfl, rfl, each⟩ := entire_entries marks consumes done on
  obtain ⟨entries', some', rfl, rfl, each'⟩ := entire_entries marks consumes done' on'
  have both : ∀ entry ∈ entries ++ entries', Rereads (EndsEntry mark) state p entry.1 entry.2 :=
    List.forall_mem_append.mpr ⟨each, each'⟩
  have whole : entries ++ entries' ≠ [] := List.append_ne_nil_of_left_ne_nil some _
  rw [← punctuated_append (by simpa using some) (by simpa using some'), ← List.map_append, ← List.map_append]
  exact ⟨entries_scannable whole fun entry member => (both entry member).scannable,
    fun cursor on => entire_reread marks whole both on⟩

end QueryOptions
