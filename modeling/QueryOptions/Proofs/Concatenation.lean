import QueryOptions.Equality
import QueryOptions.Proofs.Replay.Lists
import QueryOptions.Proofs.Replay.Options

set_option autoImplicit false

namespace QueryOptions

open Parse Expression

variable {settings : Settings} {kind : ItemKind} {levels : Nat} {state : ParseState}

namespace Order

theorem ends_key_of_kind {lexeme : Lexeme} (kind : lexeme.kind = .comma ∨ lexeme.kind = .finish) : EndsKey settings lexeme := by
  have bare (keyword : String) : lexeme.isKeyword settings keyword = false := by
    refine Bool.eq_false_iff.mpr fun found => ?_
    rw [keyword_word found] at kind
    exact kind.elim nofun nofun
  refine ⟨?_, bare _, bare _⟩
  rcases kind with comma | finish
  · exact ends_expression_of_kind comma (by decide)
  · exact ends_expression_of_kind finish (by decide)

theorem consumes_item : Consumes ',' .comma state (item settings levels) := by
  have neutral : Neutral settings .rule (item settings levels) :=
    .of_bind neutral_disjunction fun _ => .of_bind (direction_related Neutral.simulation.toSimulation.wording) fun _ => .of_pure _
  exact consumes_of_replays comma_marks rfl replays_item neutral fun _ _ left right =>
    .inr ⟨ends_key_of_kind left, ends_key_of_kind right⟩

end Order

theorem Compute.consumes_item : Consumes ',' .comma state (item settings levels) := by
  have neutral : Neutral settings .rule (item settings levels) :=
    .of_bind neutral_disjunction fun _ => .of_bind (naming_related Neutral.simulation.toSimulation.wording) fun _ => .of_pure _
  have replays : Replays settings true Anywhere (fun _ _ => True) (fun item names => names = item.names) (item settings levels) :=
    replays_item
  exact consumes_of_replays comma_marks rfl replays neutral fun _ _ _ _ => trivial

theorem Apply.consumes_transformation : Consumes '/' .slash state (transformation settings levels) :=
  consumes_of_closing slash_marks (fun _ _ _ => transformation_closes)
    (transformation_related Neutral.simulation.toSimulation.wording levels levels (.inl rfl))

namespace Items

theorem consumed_path {cursor opened : Cursor} {text : List Char} {names : List String} {lexemes : List Lexeme}
    (on : cursor.Begins text) (path : Path settings kind 0 none names lexemes) (spans : cursor.Spans lexemes opened)
    (stops : opened.token.kind = .comma ∨ opened.token.kind = .finish) :
    ∃ front tail, Consumed ',' state (item settings kind levels (inner settings levels)) text ⟨names, {}⟩
      { state with cursor := opened } front tail := by
  have named : ∀ lexeme ∈ lexemes, lexeme.kind ≠ .atSign := fun lexeme member sign => by
    have inside := path_in_path path lexeme member
    simp [Lexeme.inPath, Lexeme.isName, Cursor.isName, sign] at inside
  have again : Again (fun _ y => y.kind = .comma ∨ y.kind = .finish) (item settings kind levels (inner settings levels))
      { state with cursor := cursor } lexemes ⟨names, {}⟩ { state with cursor := opened } := by
    refine ⟨spans, named, fun cursor moved spans behind => ?_⟩
    have other {kind : TokenKind} (comma : kind ≠ .comma) (finish : kind ≠ .finish) : moved.token.kind ≠ kind := by
      rintro rfl
      exact behind.elim comma finish
    have walked := @path_complete settings kind names lexemes { state with cursor := cursor } moved path spans
      (other (by decide) (by decide)) (other (by decide) (by decide))
    refine (bind_done walked).trans ?_
    exact congrFun (if_neg fun opens => other (by decide) (by decide) (eq_of_beq opens)) _
  exact consumed_of_again comma_marks rfl again (path_ne_nil path) rfl on stops fun _ => id

theorem pieces_reread {path gap : List Char} {pieces : List Piece} {names : List String}
    (cut : ItemPieces settings kind levels state names path pieces) (blank : ∀ c ∈ gap, Text.isBlank c) :
    Rereads (EndsEntry ',') state (item settings kind levels (inner settings levels))
      (path ++ '(' :: (Assignment.list (pieces.map Piece.toAssignment) ++ ')' :: gap)) ⟨names, Piece.merged pieces {}⟩ := by
  have joined (after : List Char) : path ++ '(' :: (Assignment.list (pieces.map Piece.toAssignment) ++ ')' :: gap) ++ after =
      path ++ '(' :: (Assignment.list (pieces.map Piece.toAssignment) ++ ')' :: (gap ++ after)) := by simp
  refine ⟨fun after _ => ?_, fun after cursor ends on => ?_⟩
  · rw [joined]
    exact cut.scannable _
  · rw [joined] at on
    obtain ⟨going, moved, read, behind⟩ := cut.reads (scannable_gap blank (ends_entry_scannable comma_marks ends)) on
    exact ⟨going, moved, read, Cursor.begins_past_gap behind blank⟩

theorem consumes_item : Consumes ',' .comma state (item settings kind levels (inner settings levels)) := by
  intro cursor text written after on done stops
  rcases item_consumed done on stops with
    ⟨names, lexemes, opened, path, spans, rfl, rfl⟩ | ⟨names, path, pieces, tail, last, cut, -, same, rfl, rfl, there⟩
  · exact consumed_path on path spans stops
  · obtain ⟨gap, tail, rfl, blank, ends⟩ := ends_entry_of_kind comma_marks there stops
    refine ⟨_, tail, ?_, ends, rfl, Cursor.begins_past_gap there blank, pieces_reread cut blank⟩
    rw [same]
    simp

end Items

section

variable {α : Type} {mark : Char} {separator : TokenKind} {p : Parse α} {make : List α → ParsedOption}
variable {option : QueryOption} {first second : String} {parsed parsed' : ParsedOption}

theorem joined_text (mark : Char) (first second : String) :
    (first ++ String.singleton mark ++ second).toList = first.toList ++ mark :: second.toList := by
  rw [String.toList_append, String.toList_append, String.toList_singleton, List.append_assoc, List.singleton_append]

theorem entire_joined (make : List α → ParsedOption) (plain : option.dialect = .expression)
    (grammar : option.grammar settings settings.maxDepth = (do return make (← entire separator p)))
    (marks : Marks mark separator) (consumes : ∀ state, Consumes mark separator state p)
    (accepted : parse settings option first = .ok parsed) (accepted' : parse settings option second = .ok parsed') :
    ∃ values values', parsed = make values ∧ parsed' = make values' ∧
      parse settings option (first ++ String.singleton mark ++ second) = .ok (make (values ++ values')) := by
  obtain ⟨cursor, values, _, on, ran, rfl⟩ := entire_of_parse plain grammar accepted
  obtain ⟨cursor', values', _, on', ran', rfl⟩ := entire_of_parse plain grammar accepted'
  have lists := lists_joined marks (consumes (.fresh cursor)) ran on ran' on'
  rw [← joined_text] at lists
  exact ⟨values, values', rfl, rfl, parse_of_entire plain grammar lists.scannable fun cursor on => (lists.read cursor on).2⟩

theorem visible_going {cursor : Cursor} {text : List Char} (visible : ∃ c ∈ text, Text.isBlank c = false)
    (on : cursor.Begins text) : cursor.token.kind ≠ .finish := by
  intro finish
  obtain ⟨c, member, shown⟩ := visible
  have blank := List.dropWhile_eq_nil_iff.mp (Cursor.begins_finish on finish) c member
  rw [shown] at blank
  cases blank

theorem items_joined (kind : ItemKind) (visible : ∃ c ∈ first.toList, Text.isBlank c = false)
    (visible' : ∃ c ∈ second.toList, Text.isBlank c = false) (accepted : parse settings kind.queryOption first = .ok parsed)
    (accepted' : parse settings kind.queryOption second = .ok parsed') :
    ∃ items items', parsed = kind.parsed items ∧ parsed' = kind.parsed items' ∧
      parse settings kind.queryOption (first ++ String.singleton ',' ++ second) = .ok (kind.parsed (items ++ items')) := by
  rw [← String.ofList_toList (s := first)] at accepted
  rw [← String.ofList_toList (s := second)] at accepted'
  obtain ⟨cursor, items, _, on, ran, rfl⟩ := list_of_parse accepted
  obtain ⟨cursor', items', _, on', ran', rfl⟩ := list_of_parse accepted'
  rw [Items.list_entire (visible_going visible on)] at ran
  rw [Items.list_entire (visible_going visible' on')] at ran'
  have lists := lists_joined comma_marks (@Items.consumes_item settings kind settings.maxDepth (.fresh cursor)) ran on ran' on'
  rw [← joined_text] at lists
  refine ⟨items, items', rfl, rfl, ?_⟩
  rw [← String.ofList_toList (s := first ++ _ ++ second)]
  refine parse_of_list lists.scannable fun cursor on => ?_
  obtain ⟨going, moved, read⟩ := lists.read cursor on
  exact ⟨moved, (Items.list_entire going).trans read⟩

end

def QueryOption.mark? : QueryOption → Option Char
  | orderBy | compute | select | expand => some ','
  | apply => some '/'
  | filter | search => none

def ParsedOption.append? : ParsedOption → ParsedOption → Option ParsedOption
  | orderBy items, orderBy others => some (.orderBy (items ++ others))
  | compute items, compute others => some (.compute (items ++ others))
  | select items, select others => some (.select (items ++ others))
  | expand items, expand others => some (.expand (items ++ others))
  | apply transformations, apply others => some (.apply (transformations ++ others))
  | _, _ => none

theorem lists_concatenate (settings : Settings) {option : QueryOption} {mark : Char} {first second : String}
    {parsed parsed' : ParsedOption} (listed : option.mark? = some mark)
    (visible : ∃ c ∈ first.toList, Text.isBlank c = false) (visible' : ∃ c ∈ second.toList, Text.isBlank c = false)
    (accepted : parse settings option first = .ok parsed) (accepted' : parse settings option second = .ok parsed') :
    ∃ whole, parsed.append? parsed' = some whole ∧
      parse settings option (first ++ String.singleton mark ++ second) = .ok whole := by
  cases option with
  | filter | search => cases listed
  | orderBy =>
      cases listed
      obtain ⟨items, others, rfl, rfl, whole⟩ :=
        entire_joined .orderBy rfl rfl comma_marks (fun _ => Order.consumes_item) accepted accepted'
      exact ⟨_, rfl, whole⟩
  | compute =>
      cases listed
      obtain ⟨items, others, rfl, rfl, whole⟩ :=
        entire_joined .compute rfl rfl comma_marks (fun _ => Compute.consumes_item) accepted accepted'
      exact ⟨_, rfl, whole⟩
  | select =>
      cases listed
      obtain ⟨items, others, rfl, rfl, whole⟩ := items_joined .select visible visible' accepted accepted'
      exact ⟨_, congrArg (some ∘ ParsedOption.select) List.map_append.symm, whole⟩
  | expand =>
      cases listed
      obtain ⟨items, others, rfl, rfl, whole⟩ := items_joined .expand visible visible' accepted accepted'
      exact ⟨_, congrArg (some ∘ ParsedOption.expand) List.map_append.symm, whole⟩
  | apply =>
      cases listed
      obtain ⟨transformations, others, rfl, rfl, whole⟩ :=
        entire_joined .apply rfl rfl slash_marks (fun _ => Apply.consumes_transformation) accepted accepted'
      exact ⟨_, rfl, whole⟩

theorem deep_pipelines_concatenate :
    QueryOption.apply.mark? = some '/' ∧
      parse { maxDepth := 9 } .apply "filter(a) " = .ok (.apply [.filter (.endPath "a" none)]) ∧
      parse { maxDepth := 9 } .apply "compute(b as c)" = .ok (.apply [.compute [⟨.endPath "b" none, "c"⟩]]) ∧
      parse { maxDepth := 8 } .apply "filter(a) " = .error (.depthExceeded 8) ∧
      parse { maxDepth := 9 } .apply "filter(a) /compute(b as c)" =
        .ok (.apply [.filter (.endPath "a" none), .compute [⟨.endPath "b" none, "c"⟩]]) := by
  have first : parse { maxDepth := 9 } .apply "filter(a) " = .ok (.apply [.filter (.endPath "a" none)]) := by decide +kernel
  have second : parse { maxDepth := 9 } .apply "compute(b as c)" = .ok (.apply [.compute [⟨.endPath "b" none, "c"⟩]]) := by
    decide +kernel
  have slash : QueryOption.apply.mark? = some '/' := rfl
  have visible : ∃ c ∈ "filter(a) ".toList, Text.isBlank c = false := ⟨'f', by decide, by decide⟩
  have visible' : ∃ c ∈ "compute(b as c)".toList, Text.isBlank c = false := ⟨'c', by decide, by decide⟩
  obtain ⟨whole, joined, parsed⟩ := lists_concatenate { maxDepth := 9 } slash visible visible' first second
  cases joined
  exact ⟨slash, first, second, by decide +kernel, parsed⟩

end QueryOptions
