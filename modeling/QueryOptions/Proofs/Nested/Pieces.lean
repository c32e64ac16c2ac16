import QueryOptions.Proofs.Derivation.Path
import QueryOptions.Proofs.Derivation.Written
import QueryOptions.Proofs.Nested.Agreement

set_option autoImplicit false

namespace QueryOptions

open Parse

section

variable {text tail rest taken : List Char} {lexemes : List Lexeme} {kind : TokenKind} {c : Char}

def Scannable (text : List Char) : Prop :=
  ∃ kind taken rest, Expression.scan (text.dropWhile Text.isBlank) = .token kind taken rest

theorem scannable_nil : Scannable [] := ⟨_, _, _, rfl⟩

theorem scan_behind_gap {gap : List Char} (blank : ∀ b ∈ gap, Text.isBlank b) (visible : Text.isBlank c = false)
    (found : Expression.punctuation? c = some kind) (after : List Char) :
    Expression.scan ((gap ++ c :: after).dropWhile Text.isBlank) = .token kind [c] after := by
  rw [List.dropWhile_append_of_pos blank, List.dropWhile_cons_of_neg (by rw [visible]; decide)]
  exact Expression.scan_of_branch (.mark found)

theorem scan_mark (visible : Text.isBlank c = false) (found : Expression.punctuation? c = some kind) (rest : List Char) :
    Expression.scan ((c :: rest).dropWhile Text.isBlank) = .token kind [c] rest :=
  scan_behind_gap (List.forall_mem_nil _) visible found rest

theorem scannable_of_scans (scans : Scans text lexemes tail) (next : Scannable tail) : Scannable text := by
  cases scans with
  | nil => exact next
  | cons scans => exact ⟨_, _, _, scans⟩

namespace Cursor

variable {cursor : Cursor}

def Begins (text : List Char) (cursor : Cursor) : Prop :=
  ∃ before : Cursor, before.Plain .expression ∧ before.rest = text ∧ advance before = .ok () cursor

theorem begins_token (on : Begins text cursor)
    (scans : Expression.scan (text.dropWhile Text.isBlank) = .token kind taken rest) :
    cursor.Plain .expression ∧ cursor.rest = rest ∧ cursor.token.lexeme = ⟨kind, String.ofList taken⟩ := by
  obtain ⟨before, plain, rfl, advanced⟩ := on
  obtain ⟨moved, advanced', there⟩ := advance_scans plain scans
  cases advanced.symm.trans advanced'
  exact there

theorem begins_behind_gap {gap after : List Char} (on : cursor.Begins (gap ++ c :: after)) (blank : ∀ b ∈ gap, Text.isBlank b)
    (visible : Text.isBlank c = false) (found : Expression.punctuation? c = some kind) :
    cursor.Plain .expression ∧ cursor.rest = after ∧ cursor.token.kind = kind := by
  obtain ⟨plain, here, token⟩ := begins_token on (scan_behind_gap blank visible found after)
  exact ⟨plain, here, congrArg Lexeme.kind token⟩

theorem begins_mark (on : Begins (c :: rest) cursor) (visible : Text.isBlank c = false)
    (found : Expression.punctuation? c = some kind) :
    cursor.Plain .expression ∧ cursor.rest = rest ∧ cursor.token.kind = kind :=
  begins_behind_gap on (List.forall_mem_nil _) visible found

theorem begins_nil (on : Begins [] cursor) : cursor.token.kind = .finish := by
  obtain ⟨-, -, token⟩ := begins_token on rfl
  exact congrArg Lexeme.kind token

theorem begins_advance (plain : cursor.Plain .expression) (here : cursor.rest = text) (next : Scannable text) :
    ∃ moved, advance cursor = .ok () moved ∧ moved.Begins text := by
  obtain ⟨kind, taken, rest, scans⟩ := next
  subst here
  obtain ⟨moved, advanced, -⟩ := advance_scans plain scans
  exact ⟨moved, advanced, cursor, plain, rfl, advanced⟩

theorem begins_shortens (on : Begins text cursor) : cursor.rest.length ≤ text.length := by
  obtain ⟨before, -, rfl, advanced⟩ := on
  exact advance_shortens advanced

theorem begins_spans (on : Begins text cursor) (scans : Scans text lexemes tail) (next : Scannable tail) :
    ∃ moved, cursor.Spans lexemes moved ∧ moved.Begins tail := by
  induction scans generalizing cursor with
  | nil => exact ⟨cursor, .refl cursor, on⟩
  | cons scans going others ih =>
      obtain ⟨plain, here, token⟩ := begins_token on scans
      obtain ⟨between, advanced, there⟩ := begins_advance plain here (scannable_of_scans others next)
      obtain ⟨moved, spans, on'⟩ := ih there next
      have kind : cursor.token.kind = _ := congrArg Lexeme.kind token
      rw [← token]
      exact ⟨moved, .step (kind ▸ going) advanced spans, on'⟩

end Cursor

end

namespace NestedOptions

def adopt (options : NestedOptions) (option : ItemOption) (source : NestedOptions) : NestedOptions :=
  match option with
  | .filter => { options with filter := source.filter }
  | .orderBy => { options with orderBy := source.orderBy }
  | .top => { options with top := source.top }
  | .skip => { options with skip := source.skip }
  | .count => { options with count := source.count }
  | .search => { options with search := source.search }
  | .select => { options with select := source.select }
  | .compute => { options with compute := source.compute }
  | .expand => { options with expand := source.expand }
  | .levels => { options with levels := source.levels }

end NestedOptions

namespace ItemOption

-- Whether two lists of options have the same in the field of an option.
def Agrees (left right : NestedOptions) : ItemOption → Prop
  | filter => left.filter = right.filter
  | orderBy => left.orderBy = right.orderBy
  | top => left.top = right.top
  | skip => left.skip = right.skip
  | count => left.count = right.count
  | search => left.search = right.search
  | select => left.select = right.select
  | compute => left.compute = right.compute
  | expand => left.expand = right.expand
  | levels => left.levels = right.levels

variable {option other : ItemOption} {left middle right source options : NestedOptions}

theorem agrees_refl : option.Agrees left left := by cases option <;> rfl

theorem agrees_trans (first : option.Agrees left middle) (second : option.Agrees middle right) :
    option.Agrees left right := by
  cases option <;> exact Eq.trans first second

theorem agrees_symm (agrees : option.Agrees left right) : option.Agrees right left := by
  cases option <;> exact Eq.symm agrees

theorem agrees_given (agrees : option.Agrees left right) : option.given left = option.given right := by
  cases option <;> exact congrArg Option.isSome agrees

theorem agrees_none (missing : ¬ option.given left) (missing' : ¬ option.given right) : option.Agrees left right := by
  cases option <;> exact (Option.not_isSome_iff_eq_none.mp missing).trans (Option.not_isSome_iff_eq_none.mp missing').symm

theorem not_given (option : ItemOption) : ¬ option.given {} := by
  cases option <;> exact Bool.false_ne_true

theorem options_ext (agrees : ∀ option : ItemOption, option.Agrees left right) : left = right := by
  obtain ⟨⟨_, _, _, _, _, _, _⟩, _, _, _⟩ := left
  obtain ⟨⟨_, _, _, _, _, _, _⟩, _, _, _⟩ := right
  obtain rfl := agrees filter
  obtain rfl := agrees orderBy
  obtain rfl := agrees top
  obtain rfl := agrees skip
  obtain rfl := agrees count
  obtain rfl := agrees search
  obtain rfl := agrees select
  obtain rfl := agrees compute
  obtain rfl := agrees expand
  obtain rfl := agrees levels
  rfl

theorem adopt_agrees (option : ItemOption) (source options : NestedOptions) :
    option.Agrees (options.adopt option source) source := by
  cases option <;> rfl

theorem adopt_others (differ : other ≠ option) (source options : NestedOptions) :
    other.Agrees (options.adopt option source) options := by
  cases option <;> cases other <;> first | rfl | exact absurd rfl differ

theorem adopt_adopt (option : ItemOption) (source options : NestedOptions) :
    options.adopt option (({} : NestedOptions).adopt option source) = options.adopt option source := by
  cases option <;> rfl

end ItemOption

structure Assignment where
  key : List Char
  value : List Char

namespace Assignment

def text (assignment : Assignment) : List Char := assignment.key ++ '=' :: assignment.value

def list (assignments : List Assignment) : List Char := punctuated ';' (assignments.map text)

theorem list_single (assignment : Assignment) : list [assignment] = assignment.key ++ '=' :: assignment.value :=
  punctuated_single _ _

theorem list_further (assignment : Assignment) {assignments : List Assignment} (some : assignments ≠ []) :
    list (assignment :: assignments) = assignment.key ++ '=' :: (assignment.value ++ ';' :: list assignments) := by
  rw [list, List.map_cons, punctuated_further _ _ (by simpa using some), text, List.append_assoc]
  rfl

theorem list_first (assignment : Assignment) (assignments : List Assignment) (tail : List Char) :
    ∃ c after, list (assignment :: assignments) ++ ')' :: tail = assignment.key ++ '=' :: (assignment.value ++ c :: after) ∧
      ((c = ')' ∧ assignments = [] ∧ after = tail) ∨
        (c = ';' ∧ assignments ≠ [] ∧ after = list assignments ++ ')' :: tail)) := by
  by_cases none : assignments = []
  · subst none
    refine ⟨')', tail, ?_, .inl ⟨rfl, rfl, rfl⟩⟩
    rw [list_single, List.append_assoc, List.cons_append]
  · refine ⟨';', _, ?_, .inr ⟨rfl, none, rfl⟩⟩
    rw [list_further _ none, List.append_assoc, List.cons_append, List.append_assoc]
    rfl

end Assignment

structure Piece extends Assignment where
  option : ItemOption
  source : NestedOptions

namespace Piece

def merged (pieces : List Piece) (options : NestedOptions) : NestedOptions :=
  pieces.foldl (fun options piece => options.adopt piece.option piece.source) options

section

variable (settings : Settings) (kind : ItemKind) (levels : Nat) (origin : ParseState)

structure Keys (option : ItemOption) (key : List Char) : Prop where
  scannable : ∀ after, Scannable (key ++ '=' :: after)
  named : ∀ after (state : ParseState), state.cursor.Begins (key ++ '=' :: after) → state.cursor.token.kind = .identifier ∧
    ∃ named, Items.Named settings kind option state named ∧ named.Plain .expression ∧ named.rest = after

-- The text is a value of the option, and read wherever it stands as what the source has, at the depth of the origin.
structure Valued (option : ItemOption) (value : List Char) (source : NestedOptions) : Prop where
  crosses : Crosses 0 value 0 []
  read : ∀ options position cursor,
    Items.readValue settings levels (Items.inner settings levels) options option (String.ofList value) position
      { origin with cursor := cursor } = .ok (options.adopt option source) { origin with cursor := cursor }

structure Reads (piece : Piece) : Prop where
  keys : Keys settings kind piece.option piece.key
  valued : Valued settings levels origin piece.option piece.value piece.source

end

variable {settings : Settings} {kind : ItemKind} {levels : Nat} {origin : ParseState}
variable {piece : Piece} {pieces : List Piece} {options : NestedOptions} {seen : List ItemOption} {cursor : Cursor}
variable {tail after : List Char}

theorem keys_of_scan {option : ItemOption} {key gap taken : List Char} (blank : ∀ c ∈ gap, Text.isBlank c)
    (found : kind.option? settings (String.ofList taken) = some option)
    (scans : ∀ after, Expression.scan ((key ++ '=' :: after).dropWhile Text.isBlank) =
      .token .identifier taken (gap ++ '=' :: after)) :
    Keys settings kind option key := by
  refine ⟨fun after => ⟨_, _, _, scans after⟩, fun after state on => ?_⟩
  obtain ⟨plain, here, token⟩ := Cursor.begins_token on (scans after)
  have next : Scannable (gap ++ '=' :: after) := ⟨_, _, _, scan_behind_gap blank rfl rfl after⟩
  obtain ⟨named, advanced, there⟩ := Cursor.begins_advance plain here next
  obtain ⟨plain', here', equal⟩ := Cursor.begins_behind_gap there blank rfl rfl
  have identifier : state.cursor.token.kind = .identifier := congrArg Lexeme.kind token
  have word : state.cursor.token.text = String.ofList taken := congrArg Lexeme.text token
  refine ⟨identifier, named, ⟨advanced, equal, fun _ => ?_⟩, plain', here'⟩
  exact Items.option_name_found identifier (word ▸ found) advanced equal

theorem merged_others {other : ItemOption} (differ : ∀ piece ∈ pieces, other ≠ piece.option) (options : NestedOptions) :
    other.Agrees (merged pieces options) options := by
  induction pieces generalizing options with
  | nil => exact ItemOption.agrees_refl
  | cons piece pieces ih =>
      obtain ⟨here, later⟩ := List.forall_mem_cons.mp differ
      exact ItemOption.agrees_trans (ih later _) (ItemOption.adopt_others here _ _)

theorem merged_agrees (apart : (pieces.map option).Nodup) (member : piece ∈ pieces) (options : NestedOptions) :
    piece.option.Agrees (merged pieces options) piece.source := by
  induction pieces generalizing options with
  | nil => cases member
  | cons first pieces ih =>
      rw [List.map_cons, List.nodup_cons] at apart
      rcases List.mem_cons.mp member with rfl | later
      · have differ : ∀ other ∈ pieces, piece.option ≠ other.option := fun other listed same =>
          apart.1 (same ▸ List.mem_map_of_mem listed)
        exact ItemOption.agrees_trans (merged_others differ _) (ItemOption.adopt_agrees _ _ _)
      · exact ih apart.2 later _

theorem merged_zip (pieces : List Piece) (options : NestedOptions) :
    merged pieces options = ((pieces.map Piece.option).zip (pieces.map Piece.source)).foldl
      (fun options pair => options.adopt pair.1 pair.2) options := by
  rw [List.zip_map', List.foldl_map]
  rfl

theorem pieces_first (piece : Piece) (pieces : List Piece) (tail : List Char) :
    ∃ after, Assignment.list ((piece :: pieces).map toAssignment) ++ ')' :: tail = piece.key ++ '=' :: after := by
  obtain ⟨c, after, text, -⟩ := Assignment.list_first piece.toAssignment (pieces.map toAssignment) tail
  exact ⟨_, text⟩

theorem pieces_scannable (some : pieces ≠ []) (reads : ∀ piece ∈ pieces, piece.Reads settings kind levels origin)
    (tail : List Char) :
    Scannable (Assignment.list (pieces.map toAssignment) ++ ')' :: tail) := by
  obtain ⟨first, others, rfl⟩ := List.exists_cons_of_ne_nil some
  obtain ⟨here, -⟩ := List.forall_mem_cons.mp reads
  obtain ⟨after, same⟩ := pieces_first first others tail
  rw [same]
  exact here.keys.scannable after

theorem first_named (reads : ∀ other ∈ piece :: pieces, other.Reads settings kind levels origin)
    (on : cursor.Begins (Assignment.list ((piece :: pieces).map toAssignment) ++ ')' :: tail)) :
    cursor.token.kind = .identifier := by
  obtain ⟨here, -⟩ := List.forall_mem_cons.mp reads
  obtain ⟨after, same⟩ := pieces_first piece pieces tail
  rw [same] at on
  exact (here.keys.named after { origin with cursor := cursor } on).1

theorem round_of_piece (reads : piece.Reads settings kind levels origin) {c : Char} {delimiter : TokenKind}
    (delimits : Delimiter c delimiter) (on : cursor.Begins (piece.key ++ '=' :: (piece.value ++ c :: after)))
    (next : Scannable after) :
    ∃ found moved, Items.Round settings kind levels (Items.inner settings levels) options piece.option
        { origin with cursor := cursor } (options.adopt piece.option piece.source) found moved ∧
      found.token.kind = delimiter ∧ moved.Begins after ∧ moved.rest.length < cursor.rest.length := by
  obtain ⟨-, named, name, plain, here⟩ := reads.keys.named _ { origin with cursor := cursor } on
  have whole : named.rest = (String.ofList piece.value).toList ++ c :: after := by rw [here, String.toList_ofList]
  have crosses : Crosses 0 (String.ofList piece.value).toList 0 [] := by rw [String.toList_ofList]; exact reads.valued.crosses
  have cut := option_value_cut crosses plain.dialect whole delimits
  have past : (named.pastValue (String.ofList piece.value).toList delimiter c after).Plain .expression :=
    ⟨plain.dialect, plain.blanks⟩
  obtain ⟨moved, advanced, there⟩ := Cursor.begins_advance past rfl next
  refine ⟨_, moved, ⟨⟨named, _, _, name, cut, reads.valued.read options _ _⟩, advanced⟩, rfl, there, ?_⟩
  have shorter : moved.rest.length ≤ after.length := Cursor.begins_shortens there
  have within : named.rest.length ≤ cursor.rest.length := Cursor.advance_shortens name.advanced
  rw [whole, List.length_append, List.length_cons] at within
  omega

theorem options_from_pieces (some : pieces ≠ []) (reads : ∀ piece ∈ pieces, piece.Reads settings kind levels origin)
    (apart : (pieces.map option).Nodup) (fresh : ∀ piece ∈ pieces, piece.option ∉ seen) (options : NestedOptions)
    (count : Nat) (enough : cursor.rest.length < count)
    (on : cursor.Begins (Assignment.list (pieces.map toAssignment) ++ ')' :: tail)) (next : Scannable tail) :
    ∃ moved, Items.optionsFrom settings kind levels (Items.inner settings levels) count seen options
        { origin with cursor := cursor } = .ok (merged pieces options) { origin with cursor := moved } ∧ moved.Begins tail := by
  induction pieces generalizing cursor seen options count with
  | nil => exact absurd rfl some
  | cons piece pieces ih =>
      obtain ⟨count, rfl⟩ := Nat.exists_eq_succ_of_ne_zero (Nat.ne_zero_of_lt enough)
      obtain ⟨here, later⟩ := List.forall_mem_cons.mp reads
      obtain ⟨unseen, unseen'⟩ := List.forall_mem_cons.mp fresh
      rw [List.map_cons, List.nodup_cons] at apart
      obtain ⟨c, after, text, behind⟩ := Assignment.list_first piece.toAssignment (pieces.map toAssignment) tail
      rw [List.map_cons, text] at on
      rcases behind with ⟨rfl, none, rfl⟩ | ⟨rfl, further, rfl⟩
      · obtain rfl := List.map_eq_nil_iff.mp none
        obtain ⟨found, moved, round, closes, there, -⟩ := round_of_piece here .close on next
        refine ⟨moved, (Items.options_from_round round unseen).trans ?_, there⟩
        exact congrFun (if_pos (beq_of_eq closes)) _
      · have further : pieces ≠ [] := by simpa using further
        obtain ⟨found, moved, round, separates, there, shorter⟩ :=
          round_of_piece here .semicolon on (pieces_scannable further later _)
        have unseen'' : ∀ other ∈ pieces, other.option ∉ piece.option :: seen := fun other listed again =>
          (List.mem_cons.mp again).elim (fun same => apart.1 (same ▸ List.mem_map_of_mem listed)) (unseen' other listed)
        obtain ⟨last, ran, ends⟩ := ih further later apart.2 unseen'' _ count (by omega) there
        refine ⟨last, (Items.options_from_round round unseen).trans ?_, ends⟩
        exact (congrFun (if_neg (by rw [separates]; decide)) _).trans ran

end Piece

namespace Items

def Leads (settings : Settings) (kind : ItemKind) (front : List Char) (names : List String) : Prop :=
  ∀ (tail : List Char) (cursor : Cursor), Expression.Parted tail → Scannable tail → cursor.Begins (front ++ tail) →
    ∃ lexemes moved, Path settings kind 0 none names lexemes ∧ cursor.Spans lexemes moved ∧ moved.Begins tail

def Opens (settings : Settings) (kind : ItemKind) (front : List Char) (names : List String) : Prop :=
  ∀ (after : List Char) (cursor : Cursor), cursor.Begins (front ++ '(' :: after) →
    ∃ lexemes opened, Path settings kind 0 none names lexemes ∧ cursor.Spans lexemes opened ∧
      opened.Plain .expression ∧ opened.rest = after ∧ opened.token.kind = .openParen

variable {settings : Settings} {kind : ItemKind} {levels : Nat} {origin : ParseState} {names : List String}
variable {pieces : List Piece} {cursor : Cursor} {front tail : List Char}

theorem leads_opens (leads : Leads settings kind front names) : Opens settings kind front names := by
  intro after cursor on
  obtain ⟨lexemes, opened, path, spans, here⟩ :=
    leads _ cursor (Expression.parted_mark (by decide) _) ⟨_, _, _, scan_mark rfl rfl _⟩ on
  exact ⟨lexemes, opened, path, spans, Cursor.begins_mark here rfl rfl⟩

theorem path_going {lexemes : List Lexeme} {moved : Cursor} (path : Path settings kind 0 none names lexemes)
    (spans : cursor.Spans lexemes moved) : cursor.token.kind ≠ .finish := by
  cases spans with
  | refl => exact absurd rfl (path_ne_nil path)
  | step going => exact going

theorem item_without (leads : Leads settings kind front names) (on : cursor.Begins (front ++ tail))
    (parted : Expression.Parted tail) (next : Scannable tail)
    (ends : ∀ moved : Cursor, moved.Begins tail → moved.token.kind = .comma ∨ moved.token.kind = .finish) :
    ∃ moved, item settings kind levels (inner settings levels) { origin with cursor := cursor } =
      .ok ⟨names, {}⟩ { origin with cursor := moved } ∧ moved.Begins tail := by
  obtain ⟨lexemes, moved, path, spans, there⟩ := leads tail cursor parted next on
  have other {kind : TokenKind} (comma : kind ≠ .comma) (finish : kind ≠ .finish) : moved.token.kind ≠ kind := by
    rintro rfl
    exact (ends moved there).elim comma finish
  have walked := @path_complete settings kind names lexemes { origin with cursor := cursor } moved path spans
    (other (by decide) (by decide)) (other (by decide) (by decide))
  refine ⟨moved, (bind_done walked).trans ?_, there⟩
  exact congrFun (if_neg fun opens => other (by decide) (by decide) (eq_of_beq opens)) _

theorem item_of_pieces (opens : Opens settings kind front names) (some : pieces ≠ [])
    (reads : ∀ piece ∈ pieces, piece.Reads settings kind levels origin) (apart : (pieces.map Piece.option).Nodup)
    (on : cursor.Begins (front ++ '(' :: (Assignment.list (pieces.map Piece.toAssignment) ++ ')' :: tail)))
    (next : Scannable tail) :
    ∃ moved, item settings kind levels (inner settings levels) { origin with cursor := cursor } =
      .ok ⟨names, Piece.merged pieces {}⟩ { origin with cursor := moved } ∧ moved.Begins tail := by
  obtain ⟨lexemes, opened, path, spans, plain, rest, opening⟩ := opens _ cursor on
  have walked := @path_complete settings kind names lexemes { origin with cursor := cursor } opened path spans
    (by rw [opening]; decide) (by rw [opening]; decide)
  obtain ⟨first, advanced, first_on⟩ := Cursor.begins_advance plain rest (Piece.pieces_scannable some reads _)
  obtain ⟨moved, ran, there⟩ := Piece.options_from_pieces some reads apart (fun _ _ => List.not_mem_nil) {}
    (first.rest.length + 1) (Nat.lt_succ_self _) first_on next
  have going : first.token.kind ≠ .closeParen := by
    obtain ⟨piece, others, rfl⟩ := List.exists_cons_of_ne_nil some
    have identifier := Piece.first_named reads first_on
    rw [identifier]
    decide
  have options := (@options_open settings levels (inner settings levels) kind { origin with cursor := opened } first
    opening advanced going).trans ran
  refine ⟨moved, (bind_done walked).trans ?_, there⟩
  exact (congrFun (if_pos (beq_of_eq opening)) _).trans (bind_done options)

end Items

def SelectItem.item (item : SelectItem) : Item := ⟨item.path, ⟨item.options, item.select, none, none⟩⟩

theorem SelectItem.item_select (item : SelectItem) : item.item.toSelect = item := by
  cases item
  rfl

def ExpandItem.item (item : ExpandItem) : Item := ⟨item.path, ⟨item.options, item.select, item.expand, item.levels⟩⟩

theorem ExpandItem.item_expand (item : ExpandItem) : item.item.toExpand = item := by
  cases item
  rfl

namespace ItemKind

def queryOption : ItemKind → QueryOption
  | select => .select
  | expand => .expand

def parsed (items : List Item) : ItemKind → ParsedOption
  | select => .select (items.map Item.toSelect)
  | expand => .expand (items.map Item.toExpand)

end ItemKind

section

variable {settings : Settings} {option : QueryOption} {written : String} {parsed : ParsedOption}

theorem grammar_of_parse (plain : option.dialect = .expression) (accepted : parse settings option written = .ok parsed) :
    ∃ cursor after, cursor.Begins written.toList ∧
      option.grammar settings settings.maxDepth (.fresh cursor) = .ok parsed after := by
  obtain ⟨after, done⟩ := parser_ok accepted
  obtain ⟨_, between, stepped, ran⟩ := bind_ok done
  obtain ⟨cursor, advanced, rfl⟩ := advance_ok stepped
  exact ⟨cursor, after, ⟨_, ⟨plain, rfl⟩, rfl, advanced⟩, ran⟩

theorem parse_of_grammar (plain : option.dialect = .expression) (next : Scannable written.toList)
    (read : ∀ cursor : Cursor, cursor.Begins written.toList →
      ∃ after, option.grammar settings settings.maxDepth (.fresh cursor) = .ok parsed after) :
    parse settings option written = .ok parsed := by
  have start : (option.start written).cursor.Plain .expression := ⟨plain, rfl⟩
  obtain ⟨cursor, advanced, on⟩ := Cursor.begins_advance start rfl next
  obtain ⟨after, ran⟩ := read cursor on
  exact parse_of_ok ((bind_done (advance_done advanced)).trans ran)

end

variable {settings : Settings} {kind : ItemKind} {text : List Char} {items : List Item}

theorem ItemKind.dialect_expression (kind : ItemKind) : kind.queryOption.dialect = .expression := by
  cases kind <;> rfl

theorem parse_of_list (next : Scannable text)
    (read : ∀ cursor : Cursor, cursor.Begins text → ∃ moved,
      Items.list settings kind settings.maxDepth (Items.inner settings settings.maxDepth) (.fresh cursor) =
        .ok items (.fresh moved)) :
    parse settings kind.queryOption (String.ofList text) = .ok (kind.parsed items) := by
  refine parse_of_grammar kind.dialect_expression (by rwa [String.toList_ofList]) fun cursor on => ?_
  rw [String.toList_ofList] at on
  obtain ⟨moved, ran⟩ := read cursor on
  rw [← Items.whole_by_inner] at ran
  cases kind <;> exact ⟨_, bind_done ran⟩

theorem list_of_parse {parsed : ParsedOption} (accepted : parse settings kind.queryOption (String.ofList text) = .ok parsed) :
    ∃ cursor items after, cursor.Begins text ∧
      Items.list settings kind settings.maxDepth (Items.inner settings settings.maxDepth) (.fresh cursor) =
        .ok items after ∧ parsed = kind.parsed items := by
  obtain ⟨cursor, after, on, ran⟩ := grammar_of_parse kind.dialect_expression accepted
  rw [String.toList_ofList] at on
  cases kind
  all_goals
    obtain ⟨items, _, ran, last⟩ := bind_ok ran
    cases last
    rw [Items.whole_by_inner] at ran
    exact ⟨cursor, items, _, on, ran, rfl⟩

end QueryOptions
