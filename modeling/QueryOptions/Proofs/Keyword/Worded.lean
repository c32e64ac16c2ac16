import QueryOptions.Proofs.Concatenation
import QueryOptions.Proofs.Keyword.Letters
import QueryOptions.Proofs.Nested.Unordered
import QueryOptions.Proofs.Replay.Whole

set_option autoImplicit false

namespace QueryOptions

open Parse

mutual

-- The texts of a parsed option in which keywords may be in any case of letters and names stand as they are. What is
-- around the keywords of a list of items is fixed.
inductive Worded (settings : Settings) : ParsedOption → Language Char → Prop where
  | flat {parsed : ParsedOption} {names : List String} {uses : List Use} (listed : parsed.names? = some names)
      (named : Use.Names uses names) : Worded settings parsed (Use.texts settings parsed.queryOption.dialect uses)
  | blank {kind : ItemKind} {text : List Char} (blank : ∀ c ∈ text, Text.isBlank c) :
      Worded settings (kind.parsed []) {text}
  | list {kind : ItemKind} {items : List Item} {texts : Language Char} (each : ListWorded settings kind items texts) :
      Worded settings (kind.parsed items) texts

inductive ListWorded (settings : Settings) : ItemKind → List Item → Language Char → Prop where
  | single {kind : ItemKind} {item : Item} {texts : Language Char} (only : ItemWorded settings kind item texts) :
      ListWorded settings kind [item] texts
  | further {kind : ItemKind} {item : Item} {items : List Item} {texts texts' : Language Char}
      (first : ItemWorded settings kind item texts) (others : ListWorded settings kind items texts') :
      ListWorded settings kind (item :: items) (texts * ({[',']} * texts'))

inductive ItemWorded (settings : Settings) : ItemKind → Item → Language Char → Prop where
  | path {kind : ItemKind} {names : List String} {text : List Char} : ItemWorded settings kind ⟨names, {}⟩ {text}
  | options {kind : ItemKind} {names : List String} {options : NestedOptions} {path gap : List Char}
      {texts : Language Char} (each : OptionsWorded settings kind options texts) :
      ItemWorded settings kind ⟨names, options⟩ ({path} * ({['(']} * (texts * ({[')']} * {gap}))))

inductive OptionsWorded (settings : Settings) : ItemKind → NestedOptions → Language Char → Prop where
  | single {kind : ItemKind} {option : ItemOption} {source : NestedOptions} {texts : Language Char}
      (value : ValueWorded settings option source texts) :
      OptionsWorded settings kind (({} : NestedOptions).adopt option source) (option.keys settings kind * ({['=']} * texts))
  | further {kind : ItemKind} {option : ItemOption} {source options : NestedOptions} {texts texts' : Language Char}
      (value : ValueWorded settings option source texts) (others : OptionsWorded settings kind options texts') :
      OptionsWorded settings kind (options.adopt option source)
        (option.keys settings kind * ({['=']} * (texts * ({[';']} * texts'))))

inductive ValueWorded (settings : Settings) : ItemOption → NestedOptions → Language Char → Prop where
  | nested {parsed : ParsedOption} {option : ItemOption} {texts : Language Char} (named : parsed.itemOption? = some option)
      (other : option ≠ .search) (each : Worded settings parsed texts) : ValueWorded settings option (parsed.into {}) texts
  -- To the raw scan of values an apostrophe in a word is a quote, so the texts of a search are not all taken alike.
  | search {condition : Expr} {texts : Language Char} {value : List Char} (each : Worded settings (.search condition) texts) :
      ValueWorded settings .search ((ParsedOption.search condition).into {})
        {text | text ∈ texts ∧ text.map Char.toLower = value.map Char.toLower}
  | fixed {option : ItemOption} {source : NestedOptions} {text : List Char}
      (plain : option ∈ [ItemOption.top, .skip, .count, .levels]) : ValueWorded settings option source {text}

end

structure ListReads (settings : Settings) (kind : ItemKind) (levels : Nat) (origin : ParseState) (text : List Char)
    (items : List Item) : Prop where
  scannable : Scannable text
  read : ∀ cursor : Cursor, cursor.Begins text → ∃ moved,
    Items.list settings kind levels (Items.inner settings levels) { origin with cursor := cursor } =
      .ok items { origin with cursor := moved }

def ListsWorded (settings : Settings) (levels : Nat) : Prop :=
  ∀ (kind : ItemKind) (origin : ParseState) (cursor : Cursor) (text : List Char) (items : List Item) (after : ParseState),
    cursor.Begins text →
    Items.list settings kind levels (Items.inner settings levels) { origin with cursor := cursor } = .ok items after →
    ∃ texts, Worded settings (kind.parsed items) texts ∧ text ∈ texts ∧
      ∀ other ∈ texts, ListReads settings kind levels origin other items

variable {settings : Settings} {kind : ItemKind} {option : ItemOption} {levels : Nat} {origin after : ParseState}
variable {value text : List Char} {given : NestedOptions} {pieces : List Piece} {items : List Item}

theorem valued_of_read (crosses : Crosses 0 value 0 [])
    (read : Items.readValue settings levels (Items.inner settings levels) {} option (String.ofList value) 0 origin =
      .ok given after) : Piece.Valued settings levels origin option value given :=
  ⟨crosses, fun options position cursor => value_settled read options position cursor⟩

theorem inner_worded (nested : ∀ fewer, fewer + 8 = levels → ListsWorded settings fewer)
    (read : Items.inner settings levels kind (String.ofList value) 0 origin = .ok items after) :
    ∃ texts, Worded settings (kind.parsed items) texts ∧ value ∈ texts ∧
      ∀ other ∈ texts, Crosses 0 other 0 [] ∧
        Items.inner settings levels kind (String.ofList other) 0 origin = .ok items origin := by
  by_cases few : levels < 8
  · rw [Items.inner, if_pos few] at read
    cases read
  · have opened (text : List Char) : Items.inner settings levels kind (String.ofList text) 0 =
        recurse settings 8 (within (String.ofList text) .expression 0 (Items.whole settings kind (levels - 8))) := if_neg few
    rw [opened] at read
    obtain ⟨before, ran, -⟩ := recurse_ok read
    rw [within_by_map, Items.whole_by_inner] at ran
    obtain ⟨there, ran, -⟩ := map_state_ok ran
    obtain ⟨_, between, stepped, ran⟩ := bind_ok ran
    obtain ⟨cursor, advanced, rfl⟩ := advance_ok stepped
    have on : cursor.Begins value := ⟨_, ⟨rfl, rfl⟩, String.toList_ofList, advanced⟩
    obtain ⟨texts, worded, member, again⟩ :=
      nested (levels - 8) (by omega) kind { origin with depth := origin.depth + 8 } cursor value items there on ran
    refine ⟨texts, worded, member, fun other fits => ?_⟩
    have reads := again other fits
    have start : (Cursor.start (String.ofList other) .expression 0 false).Plain .expression := ⟨rfl, rfl⟩
    obtain ⟨first, advanced', on'⟩ := Cursor.begins_advance start String.toList_ofList reads.scannable
    obtain ⟨last, listed⟩ := reads.read first on'
    have whole : within (String.ofList other) .expression 0 (Items.whole settings kind (levels - 8))
        { origin with depth := origin.depth + 8 } = .ok items { origin with depth := origin.depth + 8 } := by
      rw [within_by_map, Items.whole_by_inner, bind_done (advance_done advanced')]
      exact congrArg _ listed
    have crosses := within_crosses (Items.whole_fits settings kind (levels - 8)) (whole_finishes kind (levels - 8)) whole
    rw [String.toList_ofList] at crosses
    refine ⟨crosses, ?_⟩
    rw [opened]
    exact @recurse_again _ _ _ _ _ _ _ _ read origin.cursor whole

theorem expression_worded {α : Type} {p : Parse α} {cost : Nat} (make : α → ParsedOption)
    (body : Fits .raw settings .rule levels cost p) (finishes : Finishes p)
    (replays : Replays settings true Anywhere (Same settings) (fun field names => (make field).names? = some names) p)
    (spoken : ∀ field, (make field).queryOption.dialect = .expression) (named : ∀ field, (make field).itemOption? = some option)
    (other : option ≠ .search)
    (reads : ∀ text : String, Items.readValue settings levels (Items.inner settings levels) {} option text 0 =
      (do return (make (← within text .expression 0 p)).into {}))
    (read : Items.readValue settings levels (Items.inner settings levels) {} option (String.ofList value) 0 origin =
      .ok given after) :
    ∃ texts, ValueWorded settings option given texts ∧ value ∈ texts ∧
      ∀ other ∈ texts, Piece.Valued settings levels origin option other given := by
  rw [reads] at read
  obtain ⟨field, between, ran, ⟨⟩⟩ := bind_ok read
  obtain ⟨uses, names, makes, used, member, again⟩ := within_again replays finishes ran
  rw [String.toList_ofList] at member
  have flat : Worded settings (make field) (Use.texts settings (make field).queryOption.dialect uses) := .flat makes used
  rw [spoken] at flat
  refine ⟨_, .nested (named field) other flat, member, fun other fits => ?_⟩
  have crosses := within_crosses body finishes (again other fits)
  rw [String.toList_ofList] at crosses
  have again' : Items.readValue settings levels (Items.inner settings levels) {} option (String.ofList other) 0 origin =
      .ok ((make field).into {}) after := by
    rw [reads]
    exact bind_done (again other fits)
  exact valued_of_read crosses again'

theorem some_of_map {α β : Type} {f : α → β} {values others : List α} (same : others.map f = values.map f)
    (some : values ≠ []) : others ≠ [] := by
  rintro rfl
  exact some (List.map_eq_nil_iff.mp same.symm)

theorem mem_marked {texts texts' : Language Char} {mark : Char} :
    text ∈ texts * ({[mark]} * texts') ↔ ∃ front ∈ texts, ∃ back ∈ texts', text = front ++ mark :: back := by
  simp only [Language.mem_mul]
  constructor
  · rintro ⟨front, member, _, ⟨_, rfl, back, member', rfl⟩, rfl⟩
    exact ⟨front, member, back, member', rfl⟩
  · rintro ⟨front, member, back, member', rfl⟩
    exact ⟨front, member, mark :: back, ⟨[mark], rfl, back, member', rfl⟩, rfl⟩

section

variable (folds : settings.ignoreCase = true) (nested : ∀ fewer, fewer + 8 = levels → ListsWorded settings fewer)

include folds nested

theorem value_worded (crosses : Crosses 0 value 0 [])
    (read : Items.readValue settings levels (Items.inner settings levels) {} option (String.ofList value) 0 origin =
      .ok given after) :
    ∃ texts, ValueWorded settings option given texts ∧ value ∈ texts ∧
      ∀ other ∈ texts, Piece.Valued settings levels origin option other given := by
  have plain (fixed : option ∈ [ItemOption.top, .skip, .count, .levels]) :
      ∃ texts, ValueWorded settings option given texts ∧ value ∈ texts ∧
        ∀ other ∈ texts, Piece.Valued settings levels origin option other given :=
    ⟨{value}, .fixed fixed, rfl, fun other same => same ▸ valued_of_read crosses read⟩
  cases option with
  | top | skip | count | levels => exact plain (by decide)
  | filter =>
      exact expression_worded .filter (Expression.whole_fits .raw settings levels) (finishes_expect_end (f := id))
        (replays_made Expression.replays_whole fun _ _ own => congrArg some own.symm) (fun _ => rfl) (fun _ => rfl) (by decide)
        (fun _ => rfl) read
  | orderBy =>
      exact expression_worded .orderBy (Order.whole_fits .raw settings levels) (finishes_expect_end (f := id))
        (replays_made Order.replays_whole fun _ _ own => congrArg some own.symm) (fun _ => rfl) (fun _ => rfl) (by decide)
        (fun _ => rfl) read
  | compute =>
      exact expression_worded .compute (Compute.whole_fits .raw settings levels) (finishes_expect_end (f := id))
        (replays_made Compute.replays_whole fun _ _ own => congrArg some own.symm) (fun _ => rfl) (fun _ => rfl) (by decide)
        (fun _ => rfl) read
  | search =>
      obtain ⟨condition, between, ran, ⟨⟩⟩ := bind_ok read
      obtain ⟨uses, names, rfl, used, member, again⟩ :=
        within_again (Search.replays_whole folds) (finishes_expect_end (f := id)) ran
      rw [String.toList_ofList] at member
      have flat : Worded settings (.search condition) (Use.texts settings .search uses) := .flat rfl used
      refine ⟨_, .search flat, ⟨member, rfl⟩, fun other fits => ?_⟩
      obtain ⟨lexemes, spelled, admitted⟩ := member
      obtain ⟨lexemes', spelled', admitted'⟩ := fits.1
      have relettered := relettered_of_spelled spelled spelled' (same_of_admitted admitted admitted') fits.2.symm
      have whole := relettered.taken_whole (taken_whole_of_crosses crosses)
      exact valued_of_read (crosses_of_taken_whole whole) (bind_done (again other fits.1))
  | select | expand =>
      obtain ⟨items, between, ran, ⟨⟩⟩ := bind_ok read
      obtain ⟨texts, worded, member, again⟩ := inner_worded nested ran
      refine ⟨texts, .nested rfl (by decide) worded, member, fun other fits => ?_⟩
      exact valued_of_read (again other fits).1 (bind_done (again other fits).2)

namespace Piece

variable {piece : Piece}

theorem piece_worded (consumed : piece.Consumed settings kind levels origin) :
    ∃ texts, ValueWorded settings piece.option (({} : NestedOptions).adopt piece.option piece.source) texts ∧
      piece.value ∈ texts ∧ ∀ key ∈ piece.option.keys settings kind, ∀ value ∈ texts,
        Consumed settings kind levels origin { piece with key := key, value := value } := by
  obtain ⟨⟨-, valued⟩, -, -⟩ := consumed
  obtain ⟨texts, worded, member, again⟩ := value_worded folds nested valued.crosses (valued.read {} 0 origin.cursor)
  refine ⟨texts, worded, member, fun key named value fits => ?_⟩
  obtain ⟨crosses, read⟩ := again value fits
  simp only [ItemOption.adopt_adopt] at read
  exact ⟨⟨keys_named named, crosses, read⟩, ⟨key_bare named, taken_whole_of_crosses crosses⟩, named⟩

theorem pieces_worded (some : pieces ≠ []) (consumed : ∀ piece ∈ pieces, piece.Consumed settings kind levels origin)
    (apart : (pieces.map Piece.option).Nodup) :
    ∃ texts, OptionsWorded settings kind (merged pieces {}) texts ∧ Assignment.list (pieces.map toAssignment) ∈ texts ∧
      ∀ other ∈ texts, ∃ pieces' : List Piece, other = Assignment.list (pieces'.map toAssignment) ∧
        pieces'.map Piece.option = pieces.map Piece.option ∧ pieces'.map Piece.source = pieces.map Piece.source ∧
        ∀ piece ∈ pieces', piece.Consumed settings kind levels origin := by
  induction pieces with
  | nil => exact absurd rfl some
  | cons piece pieces ih =>
      obtain ⟨here, later⟩ := List.forall_mem_cons.mp consumed
      obtain ⟨texts, worded, member, again⟩ := piece_worded folds nested here
      have keyed : piece.key ∈ piece.option.keys settings kind := here.named
      rw [merged_cons apart, ← ItemOption.adopt_adopt]
      by_cases none : pieces = []
      · subst none
        refine ⟨_, .single worded, mem_marked.mpr ⟨_, keyed, _, member, Assignment.list_single _⟩, fun other whole => ?_⟩
        obtain ⟨key, named, value, fits, rfl⟩ := mem_marked.mp whole
        exact ⟨[{ piece with key := key, value := value }], (Assignment.list_single ⟨key, value⟩).symm, rfl, rfl,
          List.forall_mem_singleton.mpr (again key named value fits)⟩
      · obtain ⟨texts', worded', member', again'⟩ := ih none later (List.nodup_cons.mp apart).2
        refine ⟨_, .further worded worded', ?_, fun other whole => ?_⟩
        · exact mem_marked.mpr ⟨_, keyed, _, mem_marked.mpr ⟨_, member, _, member', rfl⟩,
            Assignment.list_further _ (by simpa using none)⟩
        · obtain ⟨key, named, _, behind, rfl⟩ := mem_marked.mp whole
          obtain ⟨value, fits, _, fits', rfl⟩ := mem_marked.mp behind
          obtain ⟨pieces', rfl, options, sources, consumed'⟩ := again' _ fits'
          have none' : pieces' ≠ [] := some_of_map options none
          refine ⟨{ piece with key := key, value := value } :: pieces', ?_, ?_, ?_,
            List.forall_mem_cons.mpr ⟨again key named value fits, consumed'⟩⟩
          · rw [List.map_cons, Assignment.list_further _ (by simpa using none')]
          · rw [List.map_cons, options, List.map_cons]
          · rw [List.map_cons, sources, List.map_cons]

end Piece

namespace Items

variable {written : Item}

theorem item_worded
    (reads : Rereads (EndsEntry ',') origin (item settings kind levels (inner settings levels)) text written) :
    ∃ texts, ItemWorded settings kind written texts ∧ text ∈ texts ∧ ∀ other ∈ texts,
      Rereads (EndsEntry ',') origin (item settings kind levels (inner settings levels)) other written := by
  have start : (Cursor.start (String.ofList text) .expression 0 false).Plain .expression := ⟨rfl, rfl⟩
  have none : EndsEntry ',' [] := .inl rfl
  have ends := reads.scannable [] none
  rw [List.append_nil] at ends
  obtain ⟨cursor, -, on⟩ := Cursor.begins_advance start String.toList_ofList ends
  obtain ⟨-, moved, done, behind⟩ := reads.read [] cursor none (by rwa [List.append_nil])
  have finish := Cursor.begins_nil behind
  rcases item_consumed done on (.inr finish) with
    ⟨names, -, -, -, -, rfl, -⟩ | ⟨names, path, pieces, tail, last, cut, -, rfl, rfl, same, there⟩
  · exact ⟨{text}, .path, rfl, fun other same => same ▸ reads⟩
  · obtain rfl : moved = last := congrArg ParseState.cursor same
    have blank : ∀ c ∈ tail, Text.isBlank c := List.dropWhile_eq_nil_iff.mp (Cursor.begins_finish there finish)
    obtain ⟨texts, worded, member, again⟩ := Piece.pieces_worded folds nested cut.some cut.consumed cut.apart
    refine ⟨_, @ItemWorded.options _ _ names _ path tail _ worded,
      mem_marked.mpr ⟨_, rfl, _, mem_marked.mpr ⟨_, member, _, rfl, rfl⟩, rfl⟩, fun other whole => ?_⟩
    obtain ⟨_, rfl, _, behind, rfl⟩ := mem_marked.mp whole
    obtain ⟨_, fits, _, rfl, rfl⟩ := mem_marked.mp behind
    obtain ⟨pieces', rfl, options, sources, consumed⟩ := again _ fits
    have some : pieces' ≠ [] := some_of_map options cut.some
    rw [Piece.merged_zip, ← options, ← sources, ← Piece.merged_zip]
    exact pieces_reread { cut with some, consumed, apart := options ▸ cut.apart } blank

theorem entries_worded {entries : List (List Char × Item)} (some : entries ≠ []) (each : ∀ entry ∈ entries,
      Rereads (EndsEntry ',') origin (item settings kind levels (inner settings levels)) entry.1 entry.2) :
    ∃ texts, ListWorded settings kind (entries.map Prod.snd) texts ∧ punctuated ',' (entries.map Prod.fst) ∈ texts ∧
      ∀ other ∈ texts, ∃ entries' : List (List Char × Item), other = punctuated ',' (entries'.map Prod.fst) ∧
        entries'.map Prod.snd = entries.map Prod.snd ∧ ∀ entry ∈ entries',
          Rereads (EndsEntry ',') origin (item settings kind levels (inner settings levels)) entry.1 entry.2 := by
  induction entries with
  | nil => exact absurd rfl some
  | cons first entries ih =>
      obtain ⟨here, later⟩ := List.forall_mem_cons.mp each
      obtain ⟨texts, worded, member, again⟩ := item_worded folds nested here
      rw [List.map_cons, List.map_cons]
      by_cases none : entries = []
      · subst none
        refine ⟨texts, .single worded, (punctuated_single _ _).symm ▸ member, fun other fits => ?_⟩
        exact ⟨[(other, first.2)], (punctuated_single _ _).symm, rfl, List.forall_mem_singleton.mpr (again other fits)⟩
      · obtain ⟨texts', worded', member', again'⟩ := ih none later
        refine ⟨_, .further worded worded', ?_, fun other whole => ?_⟩
        · exact mem_marked.mpr ⟨_, member, _, member', punctuated_further _ _ (by simpa using none)⟩
        · obtain ⟨front, fits, _, fits', rfl⟩ := mem_marked.mp whole
          obtain ⟨entries', rfl, same, others⟩ := again' _ fits'
          have none' : entries' ≠ [] := some_of_map same none
          refine ⟨(front, first.2) :: entries', ?_, ?_, List.forall_mem_cons.mpr ⟨again front fits, others⟩⟩
          · rw [List.map_cons, punctuated_further _ _ (by simpa using none')]
          · rw [List.map_cons, same]

end Items

end

-- Lists in lists are eight levels deeper, so the induction is on the levels.
theorem Items.lists_worded (folds : settings.ignoreCase = true) (levels : Nat) : ListsWorded settings levels := by
  induction levels using Nat.strong_induction_on with
  | _ levels ih =>
      intro kind origin cursor text items after on done
      by_cases finish : cursor.token.kind = .finish
      · have empty {cursor : Cursor} (finish : cursor.token.kind = .finish) :
            list settings kind levels (inner settings levels) { origin with cursor := cursor } =
              .ok [] { origin with cursor := cursor } := congrFun (if_pos (beq_of_eq finish)) _
        cases (empty finish).symm.trans done
        have blank := Cursor.begins_finish on finish
        refine ⟨{text}, .blank (List.dropWhile_eq_nil_iff.mp blank), rfl, fun other same => ?_⟩
        obtain rfl : other = text := same
        have scans : Expression.scan (other.dropWhile Text.isBlank) = .token .finish [] [] := by rw [blank]; rfl
        refine ⟨⟨_, _, _, scans⟩, fun moved there => ⟨moved, empty ?_⟩⟩
        exact congrArg Lexeme.kind (Cursor.begins_token there scans).2.2
      · rw [list_entire finish] at done
        obtain ⟨entries, some, rfl, rfl, each⟩ := entire_entries comma_marks consumes_item done on
        obtain ⟨texts, worded, member, again⟩ := entries_worded folds (fun fewer below => ih fewer (by omega)) some each
        refine ⟨texts, .list worded, member, fun other fits => ?_⟩
        obtain ⟨entries', rfl, same, each'⟩ := again other fits
        have some' : entries' ≠ [] := some_of_map same some
        refine ⟨entries_scannable some' fun entry member => (each' entry member).scannable, fun cursor on => ?_⟩
        obtain ⟨going, moved, read⟩ := entire_reread comma_marks some' each' on
        rw [same] at read
        exact ⟨moved, (list_entire going).trans read⟩

-- With keywords in any case of letters, every accepted text says the same as the texts with its names and keywords,
-- whatever the letters of the keywords are.
theorem keywords_in_any_case (folds : settings.ignoreCase = true) {option : QueryOption} {text : String}
    {parsed : ParsedOption} (accepted : parse settings option text = .ok parsed) :
    ∃ texts, Worded settings parsed texts ∧ text.toList ∈ texts ∧
      ∀ other ∈ texts, parse settings option (String.ofList other) = .ok parsed := by
  have lists (kind : ItemKind) (same : kind.queryOption = option) : ∃ texts, Worded settings parsed texts ∧
      text.toList ∈ texts ∧ ∀ other ∈ texts, parse settings option (String.ofList other) = .ok parsed := by
    subst same
    rw [← String.ofList_toList (s := text)] at accepted
    obtain ⟨cursor, items, after, on, ran, rfl⟩ := list_of_parse accepted
    obtain ⟨texts, worded, member, again⟩ :=
      Items.lists_worded folds settings.maxDepth kind (.fresh cursor) cursor text.toList items after on ran
    refine ⟨texts, worded, member, fun other fits => parse_of_list (again other fits).scannable fun cursor on => ?_⟩
    exact (again other fits).read cursor on
  by_cases flat : option ≠ .select ∧ option ≠ .expand
  · obtain ⟨after, done⟩ := parser_ok accepted
    obtain ⟨uses, names, ⟨same, made⟩, used, member, again⟩ :=
      @words_again _ _ option.dialect _ _ (option.start text) _ _ (replays_grammar folds flat settings.maxDepth)
        (grammar_finishes option settings.maxDepth) ⟨rfl, rfl⟩ done
    have worded : Worded settings parsed (Use.texts settings parsed.queryOption.dialect uses) := .flat made used
    rw [same] at worded
    refine ⟨_, worded, member, fun other fits => ?_⟩
    rw [← String.toList_ofList (l := other)] at fits
    obtain ⟨moved, read⟩ := again (option.start (String.ofList other)).cursor ⟨rfl, rfl⟩ fits
    exact parse_of_ok read
  · rcases not_and_or.mp flat with select | expand
    · exact lists .select (not_not.mp select).symm
    · exact lists .expand (not_not.mp expand).symm

def ExpandItem.mixed : ExpandItem :=
  ⟨["A"], {
    filter := some (.binary .and (.binary .equal (.endPath "x" none) (.literal .integerLiteral "1"))
      (.unary .not (.endPath "and" none)))
    search := some (.binary .or (.term "b") (.term "c")) }, none, none, none⟩

theorem mixed_keywords :
    ({ ignoreCase := true } : Settings).ignoreCase = true ∧
      parse { ignoreCase := true } .expand "A($FILTER=x Eq 1 AND nOT and;$search=b oR c)" = .ok (.expand [.mixed]) ∧
      ∃ texts, Worded { ignoreCase := true } (.expand [.mixed]) texts ∧
        "A($FILTER=x Eq 1 AND nOT and;$search=b oR c)".toList ∈ texts ∧
        ∀ other ∈ texts, parse { ignoreCase := true } .expand (String.ofList other) = .ok (.expand [.mixed]) := by
  have accepted : parse { ignoreCase := true } .expand "A($FILTER=x Eq 1 AND nOT and;$search=b oR c)" =
      .ok (.expand [.mixed]) := by decide +kernel
  exact ⟨rfl, accepted, keywords_in_any_case rfl accepted⟩

end QueryOptions
