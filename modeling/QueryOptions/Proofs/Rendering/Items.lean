import QueryOptions.Proofs.Formed.Basic
import QueryOptions.Proofs.Rendering.Values
import QueryOptions.Proofs.Replay.Lists

set_option autoImplicit false

namespace QueryOptions

open Parse Expression

namespace Items

variable {settings : Settings} {kind : ItemKind} {lexemes : List Lexeme} {name : String} {names : List String}

theorem starred_fronted (spelled : Starred true lexemes name) (scanned : ∀ lexeme ∈ lexemes, Scanned lexeme)
    (bare : ∀ first ∈ lexemes.head?, isSystem first = false) :
    ∃ own, Fronted Parted name.toList own ∧ Starred true own name ∧ ∀ first ∈ own.head?, isSystem first = false := by
  have star : Fronted Anything ['*'] [⟨.star, "*"⟩] := fronted_mark rfl rfl (by decide)
  cases spelled with
  | name spelled =>
      obtain ⟨own, fronted, spelled', head⟩ := name_fronted spelled scanned
      exact ⟨own, fronted, .name spelled', head ▸ bare⟩
  | star stars accepted =>
      exact ⟨_, fun tail _ => star tail trivial, .star rfl accepted, fun first head => by cases head; rfl⟩
  | @wildcard front name dot star' before dots stars accepted =>
      rw [List.head?_append_of_ne_nil _ (name_ne_nil before)] at bare
      obtain ⟨own, fronted, spelled', head⟩ := name_fronted before fun lexeme member =>
        scanned lexeme (List.mem_append_left _ member)
      have point : Fronted Anything ['.'] [⟨.dot, "."⟩] := fronted_mark rfl rfl (by decide)
      have behind := fronted_append point star fun _ _ => trivial
      have whole := fronted_append fronted behind fun _ _ => parted_mark (by decide) _
      refine ⟨own ++ [⟨.dot, "."⟩, ⟨.star, "*"⟩], fun tail _ => ?_, .wildcard spelled' rfl rfl accepted, ?_⟩
      · simpa using whole tail trivial
      · rw [List.head?_append_of_ne_nil _ (name_ne_nil spelled'), head]
        exact bare

theorem segment_fronted (segment : Segment settings kind lexemes name) (scanned : ∀ lexeme ∈ lexemes, Scanned lexeme) :
    ∃ own, Fronted Parted name.toList own ∧ Segment settings kind own name := by
  cases segment with
  | @system word opens known =>
      have named : word.isName := by
        have identifier := eq_of_beq (Bool.and_eq_true_iff.mp opens).1
        obtain ⟨kind, text⟩ := word
        cases identifier
        rfl
      exact ⟨[word], fronted_name (scanned word (List.mem_singleton_self _)) named, .system opens known⟩
  | name bare spelled =>
      obtain ⟨own, fronted, spelled', bare'⟩ := starred_fronted spelled scanned bare
      exact ⟨own, fronted, .name bare' spelled'⟩

theorem path_fronted {count : Nat} {last : Option String} (path : Path settings kind count last names lexemes)
    (scanned : ∀ lexeme ∈ lexemes, Scanned lexeme) :
    ∃ own, Fronted Parted (pathText names) own ∧ Path settings kind count last names own := by
  induction path with
  | last segment placed =>
      obtain ⟨own, fronted, segment'⟩ := segment_fronted segment scanned
      refine ⟨own, ?_, .last segment' placed⟩
      rwa [pathText, List.map_singleton, punctuated_single]
  | @further count last name names front back slash segment placed slashes goes others ih =>
      simp only [List.forall_mem_append, List.forall_mem_cons] at scanned
      obtain ⟨own, fronted, segment'⟩ := segment_fronted segment scanned.1
      obtain ⟨own', fronted', others'⟩ := ih scanned.2.2
      have mark : Fronted Anything ['/'] [⟨.slash, "/"⟩] := fronted_mark rfl rfl (by decide)
      have behind := fronted_append mark fronted' fun _ _ => trivial
      have whole := fronted_append fronted behind fun _ _ => parted_mark (by decide) _
      refine ⟨own ++ ⟨.slash, "/"⟩ :: own', ?_, .further segment' placed rfl goes others'⟩
      have some : names.map String.toList ≠ [] := by
        cases others <;> simp
      rw [pathText, List.map_cons, punctuated_further _ _ some]
      exact whole

def EndsItem (tail : List Char) : Prop := tail = [] ∨ ∃ rest, tail = ',' :: rest

structure Restored (settings : Settings) (kind : ItemKind) (text : List Char) (written : Item) : Prop where
  scannable : ∀ tail, EndsItem tail → Scannable (text ++ tail)
  read : ∀ (tail : List Char) (cursor : Cursor), EndsItem tail → cursor.Begins (text ++ tail) →
    cursor.token.kind ≠ .finish ∧
    ∃ moved, item settings kind settings.maxDepth (inner settings settings.maxDepth) (.fresh cursor) =
      .ok written (.fresh moved) ∧ moved.Begins tail

theorem ends_item {tail : List Char} (ends : EndsItem tail) : Scannable tail ∧ Parted tail ∧
    ∀ moved : Cursor, moved.Begins tail → moved.token.kind = .comma ∨ moved.token.kind = .finish := by
  rcases ends with rfl | ⟨rest, rfl⟩
  · exact ⟨scannable_nil, fun _ => nofun, fun _ on => .inr (Cursor.begins_nil on)⟩
  · exact ⟨⟨_, _, _, scan_mark rfl rfl rest⟩, parted_mark (by decide) rest, fun _ on => .inl (Cursor.begins_mark on rfl rfl).2.2⟩

theorem path_leads (formed : PathFormed settings kind names) :
    Leads settings kind (pathText names) names ∧
      ∀ tail, Parted tail → Scannable tail → Scannable (pathText names ++ tail) := by
  obtain ⟨lexemes, scanned, path⟩ := formed
  obtain ⟨own, fronted, path'⟩ := path_fronted path scanned
  refine ⟨fun tail cursor parted next on => ?_, fun tail parted next => scannable_of_scans (fronted tail parted) next⟩
  obtain ⟨moved, spans, there⟩ := Cursor.begins_spans on (fronted tail parted) next
  exact ⟨own, moved, path', spans, there⟩

theorem leads_going {front tail : List Char} {cursor : Cursor} (leads : Leads settings kind front names)
    (on : cursor.Begins (front ++ tail)) (parted : Parted tail) (next : Scannable tail) : cursor.token.kind ≠ .finish := by
  obtain ⟨lexemes, moved, path, spans, -⟩ := leads tail cursor parted next on
  exact path_going path spans

def pieces (kind : ItemKind) (value : ItemOption → Option (List Char)) (source : NestedOptions) : List Piece :=
  kind.options.filterMap fun option => (value option).map fun text => ⟨⟨option.name.toList, text⟩, option, source⟩

variable {value : ItemOption → Option (List Char)} {source : NestedOptions}

theorem pieces_mem {piece : Piece} (member : piece ∈ pieces kind value source) :
    piece.option ∈ kind.options ∧ value piece.option = some piece.value ∧ piece.key = piece.option.name.toList ∧
      piece.source = source := by
  obtain ⟨option, listed, made⟩ := List.mem_filterMap.mp member
  obtain ⟨text, written, rfl⟩ := Option.map_eq_some_iff.mp made
  exact ⟨listed, written, rfl, rfl⟩

theorem pieces_apart (kind : ItemKind) (value : ItemOption → Option (List Char)) (source : NestedOptions) :
    ((pieces kind value source).map Piece.option).Nodup := by
  have listed : kind.options.Nodup := by cases kind <;> decide
  rw [pieces, List.map_filterMap]
  refine List.Pairwise.filterMap _ (fun option other differ found same found' same' => ?_) listed
  rw [Option.map_map, Option.map_eq_some_iff] at same same'
  obtain ⟨_, -, rfl⟩ := same
  obtain ⟨_, -, rfl⟩ := same'
  exact differ

theorem options_text (kind : ItemKind) (value : ItemOption → Option (List Char)) (source : NestedOptions) :
    kind.optionsText value = match ((pieces kind value source).map Piece.toAssignment).map Assignment.text with
      | [] => []
      | texts => parenthesized (punctuated ';' texts) := by
  have texts : ((pieces kind value source).map Piece.toAssignment).map Assignment.text = kind.options.filterMap fun option =>
      (value option).map fun text => option.name.toList ++ '=' :: text := by
    rw [pieces, List.map_filterMap, List.map_filterMap]
    exact congrArg (List.filterMap · _) (funext fun option => by cases value option <;> rfl)
  rw [texts]
  rfl

theorem pieces_merged (whole : ∀ option : ItemOption, option.given source → option ∈ kind.options ∧ (value option).isSome) :
    Piece.merged (pieces kind value source) {} = source := by
  refine ItemOption.options_ext fun option => ?_
  by_cases written : ∃ piece ∈ pieces kind value source, option = piece.option
  · obtain ⟨piece, member, rfl⟩ := written
    have agrees := Piece.merged_agrees (pieces_apart kind value source) member {}
    rwa [(pieces_mem member).2.2.2] at agrees
  · have absent : ∀ piece ∈ pieces kind value source, option ≠ piece.option := fun piece member same =>
      written ⟨piece, member, same⟩
    have lacks : ¬ option.given source := fun given => by
      obtain ⟨listed, known⟩ := whole option given
      obtain ⟨text, valued⟩ := Option.isSome_iff_exists.mp known
      exact written ⟨⟨⟨option.name.toList, text⟩, option, source⟩,
        List.mem_filterMap.mpr ⟨option, listed, by rw [valued]; rfl⟩, rfl⟩
    exact ItemOption.agrees_trans (Piece.merged_others absent {}) (ItemOption.agrees_none option.not_given lacks)

theorem item_restored (formed : PathFormed settings kind names)
    (valued : ∀ (origin : Cursor), ∀ option ∈ kind.options, ∀ text, value option = some text →
      Piece.Valued settings settings.maxDepth (.fresh origin) option text source)
    (whole : ∀ option : ItemOption, option.given source → option ∈ kind.options ∧ (value option).isSome) :
    Restored settings kind (pathText names ++ kind.optionsText value) ⟨names, source⟩ := by
  obtain ⟨leads, scannable⟩ := path_leads formed
  have reads (origin : Cursor) (piece : Piece) (member : piece ∈ pieces kind value source) :
      piece.Reads settings kind settings.maxDepth (.fresh origin) := by
    obtain ⟨listed, written, key, same⟩ := pieces_mem member
    refine ⟨?_, ?_⟩
    · rw [key]
      exact name_keys listed
    · rw [same]
      exact valued origin _ listed _ written
  have merged := pieces_merged whole
  by_cases none : pieces kind value source = []
  · have nothing : kind.optionsText value = [] := by rw [options_text kind value source, none]; rfl
    have empty : source = {} := by rw [← merged, none]; rfl
    rw [nothing, List.append_nil, empty]
    refine ⟨fun tail ends => ?_, fun tail cursor ends on => ?_⟩
    · obtain ⟨next, parted, -⟩ := ends_item ends
      exact scannable tail parted next
    · obtain ⟨next, parted, finishes⟩ := ends_item ends
      exact ⟨leads_going leads on parted next, @item_without _ _ _ (.fresh cursor) _ _ _ _ leads on parted next finishes⟩
  · have opened (tail : List Char) : pathText names ++ kind.optionsText value ++ tail =
        pathText names ++ '(' :: (Assignment.list ((pieces kind value source).map Piece.toAssignment) ++ ')' :: tail) := by
      obtain ⟨first, others, some⟩ := List.exists_cons_of_ne_nil none
      rw [options_text kind value source, some]
      simp [parenthesized, Assignment.list]
    refine ⟨fun tail ends => ?_, fun tail cursor ends on => ?_⟩
    · rw [opened]
      exact scannable _ (parted_mark (by decide) _) ⟨_, _, _, scan_mark rfl rfl _⟩
    · rw [opened] at on
      refine ⟨leads_going leads on (parted_mark (by decide) _) ⟨_, _, _, scan_mark rfl rfl _⟩, ?_⟩
      have read := item_of_pieces (leads_opens leads) none (reads cursor) (pieces_apart kind value source) on (ends_item ends).1
      rwa [merged] at read

variable {α : Type} {entries : List α} {text : α → List Char} {made : α → Item}

theorem Restored.rereads {written : List Char} {source : Item} (restored : Restored settings kind written source)
    (origin : Cursor) : Rereads (EndsEntry ',') (.fresh origin) (item settings kind settings.maxDepth (inner settings settings.maxDepth)) written
      source := ⟨restored.scannable, restored.read⟩

theorem list_text_parses (each : ∀ entry ∈ entries, Restored settings kind (text entry) (made entry)) :
    parse settings kind.queryOption (String.ofList (punctuated ',' (entries.map text))) =
      .ok (kind.parsed (entries.map made)) := by
  by_cases none : entries = []
  · subst none
    exact parse_of_list scannable_nil fun cursor on => ⟨cursor, congrFun (if_pos (beq_of_eq (Cursor.begins_nil on))) _⟩
  · refine parse_of_list (entries_scannable none fun entry member => (each entry member).scannable) fun cursor on => ?_
    obtain ⟨going, moved, read⟩ := entire_reread comma_marks none (fun entry member => (each entry member).rereads cursor) on
    exact ⟨moved, (list_entire going).trans read⟩

end Items

theorem punctuated_bytes {mark : Char} {text : List Char} {texts : List (List Char)} (member : text ∈ texts) :
    Text.byteLength text ≤ Text.byteLength (punctuated mark texts) := by
  induction texts with
  | nil => cases member
  | cons first texts ih =>
      by_cases none : texts = []
      · subst none
        rw [punctuated_single, List.mem_singleton.mp member]
      · rw [punctuated_further _ _ none, Text.byteLength_append, Text.byteLength_cons]
        rcases List.mem_cons.mp member with rfl | later
        · omega
        · have bound := ih later
          omega

theorem option_bytes {kind : ItemKind} {value : ItemOption → Option (List Char)} {option : ItemOption}
    {text : List Char} (listed : option ∈ kind.options) (written : value option = some text) :
    Text.byteLength text + 1 ≤ Text.byteLength (kind.optionsText value) := by
  have piece : (⟨⟨option.name.toList, text⟩, option, {}⟩ : Piece) ∈ Items.pieces kind value {} :=
    List.mem_filterMap.mpr ⟨option, listed, by rw [written]; rfl⟩
  have member : option.name.toList ++ '=' :: text ∈ ((Items.pieces kind value {}).map Piece.toAssignment).map Assignment.text :=
    List.mem_map_of_mem (List.mem_map_of_mem piece)
  have bytes : Text.byteLength (option.name.toList ++ '=' :: text) ≤ _ := @punctuated_bytes ';' _ _ member
  rw [Text.byteLength_append, Text.byteLength_cons] at bytes
  have one := Char.utf8Size_pos '='
  rw [Items.options_text kind value {}]
  obtain ⟨first, others, same⟩ := List.exists_cons_of_ne_nil (List.ne_nil_of_mem member)
  rw [same] at bytes ⊢
  simp only [parenthesized, Text.byteLength_cons, Text.byteLength_append]
  omega

section

variable {settings : Settings} {keyword : BinaryOperator → String}

theorem select_text_parses {items : List SelectItem}
    (each : ∀ item ∈ items, Items.Restored settings .select (item.render keyword) item.item) :
    parse settings .select (String.ofList (punctuated ',' (items.map (·.render keyword)))) = .ok (.select items) := by
  have same : (items.map SelectItem.item).map (·.toSelect) = items := by
    rw [List.map_map, List.map_congr_left fun item _ => item.item_select, List.map_id']
  exact (Items.list_text_parses each).trans (congrArg (fun items => Except.ok (ParsedOption.select items)) same)

theorem expand_text_parses {items : List ExpandItem}
    (each : ∀ item ∈ items, Items.Restored settings .expand (item.render keyword) item.item) :
    parse settings .expand (String.ofList (punctuated ',' (items.map (·.render keyword)))) = .ok (.expand items) := by
  have same : (items.map ExpandItem.item).map (·.toExpand) = items := by
    rw [List.map_map, List.map_congr_left fun item _ => item.item_expand, List.map_id']
  exact (Items.list_text_parses each).trans (congrArg (fun items => Except.ok (ParsedOption.expand items)) same)

theorem holds_of_punctuated {text : List Char} {texts : List (List Char)}
    (room : 8 * (Text.byteLength (punctuated ',' texts) + 2) ≤ settings.maxDepth) (member : text ∈ texts) :
    settings.Holds text := by
  have bytes := @punctuated_bytes ',' _ _ member
  unfold Settings.Holds
  omega

theorem value_room {kind : ItemKind} {value : ItemOption → Option (List Char)} {option : ItemOption} {front text : List Char}
    (room : settings.Holds (front ++ kind.optionsText value)) (listed : option ∈ kind.options)
    (written : value option = some text) : 8 * (Text.byteLength text + 2) ≤ settings.maxDepth := by
  have bytes := option_bytes listed written
  unfold Settings.Holds at room
  rw [Text.byteLength_append] at room
  omega

variable (fixed : Keywords keyword) (plain : settings.customOperators = []) (exact : settings.ignoreCase = false)

include fixed plain exact

theorem select_restored {item : SelectItem} (formed : item.Formed settings Context.standing)
    (room : settings.Holds (item.render keyword)) : Items.Restored settings .select (item.render keyword) item.item := by
  induction formed with
  | @mk path options select spelled given selected ih =>
      rw [SelectItem.render_text] at room ⊢
      refine Items.item_restored spelled (fun _ option listed value written => ?_) fun option given => ?_
      · have enough := value_room room listed written
        by_cases nested : option = .select
        · subst nested
          obtain ⟨items, same, rfl⟩ := Option.map_eq_some_iff.mp written
          have each : ∀ item ∈ items, Items.Restored settings .select (item.render keyword) item.item :=
            fun item member => ih items same item member (holds_of_punctuated enough (List.mem_map_of_mem member))
          exact nested_valued .select (select_text_parses each) enough fun others => by rw [ParsedOption.into, ← same]; rfl
        · exact text_valued fixed plain exact given (by cases option <;> first | exact written | exact absurd rfl nested) enough
      · cases option
        all_goals first | exact ⟨by decide, (Option.isSome_map ..).trans given⟩ | cases given

theorem expand_restored {item : ExpandItem} (formed : item.Formed settings Context.standing)
    (room : settings.Holds (item.render keyword)) : Items.Restored settings .expand (item.render keyword) item.item := by
  induction formed with
  | @mk path options select expand levels spelled given selected expanded repeated ih =>
      rw [ExpandItem.render_text] at room ⊢
      refine Items.item_restored spelled (fun _ option listed value written => ?_) fun option given => ?_
      · have enough := value_room room listed written
        by_cases nested : option = .select ∨ option = .expand ∨ option = .levels
        · rcases nested with rfl | rfl | rfl
          · obtain ⟨items, same, rfl⟩ := Option.map_eq_some_iff.mp written
            have each : ∀ item ∈ items, Items.Restored settings .select (item.render keyword) item.item :=
              fun item member => select_restored fixed plain exact (selected items same item member)
                (holds_of_punctuated enough (List.mem_map_of_mem member))
            exact nested_valued .select (select_text_parses each) enough fun others => by rw [ParsedOption.into, ← same]; rfl
          · obtain ⟨items, same, rfl⟩ := Option.map_eq_some_iff.mp written
            have each : ∀ item ∈ items, Items.Restored settings .expand (item.render keyword) item.item :=
              fun item member => ih items same item member (holds_of_punctuated enough (List.mem_map_of_mem member))
            exact nested_valued .expand (expand_text_parses each) enough fun others => by rw [ParsedOption.into, ← same]; rfl
          · obtain ⟨count, same, rfl⟩ := Option.map_eq_some_iff.mp written
            exact levels_valued (repeated count same) same
        · simp only [not_or] at nested
          obtain ⟨select, expand, levels⟩ := nested
          refine text_valued fixed plain exact given ?_ enough
          cases option <;> first | exact written | contradiction
      · cases option
        all_goals exact ⟨by decide, (Option.isSome_map ..).trans given⟩

end

end QueryOptions
