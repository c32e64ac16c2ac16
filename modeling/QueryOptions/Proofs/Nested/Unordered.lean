import Mathlib.Data.List.Nodup
import Mathlib.Data.List.Perm.Basic
import QueryOptions.Equality
import QueryOptions.Proofs.Nested.Consumed

set_option autoImplicit false

namespace QueryOptions

open Parse

variable {settings : Settings} {kind : ItemKind} {levels : Nat} {origin : ParseState} {option other : ItemOption}
variable {options source source' : NestedOptions}

theorem ItemOption.adopt_comm (differ : option ≠ other) (source source' options : NestedOptions) :
    (options.adopt option source).adopt other source' = (options.adopt other source').adopt option source := by
  cases option <;> cases other <;> first | rfl | exact absurd rfl differ

theorem ItemKind.option_listed {key : String} (found : kind.option? settings key = some option) : option ∈ kind.options := by
  obtain ⟨bare, -, named⟩ := Option.bind_eq_some_iff.mp found
  exact List.mem_of_find?_eq_some named

namespace Piece

variable {piece : Piece} {pieces pieces' : List Piece}

theorem merged_perm (apart : (pieces.map Piece.option).Nodup) (perm : pieces'.Perm pieces) (options : NestedOptions) :
    merged pieces' options = merged pieces options := by
  refine (perm.symm.foldl_eq' (fun first member second member' between => ?_) options).symm
  by_cases same : first = second
  · rw [same]
  · refine ItemOption.adopt_comm (fun options => ?_) _ _ _
    exact same (List.inj_on_of_nodup_map apart member' member options.symm).symm

theorem merged_cons (apart : ((piece :: pieces).map Piece.option).Nodup) :
    merged (piece :: pieces) {} = (merged pieces {}).adopt piece.option piece.source := by
  rw [← merged_perm apart (List.perm_append_singleton piece pieces) {}, merged, List.foldl_append]
  rfl

theorem valued_given {value : List Char} (valued : Valued settings levels origin option value source) : option.given source := by
  have given := (Items.read_value_sets (valued.read {} 0 origin.cursor)).1
  rwa [ItemOption.agrees_given (ItemOption.adopt_agrees option source {})] at given

theorem merged_given (apart : (pieces.map Piece.option).Nodup)
    (consumed : ∀ piece ∈ pieces, piece.Consumed settings kind levels origin) :
    option.given (merged pieces {}) ↔ ∃ piece ∈ pieces, piece.option = option := by
  constructor
  · intro given
    by_contra none
    have absent : ∀ piece ∈ pieces, option ≠ piece.option := fun piece member same => none ⟨piece, member, same.symm⟩
    rw [ItemOption.agrees_given (merged_others absent {})] at given
    exact option.not_given given
  · rintro ⟨piece, member, rfl⟩
    rw [ItemOption.agrees_given (merged_agrees apart member {})]
    exact valued_given (consumed piece member).reads.valued

end Piece

structure ItemReading (settings : Settings) (kind : ItemKind) (origin : Cursor) (names : List String) (path : List Char)
    (pieces : List Piece) (tail : List Char) : Prop
    extends ItemPieces settings kind settings.maxDepth (.fresh origin) names path pieces where
  blank : tail.dropWhile Text.isBlank = []

namespace ItemReading

variable {start : Cursor} {names : List String} {path tail : List Char} {piece : Piece} {pieces pieces' : List Piece}

theorem reorder (reading : ItemReading settings kind start names path pieces tail) (perm : pieces'.Perm pieces) :
    ItemReading settings kind start names path pieces' tail :=
  { reading with
    some := fun none => reading.some (List.nil_perm.mp (none ▸ perm))
    consumed := fun piece member => reading.consumed piece (perm.mem_iff.mp member)
    apart := (perm.map Piece.option).nodup_iff.mpr reading.apart }

theorem alone (reading : ItemReading settings kind start names path pieces tail) (member : piece ∈ pieces) :
    ItemReading settings kind start names path [piece] tail :=
  { reading with
    some := List.cons_ne_nil _ _
    consumed := List.forall_mem_singleton.mpr (reading.consumed piece member)
    apart := List.pairwise_singleton _ _ }

theorem parses (reading : ItemReading settings kind start names path pieces tail) :
    parse settings kind.queryOption (String.ofList (ItemParts.text ⟨path, pieces.map Piece.toAssignment, tail⟩)) =
      .ok (kind.parsed [⟨names, Piece.merged pieces {}⟩]) := by
  have ends : Expression.scan (tail.dropWhile Text.isBlank) = .token .finish [] [] := by rw [reading.blank]; rfl
  refine parse_of_list (reading.scannable _) fun cursor on => ?_
  obtain ⟨going, moved, read, there⟩ := reading.reads ⟨_, _, _, ends⟩ on
  have finish : moved.token.kind = .finish := congrArg Lexeme.kind (Cursor.begins_token there ends).2.2
  exact ⟨moved, (Items.list_of_first going read).trans (bind_done (Items.further_none.mpr ⟨rfl, finish⟩))⟩

end ItemReading

def ParsedOption.items : ParsedOption → List Item
  | select items => items.map SelectItem.item
  | expand items => items.map ExpandItem.item
  | _ => []

namespace ItemKind

theorem parsed_length (items : List Item) (kind : ItemKind) : (kind.parsed items).items.length = items.length := by
  cases kind <;> simp [parsed, ParsedOption.items]

theorem parsed_single {item : Item} (listed : ∀ option : ItemOption, option.given item.options → option ∈ kind.options) :
    (kind.parsed [item]).items = [item] := by
  obtain ⟨path, options⟩ := item
  cases kind with
  | expand => rfl
  | select =>
      have missing {option : ItemOption} (other : option ∉ select.options) : ¬ option.given options :=
        fun given => other (listed option given)
      have same : (⟨options.toItemOptions, options.select, none, none⟩ : NestedOptions) = options := by
        refine ItemOption.options_ext fun option => ?_
        cases option
        case expand | levels => exact ItemOption.agrees_none Bool.false_ne_true (missing (by decide))
        all_goals rfl
      exact congrArg (fun options => [Item.mk path options]) same

end ItemKind

namespace ItemReading

variable {start cursor : Cursor} {names : List String} {path tail text : List Char} {pieces : List Piece}
variable {parsed : ParsedOption} {written : Item} {after : ParseState}

theorem of_item (done : Items.item settings kind settings.maxDepth (Items.inner settings settings.maxDepth) (.fresh cursor) =
      .ok written after) (on : cursor.Begins text) (finish : after.cursor.token.kind = .finish) (opens : '(' ∈ text) :
    ∃ names path pieces tail, ItemReading settings kind cursor names path pieces tail ∧ '(' ∉ path ∧
      text = ItemParts.text ⟨path, pieces.map Piece.toAssignment, tail⟩ ∧ written = ⟨names, Piece.merged pieces {}⟩ := by
  rcases @Items.item_consumed _ _ _ (.fresh cursor) _ _ _ _ done on (.inr finish) with
    ⟨names, lexemes, opened, path, spans, rfl, rfl⟩ | ⟨names, path, pieces, tail, last, cut, bare, same, rfl, rfl, there⟩
  · exact absurd opens (Items.path_whole on path spans finish)
  · exact ⟨names, path, pieces, tail, { cut with blank := Cursor.begins_finish there finish }, bare, same, rfl⟩

theorem of_parse (accepted : parse settings kind.queryOption (String.ofList text) = .ok parsed) {item : Item}
    (single : parsed.items = [item]) (opens : '(' ∈ text) :
    ∃ start names path pieces tail, ItemReading settings kind start names path pieces tail ∧ '(' ∉ path ∧
      text = ItemParts.text ⟨path, pieces.map Piece.toAssignment, tail⟩ ∧
      parsed = kind.parsed [⟨names, Piece.merged pieces {}⟩] := by
  obtain ⟨cursor, items, after, on, ran, rfl⟩ := list_of_parse accepted
  have length : items.length = 1 := by rw [← ItemKind.parsed_length items kind, single]; rfl
  have going : cursor.token.kind ≠ .finish := fun finish => by
    rw [show Items.list settings kind _ _ (.fresh cursor) = .ok [] (.fresh cursor) from
      congrFun (if_pos (beq_of_eq finish)) _] at ran
    cases ran
    cases length
  obtain ⟨first, between, rest, done, more, rfl⟩ := Items.list_first going ran
  obtain rfl : rest = [] := List.length_eq_zero_iff.mp (Nat.succ.inj length)
  obtain ⟨rfl, finish⟩ := Items.further_none.mp more
  obtain ⟨names, path, pieces, tail, reading, bare, rfl, rfl⟩ := of_item done on finish opens
  exact ⟨cursor, names, path, pieces, tail, reading, bare, rfl, rfl⟩

theorem items (reading : ItemReading settings kind start names path pieces tail) :
    (kind.parsed [⟨names, Piece.merged pieces {}⟩]).items = [⟨names, Piece.merged pieces {}⟩] := by
  refine ItemKind.parsed_single fun option given => ?_
  obtain ⟨piece, member, rfl⟩ := (Piece.merged_given reading.apart reading.consumed).mp given
  exact ItemKind.option_listed (reading.consumed piece member).named

theorem cut (reading : ItemReading settings kind start names path pieces tail) (bare : '(' ∉ path) :
    ItemParts.Cut ⟨path, pieces.map Piece.toAssignment, tail⟩ := by
  refine ⟨bare, by simpa using reading.some, fun each listed => ?_⟩
  obtain ⟨piece, member, rfl⟩ := List.mem_map.mp listed
  exact (reading.consumed piece member).cut

theorem named (reading : ItemReading settings kind start names path pieces tail) :
    (pieces.map Piece.toAssignment).map (·.option? settings kind) = (pieces.map Piece.option).map .some := by
  rw [List.map_map, List.map_map]
  exact List.map_congr_left fun piece member => (reading.consumed piece member).named

end ItemReading

-- The text of an accepted item with options is cut in one way. Its assignments name different options, it
-- parses to the same item in every order of them, and the fields that it sets are those of its
-- assignments, each with what the assignment sets it to alone.
theorem options_unordered {text : List Char} {parsed : ParsedOption} {item : Item}
    (accepted : parse settings kind.queryOption (String.ofList text) = .ok parsed) (single : parsed.items = [item])
    (opens : '(' ∈ text) :
    ∃ parts : ItemParts, parts.text = text ∧ parts.Cut ∧ (∀ other : ItemParts, other.text = text → other.Cut → other = parts) ∧
      (∃ options : List ItemOption, parts.assignments.map (·.option? settings kind) = options.map some ∧ options.Nodup) ∧
      (∀ reordered : List Assignment, reordered.Perm parts.assignments →
        parse settings kind.queryOption (String.ofList { parts with assignments := reordered }.text) = .ok parsed) ∧
      ∀ option : ItemOption,
        (option.given item.options ↔ ∃ assignment ∈ parts.assignments, assignment.option? settings kind = some option) ∧
        ∀ assignment ∈ parts.assignments, assignment.option? settings kind = some option →
          ∃ alone other, parse settings kind.queryOption (String.ofList { parts with assignments := [assignment] }.text) =
            .ok alone ∧ alone.items = [other] ∧ option.Agrees item.options other.options := by
  obtain ⟨start, names, path, pieces, tail, reading, bare, rfl, rfl⟩ := ItemReading.of_parse accepted single opens
  obtain rfl : _ = item := List.singleton_inj.mp (reading.items.symm.trans single)
  have denotes (option : ItemOption) (assignment : Assignment) (listed : assignment ∈ pieces.map Piece.toAssignment)
      (named : assignment.option? settings kind = some option) :
      ∃ piece ∈ pieces, piece.toAssignment = assignment ∧ piece.option = option := by
    obtain ⟨piece, member, rfl⟩ := List.mem_map.mp listed
    exact ⟨piece, member, rfl, Option.some.inj ((reading.consumed piece member).named.symm.trans named)⟩
  refine ⟨⟨path, pieces.map Piece.toAssignment, tail⟩, rfl, reading.cut bare,
    fun other same cut => ItemParts.cut_unique cut (reading.cut bare) same, ⟨_, reading.named, reading.apart⟩,
    fun reordered perm => ?_, fun option => ⟨?_, fun assignment listed named => ?_⟩⟩
  · obtain ⟨pieces', rfl, perm'⟩ := (congrFun (congrFun (List.eq_map_comp_perm Piece.toAssignment) reordered) pieces).mpr perm
    rw [← Piece.merged_perm reading.apart perm' {}]
    exact (reading.reorder perm').parses
  · rw [Piece.merged_given reading.apart reading.consumed]
    constructor
    · rintro ⟨piece, member, rfl⟩
      exact ⟨piece.toAssignment, List.mem_map_of_mem member, (reading.consumed piece member).named⟩
    · rintro ⟨assignment, listed, named⟩
      obtain ⟨piece, member, -, same⟩ := denotes option assignment listed named
      exact ⟨piece, member, same⟩
  · obtain ⟨piece, member, rfl, rfl⟩ := denotes option assignment listed named
    have alone := reading.alone member
    refine ⟨_, _, alone.parses, alone.items, ?_⟩
    have here := Piece.merged_agrees reading.apart member {}
    have there := Piece.merged_agrees alone.apart (List.mem_singleton_self piece) {}
    exact ItemOption.agrees_trans here (ItemOption.agrees_symm there)

def ItemParts.nested : ItemParts :=
  ⟨"A ".toList,
    [⟨"$top".toList, " 1".toList⟩, ⟨" $filter ".toList, "x eq ';)'".toList⟩,
      ⟨"$expand".toList, "B($skip=2;$top=3)".toList⟩], []⟩

def Item.nested : Item :=
  ⟨["A"], {
    top := some 1
    filter := some (.binary .equal (.endPath "x" none) (.literal .stringLiteral "';)'"))
    expand := some [⟨["B"], { skip := some 2, top := some 3 }, none, none, none⟩] }⟩

theorem nested_reversed :
    parse {} .expand "A ($top= 1; $filter =x eq ';)';$expand=B($skip=2;$top=3))" = .ok (.expand [Item.nested.toExpand]) ∧
      (ParsedOption.expand [Item.nested.toExpand]).items = [.nested] ∧ '(' ∈ ItemParts.nested.text ∧
      parse {} .expand "A ($expand=B($skip=2;$top=3); $filter =x eq ';)';$top= 1)" = .ok (.expand [Item.nested.toExpand]) := by
  have accepted : parse {} ItemKind.expand.queryOption (String.ofList ItemParts.nested.text) =
      .ok (.expand [Item.nested.toExpand]) := by decide +kernel
  have opens : '(' ∈ ItemParts.nested.text := by decide
  have cut : ItemParts.nested.Cut := ⟨by decide, List.cons_ne_nil _ _, by decide +kernel⟩
  obtain ⟨parts, -, -, unique, -, reordered, -⟩ := options_unordered accepted rfl opens
  obtain rfl := unique .nested rfl cut
  exact ⟨accepted, rfl, opens, reordered ItemParts.nested.assignments.reverse (List.reverse_perm _)⟩

end QueryOptions
