import QueryOptions.Proofs.Nested.Pieces
import QueryOptions.Proofs.Nested.Search
import QueryOptions.Proofs.Rendering.Parses

set_option autoImplicit false

namespace QueryOptions

open Parse Piece

variable {settings : Settings} {origin : Cursor} {value : List Char} {source : NestedOptions} {parsed : ParsedOption}

theorem nested_valued (kind : NestedKind) (accepted : parse settings kind.option (String.ofList value) = .ok parsed)
    (room : 8 * (Text.byteLength value + 2) ≤ settings.maxDepth)
    (gives : ∀ options, parsed.into options = options.adopt kind.itemOption source) :
    Valued settings settings.maxDepth (.fresh origin) kind.itemOption value source := by
  -- By itself the value has the levels that are left to it in parentheses.
  have few : kind.levels ≤ 8 := by cases kind <;> decide
  have same : settings.maxDepth - kind.levels + kind.levels = settings.maxDepth := Nat.sub_add_cancel (by omega)
  have lowered : parse (settings.withDepth (settings.maxDepth - kind.levels)) kind.option (String.ofList value) =
      .ok parsed := by
    refine parse_with_enough (show parse (settings.withDepth settings.maxDepth) _ _ = _ from accepted) ?_
    rw [String.toList_ofList]
    omega
  obtain ⟨after, done⟩ := parser_ok lowered
  refine ⟨?_, fun options position cursor => ?_⟩
  · have crosses := accepted_crosses done
    rwa [String.toList_ofList] at crosses
  · have read := @read_value_extends _ kind _ _ after { ParseState.fresh origin with cursor := cursor } options position done
      rfl rfl rfl
    have depth : (settings.withDepth (settings.maxDepth - kind.levels)).maxDepth + kind.levels = settings.maxDepth := same
    have lifted : kind.settingsOf (settings.withDepth (settings.maxDepth - kind.levels)) = settings := by
      unfold NestedKind.settingsOf
      rw [depth]
      rfl
    rwa [lifted, depth, gives] at read

theorem search_crosses (tree : Search.Tree) {depth : Nat} {tail : List Char} (others : Crosses depth tail 0 []) :
    Crosses depth (tree.render.toList ++ tail) 0 [] := by
  induction tree generalizing depth tail with
  | term text =>
      have phrased := Search.escape_phrased text.toList tail
      have crosses := phrase_crosses phrased others
      simpa [Search.Tree.render, Search.phrase] using crosses
  | not operand ih =>
      have inside := ih (Crosses.closing others)
      have whole : Crosses depth ("NOT ".toList ++ '(' :: (operand.render.toList ++ ')' :: tail)) 0 [] :=
        (Crosses.of_plain _ (List.all_eq_true.mp (by decide))).trans (.opening inside)
      simpa [Search.Tree.render] using whole
  | and left right ihLeft ihRight =>
      have behind : Crosses depth (" AND ".toList ++ '(' :: (right.render.toList ++ ')' :: tail)) 0 [] :=
        (Crosses.of_plain _ (List.all_eq_true.mp (by decide))).trans (.opening (ihRight (.closing others)))
      have whole := Crosses.opening (ihLeft (Crosses.closing behind))
      simpa [Search.Tree.render] using whole
  | or left right ihLeft ihRight =>
      have behind : Crosses depth (" OR ".toList ++ '(' :: (right.render.toList ++ ')' :: tail)) 0 [] :=
        (Crosses.of_plain _ (List.all_eq_true.mp (by decide))).trans (.opening (ihRight (.closing others)))
      have whole := Crosses.opening (ihLeft (Crosses.closing behind))
      simpa [Search.Tree.render] using whole

theorem search_valued {tree : Expr} (formed : Search.Formed tree) (given : source.search = some tree)
    (room : settings.Holds tree.searchText) :
    Valued settings settings.maxDepth (.fresh origin) .search tree.searchText source := by
  obtain ⟨after, done⟩ := parser_ok (search_text_parses formed room)
  refine ⟨?_, fun options position cursor => ?_⟩
  · obtain ⟨search, rfl⟩ := formed
    have crosses := search_crosses search (Crosses.refl 0 [])
    rwa [List.append_nil, ← search_text] at crosses
  · have read := @ItemOption.read_search settings _ tree after { ParseState.fresh origin with cursor := cursor } options position
      done rfl rfl rfl
    rw [read, ← given]
    rfl

theorem trim_visible (visible : ∀ c ∈ value, Text.isBlank c = false) : Text.trim value = value := by
  have trimmed := Expression.trim_between (List.forall_mem_nil _) (List.forall_mem_nil _) visible
  rwa [List.nil_append, List.append_nil] at trimmed

theorem digit_visible {c : Char} (digit : c.isDigit) : Text.isBlank c = false ∧ isPlain c := by
  have other {d : Char} (letter : d.isDigit = false) : c ≠ d := fun same => by
    rw [same, letter] at digit
    cases digit
  exact ⟨Expression.inner_visible Expression.digit_inner digit, by simp [isPlain, other]⟩

theorem digits_plain (count : Nat) : ∀ c ∈ Nat.toDigits 10 count, Text.isBlank c = false ∧ isPlain c :=
  fun _ member => digit_visible (Nat.isDigit_of_mem_toDigits (by decide) (by decide) member)

theorem unsigned_digits {count : Nat} (bounded : count ≤ maxCount) : unsigned? (Nat.toDigits 10 count) = some count := by
  have digits : ∀ c ∈ Nat.toDigits 10 count, c.isDigit :=
    fun c member => Nat.isDigit_of_mem_toDigits (by decide) (by decide) member
  have bare : Nat.toDigits 10 count ≠ [] := Nat.toDigits_ne_nil
  have value : digitsValue (Nat.toDigits 10 count) = count := Nat.ofDigitChars_toDigits (by decide) (by decide)
  generalize Nat.toDigits 10 count = text at digits bare value
  obtain ⟨first, others, rfl⟩ := List.exists_cons_of_ne_nil bare
  have unsign : first ≠ '+' := fun same => by
    have digit := digits first List.mem_cons_self
    rw [same] at digit
    cases digit
  unfold unsigned?
  split
  · rename_i same
    exact absurd (List.cons.inj same).1 unsign
  · dsimp only
    rw [value, if_pos (by simpa [List.all_eq_true, bounded] using digits)]

theorem trim_digits (count : Nat) : Text.trim (Nat.toDigits 10 count) = Nat.toDigits 10 count :=
  trim_visible fun c member => (digits_plain count c member).1

theorem count_value (option : ItemOption) (position : Nat) {count : Nat} (bounded : count ≤ maxCount) :
    Items.countValue option (String.ofList (Nat.toDigits 10 count)) position = pure count := by
  unfold Items.countValue
  rw [String.toList_ofList, trim_digits, unsigned_digits bounded]

theorem digit_lower {c : Char} (digit : c.isDigit) : c.toLower = c := by
  unfold Char.isDigit at digit
  simp only [Bool.and_eq_true, decide_eq_true_eq] at digit
  refine dif_neg fun upper => ?_
  exact absurd (UInt32.le_trans upper.1 digit.2) (by decide)

theorem levels_value (position : Nat) {levels : Levels} (formed : levels.Formed) :
    Items.levelsValue .levels (String.ofList levels.text) position = pure levels := by
  unfold Items.levelsValue
  cases levels with
  | max => rfl
  | count count =>
      have other : Text.sameFolded (String.ofList (Text.trim (String.ofList (Nat.toDigits 10 count)).toList)) "max" = false := by
        rw [String.toList_ofList, trim_digits, Text.sameFolded, Text.fold, String.toList_ofList]
        refine Bool.eq_false_iff.mpr fun same => ?_
        have lettered : 'm' ∈ (Nat.toDigits 10 count).map Char.toLower := by
          rw [eq_of_beq same]
          decide
        obtain ⟨c, member, lower⟩ := List.mem_map.mp lettered
        have digit : c.isDigit := Nat.isDigit_of_mem_toDigits (by decide) (by decide) member
        rw [digit_lower digit] at lower
        rw [lower] at digit
        cases digit
      rw [Levels.text, other, count_value .levels position formed]
      rfl

theorem plain_crosses (plain : ∀ c ∈ value, isPlain c) : Crosses 0 value 0 [] := by
  have crosses : Crosses 0 (value ++ []) 0 [] := .of_plain value plain
  rwa [List.append_nil] at crosses

theorem top_valued {count : Nat} (bounded : count ≤ maxCount) (given : source.top = some count) :
    Valued settings settings.maxDepth (.fresh origin) .top (Nat.toDigits 10 count) source := by
  refine ⟨plain_crosses fun c member => (digits_plain count c member).2, fun options position cursor => ?_⟩
  unfold Items.readValue NestedOptions.adopt
  rw [count_value .top position bounded, given]
  rfl

theorem skip_valued {count : Nat} (bounded : count ≤ maxCount) (given : source.skip = some count) :
    Valued settings settings.maxDepth (.fresh origin) .skip (Nat.toDigits 10 count) source := by
  refine ⟨plain_crosses fun c member => (digits_plain count c member).2, fun options position cursor => ?_⟩
  unfold Items.readValue NestedOptions.adopt
  rw [count_value .skip position bounded, given]
  rfl

theorem count_valued {counts : Bool} (given : source.count = some counts) :
    Valued settings settings.maxDepth (.fresh origin) .count (if counts then "true" else "false").toList source := by
  refine ⟨plain_crosses (List.all_eq_true.mp (by cases counts <;> decide)), fun options position cursor => ?_⟩
  unfold Items.readValue NestedOptions.adopt
  rw [given]
  cases counts <;> rfl

theorem levels_valued {levels : Levels} (formed : levels.Formed) (given : source.levels = some levels) :
    Valued settings settings.maxDepth (.fresh origin) .levels levels.text source := by
  refine ⟨plain_crosses ?_, fun options position cursor => ?_⟩
  · cases levels with
    | max => exact List.all_eq_true.mp (by decide)
    | count count => exact fun c member => (digits_plain count c member).2
  · unfold Items.readValue NestedOptions.adopt
    rw [levels_value position formed, given]
    rfl

theorem name_keys {kind : ItemKind} {option : ItemOption} (listed : option ∈ kind.options) :
    Keys settings kind option option.name.toList := by
  have scans (after : List Char) : Expression.scan ((option.name.toList ++ '=' :: after).dropWhile Text.isBlank) =
      .token .identifier option.name.toList ('=' :: after) := by
    have visible : (option.name.toList ++ '=' :: after).dropWhile Text.isBlank = option.letters ++ '=' :: after := by
      obtain ⟨first, inner, same, -⟩ := option.letters_word
      change (option.letters ++ '=' :: after).dropWhile Text.isBlank = _
      rw [same]
      exact List.dropWhile_cons_of_neg (by decide)
    rw [visible]
    exact option.scan_letters_equal after
  exact keys_of_scan (List.forall_mem_nil _) (ItemOption.letters_found listed settings) scans

section

variable {keyword : BinaryOperator → String} (fixed : Keywords keyword) (plain : settings.customOperators = [])
variable (exact : settings.ignoreCase = false)

include fixed plain exact

theorem text_valued {option : ItemOption} (formed : source.toItemOptions.Formed settings Context.standing)
    (written : source.toItemOptions.text keyword option = some value)
    (room : 8 * (Text.byteLength value + 2) ≤ settings.maxDepth) :
    Valued settings settings.maxDepth (.fresh origin) option value source := by
  have holds : settings.Holds value := by unfold Settings.Holds; omega
  cases option with
  | filter =>
      obtain ⟨tree, given, rfl⟩ := Option.map_eq_some_iff.mp written
      have accepted := filter_text_parses fixed plain exact (formed.filter tree given) holds
      exact nested_valued .filter accepted room fun options => by rw [ParsedOption.into, ← given]; rfl
  | orderBy =>
      obtain ⟨items, given, rfl⟩ := Option.map_eq_some_iff.mp written
      obtain ⟨some, each⟩ := formed.orderBy items given
      have accepted := order_text_parses fixed plain exact some each holds
      exact nested_valued .orderBy accepted room fun options => by rw [ParsedOption.into, ← given]; rfl
  | top =>
      obtain ⟨count, given, rfl⟩ := Option.map_eq_some_iff.mp written
      exact top_valued (formed.top count given) given
  | skip =>
      obtain ⟨count, given, rfl⟩ := Option.map_eq_some_iff.mp written
      exact skip_valued (formed.skip count given) given
  | count =>
      obtain ⟨counts, given, rfl⟩ := Option.map_eq_some_iff.mp written
      exact count_valued given
  | search =>
      obtain ⟨tree, given, rfl⟩ := Option.map_eq_some_iff.mp written
      exact search_valued (formed.search tree given) given holds
  | compute =>
      obtain ⟨items, given, rfl⟩ := Option.map_eq_some_iff.mp written
      obtain ⟨some, each⟩ := formed.compute items given
      have accepted := compute_text_parses fixed plain exact some each holds
      exact nested_valued .compute accepted room fun options => by rw [ParsedOption.into, ← given]; rfl
  | select | expand | levels => cases written

end

end QueryOptions
