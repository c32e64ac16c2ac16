import QueryOptions.Proofs.Nested.Merge

set_option autoImplicit false

namespace QueryOptions

open Parse

theorem Cursor.dotted_name_single {cursor moved : Cursor} (acceptStar : Bool) (named : isName cursor.token)
    (advanced : advance cursor = .ok () moved) (single : moved.token.kind ≠ .dot) :
    dottedName acceptStar cursor = .ok cursor.token.text moved := by
  change (if isName cursor.token then _ else _ : Step String) cursor = _
  rw [if_pos named]
  change EStateM.bind advance _ cursor = _
  unfold EStateM.bind
  rw [advanced]
  change (if moved.token.kind = .dot then _ else _ : Step String) moved = _
  rw [if_neg single]
  rfl

namespace Items

variable {settings : Settings} {levels : Nat} {nested : ItemKind → String → Nat → Parse (List Item)}
variable {kind : ItemKind} {others : NestedOptions} {state after : ParseState} {moved : Cursor} {position : Nat}

theorem path_single (positive : 1 ≤ settings.maxPathLength) (name : state.cursor.token = ⟨.identifier, "A", position⟩)
    (advanced : Cursor.advance state.cursor = .ok () moved) (opening : moved.token.kind = .openParen) :
    path settings .expand state = .ok ["A"] { state with cursor := moved } := by
  have named : segmentName settings .expand state = .ok "A" { state with cursor := moved } := by
    change (if state.cursor.token.kind = .identifier ∧ state.cursor.token.text.toList.head? = some '$' then _
      else dottedName true : Parse String) state = _
    rw [name, if_neg fun system => absurd (show "A".toList.head? = some '$' from system.2) (by decide)]
    unfold dottedName move
    rw [Cursor.dotted_name_single true (by rw [name]; rfl) advanced (by simp [opening]), name]
  have bounded : segment settings .expand 0 none state = .ok "A" { state with cursor := moved } := by
    refine (bind_done (p := segmentName settings .expand) named).trans ?_
    change (if settings.maxPathLength < 0 + 1 then _ else _ : Parse String) _ = _
    rw [if_neg (by omega)]
    rfl
  refine (bind_done (p := segment settings .expand 0 none) bounded).trans ?_
  change (if moved.token.kind == .slash then _ else _ : Parse (List String)) _ = _
  rw [opening]
  rfl

theorem options_open (opening : state.cursor.token.kind = .openParen)
    (advanced : Cursor.advance state.cursor = .ok () moved) (going : moved.token.kind ≠ .closeParen) :
    options settings kind levels nested state =
      optionsFrom settings kind levels nested (moved.rest.length + 1) [] {} { state with cursor := moved } := by
  refine (bind_done (p := expect .openParen "'('") ((expect_found opening).trans (advance_done advanced))).trans ?_
  change (if moved.token.kind == .closeParen then _ else _ : Parse NestedOptions) _ = _
  rw [if_neg (by simpa using going)]
  rfl

theorem options_ok (opening : state.cursor.token.kind = .openParen)
    (done : options settings kind levels nested state = .ok others after) :
    ∃ moved, Cursor.advance state.cursor = .ok () moved ∧
      optionsFrom settings kind levels nested (moved.rest.length + 1) [] {} { state with cursor := moved } =
        .ok others after := by
  obtain ⟨_, between, stepped, rest⟩ := bind_ok (p := expect .openParen "'('") done
  rw [expect_found opening] at stepped
  obtain ⟨moved, advanced, rfl⟩ := advance_ok stepped
  refine ⟨moved, advanced, ?_⟩
  change (if moved.token.kind == .closeParen then _ else _ : Parse NestedOptions) _ = _ at rest
  by_cases closing : moved.token.kind = .closeParen
  · rw [if_pos (beq_iff_eq.mpr closing)] at rest
    cases rest
  · rw [if_neg (by simpa using closing)] at rest
    exact rest

theorem item_single (positive : 1 ≤ settings.maxPathLength) (name : state.cursor.token = ⟨.identifier, "A", position⟩)
    (advanced : Cursor.advance state.cursor = .ok () moved) (opening : moved.token.kind = .openParen) :
    item settings .expand levels nested state =
      (do return ⟨["A"], ← options settings .expand levels nested⟩ : Parse Item) { state with cursor := moved } := by
  refine (bind_done (path_single positive name advanced opening)).trans ?_
  change (if moved.token.kind == .openParen then _ else _ : Parse Item) _ = _
  rw [if_pos (beq_iff_eq.mpr opening)]

def further (settings : Settings) (kind : ItemKind) (levels : Nat)
    (nested : ItemKind → String → Nat → Parse (List Item)) : Parse (List Item) := do
  let items ← separated .comma (item settings kind levels nested) ((← get).cursor.rest.length + 1)
  expectEnd
  pure items

theorem list_of_first {first : Item} (going : state.cursor.token.kind ≠ .finish)
    (done : item settings kind levels nested state = .ok first after) :
    list settings kind levels nested state =
      (do return first :: (← further settings kind levels nested) : Parse (List Item)) after := by
  change (if state.cursor.token.kind == .finish then _ else _ : Parse (List Item)) state = _
  rw [if_neg (by simpa using going), sepBy, bind_assoc]
  refine (bind_done done).trans ?_
  simp only [further, bind_assoc, pure_bind]

theorem list_first {items : List Item} (going : state.cursor.token.kind ≠ .finish)
    (done : list settings kind levels nested state = .ok items after) :
    ∃ first between rest, item settings kind levels nested state = .ok first between ∧
      further settings kind levels nested between = .ok rest after ∧ items = first :: rest := by
  have whole := done
  change (if state.cursor.token.kind == .finish then _ else _ : Parse (List Item)) state = _ at whole
  rw [if_neg (by simpa using going), sepBy, bind_assoc] at whole
  obtain ⟨first, between, ran, -⟩ := bind_ok whole
  rw [list_of_first going ran] at done
  obtain ⟨rest, _, more, last⟩ := bind_ok done
  cases last
  exact ⟨first, between, rest, ran, more, rfl⟩

theorem separated_nil {separator : TokenKind} {entry : Parse Item} {count : Nat}
    (done : separated separator entry (count + 1) state = .ok [] after) : after = state := by
  change (if state.cursor.token.kind == separator then _ else _ : Parse (List Item)) state = _ at done
  by_cases more : state.cursor.token.kind == separator
  · rw [if_pos more] at done
    obtain ⟨_, _, _, rest⟩ := bind_ok done
    obtain ⟨first, _, _, rest⟩ := bind_ok rest
    obtain ⟨others, _, _, rest⟩ := bind_ok rest
    cases rest
  · rw [if_neg more] at done
    cases done
    rfl

theorem further_none : further settings kind levels nested state = .ok [] after ↔
    after = state ∧ state.cursor.token.kind = .finish := by
  constructor
  · intro done
    obtain ⟨items, between, ran, rest⟩ := bind_ok (p := separated .comma _ (state.cursor.rest.length + 1)) done
    obtain ⟨_, _, looked, last⟩ := bind_ok rest
    cases last
    obtain rfl := separated_nil ran
    exact expect_end_ok looked
  · rintro ⟨rfl, finish⟩
    have none : separated .comma (item settings kind levels nested) (after.cursor.rest.length + 1) after =
        .ok [] after := by
      change (if after.cursor.token.kind == .comma then _ else _ : Parse (List Item)) after = _
      rw [finish]
      rfl
    have ended : expectEnd after = .ok () after := by
      change (if after.cursor.token.kind = .finish then pure () else _ : Parse Unit) after = _
      rw [if_pos finish]
      rfl
    exact (bind_done (p := separated .comma _ (after.cursor.rest.length + 1)) none).trans (bind_done ended)

end Items

def ParseState.fresh (cursor : Cursor) : ParseState := { cursor := cursor, scope := Context.standing }

def Cursor.named (body : List Char) : Cursor :=
  (Cursor.start (String.ofList ('A' :: '(' :: body)) .expression 0 false).onto .identifier ['A'] ('(' :: body)

def Cursor.opened (body : List Char) : Cursor := (Cursor.named body).onto .openParen ['('] body

theorem advance_named (body : List Char) :
    Cursor.advance (.start (String.ofList ('A' :: '(' :: body)) .expression 0 false) = .ok () (.named body) := by
  have word : Expression.scan ('A' :: ([] ++ '(' :: body)) = .token .identifier ['A'] ('(' :: body) := by
    refine (Expression.scan_of_branch (.word rfl (absurd · (by decide)))).trans ?_
    exact (scan_letters (by simp) (Expression.parted_mark (by decide) body)).trans
      (congrArg (Scan.token · _ _) (by decide))
  exact Cursor.advance_onto rfl String.toList_ofList rfl word

theorem advance_opened (body : List Char) : Cursor.advance (.named body) = .ok () (.opened body) :=
  Cursor.advance_punctuation rfl rfl rfl rfl

theorem to_expand_injective {first second : Item} (same : first.toExpand = second.toExpand) : first = second := by
  obtain ⟨path, ⟨_, _, _, _⟩⟩ := first
  obtain ⟨path', ⟨_, _, _, _⟩⟩ := second
  simp only [Item.toExpand, ExpandItem.mk.injEq] at same
  obtain ⟨rfl, rfl, rfl, rfl, rfl⟩ := same
  rfl

theorem expand_named (settings : Settings) (body : List Char) :
    QueryOption.expand.parser settings (QueryOption.expand.start (String.ofList ('A' :: '(' :: body))) =
      QueryOption.expand.grammar settings settings.maxDepth (.fresh (.named body)) :=
  bind_done (advance_done (advance_named body))

theorem item_opened (settings : Settings) (positive : 1 ≤ settings.maxPathLength) (body : List Char) :
    Items.item settings .expand settings.maxDepth (Items.inner settings settings.maxDepth) (.fresh (.named body)) =
      (do
        return ⟨["A"], ← Items.options settings .expand settings.maxDepth (Items.inner settings settings.maxDepth)⟩ :
          Parse Item) (.fresh (.opened body)) :=
  Items.item_single positive rfl (advance_opened body) rfl

theorem expand_front (settings : Settings) (positive : 1 ≤ settings.maxPathLength) (body : List Char)
    (parsed : ParsedOption) :
    parse settings .expand (String.ofList ('A' :: '(' :: body)) = .ok parsed ↔
      ∃ given between rest after, Items.options settings .expand settings.maxDepth
          (Items.inner settings settings.maxDepth) (.fresh (.opened body)) = .ok given between ∧
        Items.further settings .expand settings.maxDepth (Items.inner settings settings.maxDepth) between =
          .ok rest after ∧
        parsed = .expand ((⟨["A"], given⟩ :: rest).map Item.toExpand) := by
  constructor
  · intro done
    obtain ⟨after, ran⟩ := parser_ok done
    rw [expand_named] at ran
    obtain ⟨items, _, ran, last⟩ := bind_ok ran
    cases last
    rw [Items.whole_by_inner] at ran
    obtain ⟨first, between, rest, item, more, rfl⟩ := Items.list_first (fun same => by cases same) ran
    rw [item_opened settings positive] at item
    obtain ⟨given, _, read, last⟩ := bind_ok item
    cases last
    exact ⟨given, _, rest, _, read, more, rfl⟩
  · rintro ⟨given, between, rest, after, read, more, rfl⟩
    have item := (item_opened settings positive body).trans (bind_done read)
    have list := (Items.list_of_first (fun same => by cases same) item).trans (bind_done more)
    rw [← Items.whole_by_inner] at list
    exact parse_of_ok ((expand_named settings body).trans (bind_done list))

theorem expand_single (settings : Settings) (positive : 1 ≤ settings.maxPathLength) (body : List Char)
    (others : NestedOptions) :
    parse settings .expand (String.ofList ('A' :: '(' :: body)) = .ok (.expand [Item.toExpand ⟨["A"], others⟩]) ↔
      ∃ after, Items.options settings .expand settings.maxDepth (Items.inner settings settings.maxDepth)
        (.fresh (.opened body)) = .ok others after ∧ after.cursor.token.kind = .finish := by
  rw [expand_front settings positive]
  constructor
  · rintro ⟨given, between, rest, after, read, more, same⟩
    obtain ⟨first, none⟩ := List.cons.inj (ParsedOption.expand.inj same)
    obtain rfl : others = given := congrArg Item.options (to_expand_injective first)
    obtain rfl := List.map_eq_nil_iff.mp none.symm
    exact ⟨between, read, (Items.further_none.mp more).2⟩
  · rintro ⟨after, read, finish⟩
    exact ⟨others, after, [], after, read, Items.further_none.mpr ⟨rfl, finish⟩, rfl⟩

theorem expand_options {settings : Settings} (positive : 1 ≤ settings.maxPathLength) {body : List Char}
    {parsed : ParsedOption} (done : parse settings .expand (String.ofList ('A' :: '(' :: body)) = .ok parsed) :
    ∃ others after, Items.options settings .expand settings.maxDepth (Items.inner settings settings.maxDepth)
      (.fresh (.opened body)) = .ok others after := by
  obtain ⟨given, between, _, _, read, -⟩ := (expand_front settings positive body parsed).mp done
  exact ⟨given, between, read⟩

namespace ItemOption

def letters (option : ItemOption) : List Char := option.name.toList

theorem letters_word (option : ItemOption) : ∃ first inner, option.letters = '$' :: first :: inner ∧
    ∀ c ∈ first :: inner, Text.isIdentifierContinue c := by
  cases option <;> exact ⟨_, _, rfl, List.all_eq_true.mp (by decide)⟩

theorem letters_kind (option : ItemOption) : Expression.wordKind (String.ofList option.letters) = .identifier := by
  cases option <;> decide

theorem letters_found {kind : ItemKind} {option : ItemOption} (listed : option ∈ kind.options) (settings : Settings) :
    kind.option? settings (String.ofList option.letters) = some option := by
  have found (ignoreCase : Bool) : kind.options.find? (fun other =>
      Text.sameWord ignoreCase option.bareName other.bareName) = some option := by
    revert listed
    cases kind <;> cases option <;> cases ignoreCase <;> decide
  refine Eq.trans ?_ (found settings.ignoreCase)
  cases option <;> rfl

theorem expand_lists (option : ItemOption) : option ∈ ItemKind.expand.options := by cases option <;> decide

theorem scan_letters_equal (option : ItemOption) (after : List Char) :
    Expression.scan (option.letters ++ '=' :: after) = .token .identifier option.letters ('=' :: after) := by
  have word := option.letters_kind
  obtain ⟨first, inner, same, letters⟩ := option.letters_word
  rw [same] at word ⊢
  have starts : Expression.scan ('$' :: first :: inner ++ '=' :: after) =
      Expression.scanWord '$' ((first :: inner) ++ '=' :: after) :=
    Expression.scan_of_branch (.word rfl fun _ => letters first List.mem_cons_self)
  rw [starts, scan_letters letters (Expression.parted_mark (by decide) after), word]

def onName (option : ItemOption) (after : List Char) : Cursor :=
  (Cursor.opened (option.letters ++ '=' :: after)).onto .identifier option.letters ('=' :: after)

theorem advance_name (option : ItemOption) (after : List Char) :
    Cursor.advance (.opened (option.letters ++ '=' :: after)) = .ok () (option.onName after) := by
  obtain ⟨first, inner, same, -⟩ := option.letters_word
  have scan := option.scan_letters_equal after
  unfold onName
  rw [same] at scan ⊢
  exact Cursor.advance_onto rfl rfl rfl scan

def onEqual (option : ItemOption) (after : List Char) : Cursor := (option.onName after).onto .equal ['='] after

theorem advance_equal (option : ItemOption) (after : List Char) :
    Cursor.advance (option.onName after) = .ok () (option.onEqual after) := Cursor.advance_punctuation rfl rfl rfl rfl

def onDelimiter (option : ItemOption) (value : String) (delimiter : TokenKind) (c : Char) (after : List Char) : Cursor :=
  (option.onEqual (value.toList ++ c :: after)).pastValue value.toList delimiter c after

theorem named (option : ItemOption) (settings : Settings) (after : List Char) :
    Items.Named settings .expand option (.fresh (option.onName after)) (option.onEqual after) where
  advanced := option.advance_equal after
  equal := rfl
  again _ fresh := Items.option_name_found rfl (letters_found option.expand_lists settings) (option.advance_equal after) rfl fresh

end ItemOption

variable {settings : Settings} {kind : NestedKind} {value : String} {parsed : ParsedOption} {after : ParseState}

theorem first_round {c : Char} {delimiter : TokenKind} {text : List Char} {moved : Cursor}
    (done : kind.option.parser settings (kind.option.start value) = .ok parsed after) (delimits : Delimiter c delimiter)
    (advanced : Cursor.advance (kind.itemOption.onDelimiter value delimiter c text) = .ok () moved) :
    Items.Round (kind.settingsOf settings) .expand (settings.maxDepth + kind.levels)
      (Items.inner (kind.settingsOf settings) (settings.maxDepth + kind.levels)) {} kind.itemOption
      (.fresh (kind.itemOption.onName (value.toList ++ c :: text))) (parsed.into {})
      (kind.itemOption.onDelimiter value delimiter c text) moved := by
  exact ⟨⟨_, _, _, kind.itemOption.named _ _, option_value_cut (accepted_crosses done) rfl rfl delimits,
    read_value_extends {} _ done rfl rfl rfl⟩, advanced⟩

def readOptions (settings : Settings) (kind : NestedKind) (body : List Char) :
    EStateM.Result ParseError ParseState NestedOptions :=
  Items.options (kind.settingsOf settings) .expand (settings.maxDepth + kind.levels)
    (Items.inner (kind.settingsOf settings) (settings.maxDepth + kind.levels)) (.fresh (.opened body))

theorem read_options_first {c : Char} {delimiter : TokenKind} {text : List Char} {moved : Cursor}
    (done : kind.option.parser settings (kind.option.start value) = .ok parsed after) (delimits : Delimiter c delimiter)
    (advanced : Cursor.advance (kind.itemOption.onDelimiter value delimiter c text) = .ok () moved) :
    readOptions settings kind (kind.itemOption.letters ++ '=' :: (value.toList ++ c :: text)) =
      (if delimiter == .closeParen then pure (parsed.into {})
        else Items.optionsFrom (kind.settingsOf settings) .expand (settings.maxDepth + kind.levels)
          (Items.inner (kind.settingsOf settings) (settings.maxDepth + kind.levels))
          (value.toList ++ c :: text).length.succ [kind.itemOption] (parsed.into {}) : Parse NestedOptions)
        (.fresh moved) :=
  (Items.options_open rfl (kind.itemOption.advance_name _) (fun same => by cases same)).trans
    (Items.options_from_round (first_round done delimits advanced) List.not_mem_nil)

theorem read_options_alone (done : kind.option.parser settings (kind.option.start value) = .ok parsed after) :
    ∃ last,
      readOptions settings kind (kind.itemOption.letters ++ '=' :: (value.toList ++ [')'])) = .ok (parsed.into {}) last ∧
      last.cursor.token.kind = .finish := by
  have ended : Cursor.advance (kind.itemOption.onDelimiter value .closeParen ')' []) =
      .ok () ((kind.itemOption.onDelimiter value .closeParen ')' []).onto .finish [] []) := Cursor.advance_end rfl rfl
  exact ⟨_, read_options_first done .close ended, rfl⟩

theorem advance_forgets {cursor moved : Cursor} (advanced : Cursor.advance cursor = .ok () moved) (token : Token) :
    Cursor.advance { cursor with token := token } = .ok () moved := by
  obtain ⟨rest, offset, token', dialect, keepsBlanks⟩ := cursor
  unfold Cursor.advance at advanced ⊢
  dsimp only at advanced ⊢
  by_cases blank : keepsBlanks ∧ dialect = .expression ∧ rest.takeWhile Text.isBlank ≠ []
  · rw [if_pos blank] at advanced ⊢
    exact advanced
  · rw [if_neg blank] at advanced ⊢
    cases outcome : (dialect.scan (rest.dropWhile Text.isBlank)).outcome with
    | ok kind =>
        rw [outcome] at advanced
        exact advanced
    | error error =>
        rw [outcome] at advanced
        cases advanced

theorem Items.further_related {settings' : Settings} {place : String → Nat → Nat → Prop} {Sim : Relation}
    (S : NestedSimulation settings settings' place Sim) {levels levels' : Nat}
    (leaves : Leaves settings Sim levels levels')
    {nested nested' : ItemKind → String → Nat → Parse (List Item)}
    (lists : Items.NestedRelated place Sim nested nested') (kind : ItemKind) :
    Sim .rule _ (further settings kind levels nested) (further settings' kind levels' nested') :=
  S.length
    (f := fun length => do
      let items ← separated .comma (item settings kind levels nested) (length + 1)
      expectEnd
      pure items)
    (g := fun length => do
      let items ← separated .comma (item settings' kind levels' nested') (length + 1)
      expectEnd
      pure items)
    fun length => S.bind (S.separated .comma (item_related S leaves lists kind) (length + 1)) fun _ =>
      S.bind S.expectEnd fun _ => S.pure _

theorem inner_related {settings' : Settings} {place : String → Nat → Nat → Prop} {Sim : Relation}
    (S : NestedSimulation settings settings' place Sim) (levels : Nat) :
    Items.NestedRelated place Sim (Items.inner settings levels) (Items.inner settings' levels) := by
  intro list value position position' alike
  unfold Items.inner
  split
  · exact S.tooDeep
  · exact S.recurse 8 (S.within value .expression alike (Items.whole_related S list _ _ (.inl rfl)))

def NestedKind.width (kind : NestedKind) (value : String) : Nat :=
  Text.byteLength kind.itemOption.letters + Text.byteLength ['='] + Text.byteLength value.toList + Text.byteLength [';']

theorem advance_semicolon {text : List Char} {moved : Cursor}
    (advanced : Cursor.advance (.opened text) = .ok () moved) :
    Cursor.advance (kind.itemOption.onDelimiter value .semicolon ';' text) = .ok () (moved.shift (kind.width value)) := by
  have shifted : Cursor.advance ((Cursor.opened text).shift (kind.width value)) =
      .ok () (moved.shift (kind.width value)) := by
    rw [Cursor.advance_shifts (.opened text), advanced]
    rfl
  have same : kind.itemOption.onDelimiter value .semicolon ';' text =
      { (Cursor.opened text).shift (kind.width value) with
        token := (kind.itemOption.onDelimiter value .semicolon ';' text).token } := by
    have offset : (kind.itemOption.onDelimiter value .semicolon ';' text).offset =
        kind.width value + (Cursor.opened text).offset := by
      change 0 + Text.byteLength ['A'] + Text.byteLength ['('] + Text.byteLength kind.itemOption.letters +
        Text.byteLength ['='] + Text.byteLength value.toList + Text.byteLength [';'] =
          _ + (0 + Text.byteLength ['A'] + Text.byteLength ['('])
      unfold NestedKind.width
      omega
    change Cursor.mk _ (kind.itemOption.onDelimiter value .semicolon ';' text).offset _ _ _ = _
    rw [offset]
    rfl
  rw [same]
  exact advance_forgets shifted _

theorem parsed_option (done : kind.option.parser settings (kind.option.start value) = .ok parsed after) :
    parsed.itemOption? = some kind.itemOption := by
  obtain ⟨_, between, _, ran⟩ := bind_ok done
  cases kind
  all_goals
    obtain ⟨_, _, _, rest⟩ := bind_ok ran
    cases rest
    rfl

theorem read_options_behind {text : List Char} {others : NestedOptions} {last : ParseState}
    (done : kind.option.parser settings (kind.option.start value) = .ok parsed after)
    (further : readOptions settings kind text = .ok others last) (lacks : ¬ kind.itemOption.given others) :
    readOptions settings kind (kind.itemOption.letters ++ '=' :: (value.toList ++ ';' :: text)) =
      .ok (parsed.into others) (last.shift (kind.width value) 0) := by
  -- The run of the further options alone, moved to where they stand behind the semicolon.
  obtain ⟨moved, advanced, ran⟩ := Items.options_ok rfl further
  have S : NestedSimulation (kind.settingsOf settings) (kind.settingsOf settings)
      (fun _ place place' => place' = kind.width value + place) (Extension (kind.width value) 0) :=
    Extension.simulation (Nat.le_refl _)
  have extended := Items.optionsFrom_related S (.inl (Eq.refl (settings.maxDepth + kind.levels)))
    (inner_related S (settings.maxDepth + kind.levels)) .expand (moved.rest.length + 1) [] {} (.fresh moved)
  rw [show Items.optionsFrom _ _ _ _ _ _ _ (ParseState.fresh moved) = _ from ran] at extended
  have stepped : Cursor.advance (kind.itemOption.onDelimiter value .semicolon ';' text) =
      .ok () (moved.shift (kind.width value)) := advance_semicolon advanced
  have lexed : Cursor.Lexed .expression (moved.shift (kind.width value)) :=
    (Cursor.advance_lexed rfl stepped).1
  have suffix := (rest_suffix rfl advanced).length_le
  have within := moved.rest_le_ahead
  have enough : moved.rest.length < (value.toList ++ ';' :: text).length.succ := by
    change moved.ahead.length ≤ text.length at suffix
    simp only [List.length_append, List.length_cons]
    omega
  refine (read_options_first done .semicolon stepped).trans ?_
  exact Items.options_from_into (Items.inner_fits _ _) (parsed_option done) extended lexed (Nat.lt_succ_self _) enough
    (fun option member => .inr (List.mem_singleton.mp member)) lacks

theorem expand_prepends (settings : Settings) (kind : NestedKind) {text : List Char} {others : NestedOptions}
    {items : List ExpandItem} (positive : 1 ≤ settings.maxPathLength)
    (accepted : parse settings kind.option value = .ok parsed) (lacks : ¬ kind.itemOption.given others)
    (whole : parse (kind.settingsOf settings) .expand (String.ofList ('A' :: '(' :: text)) =
      .ok (.expand (Item.toExpand ⟨["A"], others⟩ :: items))) :
    parse (kind.settingsOf settings) .expand
        (String.ofList ('A' :: '(' :: (kind.itemOption.letters ++ '=' :: (value.toList ++ ';' :: text)))) =
      .ok (.expand (Item.toExpand ⟨["A"], parsed.into others⟩ :: items)) := by
  obtain ⟨after, done⟩ := parser_ok accepted
  have front := expand_front (kind.settingsOf settings) positive
  obtain ⟨given, last, rest, ended, read, more, same⟩ := (front _ _).mp whole
  obtain ⟨first, rfl⟩ := List.cons.inj (ParsedOption.expand.inj same)
  obtain rfl : others = given := congrArg Item.options (to_expand_injective first)
  have S : NestedSimulation (kind.settingsOf settings) (kind.settingsOf settings)
      (fun _ place place' => place' = kind.width value + place) (Extension (kind.width value) 0) :=
    Extension.simulation (Nat.le_refl _)
  have extended := Items.further_related S (.inl (Eq.refl (kind.settingsOf settings).maxDepth))
    (inner_related S (kind.settingsOf settings).maxDepth) .expand last
  rw [more] at extended
  exact (front _ _).mpr ⟨_, _, rest, _, read_options_behind done read lacks, extended, rfl⟩

def itemText (options : String) : String := "A(" ++ options ++ ")"

theorem item_text_list (options : String) :
    itemText options = String.ofList ('A' :: '(' :: (options.toList ++ [')'])) := by
  rw [← String.toList_inj, String.toList_ofList, itemText, String.toList_append, String.toList_append]
  rfl

-- A nested option comes to what its text comes to by itself, a list of items with eight
-- levels more. It does so alone and with other options after it, whose fields stay as they
-- are.
theorem nested_option_agrees (settings : Settings) (kind : NestedKind) (value : String) (parsed : ParsedOption)
    (positive : 1 ≤ settings.maxPathLength) (accepted : parse settings kind.option value = .ok parsed) :
    parsed.itemOption? = some kind.itemOption ∧
    parse (kind.settingsOf settings) .expand (itemText (kind.itemOption.name ++ "=" ++ value)) =
      .ok (.expand [Item.toExpand ⟨["A"], parsed.into {}⟩]) ∧
    ∀ more others,
      parse (kind.settingsOf settings) .expand (itemText more) = .ok (.expand [Item.toExpand ⟨["A"], others⟩]) →
      ¬ kind.itemOption.given others →
      parse (kind.settingsOf settings) .expand (itemText (kind.itemOption.name ++ "=" ++ value ++ ";" ++ more)) =
        .ok (.expand [Item.toExpand ⟨["A"], parsed.into others⟩]) := by
  obtain ⟨after, done⟩ := parser_ok accepted
  have single := expand_single (kind.settingsOf settings) positive
  have alone : (kind.itemOption.name ++ "=" ++ value).toList ++ [')'] =
      kind.itemOption.letters ++ '=' :: (value.toList ++ [')']) := by
    simp only [String.toList_append, List.append_assoc]
    rfl
  refine ⟨parsed_option done, ?_, fun more others further lacks => ?_⟩
  · rw [item_text_list, alone]
    exact (single _ _).mpr (read_options_alone done)
  · have followed : (kind.itemOption.name ++ "=" ++ value ++ ";" ++ more).toList ++ [')'] =
        kind.itemOption.letters ++ '=' :: (value.toList ++ ';' :: (more.toList ++ [')'])) := by
      simp only [String.toList_append, List.append_assoc]
      rfl
    rw [item_text_list] at further
    obtain ⟨last, ran, finish⟩ := (single _ _).mp further
    have behind := read_options_behind done ran lacks
    rw [item_text_list, followed]
    exact (single _ _).mpr ⟨_, behind, finish⟩

def literalFilter? : Except ParseError ParsedOption → Option (TokenKind × String)
  | .ok (.filter (.literal kind text)) => some (kind, text)
  | _ => none

theorem literal_filter {result : Except ParseError ParsedOption} {kind : TokenKind} {text : String}
    (found : literalFilter? result = some (kind, text)) : result = .ok (.filter (.literal kind text)) := by
  unfold literalFilter? at found
  split at found <;> cases found
  rfl

def countedExpand? : Except ParseError ParsedOption → Option (List String × Nat)
  | .ok (.expand [⟨path, ⟨none, none, some count, none, none, none, none⟩, none, none, none⟩]) => some (path, count)
  | _ => none

theorem counted_expand {result : Except ParseError ParsedOption} {path : List String} {count : Nat}
    (found : countedExpand? result = some (path, count)) :
    result = .ok (.expand [Item.toExpand ⟨path, { top := some count }⟩]) := by
  unfold countedExpand? at found
  split at found <;> cases found
  rfl

theorem nested_filter_agrees :
    parse { maxDepth := 7 } .expand "A($filter=';)';$top=1)" =
      .ok (.expand [⟨["A"], { filter := some (.literal .stringLiteral "';)'"), top := some 1 }, none, none, none⟩]) := by
  have accepted : parse { maxDepth := 7 } .filter "';)'" = .ok (.filter (.literal .stringLiteral "';)'")) := by
    exact literal_filter (by decide +kernel)
  have further : parse { maxDepth := 7 } .expand (itemText "$top=1") =
      .ok (.expand [Item.toExpand ⟨["A"], { top := some 1 }⟩]) := by
    exact counted_expand (by decide +kernel)
  have agrees := nested_option_agrees { maxDepth := 7 } .filter "';)'" _ (by decide) accepted
  exact agrees.2.2 "$top=1" _ further (by decide)

end QueryOptions
