import QueryOptions.Proofs.Levels.Operand

set_option autoImplicit false

namespace QueryOptions

open Parse Expression

variable {settings : Settings} {levels count : Nat} {left : Expr} {text tail : List Char} {name : String}
variable {entry : List Char × Expr} {entries : List (List Char × Expr)}

def FilterItem (settings : Settings) (entry : List Char × Expr) : Prop :=
  ∃ cursor, Rereads (EndsText settings) (.fresh cursor) (disjunction settings settings.maxDepth) entry.1 entry.2

def others (tail : List Char) : List (List Char × Expr) → List Char
  | [] => ')' :: tail
  | entry :: entries => ',' :: (entry.1 ++ others tail entries)

theorem ends_at_comma (text : List Char) : EndsText settings (',' :: text) where
  delimited := delimited_mark rfl text
  scannable := ⟨_, _, _, scan_mark rfl rfl text⟩
  ends _ on := ends_expression_of_kind (Cursor.begins_mark on rfl rfl).2.2 (by decide)

theorem ends_at_others (tail : List Char) (entries : List (List Char × Expr)) : EndsText settings (others tail entries) := by
  cases entries with
  | nil => exact ends_at_parenthesis tail
  | cons entry entries => exact ends_at_comma _

theorem item_scannable (listed : FilterItem settings entry) (tail : List Char) (entries : List (List Char × Expr)) :
    Scannable (entry.1 ++ others tail entries) := by
  obtain ⟨cursor, reads⟩ := listed
  exact reads.scannable _ (ends_at_others tail entries)

-- An item is read in every list, so there are levels for it and it does not start with the end of the list.
theorem item_reads (listed : FilterItem settings entry) (tail : List Char) (entries : List (List Char × Expr)) {cursor : Cursor}
    (on : cursor.Begins (entry.1 ++ others tail entries)) :
    ∃ moved, disjunction settings settings.maxDepth (.fresh cursor) = .ok entry.2 (.fresh moved) := by
  obtain ⟨_, reads⟩ := listed
  obtain ⟨-, moved, ran, -⟩ := reads.read _ cursor (ends_at_others tail entries) on
  exact ⟨moved, ran⟩

theorem item_opens (listed : FilterItem settings entry) {scope : List String} {cursor : Cursor}
    (holds : At (entry.1 ++ others tail entries) scope cursor) : cursor.token.kind ≠ .closeParen := by
  obtain ⟨moved, ran⟩ := item_reads listed tail entries holds.2
  obtain ⟨lexemes, walks, derives⟩ := (sound settings settings.maxDepth).rule 0 (by decide) _ _ _ ran
  exact derives_head derives _ (Cursor.head_of_spans walks.spans (derives_ne_nil derives))

theorem item_deep (listed : FilterItem settings entry) : ∃ further, settings.maxDepth = further + 5 := by
  have plain : (Cursor.start (String.ofList (entry.1 ++ others [] [])) .expression 0 false).Plain .expression := ⟨rfl, rfl⟩
  obtain ⟨cursor, -, on⟩ := Cursor.begins_advance plain String.toList_ofList (item_scannable listed [] [])
  obtain ⟨moved, ran⟩ := item_reads listed [] [] on
  replace ran : rule settings 0 settings.maxDepth (.fresh cursor) = _ := ran
  obtain ⟨further, _, _, deep, -⟩ := prefixed_of_rule ran (show 0 + 5 = 5 from rfl)
  exact ⟨further, deep⟩

theorem others_comma (listed : FilterItem settings entry) :
    Starts (others tail (entry :: entries)) ⟨.comma, String.ofList [',']⟩ (entry.1 ++ others tail entries) :=
  .mark rfl rfl (by decide) (item_scannable listed tail entries)

theorem others_length (tail : List Char) (entries : List (List Char × Expr)) :
    entries.length < (others tail entries).length := by
  induction entries with
  | nil => exact Nat.succ_pos _
  | cons entry entries ih =>
      rw [others, List.length_cons, List.length_cons, List.length_append]
      omega

section

variable (limit : Nat)

theorem gets_item (listed : FilterItem settings entry) :
    Gets (settings.withDepth limit) .rule settings.maxDepth (disjunction (settings.withDepth limit) settings.maxDepth)
      (At (entry.1 ++ others tail entries)) entry.2 (At (others tail entries)) := by
  obtain ⟨cursor, reads⟩ := listed
  exact expression_gets reads (ends_at_others tail entries) limit

theorem gets_others (each : ∀ entry ∈ entries, FilterItem settings entry) (enough : entries.length ≤ count) :
    Gets (settings.withDepth limit) .rule settings.maxDepth
      (separated .comma (disjunction (settings.withDepth limit) settings.maxDepth) count) (At (others tail entries))
      (entries.map Prod.snd) (At (')' :: tail)) := by
  induction entries generalizing count with
  | nil =>
      intro state holds _
      exact ⟨state, separated_stops _ (by rw [(Cursor.begins_mark holds.2 rfl rfl).2.2]; decide), holds, kept_same _ _⟩
  | cons entry entries ih =>
      obtain ⟨listed, later⟩ := List.forall_mem_cons.mp each
      obtain ⟨count, rfl⟩ := Nat.exists_eq_succ_of_ne_zero (Nat.ne_zero_of_lt enough)
      have comma := @others_comma _ tail entry entries listed
      have goes : Finds (atKind .comma) (At (others tail (entry :: entries))) true :=
        finds_kind fun _ _ holds => beq_of_eq (congrArg Lexeme.kind (comma.sees holds))
      refine gets_look goes (gets_advance (fun _ _ => comma.moves) (gets_bind (gets_item limit listed) ?_))
      exact gets_bind (ih later (Nat.le_of_succ_le_succ enough)) (gets_pure _)

-- There are never more items than characters ahead, so none is left over.
theorem gets_items (each : ∀ item ∈ entry :: entries, FilterItem settings item) :
    Gets (settings.withDepth limit) .rule settings.maxDepth
      (sepBy .comma (disjunction (settings.withDepth limit) settings.maxDepth)) (At (entry.1 ++ others tail entries))
      ((entry :: entries).map Prod.snd) (At (')' :: tail)) := by
  obtain ⟨listed, later⟩ := List.forall_mem_cons.mp each
  refine gets_bind (gets_item limit listed) fun state holds enough => ?_
  have room : entries.length ≤ state.cursor.rest.length + 1 := by
    have fits := others_length tail entries
    have length : (others tail entries).length ≤ state.cursor.rest.length + 1 := by
      cases entries <;> rw [others, (Cursor.begins_mark holds.2 rfl rfl).2.1, List.length_cons]
    omega
  exact gets_map (f := (entry.2 :: ·)) (gets_others limit later room) state holds enough

end

theorem gets_call {value : List Expr} (named : Starts (name.toList ++ '(' :: text) ⟨.identifier, name⟩ ('(' :: text))
    (next : Scannable text) (last : Scannable tail)
    (some : ∀ scope cursor, At text scope cursor → cursor.token.kind ≠ .closeParen)
    (bounds : ∀ moved : Cursor, moved.Begins tail → moved.token.kind ≠ .slash)
    (items : Gets settings .rule levels (sepBy .comma (disjunction settings levels)) (At text) value (At (')' :: tail))) :
    Gets settings .rule (levels + 3) (primary settings (levels + 3)) (At (name.toList ++ '(' :: text))
      (.call name value none) (At tail) := by
  have opens : Starts ('(' :: text) ⟨.openParen, _⟩ text := .mark rfl rfl (by decide) next
  have closes : Starts (')' :: tail) ⟨.closeParen, _⟩ tail := .mark rfl rfl (by decide) last
  have opening : Finds (atKind .openParen) (At ('(' :: text)) true :=
    finds_kind fun _ _ holds => beq_of_eq (congrArg Lexeme.kind (opens.sees holds))
  have going : Finds (atKind .closeParen) (At text) false := finds_kind fun _ _ holds => beq_false_of_ne (some _ _ holds)
  have closing : Finds (atKind .closeParen) (At (')' :: tail)) true :=
    finds_kind fun _ _ holds => beq_of_eq (congrArg Lexeme.kind (closes.sees holds))
  have arguments : Gets settings .rule levels (arguments (disjunction settings levels)) (At ('(' :: text)) value (At tail) :=
    gets_bind (gets_mark opens rfl _) (gets_look going (gets_bind items
      (gets_look closing (gets_advance (fun _ _ => closes.moves) (gets_pure value)))))
  have segment : Gets settings .rule (levels + 1) (segment settings (disjunction settings levels) none)
      (At (name.toList ++ '(' :: text)) (.call name value none) (At tail) := by
    refine gets_bind (gets_dotted_name named rfl fun moved on => ?_) (gets_look opening ?_)
    · rw [(Cursor.begins_mark on rfl rfl).2.2]
      decide
    · cases Quantifier.ofName? name <;> exact gets_bind (gets_recurse arguments) (gets_pure _)
  refine gets_path named (gets_chain ?_)
  exact gets_single_segment segment fun _ cursor holds => bounds cursor holds.2

theorem in_stops : Stops settings 3 ⟨.identifier, "in"⟩ where
  operators tighter more := by
    obtain ⟨further, rfl⟩ := Nat.exists_eq_add_of_le more
    rcases further with _ | _ | further
    · change BinaryOperator.ofKeyword? BinaryOperator.additions settings.ignoreCase "in" = none
      cases settings.ignoreCase <;> decide
    · change BinaryOperator.ofKeyword? BinaryOperator.multiplications settings.ignoreCase "in" = none
      cases settings.ignoreCase <;> decide
    · rw [show 3 + (further + 1 + 1) = further + 5 by omega]
      rfl
  membership tighter more := Bool.eq_false_iff.mpr fun tests => absurd (membership_level tests) (by omega)

theorem gets_membership {value : List Expr} {here : List String → Cursor → Prop} (next : Scannable text) (last : Scannable tail)
    (stops : ∀ moved : Cursor, moved.Begins tail → Stops settings 0 moved.token.lexeme)
    (operand : Gets settings .rule (levels + 2) (rule settings 3 (levels + 2)) here left (At (clause "in" ('(' :: text))))
    (items : Gets settings .rule levels (sepBy .comma (disjunction settings levels)) (At text) value (At (')' :: tail))) :
    Gets settings .rule (levels + 5) (disjunction settings (levels + 5)) here
      (.membership left (.collection value)) (At tail) := by
  have opens : Starts ('(' :: text) ⟨.openParen, _⟩ text := .mark rfl rfl (by decide) next
  have closes : Starts (')' :: tail) ⟨.closeParen, _⟩ tail := .mark rfl rfl (by decide) last
  have tests : Starts (clause "in" ('(' :: text)) ⟨.identifier, "in"⟩ (' ' :: '(' :: text) := .clause (by decide) opens
  have opening : Finds (atKind .openParen) (At (' ' :: '(' :: text)) true :=
    finds_kind fun _ _ holds => beq_of_eq (congrArg Lexeme.kind (opens.behind_blank.sees holds))
  have collection : Gets settings .rule levels (collection (disjunction settings levels)) (At (' ' :: '(' :: text))
      (.collection value) (At tail) :=
    gets_advance (fun _ _ => opens.behind_blank.moves) (gets_bind items (gets_bind (gets_mark closes rfl _) (gets_pure _)))
  have ends (level : Nat) (scope : List String) (cursor : Cursor) (holds : At tail scope cursor) :
      Stops settings level cursor.token.lexeme := stops_tighter (Nat.zero_le level) (stops cursor holds.2)
  have linked : Gets settings .links (levels + 2) (Expression.tail settings 2 (levels + 2) left) (At (clause "in" ('(' :: text)))
      (.membership left (.collection value)) (At tail) := by
    refine gets_look (finds_keyword tests (keyword_spelled settings.ignoreCase "in")) (gets_hold ?_)
    refine gets_advance (fun _ _ => tests.moves) (gets_bind (gets_look opening (gets_recurse collection)) ?_)
    exact fun state holds _ => ⟨state, tail_stops (ends 2 _ _ holds), holds, kept_same _ _⟩
  have comparison : Gets settings .rule (levels + 3) (rule settings 2 (levels + 3)) here
      (.membership left (.collection value)) (At tail) := gets_chain_of operand linked
  exact gets_looser (by decide) (gets_looser (by decide) comparison (ends 1)) (ends 0)

theorem others_punctuated (tail : List Char) (entry : List Char × Expr) (entries : List (List Char × Expr)) :
    entry.1 ++ others tail entries = punctuated ',' ((entry :: entries).map Prod.fst) ++ ')' :: tail := by
  have behind : others tail entries = (entries.map Prod.fst).flatMap (',' :: ·) ++ ')' :: tail := by
    induction entries with
    | nil => rfl
    | cons entry entries ih => simp [others, ih]
  rw [behind, List.map_cons, punctuated_behind, List.append_assoc]

section

variable {written : String} (each : ∀ item ∈ entry :: entries, FilterItem settings item) (named : settings.Names name)

include each named

theorem membership_read (free : name ∉ Context.standing)
    (same : written.toList = name.toList ++ clause "in" ('(' :: (entry.1 ++ others [] entries))) :
    parse (settings.withDepth (settings.maxDepth + 5)) .filter written =
      .ok (.filter (.membership (.endPath name none) (.collection ((entry :: entries).map Prod.snd)))) := by
  obtain ⟨listed, -⟩ := List.forall_mem_cons.mp each
  have next := item_scannable listed [] entries
  have opens : Starts ('(' :: (entry.1 ++ others [] entries)) ⟨.openParen, _⟩ _ := .mark rfl rfl (by decide) next
  have tests : Starts (clause "in" ('(' :: (entry.1 ++ others [] entries))) ⟨.identifier, "in"⟩ _ := .clause (by decide) opens
  have starts := named.starts (parted_mark (by decide) _) tests.scannable
  -- An item alone takes more levels than the name in front of the list.
  obtain ⟨further, deep⟩ := item_deep listed
  have operand : Gets (settings.withDepth (settings.maxDepth + 5)) .rule (settings.maxDepth + 2)
      (rule (settings.withDepth (settings.maxDepth + 5)) 3 (settings.maxDepth + 2)) (At written.toList) (.endPath name none)
      (At (clause "in" ('(' :: (entry.1 ++ others [] entries)))) := by
    have tree : Expr.ofName name = .endPath name none := if_neg (by simpa using free)
    have bounds : Bounds (clause "in" ('(' :: (entry.1 ++ others [] entries))) :=
      bounds_of_kind (fun moved on => congrArg Lexeme.kind (tests.sees ⟨rfl, on⟩)) (by decide)
    have first := @gets_name (settings.withDepth (settings.maxDepth + 5)) (further + 2) _ _ starts bounds
    have sum := gets_alone first (fun _ _ holds => by rw [starts.sees holds]; exact named.bare)
      (fun _ _ holds => by rw [tests.sees holds]; exact in_stops) (show 3 + 2 = 5 from rfl)
    rwa [same, ← tree, show settings.maxDepth + 2 = further + 2 + 2 + 2 + 1 by omega]
  refine filter_of_gets (same ▸ starts.scannable) (gets_membership next scannable_nil ?_ operand (gets_items _ each))
  exact fun moved on => stops_at_end on

theorem call_read (same : written.toList = name.toList ++ '(' :: (entry.1 ++ others [] entries)) :
    parse (settings.withDepth (settings.maxDepth + 9)) .filter written =
      .ok (.filter (.call name ((entry :: entries).map Prod.snd) none)) := by
  obtain ⟨listed, -⟩ := List.forall_mem_cons.mp each
  have next := item_scannable listed [] entries
  have opens : Starts ('(' :: (entry.1 ++ others [] entries)) ⟨.openParen, _⟩ _ := .mark rfl rfl (by decide) next
  have starts := named.starts (parted_mark (by decide) _) opens.scannable
  have operand := gets_call starts next scannable_nil (fun _ _ holds => item_opens listed holds)
    (fun moved on => by rw [Cursor.begins_nil on]; decide) (gets_items (settings.maxDepth + 9) each)
  have bare (scope : List String) (cursor : Cursor) (holds : At written.toList scope cursor) :
      prefixAt (settings.withDepth (settings.maxDepth + 9)) cursor.token.lexeme = none := by
    rw [starts.sees (same ▸ holds)]
    exact named.bare
  exact filter_of_gets (same ▸ starts.scannable) (gets_whole (same ▸ operand) bare fun _ _ holds => stops_at_end holds.2)

end

-- Lists of any length take as many levels as one item alone and a few around them: five where they are the
-- candidates of a membership test, nine where they are the arguments of a call.
theorem width_costs_nothing (settings : Settings) {name function : String} {items : List (String × Expr)} (some : items ≠ [])
    (accepted : ∀ item ∈ items, parse settings .filter item.1 = .ok (.filter item.2)) (named : settings.Names name)
    (free : name ∉ Context.standing) (called : settings.Names function) :
    parse (settings.withDepth (settings.maxDepth + 5)) .filter
        (name ++ " in (" ++ ",".intercalate (items.map Prod.fst) ++ ")") =
      .ok (.filter (.membership (.endPath name none) (.collection (items.map Prod.snd)))) ∧
    parse (settings.withDepth (settings.maxDepth + 9)) .filter
        (function ++ "(" ++ ",".intercalate (items.map Prod.fst) ++ ")") =
      .ok (.filter (.call function (items.map Prod.snd) none)) := by
  obtain ⟨first, items, rfl⟩ := List.exists_cons_of_ne_nil some
  let entryOf (item : String × Expr) : List Char × Expr := (item.1.toList, item.2)
  have each : ∀ entry ∈ entryOf first :: items.map entryOf, FilterItem settings entry := by
    rw [← List.map_cons]
    exact List.forall_mem_map.mpr fun item member => filter_rereads (accepted item member)
  have joined : (",".intercalate ((first :: items).map Prod.fst)).toList ++ [')'] =
      (entryOf first).1 ++ others [] (items.map entryOf) := by
    rw [others_punctuated, String.toList_intercalate, ← List.map_cons, List.map_map, List.map_map]
    rfl
  have trees : (entryOf first :: items.map entryOf).map Prod.snd = (first :: items).map Prod.snd := by
    rw [← List.map_cons, List.map_map]
    rfl
  rw [← trees]
  refine ⟨membership_read each named free ?_, call_read each called ?_⟩
  · simp [← joined, clause]
  · simp [← joined]

theorem width_costs_nothing_among_strings :
    let settings : Settings := { maxDepth := 9 }
    let items : List (String × Expr) := [("a eq 'x, y)'", .binary .equal (.endPath "a" none) (.literal .stringLiteral "'x, y)'")),
      ("not b", .unary .not (.endPath "b" none)), ("1", .literal .integerLiteral "1")]
    (∀ item ∈ items, parse settings .filter item.1 = .ok (.filter item.2)) ∧ settings.Names "x" ∧ settings.Names "f" ∧
      parse (settings.withDepth 14) .filter "x in (a eq 'x, y)',not b,1)" =
        .ok (.filter (.membership (.endPath "x" none) (.collection (items.map Prod.snd)))) ∧
      parse (settings.withDepth 18) .filter "f(a eq 'x, y)',not b,1)" = .ok (.filter (.call "f" (items.map Prod.snd) none)) ∧
      parse (settings.withDepth 13) .filter "x in (a eq 'x, y)',not b,1)" = .error (.depthExceeded 13) ∧
      parse (settings.withDepth 17) .filter "f(a eq 'x, y)',not b,1)" = .error (.depthExceeded 17) := by
  intro settings items
  have accepted : ∀ item ∈ items, parse settings .filter item.1 = .ok (.filter item.2) := by decide +kernel
  have named : settings.Names "x" := ⟨by decide +kernel, by decide⟩
  have called : settings.Names "f" := ⟨by decide +kernel, by decide⟩
  obtain ⟨tests, calls⟩ := width_costs_nothing settings (List.cons_ne_nil _ _) accepted named (by decide) called
  exact ⟨accepted, named, called, tests, calls, by decide +kernel, by decide +kernel⟩

end QueryOptions
