import QueryOptions.Proofs.Derivation.Path
import QueryOptions.Proofs.Nested.Cut
import QueryOptions.Proofs.Nested.Settled
import QueryOptions.Proofs.Token.Mark

set_option autoImplicit false

namespace QueryOptions

open Parse Expression

section

variable {text taken rest left tail gap back : List Char} {lexemes : List Lexeme} {kind : TokenKind} {c : Char}

theorem blank_breaks (blank : Text.isBlank c) : c ∉ breaks := fun listed =>
  List.any_eq_false.mp (by decide : breaks.any Text.isBlank = false) c listed blank

theorem lexeme_again (scans : scan (text.dropWhile Text.isBlank) = .token kind taken rest) (going : kind ≠ .finish)
    (path : (Lexeme.mk kind (String.ofList taken)).inPath) (undashed : rest.head? ≠ some '-') :
    text = text.takeWhile Text.isBlank ++ taken ++ rest ∧ (∀ c ∈ text.takeWhile Text.isBlank ++ taken, c ∉ breaks) ∧
      ∀ after : List Char, after.head? = rest.head? →
        scan ((text.takeWhile Text.isBlank ++ taken ++ after).dropWhile Text.isBlank) = .token kind taken after := by
  obtain ⟨unbroken, again⟩ := scan_again scans path undashed
  have blanks := take_while_all Text.isBlank text
  have front : ∀ c ∈ text.takeWhile Text.isBlank ++ taken, c ∉ breaks := List.forall_mem_append.mpr
    ⟨fun c member => blank_breaks (blanks c member), fun c member => (unbroken c member).2⟩
  refine ⟨?_, front, fun after same => ?_⟩
  · rw [List.append_assoc, scan_token_split scans, List.takeWhile_append_dropWhile]
  · rw [List.append_assoc, List.dropWhile_append_of_pos blanks, taken_visible scans going]
    exact again after same

theorem undashed_append (front : ∀ c ∈ gap, c ∉ breaks) (behind : back.head? ≠ some '-') : (gap ++ back).head? ≠ some '-' := by
  cases gap with
  | nil => exact behind
  | cons c gap => exact fun head => front c List.mem_cons_self (by rw [Option.some.inj head]; decide)

theorem scans_again (scans : Scans text lexemes tail) (path : ∀ lexeme ∈ lexemes, lexeme.inPath)
    (undashed : tail.head? ≠ some '-') :
    ∃ front, text = front ++ tail ∧ (∀ c ∈ front, c ∉ breaks) ∧
      ∀ after : List Char, after.head? = tail.head? → Scans (front ++ after) lexemes after := by
  induction scans with
  | nil => exact ⟨[], rfl, List.forall_mem_nil _, fun after _ => .nil after⟩
  | @cons text taken rest tail kind lexemes scans going _ ih =>
      obtain ⟨here, later⟩ := List.forall_mem_cons.mp path
      obtain ⟨back, rfl, others, again⟩ := ih later undashed
      obtain ⟨split, own, first⟩ := lexeme_again scans going here (undashed_append others undashed)
      refine ⟨text.takeWhile Text.isBlank ++ taken ++ back, ?_, List.forall_mem_append.mpr ⟨own, others⟩, fun after same => ?_⟩
      · rw [List.append_assoc]
        exact split
      · rw [List.append_assoc]
        have heads : (back ++ after).head? = (back ++ tail).head? := by rw [List.head?_append, List.head?_append, same]
        exact .cons (first (back ++ after) heads) going (again after same)

end

namespace Cursor

variable {cursor moved : Cursor} {text : List Char} {lexemes : List Lexeme} {kind : TokenKind} {c : Char}

theorem begins_scan (on : cursor.Begins text) :
    cursor.Plain .expression ∧ ∃ taken,
      scan (text.dropWhile Text.isBlank) = .token cursor.token.kind taken cursor.rest ∧
        cursor.token.text = String.ofList taken := by
  obtain ⟨before, plain, rfl, advanced⟩ := on
  obtain ⟨plain', kind, taken, scans, token⟩ := scans_of_advance plain advanced
  obtain rfl : cursor.token.kind = kind := congrArg Lexeme.kind token
  exact ⟨plain', taken, scans, congrArg Lexeme.text token⟩

theorem scans_of_spans (on : cursor.Begins text) (spans : cursor.Spans lexemes moved) :
    ∃ tail, Scans text lexemes tail ∧ moved.Begins tail := by
  induction spans generalizing text with
  | refl => exact ⟨text, .nil text, on⟩
  | @step cursor between moved lexemes going advanced _ ih =>
      obtain ⟨plain, taken, scans, spelled⟩ := begins_scan on
      obtain ⟨tail, others, there⟩ := ih ⟨cursor, plain, rfl, advanced⟩
      refine ⟨tail, ?_, there⟩
      rw [Token.lexeme, spelled]
      exact .cons scans going others

theorem begins_finish (on : cursor.Begins text) (finish : cursor.token.kind = .finish) : text.dropWhile Text.isBlank = [] := by
  obtain ⟨before, plain, rfl, advanced⟩ := on
  exact blank_of_finish plain advanced finish

theorem begins_gap (on : cursor.Begins text) (found : punctuation? c = some cursor.token.kind)
    (mark : cursor.token.kind.isPunctuation) :
    ∃ gap, text = gap ++ c :: cursor.rest ∧ ∀ b ∈ gap, Text.isBlank b := by
  obtain ⟨-, taken, scans, -⟩ := begins_scan on
  obtain ⟨d, rfl, found'⟩ := scan_punctuation scans mark
  obtain rfl := punctuation_inj found found'
  refine ⟨text.takeWhile Text.isBlank, ?_, take_while_all _ _⟩
  rw [← List.singleton_append, scan_token_split scans, List.takeWhile_append_dropWhile]

end Cursor

theorem head_behind_gap (gap : List Char) (c : Char) (after after' : List Char) :
    (gap ++ c :: after).head? = (gap ++ c :: after').head? := by
  cases gap <;> rfl

namespace Items

variable {settings : Settings} {kind : ItemKind} {names : List String} {name : String} {lexemes : List Lexeme}
variable {last : Option String} {count : Nat} {cursor opened named found moved : Cursor} {text : List Char}

theorem name_in_path (spelled : Name lexemes name) : ∀ lexeme ∈ lexemes, lexeme.inPath := by
  induction spelled with
  | single named => exact List.forall_mem_singleton.mpr (by simp [Lexeme.inPath, named])
  | dotted _ dots named ih =>
      refine List.forall_mem_append.mpr ⟨ih, List.forall_mem_cons.mpr ⟨?_, List.forall_mem_singleton.mpr ?_⟩⟩
      · simp [Lexeme.inPath, dots]
      · simp [Lexeme.inPath, named]

theorem segment_in_path (segment : Segment settings kind lexemes name) : ∀ lexeme ∈ lexemes, lexeme.inPath := by
  cases segment with
  | @system word opens =>
      have named : word.isName := by
        rw [Lexeme.isName, eq_of_beq (Bool.and_eq_true_iff.mp opens).1]
        rfl
      exact List.forall_mem_singleton.mpr (by simp [Lexeme.inPath, named])
  | name _ spelled =>
      cases spelled with
      | name spelled => exact name_in_path spelled
      | star stars => exact List.forall_mem_singleton.mpr (by simp [Lexeme.inPath, stars])
      | wildcard before dots stars =>
          refine List.forall_mem_append.mpr ⟨name_in_path before, ?_⟩
          refine List.forall_mem_cons.mpr ⟨?_, List.forall_mem_singleton.mpr ?_⟩
          · simp [Lexeme.inPath, dots]
          · simp [Lexeme.inPath, stars]

theorem path_in_path (path : Path settings kind count last names lexemes) : ∀ lexeme ∈ lexemes, lexeme.inPath := by
  induction path with
  | last segment => exact segment_in_path segment
  | further segment _ slashes _ _ ih =>
      refine List.forall_mem_append.mpr ⟨segment_in_path segment, List.forall_mem_cons.mpr ⟨?_, ih⟩⟩
      simp [Lexeme.inPath, slashes]

theorem path_consumed (on : cursor.Begins text) (path : Path settings kind 0 none names lexemes)
    (spans : cursor.Spans lexemes opened) (opening : opened.token.kind = .openParen) :
    ∃ front, text = front ++ '(' :: opened.rest ∧ opened.Plain .expression ∧ '(' ∉ front ∧
      (∀ after, Scannable (front ++ '(' :: after)) ∧ Opens settings kind front names := by
  obtain ⟨tail, scans, there⟩ := Cursor.scans_of_spans on spans
  obtain ⟨gap, rfl, blank⟩ := Cursor.begins_gap there (show punctuation? '(' = _ by rw [opening]; rfl) (by rw [opening]; rfl)
  have behind : ∀ c ∈ gap, c ∉ breaks := fun c member => blank_breaks (blank c member)
  obtain ⟨front, rfl, within, again⟩ := scans_again scans (path_in_path path) (undashed_append behind (by simp))
  have next (after : List Char) : Scannable (gap ++ '(' :: after) := ⟨_, _, _, scan_behind_gap blank rfl rfl after⟩
  have scans' (after : List Char) : Scans (front ++ gap ++ '(' :: after) lexemes (gap ++ '(' :: after) := by
    rw [List.append_assoc]
    exact again _ (head_behind_gap gap '(' _ _)
  refine ⟨front ++ gap, (List.append_assoc _ _ _).symm, (Cursor.begins_scan there).1, fun member => ?_, fun after => ?_,
    fun after cursor on => ?_⟩
  · exact (List.mem_append.mp member).elim (within '(' · (by decide)) (behind '(' · (by decide))
  · exact scannable_of_scans (scans' after) (next after)
  · obtain ⟨opened, spans, there⟩ := Cursor.begins_spans on (scans' after) (next after)
    exact ⟨lexemes, opened, path, spans, Cursor.begins_behind_gap there blank rfl rfl⟩

theorem path_whole (on : cursor.Begins text) (path : Path settings kind 0 none names lexemes)
    (spans : cursor.Spans lexemes moved) (finish : moved.token.kind = .finish) : '(' ∉ text := by
  obtain ⟨tail, scans, there⟩ := Cursor.scans_of_spans on spans
  have blank : ∀ c ∈ tail, Text.isBlank c := List.dropWhile_eq_nil_iff.mp (Cursor.begins_finish there finish)
  have behind : ∀ c ∈ tail, c ∉ breaks := fun c member => blank_breaks (blank c member)
  have undashed : tail.head? ≠ some '-' := fun head => behind '-' (List.mem_of_head? head) (by decide)
  obtain ⟨front, rfl, within, -⟩ := scans_again scans (path_in_path path) undashed
  exact fun member => (List.mem_append.mp member).elim (within '(' · (by decide)) (behind '(' · (by decide))

variable {option : ItemOption} {options options' others : NestedOptions} {seen : List ItemOption} {state after : ParseState}
variable {value : String} {position : Nat}

theorem key_consumed (on : state.cursor.Begins text) (name : Named settings kind option state named) :
    ∃ key, text = key ++ '=' :: named.rest ∧ named.Plain .expression ∧ '=' ∉ key ∧
      kind.option? settings (String.ofList (Text.trim key)) = some option ∧ Piece.Keys settings kind option key := by
  obtain ⟨identifier, found⟩ := named_word name
  obtain ⟨plain, taken, scans, word⟩ := Cursor.begins_scan on
  have equal : named.Begins state.cursor.rest := ⟨state.cursor, plain, rfl, name.advanced⟩
  obtain ⟨gap, same, blank⟩ := Cursor.begins_gap equal
    (show punctuation? '=' = _ by rw [name.equal]; rfl) (by rw [name.equal]; rfl)
  have behind : ∀ c ∈ gap, c ∉ breaks := fun c member => blank_breaks (blank c member)
  rw [identifier, same] at scans
  rw [word] at found
  have undashed : (gap ++ '=' :: named.rest).head? ≠ some '-' := undashed_append behind (by simp)
  have path : (Lexeme.mk .identifier (String.ofList taken)).inPath := rfl
  obtain ⟨unbroken, -⟩ := scan_again scans path undashed
  obtain ⟨split, own, again⟩ := lexeme_again scans (by decide) path undashed
  refine ⟨text.takeWhile Text.isBlank ++ taken ++ gap, ?_, ?_, fun member => ?_, ?_,
    Piece.keys_of_scan blank found fun after => ?_⟩
  · rw [List.append_assoc _ gap]
    exact split
  · exact (Cursor.scans_of_advance plain name.advanced).1
  · exact (List.mem_append.mp member).elim (own '=' · (by decide)) (behind '=' · (by decide))
  · rw [List.append_assoc, trim_between (take_while_all _ _) blank (fun c member => (unbroken c member).1)]
    exact found
  · rw [List.append_assoc _ gap]
    exact again _ (head_behind_gap gap '=' _ _)

theorem value_consumed (plain : named.Plain .expression) (cut : Cursor.optionValue named = .ok (value, position) found)
    (advanced : Cursor.advance found = .ok () moved) :
    ∃ c delimiter after, Delimiter c delimiter ∧ named.rest = value.toList ++ c :: after ∧ Crosses 0 value.toList 0 [] ∧
      found.token.kind = delimiter ∧ moved.Begins after := by
  obtain ⟨fine, -⟩ := option_value_ok cut
  obtain ⟨crosses, c, after, rest, ends⟩ := scan_value_crosses _ 0 named.rest (Nat.lt_succ_self _) fine
  obtain ⟨front, split, alone⟩ := crosses_front crosses
  obtain ⟨delimiter, delimits⟩ : ∃ delimiter, Delimiter c delimiter := by
    rcases ends with rfl | rfl
    · exact ⟨_, .close⟩
    · exact ⟨_, .semicolon⟩
  rw [rest] at split
  rw [← String.toList_ofList (l := front)] at split alone
  rw [option_value_cut alone plain.dialect split delimits] at cut
  cases cut
  exact ⟨c, delimiter, after, delimits, split, alone, rfl,
    named.pastValue _ delimiter c after, ⟨plain.dialect, plain.blanks⟩, rfl, advanced⟩

end Items

namespace Piece

variable {settings : Settings} {kind : ItemKind} {levels : Nat} {origin : ParseState}
variable {options options' others : NestedOptions} {option : ItemOption} {seen : List ItemOption}
variable {cursor found moved : Cursor} {text : List Char} {count : Nat} {after : ParseState}

structure Consumed (settings : Settings) (kind : ItemKind) (levels : Nat) (origin : ParseState) (piece : Piece) : Prop where
  reads : piece.Reads settings kind levels origin
  cut : piece.toAssignment.Cut
  named : piece.toAssignment.option? settings kind = some piece.option

theorem piece_consumed (round : Items.Round settings kind levels (Items.inner settings levels) options
      option { origin with cursor := cursor } options' found moved) (on : cursor.Begins text) :
    ∃ (piece : Piece) (c : Char) (delimiter : TokenKind) (after : List Char),
      text = piece.key ++ '=' :: (piece.value ++ c :: after) ∧ Delimiter c delimiter ∧ found.token.kind = delimiter ∧
        moved.Begins after ∧ moved.rest.length < cursor.rest.length ∧ piece.Consumed settings kind levels origin ∧
        piece.option = option ∧ options' = options.adopt piece.option piece.source := by
  obtain ⟨⟨named, value, position, name, cut, read⟩, advanced⟩ := round
  obtain ⟨key, rfl, plain, bare, denotes, keys⟩ := Items.key_consumed on name
  obtain ⟨c, delimiter, after, delimits, rest, crosses, closes, there⟩ := Items.value_consumed plain cut advanced
  have settled := value_settled read
  have valued : Valued settings levels origin option value.toList options' := by
    refine ⟨crosses, fun options position cursor => ?_⟩
    rw [String.ofList_toList]
    exact settled options position cursor
  have sets := settled options position found
  rw [show Items.readValue _ _ _ options option value position _ = _ from read] at sets
  have shorter : moved.rest.length ≤ after.length := Cursor.begins_shortens there
  have within : named.rest.length ≤ cursor.rest.length := Cursor.advance_shortens name.advanced
  rw [rest, List.length_append, List.length_cons] at within
  refine ⟨⟨⟨key, value.toList⟩, option, options'⟩, c, delimiter, after, ?_, delimits, closes, there, by omega,
    ⟨⟨keys, valued⟩, ⟨bare, taken_whole_of_crosses crosses⟩, denotes⟩, rfl, ?_⟩
  · rw [rest]
  · exact (EStateM.Result.ok.inj sets).1

theorem options_consumed (done : Items.optionsFrom settings kind levels (Items.inner settings levels)
      count seen options { origin with cursor := cursor } = .ok others after) (on : cursor.Begins text)
    (enough : cursor.rest.length < count) :
    ∃ (pieces : List Piece) (tail : List Char) (moved : Cursor), pieces ≠ [] ∧
      text = Assignment.list (pieces.map toAssignment) ++ ')' :: tail ∧
      (∀ piece ∈ pieces, piece.Consumed settings kind levels origin) ∧ (∀ piece ∈ pieces, piece.option ∉ seen) ∧
      (pieces.map Piece.option).Nodup ∧ others = merged pieces options ∧ after = { origin with cursor := moved } ∧
      moved.Begins tail := by
  induction count generalizing seen options cursor text with
  | zero => exact absurd enough (Nat.not_lt_zero _)
  | succ count ih =>
      obtain ⟨option, options', found, moved, round, fresh⟩ := Items.options_from_ok (Items.inner_fits _ _) done
      rw [Items.options_from_round round fresh] at done
      obtain ⟨piece, c, delimiter, rest, rfl, delimits, ends, there, shorter, consumed, rfl, rfl⟩ := piece_consumed round on
      cases delimits with
      | close =>
          rw [if_pos (beq_of_eq ends)] at done
          cases done
          refine ⟨[piece], rest, moved, List.cons_ne_nil _ _, ?_, List.forall_mem_singleton.mpr consumed,
            List.forall_mem_singleton.mpr fresh, List.pairwise_singleton _ _, rfl, rfl, there⟩
          rw [List.map_singleton, Assignment.list_single, List.append_assoc, List.cons_append]
      | semicolon =>
          rw [if_neg (by rw [ends]; decide)] at done
          obtain ⟨pieces, tail, last, some, rfl, others, unseen, apart, rfl, rfl, final⟩ := ih done there (by omega)
          refine ⟨piece :: pieces, tail, last, List.cons_ne_nil _ _, ?_, List.forall_mem_cons.mpr ⟨consumed, others⟩,
            List.forall_mem_cons.mpr ⟨fresh, fun other listed again => unseen other listed (List.mem_cons_of_mem _ again)⟩,
            ?_, rfl, rfl, final⟩
          · rw [List.map_cons, Assignment.list_further _ (by simpa using some), List.append_assoc, List.cons_append,
              List.append_assoc]
            rfl
          · rw [List.map_cons, List.nodup_cons]
            refine ⟨fun again => ?_, apart⟩
            obtain ⟨other, listed, same⟩ := List.mem_map.mp again
            exact unseen other listed (same ▸ List.mem_cons_self)

end Piece

structure ItemPieces (settings : Settings) (kind : ItemKind) (levels : Nat) (origin : ParseState) (names : List String)
    (path : List Char) (pieces : List Piece) : Prop where
  scannable : ∀ after, Scannable (path ++ '(' :: after)
  opens : Items.Opens settings kind path names
  some : pieces ≠ []
  consumed : ∀ piece ∈ pieces, piece.Consumed settings kind levels origin
  apart : (pieces.map Piece.option).Nodup

namespace ItemPieces

variable {settings : Settings} {kind : ItemKind} {levels : Nat} {origin : ParseState} {names : List String}
variable {path tail : List Char} {pieces : List Piece} {cursor : Cursor}

theorem reads (cut : ItemPieces settings kind levels origin names path pieces) (next : Scannable tail)
    (on : cursor.Begins (path ++ '(' :: (Assignment.list (pieces.map Piece.toAssignment) ++ ')' :: tail))) :
    cursor.token.kind ≠ .finish ∧
      ∃ moved, Items.item settings kind levels (Items.inner settings levels) { origin with cursor := cursor } =
        .ok ⟨names, Piece.merged pieces {}⟩ { origin with cursor := moved } ∧ moved.Begins tail := by
  obtain ⟨lexemes, opened, path, spans, -⟩ := cut.opens _ cursor on
  exact ⟨Items.path_going path spans,
    Items.item_of_pieces cut.opens cut.some (fun piece member => (cut.consumed piece member).reads) cut.apart on next⟩

end ItemPieces

namespace Items

variable {settings : Settings} {kind : ItemKind} {levels : Nat} {origin after : ParseState} {cursor : Cursor}
variable {text : List Char} {written : Item}

theorem item_consumed (done : item settings kind levels (inner settings levels) { origin with cursor := cursor } =
      .ok written after) (on : cursor.Begins text)
    (stops : after.cursor.token.kind = .comma ∨ after.cursor.token.kind = .finish) :
    (∃ names lexemes opened, Path settings kind 0 none names lexemes ∧ cursor.Spans lexemes opened ∧
      written = ⟨names, {}⟩ ∧ after = { origin with cursor := opened }) ∨
    ∃ names path pieces tail last, ItemPieces settings kind levels origin names path pieces ∧ '(' ∉ path ∧
      text = path ++ '(' :: (Assignment.list (pieces.map Piece.toAssignment) ++ ')' :: tail) ∧
      written = ⟨names, Piece.merged pieces {}⟩ ∧ after = { origin with cursor := last } ∧ last.Begins tail := by
  obtain ⟨names, ⟨opened, _, _, _⟩, walked, rest⟩ := bind_ok done
  obtain ⟨lexemes, ⟨spans, -⟩, path⟩ := path_sound walked
  change (if opened.token.kind == .openParen then _ else _ : Parse Item) _ = _ at rest
  by_cases opening : opened.token.kind = .openParen
  · rw [if_pos (beq_of_eq opening)] at rest
    obtain ⟨given, _, read, ⟨⟩⟩ := bind_ok rest
    cases walked.symm.trans (path_complete path spans (by rw [opening]; decide) (by rw [opening]; decide))
    obtain ⟨front, rfl, plain, bare, scannable, opens⟩ := path_consumed on path spans opening
    obtain ⟨moved, advanced, ran⟩ := options_ok opening read
    obtain ⟨pieces, tail, last, some, same, consumed, -, apart, rfl, rfl, there⟩ :=
      @Piece.options_consumed _ _ _ origin _ _ _ _ _ _ _ ran ⟨opened, plain, rfl, advanced⟩ (Nat.lt_succ_self _)
    exact .inr ⟨names, front, pieces, tail, last, ⟨scannable, opens, some, consumed, apart⟩, bare, by rw [same], rfl, rfl, there⟩
  · rw [if_neg (by simpa using opening)] at rest
    cases rest
    have other {kind : TokenKind} (comma : kind ≠ .comma) (finish : kind ≠ .finish) : opened.token.kind ≠ kind := by
      rintro rfl
      exact stops.elim comma finish
    cases walked.symm.trans (path_complete path spans (other (by decide) (by decide)) (other (by decide) (by decide)))
    exact .inl ⟨names, lexemes, opened, path, spans, rfl, rfl⟩

end Items

end QueryOptions
