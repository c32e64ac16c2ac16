import QueryOptions.Proofs.Extension
import QueryOptions.Proofs.Derivation.Spelling
import QueryOptions.Proofs.Token.Stream

set_option autoImplicit false

namespace QueryOptions

variable {dialect : Dialect} {text taken left tail front back : List Char} {kind : TokenKind} {c blank : Char}

theorem blank_outside (blanks : Text.isBlank blank) (back : List Char) :
    ∀ d ∈ (blank :: back).head?, Search.isWordChar d = false := by
  rintro d ⟨⟩
  simp [Search.isWordChar, blanks]

namespace Expression

theorem scan_annotation_single (scans : scanAnnotation text = .token .atSign taken left) :
    taken = ['@'] ∧ left = text ∧ ∀ d ∈ left.head?, Text.isBlank d := by
  unfold scanAnnotation at scans
  split at scans
  · cases scans
    exact ⟨rfl, rfl, fun _ absent => by cases absent⟩
  · split at scans
    · rename_i visible
      cases scans
      refine ⟨rfl, rfl, ?_⟩
      rintro d ⟨⟩
      exact visible
    · split at scans <;> cases scans

theorem scan_annotation_alone (alone : ∀ d ∈ text.head?, Text.isBlank d) :
    scanAnnotation text = .token .atSign ['@'] text := by
  cases text with
  | nil => rfl
  | cons d text => exact if_pos (alone d rfl)

-- A single `@` has the end of the text or a blank behind it.
theorem scan_at_sign (scans : scan text = .token .atSign taken left) :
    taken = ['@'] ∧ text = '@' :: left ∧ ∀ d ∈ left.head?, Text.isBlank d := by
  have other : ¬ TokenKind.atSign.isLiteral := by decide
  cases text with
  | nil => cases scans
  | cons c rest =>
      have branch := branch_of_scan c rest
      generalize scan (c :: rest) = found at branch scans
      cases branch with
      | mark found =>
          cases scans
          unfold punctuation? at found
          split at found <;> cases found
      | minus =>
          rcases scan_minus_kind scans with literal | same
          · exact absurd literal other
          · cases same
      | string => cases (quoted_token scans).1
      | dollar => cases scans
      | word =>
          rcases scan_word_kind scans with literal | same
          · exact absurd literal other
          · cases same
      | number => exact absurd (scan_digits_literal scans) other
      | annotated sign =>
          obtain ⟨rfl, rfl, blanks⟩ := scan_annotation_single scans
          exact ⟨rfl, congrArg (· :: _) sign, blanks⟩
      | foreign => cases scans

theorem scan_before_blank (scans : scan text = .token kind taken left) (going : kind ≠ .finish)
    (blanks : Text.isBlank blank) (back : List Char) :
    scan (text ++ blank :: back) = .token kind taken (left ++ blank :: back) := by
  by_cases named : kind = .atSign
  · subst named
    obtain ⟨rfl, rfl, alone⟩ := scan_at_sign scans
    refine (scan_of_branch (.annotated rfl)).trans (scan_annotation_alone fun d head => ?_)
    cases left with
    | nil => exact Option.some.inj head ▸ blanks
    | cons e left => exact alone d head
  · rw [← scan_token_split scans, List.append_assoc]
    exact scan_local scans going named (follows_append left (delimited_mark (blank_delimits blanks) back))

end Expression

theorem Dialect.scan_before_blank (scans : dialect.scan text = .token kind taken left) (going : kind ≠ .finish)
    (blanks : Text.isBlank blank) (back : List Char) :
    dialect.scan (text ++ blank :: back) = .token kind taken (left ++ blank :: back) := by
  cases dialect with
  | expression => exact Expression.scan_before_blank scans going blanks back
  | search => exact Search.scan_of_taken (Search.taken_before (Search.taken_of_scan scans going) (blank_outside blanks back))

namespace Cursor

variable {cursor moved : Cursor} {tokens : List Token} {bytes : Nat}

def onward (blank : Char) (back : List Char) (cursor : Cursor) : Cursor :=
  { cursor with rest := cursor.rest ++ blank :: back }

def beyond (blank : Char) (back : List Char) (cursor : Cursor) : Cursor :=
  { cursor with
    rest := back
    offset := cursor.offset + Text.byteLength (cursor.rest ++ [blank]) }

theorem advance_onward (plain : cursor.Plain dialect) (advanced : advance cursor = .ok () moved)
    (going : moved.token.kind ≠ .finish) (blanks : Text.isBlank blank) (back : List Char) :
    advance (cursor.onward blank back) = .ok () (moved.onward blank back) := by
  obtain ⟨-, kind, taken, scans, token⟩ := scans_of_advance plain advanced
  have going' : kind ≠ .finish := by rwa [show moved.token.kind = kind from congrArg Lexeme.kind token] at going
  obtain ⟨text, offset, token, dialect, keepsBlanks⟩ := cursor
  obtain ⟨rfl, rfl⟩ := plain
  generalize moved.rest = left at scans
  dsimp only at scans
  have some : text.dropWhile Text.isBlank ≠ [] := fun none => by
    rw [none, Dialect.scan_nil] at scans
    cases scans
    exact going' rfl
  have before : (text ++ blank :: back).takeWhile Text.isBlank = text.takeWhile Text.isBlank := by
    have split := List.takeWhile_append_dropWhile (p := Text.isBlank) (l := text ++ blank :: back)
    have split' := List.takeWhile_append_dropWhile (p := Text.isBlank) (l := text)
    rw [Expression.drop_while_append some, ← List.append_assoc] at split
    exact List.append_cancel_right ((List.append_cancel_right split).trans split'.symm)
  have again := Dialect.scan_before_blank scans going' blanks back
  unfold advance at advanced
  dsimp only at advanced
  rw [if_neg fun kept => Bool.false_ne_true kept.1, scans] at advanced
  cases advanced
  unfold advance onward
  dsimp only
  rw [if_neg fun kept => Bool.false_ne_true kept.1, before, Expression.drop_while_append some, again]
  rfl

theorem advance_beyond (plain : cursor.Plain dialect) (spent : ∀ d ∈ cursor.rest, Text.isBlank d)
    (blanks : Text.isBlank blank) (back : List Char) :
    advance (cursor.onward blank back) = advance (cursor.beyond blank back) := by
  have spent' : ∀ d ∈ cursor.rest ++ [blank], Text.isBlank d := List.forall_mem_append.mpr ⟨spent, by simpa using blanks⟩
  exact advance_past_gap ⟨plain.dialect, plain.blanks⟩ (List.append_cons _ _ _) spent'

theorem stream_cases (read : cursor.stream = .ok tokens) :
    ∃ moved, advance cursor = .ok () moved ∧
      (moved.token.kind = .finish ∧ tokens = [] ∨
        ∃ others, moved.token.kind ≠ .finish ∧ moved.stream = .ok others ∧ tokens = moved.token :: others) := by
  rw [stream_step] at read
  cases advanced : advance cursor with
  | error error moved =>
      rw [advanced] at read
      cases read
  | ok value moved =>
      refine ⟨moved, rfl, ?_⟩
      rw [advanced, streamFrom] at read
      by_cases finish : moved.token.kind = .finish
      · rw [if_pos finish] at read
        cases read
        exact .inl ⟨finish, rfl⟩
      · rw [if_neg finish] at read
        cases behind : moved.stream with
        | error error =>
            rw [behind] at read
            cases read
        | ok others =>
            rw [behind] at read
            cases read
            exact .inr ⟨others, finish, rfl, rfl⟩

theorem stream_forgets (cursor : Cursor) (token : Token) : { cursor with token := token }.stream = cursor.stream := by
  obtain ⟨text, offset, token', dialect, keepsBlanks⟩ := cursor
  rw [stream_step, stream_step]
  unfold advance
  dsimp only
  split
  · rfl
  · cases (dialect.scan (text.dropWhile Text.isBlank)).outcome <;> rfl

theorem tokens_shift (bytes count : Nat) (cursor : Cursor) :
    (cursor.shift bytes).tokens count = match cursor.tokens count with
      | .ok tokens => .ok (tokens.map (Token.shift bytes))
      | .error error => .error (error.shift bytes) := by
  induction count generalizing cursor with
  | zero => rfl
  | succ count ih =>
      rw [Cursor.tokens, Cursor.tokens, advance_shifts cursor]
      cases advance cursor with
      | error error moved => rfl
      | ok value moved =>
          change (if moved.token.kind = .finish then _ else _) = _
          dsimp only
          by_cases finish : moved.token.kind = .finish
          · rw [if_pos finish, if_pos finish]
            rfl
          · rw [if_neg finish, if_neg finish, ih moved]
            cases moved.tokens count <;> rfl

theorem stream_shift (bytes : Nat) (cursor : Cursor) :
    (cursor.shift bytes).stream = match cursor.stream with
      | .ok tokens => .ok (tokens.map (Token.shift bytes))
      | .error error => .error (error.shift bytes) := tokens_shift bytes (cursor.rest.length + 1) cursor

theorem beyond_of_advance (plain : cursor.Plain dialect) (advanced : advance cursor = .ok () moved) :
    moved.beyond blank back = { cursor.beyond blank back with token := moved.token } := by
  obtain ⟨between, reads⟩ := reads_of_advance advanced
  obtain ⟨plain', -⟩ := scans_of_advance plain advanced
  have offset : moved.offset + Text.byteLength (moved.rest ++ [blank]) =
      cursor.offset + Text.byteLength (cursor.rest ++ [blank]) := by
    rw [reads.split, reads.offset, reads.placed]
    simp only [Text.byteLength_append, Nat.add_assoc]
  unfold beyond
  rw [offset, plain'.dialect, plain'.blanks, plain.dialect, plain.blanks]

theorem stream_onward (plain : cursor.Plain dialect) (read : cursor.stream = .ok tokens) (blanks : Text.isBlank blank)
    (back : List Char) :
    (cursor.onward blank back).stream = (cursor.beyond blank back).stream.map (tokens ++ ·) := by
  induction tokens generalizing cursor with
  | nil =>
      obtain ⟨moved, advanced, ⟨finish, -⟩ | ⟨_, -, -, none⟩⟩ := stream_cases read
      · have spent := List.dropWhile_eq_nil_iff.mp (blank_of_finish plain advanced finish)
        rw [stream_step, advance_beyond plain spent blanks, ← stream_step]
        cases (cursor.beyond blank back).stream <;> rfl
      · cases none
  | cons token tokens ih =>
      obtain ⟨moved, advanced, ⟨-, none⟩ | ⟨others, going, behind, same⟩⟩ := stream_cases read
      · cases none
      · cases same
        rw [stream_step, advance_onward plain advanced going blanks back, streamFrom]
        rw [show (moved.onward blank back).token = moved.token from rfl, if_neg going,
          ih (scans_of_advance plain advanced).1 behind, beyond_of_advance plain advanced, stream_forgets]
        cases (cursor.beyond blank back).stream <;> rfl

end Cursor

-- The second text is read as if it stood alone, and only its positions are moved.
theorem tokenize_apart {first : String} {offset : Nat} {tokens : List Token} (second : String)
    (read : tokenize first dialect offset = .ok tokens) (blanks : Text.isBlank blank) :
    tokenize (first ++ String.singleton blank ++ second) dialect offset =
      match tokenize second dialect offset with
      | .ok others =>
          .ok (tokens ++ others.map (Token.shift (Text.byteLength (first ++ String.singleton blank).toList)))
      | .error error => .error (error.shift (Text.byteLength (first ++ String.singleton blank).toList)) := by
  have between : (first ++ String.singleton blank).toList = first.toList ++ [blank] := by
    rw [String.toList_append, String.toList_singleton]
  have whole : Cursor.start (first ++ String.singleton blank ++ second) dialect offset false =
      (Cursor.start first dialect offset false).onward blank second.toList := by
    rw [Cursor.start, String.toList_append, between, List.append_assoc]
    rfl
  have start : (Cursor.start first dialect offset false).Plain dialect := ⟨rfl, rfl⟩
  have onward := Cursor.stream_onward start read blanks second.toList
  have alone : ((Cursor.start first dialect offset false).beyond blank second.toList).stream =
      ((Cursor.start second dialect offset false).shift (Text.byteLength (first.toList ++ [blank]))).stream := by
    rw [Cursor.beyond, Cursor.shift, Nat.add_comm]
    exact Cursor.stream_forgets ⟨second.toList, _, .unread _, dialect, false⟩ (.unread offset)
  rw [alone, Cursor.stream_shift] at onward
  have streams (text : String) : tokenize text dialect offset = (Cursor.start text dialect offset false).stream := rfl
  rw [streams, streams, whole, onward, between]
  cases (Cursor.start second dialect offset false).stream <;> rfl

theorem lone_signs_apart :
    tokenize "5d $ @" .expression 2 =
        .ok [⟨.doubleLiteral, "5d", 2⟩, ⟨.dollar, "$", 5⟩, ⟨.atSign, "@", 7⟩] ∧
      Text.isBlank (Char.ofNat 0x2003) ∧
      tokenize ("5d $ @" ++ String.singleton (Char.ofNat 0x2003) ++ "-INF") .expression 2 =
        .ok [⟨.doubleLiteral, "5d", 2⟩, ⟨.dollar, "$", 5⟩, ⟨.atSign, "@", 7⟩, ⟨.doubleLiteral, "-INF", 11⟩] ∧
      tokenize ("5d $ @" ++ String.singleton (Char.ofNat 0x2003) ++ "x '") .expression 2 =
        .error (.unterminatedString 13) := by
  have read : tokenize "5d $ @" .expression 2 =
      .ok [⟨.doubleLiteral, "5d", 2⟩, ⟨.dollar, "$", 5⟩, ⟨.atSign, "@", 7⟩] := by decide +kernel
  have blanks : Text.isBlank (Char.ofNat 0x2003) := by decide
  have bytes : Text.byteLength ("5d $ @" ++ String.singleton (Char.ofNat 0x2003)).toList = 9 := by decide +kernel
  have found : tokenize "-INF" .expression 2 = .ok [⟨.doubleLiteral, "-INF", 2⟩] := by decide +kernel
  have failed : tokenize "x '" .expression 2 = .error (.unterminatedString 4) := by decide +kernel
  have both := tokenize_apart "-INF" read blanks
  have broken := tokenize_apart "x '" read blanks
  rw [found, bytes] at both
  rw [failed, bytes] at broken
  exact ⟨read, blanks, both, broken⟩

end QueryOptions
