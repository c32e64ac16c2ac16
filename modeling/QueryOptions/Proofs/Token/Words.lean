import QueryOptions.Proofs.Token.Follow
import QueryOptions.Token.Cursor

set_option autoImplicit false

namespace QueryOptions

def Parting (after : List Char) : Prop := after = [] ∨ ∃ tail, after = ' ' :: tail

-- A token without its position. It is read as such wherever a blank or the end of the text
-- follows.
structure Word where
  kind : TokenKind
  text : List Char
  visible : ∀ after, (text ++ after).dropWhile Text.isBlank = text ++ after
  scans : ∀ after, Parting after → Expression.scan (text ++ after) = .token kind text after

def Expression.Parted (text : List Char) : Prop :=
  ∀ c ∈ text.head?, Text.isIdentifierContinue c = false ∧ c ≠ '\'' ∧ c ≠ '-'

theorem Expression.parted_mark {c : Char} (other : Text.isIdentifierContinue c = false ∧ c ≠ '\'' ∧ c ≠ '-')
    (text : List Char) : Parted (c :: text) := fun _ head => Option.some.inj head ▸ other

theorem scan_letters {first : Char} {inner after : List Char} (letters : ∀ c ∈ inner, Text.isIdentifierContinue c)
    (parted : Expression.Parted after) :
    Expression.scanWord first (inner ++ after) =
      .token (Expression.wordKind (String.ofList (first :: inner))) (first :: inner) after := by
  have ends : ∀ c ∈ after.head?, Text.isIdentifierContinue c = false := fun c head => (parted c head).1
  rw [Expression.scanWord, Expression.take_while_before letters ends, Expression.drop_while_before letters ends]
  cases after with
  | nil => rfl
  | cons c tail =>
      obtain ⟨_, quote, minus⟩ := parted c rfl
      simp only [quote, minus, false_and, if_false]

theorem parting_parted {after : List Char} (parting : Parting after) : Expression.Parted after := by
  rintro c head
  rcases parting with rfl | ⟨tail, rfl⟩
  · cases head
  · exact Expression.parted_mark (by decide) tail c head

namespace Word

def line (words : List Word) : List Char := words.flatMap fun word => ' ' :: word.text

theorem line_parting (words : List Word) : Parting (line words) := by
  cases words with
  | nil => exact .inl rfl
  | cons word words => exact .inr ⟨_, rfl⟩

def first (words : List Word) (position : Nat) : Token :=
  match words with
  | [] => ⟨.finish, "", position⟩
  | word :: _ => ⟨word.kind, String.ofList word.text, position⟩

def ofLetters (first : Char) (inner : List Char)
    (starts : ∀ rest, Expression.scan (first :: rest) = Expression.scanWord first rest)
    (visible : Text.isBlank first = false) (letters : inner.all Text.isIdentifierContinue) : Word where
  kind := Expression.wordKind (String.ofList (first :: inner))
  text := first :: inner
  visible _ := List.dropWhile_cons_of_neg (by simp [visible])
  scans _ parting := (starts _).trans (scan_letters (List.all_eq_true.mp letters) (parting_parted parting))

def emptyString : Word where
  kind := .stringLiteral
  text := ['\'', '\'']
  visible _ := rfl
  scans after parting := by
    change Scan.quoted .stringLiteral [] '\'' (scanString '\'' ('\'' :: after)) = _
    rw [scanString.eq_def]
    rcases parting with rfl | ⟨tail, rfl⟩ <;> rfl

def minus : Word where
  kind := .minus
  text := ['-']
  visible _ := rfl
  scans after parting := by rcases parting with rfl | ⟨tail, rfl⟩ <;> rfl

end Word

namespace Cursor

structure At (words : List Word) (cursor : Cursor) : Prop where
  dialect : cursor.dialect = .expression
  blanks : cursor.keepsBlanks = false
  rest : cursor.rest = Word.line words.tail
  token : ∃ position, cursor.token = Word.first words position

theorem advance_words {cursor : Cursor} {words : List Word} (dialect : cursor.dialect = .expression)
    (blanks : cursor.keepsBlanks = false)
    (ahead : cursor.rest.dropWhile Text.isBlank = (Word.line words).dropWhile Text.isBlank) :
    ∃ moved, advance cursor = .ok () moved ∧ moved.At words := by
  obtain ⟨_, offset, token, _, _⟩ := cursor
  dsimp only at dialect blanks ahead
  subst dialect blanks
  unfold advance
  dsimp only
  rw [ahead, if_neg (by simp), show Dialect.scan .expression = Expression.scan from rfl]
  cases words with
  | nil => exact ⟨_, rfl, rfl, rfl, rfl, _, rfl⟩
  | cons word words =>
      have visible : (Word.line (word :: words)).dropWhile Text.isBlank = word.text ++ Word.line words :=
        word.visible (Word.line words)
      rw [visible, word.scans _ (Word.line_parting words)]
      exact ⟨_, rfl, rfl, rfl, rfl, _, rfl⟩

theorem advance_at {cursor : Cursor} {word : Word} {words : List Word} (here : cursor.At (word :: words)) :
    ∃ moved, advance cursor = .ok () moved ∧ moved.At words :=
  advance_words here.dialect here.blanks (congrArg _ here.rest)

def onto (cursor : Cursor) (kind : TokenKind) (taken after : List Char) : Cursor :=
  { cursor with
    rest := after
    offset := cursor.offset + Text.byteLength taken
    token := ⟨kind, String.ofList taken, cursor.offset⟩ }

def settled (cursor : Cursor) (scan : Scan) : EStateM.Result ParseError Cursor Unit :=
  match scan.outcome with
  | .ok kind => .ok () (cursor.onto kind scan.taken scan.rest)
  | .error error => .error (error.shift cursor.offset)
      { cursor with rest := scan.rest, offset := cursor.offset + Text.byteLength scan.taken }

theorem advance_visible {cursor : Cursor} (visible : ∀ c ∈ cursor.rest.head?, Text.isBlank c = false) :
    advance cursor = cursor.settled (cursor.dialect.scan cursor.rest) := by
  obtain ⟨text, offset, token, dialect, keepsBlanks⟩ := cursor
  have none := Expression.take_while_before (List.forall_mem_nil _) visible
  have all := Expression.drop_while_before (List.forall_mem_nil _) visible
  rw [List.nil_append] at none all
  unfold advance settled
  dsimp only at none all ⊢
  rw [none, all, if_neg (by simp)]
  cases (dialect.scan text).outcome <;> rfl

theorem advance_onto {cursor : Cursor} {kind : TokenKind} {first : Char} {inner after : List Char}
    (dialect : cursor.dialect = .expression) (rest : cursor.rest = first :: inner ++ after)
    (visible : Text.isBlank first = false)
    (scans : Expression.scan (first :: inner ++ after) = .token kind (first :: inner) after) :
    advance cursor = .ok () (cursor.onto kind (first :: inner) after) := by
  have front : ∀ c ∈ cursor.rest.head?, Text.isBlank c = false := fun c head => by
    rw [rest] at head
    exact Option.some.inj head ▸ visible
  rw [advance_visible front, dialect, rest, Dialect.scan, scans]
  rfl

theorem advance_punctuation {cursor : Cursor} {kind : TokenKind} {c : Char} {after : List Char}
    (dialect : cursor.dialect = .expression) (rest : cursor.rest = c :: after) (visible : Text.isBlank c = false)
    (found : Expression.punctuation? c = some kind) :
    advance cursor = .ok () (cursor.onto kind [c] after) :=
  advance_onto dialect rest visible (Expression.scan_of_branch (.mark found))

theorem advance_end {cursor : Cursor} (dialect : cursor.dialect = .expression) (rest : cursor.rest = []) :
    advance cursor = .ok () (cursor.onto .finish [] []) := by
  rw [advance_visible (by rw [rest]; exact fun _ absent => by cases absent), dialect, rest]
  rfl

end Cursor

end QueryOptions
