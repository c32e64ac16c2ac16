import QueryOptions.Error
import QueryOptions.Text.Width

set_option autoImplicit false

namespace QueryOptions

theorem shift_none (error : ParseError) : error.shift 0 = error := by
  cases error <;> simp only [ParseError.shift, Nat.zero_add]

theorem shift_shift (bytes further : Nat) (error : ParseError) :
    (error.shift bytes).shift further = error.shift (further + bytes) := by
  cases error <;> simp only [ParseError.shift, Nat.add_assoc]

namespace Text

-- A piece of a text with so many bytes before it.
def Stands (text piece : List Char) (position : Nat) : Prop :=
  ∃ front back, text = front ++ (piece ++ back) ∧ byteLength front = position

variable {text piece part back : List Char} {position further : Nat}

theorem stands_front (piece back : List Char) : Stands (piece ++ back) piece 0 := ⟨[], back, rfl, rfl⟩

theorem stands_behind (front piece : List Char) : Stands (front ++ piece) piece (byteLength front) :=
  ⟨front, [], by rw [List.append_nil], rfl⟩

theorem stands_within (outer : Stands text piece position) (inner : Stands piece part further) :
    Stands text part (position + further) := by
  obtain ⟨front, back, rfl, rfl⟩ := outer
  obtain ⟨front', back', rfl, rfl⟩ := inner
  exact ⟨front ++ front', back' ++ back, by simp only [List.append_assoc], byteLength_append front front'⟩

theorem stands_start (stands : Stands text (piece ++ back) position) : Stands text piece position :=
  stands_within stands (stands_front piece back)

theorem stands_boundary (stands : Stands text piece position) : Stands text [] position :=
  stands_within stands (stands_front [] piece)

theorem stands_le (stands : Stands text piece position) : position ≤ byteLength text := by
  obtain ⟨front, back, rfl, rfl⟩ := stands
  rw [byteLength_append]
  omega

end Text

open Text (Stands)

namespace ParseError

-- Whether an error points at what it is about in a text.
def Located (text : List Char) : ParseError → Prop
  | invalidCharacter character position => Stands text [character] position
  | unterminatedString position => Stands text ['\''] position ∨ Stands text ['"'] position
  | invalidEscape quote position | invalidNumeric quote position | unexpectedToken quote position
  | unknownOption quote position | invalidOptionValue _ quote position
  | unsupportedTransformation quote position => Stands text quote.toList position
  | typedNull position => Stands text ['n', 'u', 'l', 'l', '\''] position
  | expectedToken _ found position =>
      Stands text found.toList position ∨ (found = "end of input" ∧ Stands text [] position)
  | emptyOptionList position => Stands text ['('] position
  | digitExpected position | keywordExpected _ position | expressionExpected position
  | invalidPath _ position | duplicateOption _ position => Stands text [] position
  | depthExceeded _ | depthMismatch | duplicateVariable _ => True

variable {text piece : List Char} {error : ParseError} {position : Nat}

theorem located_boundary (located : error.Located text) (placed : error.position = some position) :
    Stands text [] position := by
  cases error <;> cases placed
  case unterminatedString => exact located.elim Text.stands_boundary Text.stands_boundary
  case expectedToken => exact located.elim Text.stands_boundary And.right
  all_goals exact Text.stands_boundary located

theorem located_within (stands : Stands text piece position) (located : error.Located piece) :
    (error.shift position).Located text := by
  have inside {quote : List Char} {place : Nat} : Stands piece quote place → Stands text quote (position + place) :=
    Text.stands_within stands
  cases error
  case unterminatedString => exact located.imp inside inside
  case expectedToken => exact located.imp inside (And.imp_right inside)
  case depthExceeded => trivial
  case depthMismatch => trivial
  case duplicateVariable => trivial
  all_goals exact inside located

end ParseError

end QueryOptions
