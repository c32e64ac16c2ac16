import QueryOptions.Proofs.Pointing
import QueryOptions.Token.Session

set_option autoImplicit false

namespace QueryOptions

open Text (Stands byteLength byteLength_append)

def reached {ε σ α : Type} : EStateM.Result ε σ α → σ
  | .ok _ after => after
  | .error _ after => after

namespace Cursor

-- The place of a cursor in a text, positions counted from a base: the token is a piece of
-- the text and ends before what is left of it.
structure Sound (text : List Char) (base : Nat) (cursor : Cursor) : Prop where
  token : ∃ place, cursor.token.position = base + place ∧ Stands text cursor.token.text.toList place
  rest : ∃ front, cursor.offset = base + byteLength front ∧ text = front ++ cursor.rest
  order : cursor.token.position + byteLength cursor.token.text.toList ≤ cursor.offset

structure Onward (text : List Char) (base : Nat) (before after : Cursor) : Prop where
  sound : after.Sound text base
  forward : before.offset ≤ after.offset

def Steady (text : List Char) (base : Nat) {α : Type} (step : Step α) : Prop :=
  ∀ cursor, cursor.Sound text base → Onward text base cursor (reached (step cursor))

variable {text : List Char} {base : Nat} {α β : Type} {cursor : Cursor}

theorem start_sound (text : String) (dialect : Dialect) (base : Nat) (keepsBlanks : Bool) :
    (start text dialect base keepsBlanks).Sound text.toList base where
  token := ⟨0, rfl, [], text.toList, rfl, rfl⟩
  rest := ⟨[], rfl, rfl⟩
  order := Nat.le_refl base

theorem onward_pass (sound : cursor.Sound text base) (passed rest : List Char) (split : cursor.rest = passed ++ rest) :
    Onward text base cursor { cursor with rest := rest, offset := cursor.offset + byteLength passed } := by
  obtain ⟨front, offset, whole⟩ := sound.rest
  refine ⟨⟨sound.token, ⟨front ++ passed, ?_, ?_⟩, ?_⟩, Nat.le_add_right _ _⟩
  · rw [byteLength_append, offset, Nat.add_assoc]
  · rw [whole, split, List.append_assoc]
  · exact Nat.le_trans sound.order (Nat.le_add_right _ _)

theorem onward_take (sound : cursor.Sound text base) (between piece rest : List Char) (kind : TokenKind)
    (split : cursor.rest = between ++ (piece ++ rest)) :
    Onward text base cursor { cursor with
      rest := rest
      offset := cursor.offset + byteLength between + byteLength piece
      token := ⟨kind, String.ofList piece, cursor.offset + byteLength between⟩ } := by
  obtain ⟨front, offset, whole⟩ := sound.rest
  refine ⟨⟨⟨byteLength (front ++ between), ?_, front ++ between, rest, ?_, rfl⟩,
    ⟨front ++ (between ++ piece), ?_, ?_⟩, ?_⟩, ?_⟩
  · dsimp only
    rw [byteLength_append, offset, Nat.add_assoc]
  · rw [String.toList_ofList, whole, split, List.append_assoc]
  · dsimp only
    rw [byteLength_append, byteLength_append, offset, Nat.add_assoc, Nat.add_assoc]
  · rw [whole, split, List.append_assoc, List.append_assoc]
  · rw [String.toList_ofList]
  · dsimp only
    omega

-- A token that cannot be read leaves the token of before, and the scan stops further on.
theorem advance_steady : Steady text base advance := by
  intro cursor sound
  have whole := List.takeWhile_append_dropWhile (p := Text.isBlank) (l := cursor.rest)
  unfold advance
  dsimp only
  generalize cursor.rest.takeWhile Text.isBlank = blanks at whole ⊢
  generalize cursor.rest.dropWhile Text.isBlank = visible at whole ⊢
  have scan := cursor.dialect.scan_split visible
  by_cases kept : cursor.keepsBlanks ∧ cursor.dialect = .expression ∧ blanks ≠ []
  · rw [if_pos kept]
    exact onward_take sound [] blanks visible .whitespace whole.symm
  · rw [if_neg kept]
    cases (cursor.dialect.scan visible).outcome with
    | ok kind => exact onward_take sound blanks _ _ kind (by rw [scan, whole])
    | error error =>
        have passed := onward_pass sound (blanks ++ (cursor.dialect.scan visible).taken)
          (cursor.dialect.scan visible).rest (by rw [List.append_assoc, scan, whole])
        rw [byteLength_append, ← Nat.add_assoc] at passed
        exact passed

end Cursor

namespace Session

variable {text : List Char} {base : Nat} {session : Session}

structure Sound (text : List Char) (base : Nat) (session : Session) : Prop where
  cursor : session.cursor.Sound text base
  kept : ∀ cursor ∈ session.kept, cursor.Sound text base

def Request.past (count skipped : Nat) : Request → Request
  | .restore index => .restore (if index < count then index else index + skipped)
  | request => request

variable {early skipped : List Cursor} {other : Session}

end Session

end QueryOptions
