import QueryOptions.Proofs.Nested.Pieces
import QueryOptions.Proofs.Nested.Search

set_option autoImplicit false

namespace QueryOptions

deriving instance DecidableEq for ValueScan

instance (value : List Char) : Decidable (TakenWhole value) := inferInstanceAs (Decidable (_ = _))

section

variable {depth depth' : Nat} {text tail value value' after after' front front' : List Char} {c c' mark : Char}

theorem crosses_front (crosses : Crosses depth text depth' tail) :
    ∃ front, text = front ++ tail ∧ Crosses depth front depth' [] := by
  induction crosses with
  | refl => exact ⟨[], rfl, .refl _ _⟩
  | @plain _ _ c _ _ simple _ ih =>
      obtain ⟨front, rfl, others⟩ := ih
      exact ⟨c :: front, rfl, .plain simple others⟩
  | semicolon _ ih =>
      obtain ⟨front, rfl, others⟩ := ih
      exact ⟨';' :: front, rfl, .semicolon others⟩
  | opening _ ih =>
      obtain ⟨front, rfl, others⟩ := ih
      exact ⟨'(' :: front, rfl, .opening others⟩
  | closing _ ih =>
      obtain ⟨front, rfl, others⟩ := ih
      exact ⟨')' :: front, rfl, .closing others⟩
  | @string _ _ quote rest tail quotes closed _ ih =>
      obtain ⟨front, split, others⟩ := ih
      have heads : Expression.Heads (scanString quote rest).rest front := fun c head => .inl <| by
        rw [split, List.head?_append, Option.mem_def.mp head]
        rfl
      have alone := scan_string_local quote rest (by rcases quotes with rfl | rfl <;> rfl) closed heads
      refine ⟨quote :: ((scanString quote rest).taken ++ front), ?_, ?_⟩
      · rw [List.cons_append, List.append_assoc, ← split, scan_string_splits]
      · refine .string quotes (by rw [alone]) ?_
        rw [alone]
        exact others

theorem crosses_of_taken_whole (whole : TakenWhole value) : Crosses 0 value 0 [] := by
  have crosses := (scan_value_crosses _ 0 _ (Nat.lt_succ_self _) (congrArg ValueScan.fault whole)).1
  rw [show scanValue _ 0 _ = _ from whole] at crosses
  obtain ⟨front, split, alone⟩ := crosses_front crosses
  rwa [← List.append_cancel_right split] at alone

theorem value_unique (whole : TakenWhole value) (whole' : TakenWhole value') (ends : c = ')' ∨ c = ';')
    (ends' : c' = ')' ∨ c' = ';') (same : value ++ c :: after = value' ++ c' :: after') :
    value = value' ∧ c = c' ∧ after = after' := by
  have scan {value : List Char} {c : Char} (after : List Char) (whole : TakenWhole value) (ends : c = ')' ∨ c = ';') :
      scanValue ((value ++ c :: after).length + 1) 0 (value ++ c :: after) = ⟨none, value, c :: after⟩ := by
    have further : Crosses 0 (value ++ c :: after) 0 (c :: after) :=
      (crosses_of_taken_whole whole).before (by rcases ends with rfl | rfl <;> simp) (by rcases ends with rfl | rfl <;> simp)
    obtain ⟨taken, scan, split⟩ := scan_value_of_crosses further rfl ⟨c, after, rfl, ends⟩ _ (Nat.lt_succ_self _)
    rwa [List.append_cancel_right split] at scan
  have first := scan after whole ends
  rw [same, scan after' whole' ends'] at first
  cases first
  exact ⟨rfl, rfl, rfl⟩

theorem split_unique (absent : mark ∉ front) (absent' : mark ∉ front')
    (same : front ++ mark :: after = front' ++ mark :: after') : front = front' ∧ after = after' := by
  have before {front after : List Char} (absent : mark ∉ front) :
      (front ++ mark :: after).takeWhile (· != mark) = front :=
    Expression.take_while_before (fun c member => bne_iff_ne.mpr fun is => absent (is ▸ member))
      fun c head => by rw [← Option.some.inj head, bne_self_eq_false]
  have fronts : front = front' := (before absent).symm.trans ((congrArg _ same).trans (before absent'))
  subst fronts
  exact ⟨rfl, (List.cons.inj (List.append_cancel_left same)).2⟩

end

namespace Assignment

variable {assignment : Assignment} {assignments assignments' : List Assignment} {tail tail' : List Char}

-- The key and the value are as far as their readers take them.
structure Cut (assignment : Assignment) : Prop where
  key : '=' ∉ assignment.key
  value : TakenWhole assignment.value

instance (assignment : Assignment) : Decidable assignment.Cut :=
  decidable_of_iff ('=' ∉ assignment.key ∧ TakenWhole assignment.value)
    ⟨fun cut => ⟨cut.1, cut.2⟩, fun cut => ⟨cut.key, cut.value⟩⟩

def option? (settings : Settings) (kind : ItemKind) (assignment : Assignment) : Option ItemOption :=
  kind.option? settings (String.ofList (Text.trim assignment.key))

theorem list_unique (some : assignments ≠ []) (some' : assignments' ≠ []) (cut : ∀ each ∈ assignments, each.Cut)
    (cut' : ∀ each ∈ assignments', each.Cut) (same : list assignments ++ ')' :: tail = list assignments' ++ ')' :: tail') :
    assignments = assignments' ∧ tail = tail' := by
  induction assignments generalizing assignments' with
  | nil => exact absurd rfl some
  | cons first others ih =>
      obtain ⟨first', others', rfl⟩ := List.exists_cons_of_ne_nil some'
      obtain ⟨here, later⟩ := List.forall_mem_cons.mp cut
      obtain ⟨here', later'⟩ := List.forall_mem_cons.mp cut'
      obtain ⟨c, after, text, behind⟩ := list_first first others tail
      obtain ⟨c', after', text', behind'⟩ := list_first first' others' tail'
      rw [text, text'] at same
      obtain ⟨keys, same⟩ := split_unique here.key here'.key same
      obtain ⟨values, rfl, rfl⟩ := value_unique here.value here'.value (behind.imp And.left And.left)
        (behind'.imp And.left And.left) same
      obtain rfl : first = first' := by
        cases first
        cases first'
        cases keys
        cases values
        rfl
      rcases behind with ⟨rfl, rfl, rfl⟩ | ⟨rfl, some, rfl⟩
      · rcases behind' with ⟨-, rfl, rfl⟩ | ⟨semicolon, -⟩
        · exact ⟨rfl, rfl⟩
        · cases semicolon
      · rcases behind' with ⟨close, -⟩ | ⟨-, some', same⟩
        · cases close
        · obtain ⟨rfl, rfl⟩ := ih some some' later later' same
          exact ⟨rfl, rfl⟩

end Assignment

structure ItemParts where
  path : List Char
  assignments : List Assignment
  tail : List Char

namespace ItemParts

def text (item : ItemParts) : List Char := item.path ++ '(' :: (Assignment.list item.assignments ++ ')' :: item.tail)

structure Cut (item : ItemParts) : Prop where
  path : '(' ∉ item.path
  some : item.assignments ≠ []
  assignments : ∀ each ∈ item.assignments, each.Cut

theorem cut_unique {item item' : ItemParts} (cut : item.Cut) (cut' : item'.Cut) (same : item.text = item'.text) :
    item = item' := by
  obtain ⟨path, assignments, tail⟩ := item
  obtain ⟨path', assignments', tail'⟩ := item'
  obtain ⟨paths, same⟩ := split_unique cut.path cut'.path same
  obtain ⟨lists, tails⟩ := Assignment.list_unique cut.some cut'.some cut.assignments cut'.assignments same
  cases paths
  cases lists
  cases tails
  rfl

end ItemParts

end QueryOptions
