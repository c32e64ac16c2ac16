import Mathlib
import QueryOptions.Proofs.Nested.Pieces
import QueryOptions.Proofs.Token.Name

set_option autoImplicit false

namespace QueryOptions

section

variable {c : Char} {word name : String} {ignoreCase : Bool} {text : List Char}

theorem alpha_word (letter : c.isAlpha) : Text.isIdentifierStart c ∧ Text.isIdentifierContinue c := by
  have ascii : c.toNat < 0x80 := by
    rcases Bool.or_eq_true_iff.mp letter with upper | lower
    · have below : c.val ≤ 90 := (of_decide_eq_true upper).2
      exact Nat.lt_of_le_of_lt (UInt32.le_iff_toNat_le.mp below) (by decide)
    · have below : c.val ≤ 122 := of_decide_eq_true (Bool.and_eq_true_iff.mp lower).2
      exact Nat.lt_of_le_of_lt (UInt32.le_iff_toNat_le.mp below) (by decide)
  have letter' : Text.isLetter c := by rwa [Text.isLetter, if_pos ascii]
  refine ⟨?_, ?_⟩
  · rw [Text.isIdentifierStart, letter', Bool.or_true]
  · rw [Text.isIdentifierContinue, if_pos ascii, Char.isAlphanum, letter, Bool.true_or, Bool.true_or]

theorem fold_of_same (same : Text.sameWord ignoreCase word name) : Text.fold word = Text.fold name := by
  unfold Text.sameWord at same
  rcases Bool.or_eq_true_iff.mp same with equal | folded
  · rw [eq_of_beq equal]
  · exact eq_of_beq (Bool.and_eq_true_iff.mp folded).2

theorem trim_parts (text : List Char) : ∃ front back, text = front ++ (Text.trim text ++ back) ∧
    (∀ c ∈ front, Text.isBlank c) ∧ ∀ c ∈ back, Text.isBlank c := by
  refine ⟨text.takeWhile Text.isBlank, ((text.dropWhile Text.isBlank).reverse.takeWhile Text.isBlank).reverse, ?_,
    Expression.take_while_all _ _, fun c member => Expression.take_while_all _ _ c (List.mem_reverse.mp member)⟩
  rw [Text.trim, ← List.reverse_append, List.takeWhile_append_dropWhile, List.reverse_reverse, List.takeWhile_append_dropWhile]

theorem word_kind_of_fold
    (other : Text.fold word ∉ ["inf", "nan", "inff", "nanf", "null", "true", "false"].map String.toList) :
    Expression.wordKind word = .identifier := by
  have differs {constant : String}
      (listed : Text.fold constant ∈ ["inf", "nan", "inff", "nanf", "null", "true", "false"].map String.toList) :
      Text.fold word ≠ Text.fold constant := fun same => other (same ▸ listed)
  have apart {constant : String}
      (listed : Text.fold constant ∈ ["inf", "nan", "inff", "nanf", "null", "true", "false"].map String.toList) :
      word ≠ constant := fun same => differs listed (congrArg Text.fold same)
  unfold Expression.wordKind
  rw [if_neg, if_neg, if_neg, if_neg]
  · rintro (same | same) <;> exact differs (by decide) (eq_of_beq same)
  · exact apart (by decide)
  · rintro (same | same | same | same) <;> exact apart (by decide) same
  · rintro (same | same) <;> exact apart (by decide) same

end

variable {settings : Settings} {kind : ItemKind} {option : ItemOption} {key : List Char} {word : String}

theorem option_word (found : kind.option? settings word = some option) :
    ∃ first inner, word.toList = first :: inner ∧ Expression.IsWord first inner ∧
      Expression.wordKind word = .identifier := by
  obtain ⟨bare, stripped, named⟩ := Option.bind_eq_some_iff.mp found
  have same : settings.matchesKeyword bare option.bareName := (List.find?_some named :)
  have folded : Text.fold bare = Text.fold option.bareName := fold_of_same same
  have letters : ∀ c ∈ bare.toList, c.isAlpha := fun c member => by
    have listed : c.toLower ∈ Text.fold option.bareName := folded ▸ List.mem_map_of_mem member
    rw [← Char.isAlpha_toLower_eq_isAlpha]
    refine List.all_eq_true.mp ?_ _ listed
    cases option <;> decide
  obtain ⟨first, inner, same⟩ : ∃ first inner, bare.toList = first :: inner := by
    refine List.exists_cons_of_ne_nil fun none => ?_
    rw [Text.fold, none] at folded
    cases option <;> cases folded
  rw [same] at letters
  have continues : ∀ c ∈ first :: inner, Text.isIdentifierContinue c := fun c member => (alpha_word (letters c member)).2
  split at stripped
  · rename_i rest signed
    obtain rfl := Option.some.inj stripped
    rw [String.toList_ofList] at same
    subst same
    refine ⟨'$', first :: inner, signed, ⟨rfl, continues, fun _ => List.cons_ne_nil _ _⟩, word_kind_of_fold ?_⟩
    have whole : Text.fold word = '$' :: Text.fold option.bareName := by
      rw [← folded, Text.fold, signed, Text.fold, String.toList_ofList]
      rfl
    rw [whole]
    cases option <;> decide
  · split at stripped
    · obtain rfl := Option.some.inj stripped
      refine ⟨first, inner, same, ⟨(alpha_word (letters first List.mem_cons_self)).1,
        fun c member => continues c (List.mem_cons_of_mem _ member), ?_⟩, word_kind_of_fold ?_⟩
      · rintro rfl
        exact absurd (letters '$' List.mem_cons_self) (by decide)
      · rw [folded]
        cases option <;> decide
    · cases stripped

def ItemOption.keys (settings : Settings) (kind : ItemKind) (option : ItemOption) : Language Char :=
  {key | kind.option? settings (String.ofList (Text.trim key)) = some option}

theorem keys_named (named : key ∈ option.keys settings kind) : Piece.Keys settings kind option key := by
  obtain ⟨first, inner, same, whole, identifier⟩ := option_word named
  obtain ⟨front, back, split, blank, blank'⟩ := trim_parts key
  rw [String.toList_ofList] at same
  rw [same] at split identifier
  have found : kind.option? settings (String.ofList (first :: inner)) = some option := same ▸ (named :)
  refine Piece.keys_of_scan blank' found fun after => ?_
  have parted : Expression.Parted (back ++ '=' :: after) := by
    cases back with
    | nil => exact Expression.parted_mark (by decide) after
    | cons c back =>
        have delimits := Expression.blank_delimits (blank' c List.mem_cons_self)
        exact Expression.parted_of_delimited (Expression.delimited_mark delimits _)
  have visible : Text.isBlank first = false := Expression.inner_visible Expression.start_inner whole.starts
  have scans := Expression.scan_name whole parted
  rw [identifier] at scans
  rw [split, List.append_assoc, List.append_assoc, List.dropWhile_append_of_pos blank, List.cons_append,
    List.dropWhile_cons_of_neg (by rw [visible]; decide)]
  exact scans

theorem key_bare (named : key ∈ option.keys settings kind) : '=' ∉ key := by
  obtain ⟨first, inner, same, word, -⟩ := option_word named
  obtain ⟨front, back, split, leads, trails⟩ := trim_parts key
  rw [String.toList_ofList] at same
  rw [split, same, List.mem_append, List.mem_append, List.mem_cons]
  rintro (before | (rfl | within) | behind)
  · exact absurd (leads '=' before) (by decide)
  · exact absurd word.starts (by decide)
  · exact absurd (word.letters '=' within) (by decide)
  · exact absurd (trails '=' behind) (by decide)

end QueryOptions
