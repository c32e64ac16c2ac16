import Mathlib.Data.List.Find
import Mathlib.Data.List.Forall2
import QueryOptions.Proofs.Derivation.Vocabulary

set_option autoImplicit false

namespace QueryOptions

open Expression

inductive Use where
  | name (part : Lexeme)
  | keyword (word : String)
  | mark (lexeme : Lexeme)

namespace Use

def Admits (settings : Settings) (lexeme : Lexeme) : Use → Prop
  | name own | mark own => lexeme = own
  | keyword word => lexeme.isKeyword settings word

def Admit (settings : Settings) (uses : List Use) (lexemes : List Lexeme) : Prop :=
  List.Forall₂ (fun use lexeme => use.Admits settings lexeme) uses lexemes

-- The names that lexemes are taken for, from the left to the right. A word is part of a name or a keyword.
inductive Names : List Use → List String → Prop where
  | nil : Names [] []
  | name {own : List Lexeme} {name : String} {uses : List Use} {names : List String} (spelled : Name own name)
      (others : Names uses names) : Names (own.map Use.name ++ uses) (name :: names)
  | keyword {word : String} {uses : List Use} {names : List String} (others : Names uses names) :
      Names (.keyword word :: uses) names
  | mark {lexeme : Lexeme} {uses : List Use} {names : List String} (other : lexeme.kind ≠ .identifier)
      (others : Names uses names) : Names (.mark lexeme :: uses) names

variable {settings : Settings} {uses uses' : List Use} {names names' : List String} {lexemes lexemes' : List Lexeme}

theorem names_append (first : Names uses names) (second : Names uses' names') : Names (uses ++ uses') (names ++ names') := by
  induction first with
  | nil => exact second
  | name spelled _ ih =>
      rw [List.append_assoc, List.cons_append]
      exact .name spelled ih
  | keyword _ ih => exact .keyword ih
  | mark other _ ih => exact .mark other ih

theorem names_single {own : List Lexeme} {name : String} (spelled : Name own name) : Names (own.map Use.name) [name] := by
  have whole := Names.name spelled .nil
  rwa [List.append_nil] at whole

theorem admit_append (first : Admit settings uses lexemes) (second : Admit settings uses' lexemes') :
    Admit settings (uses ++ uses') (lexemes ++ lexemes') := List.rel_append first second

theorem admit_split (whole : Admit settings (uses ++ uses') lexemes) :
    ∃ front back, lexemes = front ++ back ∧ Admit settings uses front ∧ Admit settings uses' back :=
  ⟨_, _, (List.take_append_drop uses.length lexemes).symm, (List.forall₂_take_append _ _ _ whole.flip).flip,
    (List.forall₂_drop_append _ _ _ whole.flip).flip⟩

theorem admit_names (own : List Lexeme) : Admit settings (own.map Use.name) own := by
  rw [Admit, List.forall₂_map_left_iff, List.forall₂_same]
  exact fun _ _ => rfl

theorem names_admitted {own : List Lexeme} (admitted : Admit settings (own.map Use.name) lexemes) : lexemes = own := by
  rw [Admit, List.forall₂_map_left_iff] at admitted
  exact (List.forall₂_eq_eq_eq ▸ admitted.imp fun _ _ same => same.symm : own = lexemes).symm

end Use

-- Lexemes that a parse cannot tell apart where it takes them for the same.
def Same (settings : Settings) (x y : Lexeme) : Prop := ∃ use : Use, use.Admits settings x ∧ use.Admits settings y

section

variable {settings : Settings} {x y : Lexeme}

theorem same_refl (x : Lexeme) : Same settings x x := ⟨.mark x, rfl, rfl⟩

theorem same_of_admitted {uses : List Use} {lexemes lexemes' : List Lexeme} (first : Use.Admit settings uses lexemes)
    (second : Use.Admit settings uses lexemes') : List.Forall₂ (Same settings) lexemes lexemes' := by
  induction first generalizing lexemes' with
  | nil =>
      cases second
      exact .nil
  | cons here _ ih =>
      cases second with
      | cons here' later => exact .cons ⟨_, here, here'⟩ (ih later)

theorem same_cases (same : Same settings x y) :
    x = y ∨ ∃ word, x.isKeyword settings word ∧ y.isKeyword settings word := by
  obtain ⟨use, left, right⟩ := same
  cases use with
  | name | mark => exact .inl (left.trans right.symm)
  | keyword word => exact .inr ⟨word, left, right⟩

theorem same_kind (same : Same settings x y) : x.kind = y.kind := by
  obtain rfl | ⟨word, left, right⟩ := same_cases same
  · rfl
  · rw [keyword_word left, keyword_word right]

theorem same_other (same : Same settings x y) (other : x.kind ≠ .identifier) : x = y := by
  obtain equal | ⟨word, left, -⟩ := same_cases same
  · exact equal
  · exact absurd (keyword_word left) other

theorem same_word_iff {ignoreCase : Bool} {left right : String} :
    Text.sameWord ignoreCase left right ↔ left = right ∨ ignoreCase ∧ Text.fold left = Text.fold right := by
  simp [Text.sameWord, Text.sameFolded]

theorem same_word_congr {ignoreCase : Bool} {left right word : String} (first : Text.sameWord ignoreCase left word)
    (second : Text.sameWord ignoreCase right word) (other : String) :
    Text.sameWord ignoreCase left other = Text.sameWord ignoreCase right other := by
  rw [Bool.eq_iff_iff, same_word_iff, same_word_iff]
  rw [same_word_iff] at first second
  cases ignoreCase with
  | false =>
      obtain rfl : left = word := first.resolve_right (by simp)
      obtain rfl : right = left := second.resolve_right (by simp)
      exact .rfl
  | true =>
      have folded {a b : String} : a = b ∨ true ∧ Text.fold a = Text.fold b ↔ Text.fold a = Text.fold b :=
        ⟨fun either => either.elim (congrArg Text.fold) And.right, fun same => .inr ⟨rfl, same⟩⟩
      rw [folded] at first second
      rw [folded, folded, first, second]

theorem same_matches (same : Same settings x y) (word : String) :
    settings.matchesKeyword x.text word = settings.matchesKeyword y.text word := by
  obtain rfl | ⟨keyword, left, right⟩ := same_cases same
  · rfl
  · exact same_word_congr (Bool.and_eq_true_iff.mp left).2 (Bool.and_eq_true_iff.mp right).2 word

theorem same_keyword (same : Same settings x y) (word : String) : x.isKeyword settings word = y.isKeyword settings word := by
  rw [Lexeme.isKeyword, Lexeme.isKeyword, same_kind same, same_matches same]

theorem same_of_keyword (same : Same settings x y) (table : List (String × BinaryOperator)) :
    BinaryOperator.ofKeyword? table settings.ignoreCase x.text =
      BinaryOperator.ofKeyword? table settings.ignoreCase y.text := by
  refine congrArg (Option.map Prod.snd) (List.find?_congr fun entry _ => ?_)
  rw [same_word_comm, same_word_comm _ _ y.text]
  exact same_matches same entry.1

theorem same_of_custom (same : Same settings x y) :
    BinaryOperator.ofCustom? settings x.text = BinaryOperator.ofCustom? settings y.text :=
  congrArg (Option.map BinaryOperator.custom) (List.find?_congr fun word _ => same_matches same word)

theorem same_operator (same : Same settings x y) (level : Nat) : operatorAt settings level x = operatorAt settings level y := by
  unfold operatorAt
  simp only [same_keyword same, same_kind same, same_of_keyword same, same_of_custom same]

theorem same_membership (same : Same settings x y) (level : Nat) :
    isMembership settings level x = isMembership settings level y := by
  rw [isMembership, isMembership, same_keyword same]

theorem same_prefix (same : Same settings x y) : prefixAt settings x = prefixAt settings y := by
  rw [prefixAt, prefixAt, same_keyword same, same_kind same]

theorem operator_used {level : Nat} {operator : BinaryOperator} (spelled : operatorAt settings level x = some operator) :
    ∃ word, x.isKeyword settings word := by
  refine ⟨x.text, ?_⟩
  rw [Lexeme.isKeyword, operator_word spelled, Settings.matchesKeyword, keyword_spelled]
  rfl

end

end QueryOptions
