import QueryOptions.Proofs.Derivation.Spelling
import QueryOptions.Proofs.Token.Name

set_option autoImplicit false

namespace QueryOptions

open Expression

variable {text text' tail : List Char} {lexemes own back : List Lexeme} {kind : TokenKind}

-- The lexemes of the text stand in front of those of every text of the kind that may come
-- behind it.
def Written (ends : List Char → Prop) (text : List Char) (own : List Lexeme) : Prop :=
  ∀ tail lexemes, ends tail → Spelled .expression tail lexemes → Spelled .expression (text ++ tail) (own ++ lexemes)

def Anything (_ : List Char) : Prop := True

inductive Scans : List Char → List Lexeme → List Char → Prop where
  | nil (text : List Char) : Scans text [] text
  | cons {text taken rest tail : List Char} {kind : TokenKind} {lexemes : List Lexeme}
      (scans : Expression.scan (text.dropWhile Text.isBlank) = .token kind taken rest) (going : kind ≠ .finish)
      (others : Scans rest lexemes tail) : Scans text (⟨kind, String.ofList taken⟩ :: lexemes) tail

def Fronted (ends : List Char → Prop) (text : List Char) (own : List Lexeme) : Prop :=
  ∀ tail, ends tail → Scans (text ++ tail) own tail

structure Scanned (lexeme : Lexeme) : Prop where
  read : ∃ text taken rest : List Char, Expression.scan (text.dropWhile Text.isBlank) = .token lexeme.kind taken rest ∧
    lexeme.text = String.ofList taken
  going : lexeme.kind ≠ .finish

theorem spelled_scanned (spelled : Spelled .expression text lexemes) : ∀ lexeme ∈ lexemes, Scanned lexeme := by
  induction spelled with
  | blank => exact List.forall_mem_nil _
  | lexeme scans going _ ih => exact List.forall_mem_cons.mpr ⟨⟨⟨_, _, _, scans, rfl⟩, going⟩, ih⟩

theorem spelled_trim (spelled : Spelled .expression text lexemes)
    (same : text'.dropWhile Text.isBlank = text.dropWhile Text.isBlank) : Spelled .expression text' lexemes := by
  cases spelled with
  | blank blank => exact .blank (same.trans blank)
  | lexeme scans going others => exact .lexeme (same ▸ scans) going others

theorem spelled_append (spelled : Spelled .expression text lexemes) (named : ∀ lexeme ∈ lexemes, lexeme.kind ≠ .atSign)
    (delimited : Delimited tail) (others : Spelled .expression tail back) :
    Spelled .expression (text ++ tail) (lexemes ++ back) := by
  induction spelled with
  | @blank text blank =>
      refine spelled_trim others ?_
      rw [List.dropWhile_append, blank]
      rfl
  | @lexeme text taken rest kind lexemes scans going _ ih =>
      obtain ⟨here, later⟩ := List.forall_mem_cons.mp named
      have some : text.dropWhile Text.isBlank ≠ [] := fun none => by
        rw [none] at scans
        cases scans
        exact going rfl
      have again := scan_local scans going here (follows_append rest delimited)
      rw [← List.append_assoc, scan_token_split scans, ← drop_while_append some] at again
      exact .lexeme again going (ih later)

theorem written_spelled (spelled : Spelled .expression text lexemes) (named : ∀ lexeme ∈ lexemes, lexeme.kind ≠ .atSign) :
    Written Delimited text lexemes :=
  fun _ _ delimited others => spelled_append spelled named delimited others

theorem scans_append (first : Scans text own text') (second : Scans text' back tail) : Scans text (own ++ back) tail := by
  induction first with
  | nil => exact second
  | cons scans going _ ih => exact .cons scans going (ih second)

theorem scans_gap {gap : List Char} (blank : ∀ c ∈ gap, Text.isBlank c) (scans : Scans text own tail) (some : own ≠ []) :
    Scans (gap ++ text) own tail := by
  cases scans with
  | nil => exact absurd rfl some
  | cons scans going others => exact .cons (by rwa [List.dropWhile_append_of_pos blank]) going others

theorem spelled_of_scans (scans : Scans text own text') (spelled : Spelled .expression text' lexemes) :
    Spelled .expression text (own ++ lexemes) := by
  induction scans with
  | nil => exact spelled
  | cons scans going _ ih => exact .lexeme scans going (ih spelled)

theorem written_of_fronted {ends : List Char → Prop} (fronted : Fronted ends text own) : Written ends text own :=
  fun tail _ fits others => spelled_of_scans (fronted tail fits) others

theorem fronted_append {ends ends' : List Char → Prop} (first : Fronted ends text own) (second : Fronted ends' text' back)
    (behind : ∀ tail, ends' tail → ends (text' ++ tail)) : Fronted ends' (text ++ text') (own ++ back) := by
  intro tail fits
  rw [List.append_assoc]
  exact scans_append (first _ (behind tail fits)) (second tail fits)

theorem spelled_written {ends : List Char → Prop} (written : Written ends text own) (alone : ends []) :
    Spelled .expression text own := by
  have whole := written [] [] alone (.blank rfl)
  rwa [List.append_nil, List.append_nil] at whole

theorem written_append {ends ends' : List Char → Prop} (first : Written ends text own) (second : Written ends' text' back)
    (behind : ∀ tail, ends' tail → ends (text' ++ tail)) : Written ends' (text ++ text') (own ++ back) := by
  intro tail lexemes fits others
  rw [List.append_assoc, List.append_assoc]
  exact first _ _ (behind tail fits) (second tail lexemes fits others)

theorem written_weaken {ends ends' : List Char → Prop} (written : Written ends text own)
    (fewer : ∀ tail, ends' tail → ends tail) : Written ends' text own :=
  fun tail lexemes fits others => written tail lexemes (fewer tail fits) others

theorem written_nil : Written Anything [] [] := fun _ _ _ others => others

theorem written_blank : Written Anything [' '] [] := fun _ _ _ others => spelled_trim others rfl

theorem fronted_mark {c : Char} (visible : Text.isBlank c = false) (found : punctuation? c = some kind)
    (going : kind ≠ .finish) : Fronted Anything [c] [⟨kind, String.ofList [c]⟩] := by
  intro tail _
  refine .cons ?_ going (.nil tail)
  rw [List.singleton_append, List.dropWhile_cons_of_neg (by rw [visible]; decide)]
  exact scan_of_branch (.mark found)

theorem written_mark {c : Char} (visible : Text.isBlank c = false) (found : punctuation? c = some kind)
    (going : kind ≠ .finish) : Written Anything [c] [⟨kind, String.ofList [c]⟩] :=
  written_of_fronted (fronted_mark visible found going)

theorem written_minus : Written Anything ['-', ' '] [⟨.minus, "-"⟩] :=
  fun _ _ _ others => .lexeme rfl (by decide) (spelled_trim others rfl)

theorem fronted_word {first : Char} {word : List Char} (whole : IsWord first word) :
    Fronted Parted (first :: word) [⟨wordKind (String.ofList (first :: word)), String.ofList (first :: word)⟩] := by
  intro tail parted
  refine .cons ?_ ?_ (.nil tail)
  · rw [List.cons_append, List.dropWhile_cons_of_neg (by rw [inner_visible start_inner whole.starts]; decide)]
    exact scan_name whole parted
  · unfold wordKind
    repeat' split
    all_goals decide

theorem fronted_name {lexeme : Lexeme} (scanned : Scanned lexeme) (named : lexeme.isName) :
    Fronted Parted lexeme.text.toList [lexeme] := by
  obtain ⟨kind, name⟩ := lexeme
  obtain ⟨text, taken, rest, scans, rfl⟩ := scanned.read
  obtain ⟨first, word, whole, rfl, rfl, -⟩ := scan_named scans named
  rw [String.toList_ofList]
  exact fronted_word whole

theorem written_name {lexeme : Lexeme} (scanned : Scanned lexeme) (named : lexeme.isName) :
    Written Parted lexeme.text.toList [lexeme] := written_of_fronted (fronted_name scanned named)

theorem Dialect.token_visible {dialect : Dialect} {text taken rest : List Char}
    (scans : dialect.scan (text.dropWhile Text.isBlank) = .token kind taken rest) (going : kind ≠ .finish) :
    ∃ c more, taken = c :: more ∧ Text.isBlank c = false := by
  obtain ⟨c, more, rfl⟩ := List.exists_cons_of_ne_nil (Dialect.scan_taking scans going)
  have split := Dialect.scan_split dialect (text.dropWhile Text.isBlank)
  rw [scans] at split
  exact ⟨c, more, rfl, head_drop_while Text.isBlank text c (by rw [← split]; rfl)⟩

theorem taken_visible {text taken rest : List Char}
    (scans : Expression.scan (text.dropWhile Text.isBlank) = .token kind taken rest)
    (going : kind ≠ .finish) (after : List Char) : (taken ++ after).dropWhile Text.isBlank = taken ++ after := by
  obtain ⟨c, more, rfl, visible⟩ := @Dialect.token_visible kind .expression _ _ _ scans going
  exact List.dropWhile_cons_of_neg (by rw [visible]; decide)

theorem written_token {lexeme : Lexeme} (scanned : Scanned lexeme) (named : lexeme.kind ≠ .atSign) :
    Written Delimited lexeme.text.toList [lexeme] := by
  obtain ⟨kind, name⟩ := lexeme
  obtain ⟨⟨text, taken, rest, scans, rfl⟩, going⟩ := scanned
  intro tail lexemes delimited others
  rw [String.toList_ofList]
  refine .lexeme ?_ going others
  rw [taken_visible scans going]
  exact scan_local scans going named (.inl delimited)

theorem fronted_of_scans (scans : Scans text lexemes tail) (named : ∀ lexeme ∈ lexemes, lexeme.kind ≠ .atSign)
    (delimited : Delimited tail) : ∃ front, text = front ++ tail ∧ Fronted Delimited front lexemes := by
  induction scans with
  | nil => exact ⟨[], rfl, fun after _ => .nil after⟩
  | @cons text taken rest tail kind lexemes scans going _ ih =>
      obtain ⟨here, later⟩ := List.forall_mem_cons.mp named
      obtain ⟨back, rfl, again⟩ := ih later delimited
      refine ⟨text.takeWhile Text.isBlank ++ taken ++ back, ?_, fun after delimited' => ?_⟩
      · rw [List.append_assoc, List.append_assoc, scan_token_split scans, List.takeWhile_append_dropWhile]
      · rw [List.append_assoc, List.append_assoc]
        refine .cons ?_ going (again after delimited')
        rw [List.dropWhile_append_of_pos (take_while_all _ _), taken_visible scans going]
        exact scan_local scans going here (.inr ⟨back, tail, after, delimited, delimited', rfl, rfl⟩)

theorem delimited_gap {gap : List Char} (blank : ∀ c ∈ gap, Text.isBlank c) (delimited : Delimited tail) :
    Delimited (gap ++ tail) := by
  cases gap with
  | nil => exact delimited
  | cons c gap => exact delimited_mark (blank_delimits (blank c List.mem_cons_self)) _

theorem fronted_closed {gap : List Char} (scans : Scans text lexemes (gap ++ ')' :: tail))
    (named : ∀ lexeme ∈ lexemes, lexeme.kind ≠ .atSign) (blank : ∀ c ∈ gap, Text.isBlank c) :
    ∃ front, text = front ++ tail ∧ Fronted Anything front (lexemes ++ [⟨.closeParen, ")"⟩]) := by
  have behind (tail : List Char) : Delimited (gap ++ ')' :: tail) :=
    delimited_gap blank (delimited_mark rfl tail)
  obtain ⟨front, rfl, fronted⟩ := fronted_of_scans scans named (behind tail)
  refine ⟨front ++ (gap ++ [')']), by simp, fronted_append fronted (fun after _ => ?_) fun after _ => ?_⟩
  · have closing : scan ((gap ++ ')' :: after).dropWhile Text.isBlank) = .token .closeParen [')'] after := by
      rw [List.dropWhile_append_of_pos blank]
      exact scan_of_branch (.mark rfl)
    rw [List.append_assoc]
    exact .cons closing (by decide) (.nil after)
  · rw [List.append_assoc]
    exact behind after

def isPlainWord (word : String) : Bool :=
  match word.toList with
  | [] => false
  | first :: letters =>
      Text.isIdentifierStart first && first != '$' && letters.all Text.isIdentifierContinue &&
        wordKind word == .identifier

theorem fronted_plain_word {word : String} (plain : isPlainWord word) :
    Fronted Parted word.toList [⟨.identifier, word⟩] := by
  unfold isPlainWord at plain
  split at plain
  · cases plain
  · rename_i first letters same
    simp only [Bool.and_eq_true, bne_iff_ne, List.all_eq_true, beq_iff_eq] at plain
    obtain ⟨⟨⟨start, dollar⟩, inner⟩, found⟩ := plain
    have fronted := fronted_word ⟨start, inner, fun is => absurd is dollar⟩
    rwa [← same, String.ofList_toList, found] at fronted

theorem written_plain_word {word : String} (plain : isPlainWord word) :
    Written Parted word.toList [⟨.identifier, word⟩] := written_of_fronted (fronted_plain_word plain)

theorem written_word_blank {word : String} (plain : isPlainWord word) :
    Written Anything (word.toList ++ [' ']) [⟨.identifier, word⟩] :=
  written_append (written_plain_word plain) written_blank fun _ _ => parted_mark (by decide) _

theorem written_operation {word : String} {ends : List Char → Prop} (plain : isPlainWord word)
    (written : Written ends text own) :
    Written ends (' ' :: (word.toList ++ ' ' :: text)) (⟨.identifier, word⟩ :: own) := by
  have behind := written_append (written_word_blank plain) written fun _ _ => trivial
  have whole := written_append written_blank behind fun _ _ => trivial
  rwa [List.append_assoc] at whole

theorem written_group {text : List Char} {lexemes : List Lexeme} (written : Written Delimited text lexemes) :
    Written Anything ('(' :: (text ++ [')'])) (⟨.openParen, "("⟩ :: (lexemes ++ [⟨.closeParen, ")"⟩])) := by
  have opening : Written Anything ['('] [⟨.openParen, "("⟩] := written_mark rfl rfl (by decide)
  have closing : Written Anything [')'] [⟨.closeParen, ")"⟩] := written_mark rfl rfl (by decide)
  exact written_append opening (written_append written closing fun tail _ => delimited_mark rfl tail) fun _ _ => trivial

def punctuated (mark : Char) (texts : List (List Char)) : List Char := [mark].intercalate texts

theorem punctuated_single (mark : Char) (text : List Char) : punctuated mark [text] = text := List.intercalate_singleton

theorem punctuated_further (mark : Char) (text : List Char) {texts : List (List Char)} (some : texts ≠ []) :
    punctuated mark (text :: texts) = text ++ mark :: punctuated mark texts := by
  obtain ⟨next, others, rfl⟩ := List.exists_cons_of_ne_nil some
  rw [punctuated, List.intercalate_cons_cons, List.append_assoc]
  rfl

theorem punctuated_behind (mark : Char) (text : List Char) (texts : List (List Char)) :
    punctuated mark (text :: texts) = text ++ texts.flatMap (mark :: ·) := by
  induction texts generalizing text with
  | nil => rw [punctuated_single, List.flatMap_nil, List.append_nil]
  | cons next texts ih => rw [punctuated_further _ _ (List.cons_ne_nil _ _), ih, List.flatMap_cons, List.cons_append]

theorem punctuated_append {mark : Char} {texts texts' : List (List Char)} (some : texts ≠ []) (some' : texts' ≠ []) :
    punctuated mark (texts ++ texts') = punctuated mark texts ++ mark :: punctuated mark texts' := by
  obtain ⟨text, others, rfl⟩ := List.exists_cons_of_ne_nil some
  obtain ⟨text', others', rfl⟩ := List.exists_cons_of_ne_nil some'
  rw [List.cons_append, punctuated_behind, punctuated_behind, punctuated_behind, List.flatMap_append, List.flatMap_cons,
    List.append_assoc, List.cons_append]

namespace Expression

variable {level : Nat} {entry : String × BinaryOperator}

theorem level_of_listed (listed : entry ∈ operatorsAt level) : level < 5 := by
  by_cases loose : level < 5
  · exact loose
  · obtain ⟨more, rfl⟩ : ∃ more, level = more + 5 := ⟨level - 5, by omega⟩
    cases listed

theorem keywords_plain : ∀ level < 5, ∀ entry ∈ operatorsAt level, isPlainWord entry.1 := by
  decide +kernel

theorem keywords_found : ∀ level < 5, ∀ entry ∈ operatorsAt level,
    BinaryOperator.ofKeyword? (operatorsAt level) false entry.1 = some entry.2 := by
  decide +kernel

theorem keyword_operator {settings : Settings} (plain : settings.customOperators = []) (exact : settings.ignoreCase = false)
    (listed : entry ∈ operatorsAt level) : operatorAt settings level ⟨.identifier, entry.1⟩ = some entry.2 := by
  rw [operator_at_listed (custom_none plain _), if_pos rfl, exact]
  exact keywords_found level (level_of_listed listed) entry listed

end Expression

end QueryOptions
