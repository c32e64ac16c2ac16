import QueryOptions.Proofs.Token.Follow
import QueryOptions.Token.Search

set_option autoImplicit false

namespace QueryOptions

-- A closed phrase after its opening quote, with what is taken of the text and what is left.
inductive Phrased : List Char → List Char → List Char → Prop where
  | close (rest : List Char) : Phrased ('"' :: rest) ['"'] rest
  | escape {e : Char} {text taken rest : List Char} (simple : e = '"' ∨ e = '\\') (others : Phrased text taken rest) :
      Phrased ('\\' :: e :: text) ('\\' :: e :: taken) rest
  | plain {c : Char} {text taken rest : List Char} (going : c ≠ '"') (plain : c ≠ '\\')
      (others : Phrased text taken rest) : Phrased (c :: text) (c :: taken) rest

variable {c : Char} {text taken rest after : List Char}

theorem phrased_of_scan (text : List Char) (closed : (scanPhrase text).ending = .closed) :
    Phrased text (scanPhrase text).taken (scanPhrase text).rest := by
  fun_induction scanPhrase text with
  | case1 => cases closed
  | case2 rest => exact .close rest
  | case3 => cases closed
  | case4 e after simple _ ih => exact .escape simple (ih closed)
  | case5 => cases closed
  | case6 c rest going plain ih => exact .plain going plain (ih closed)

theorem scan_of_phrased (phrased : Phrased text taken rest) : scanPhrase text = ⟨.closed, taken, rest⟩ := by
  induction phrased with
  | close rest =>
      rw [scanPhrase.eq_def]
      rfl
  | escape simple _ ih =>
      rw [scanPhrase.eq_def]
      dsimp only
      rw [if_neg (by decide), if_pos rfl, if_pos simple, ih]
      rfl
  | plain going plain _ ih =>
      rw [scanPhrase.eq_def]
      dsimp only
      rw [if_neg going, if_neg plain, ih]
      rfl

theorem phrased_split (phrased : Phrased text taken rest) : taken ++ rest = text := by
  induction phrased with
  | close => rfl
  | escape _ _ ih => exact congrArg (_ :: _ :: ·) ih
  | plain _ _ _ ih => exact congrArg (_ :: ·) ih

theorem phrased_append (phrased : Phrased text taken rest) (tail : List Char) :
    Phrased (text ++ tail) taken (rest ++ tail) := by
  induction phrased with
  | close rest => exact .close (rest ++ tail)
  | escape simple _ ih => exact .escape simple ih
  | plain going plain _ ih => exact .plain going plain ih

theorem scan_string_plain {quote : Char} (going : c ≠ quote) (plain : startsEscape quote c = false) (text : List Char) :
    scanString quote (c :: text) = (scanString quote text).after [c] := by
  rw [scanString.eq_def]
  dsimp only
  rw [if_neg going, if_neg (by rw [plain]; decide)]

theorem plain_between_quotes (plain : c ≠ '\\') : startsEscape '"' c = false := by simpa [startsEscape] using plain

theorem scan_string_escape (simple : isSimpleEscape c) (text : List Char) :
    scanString '"' ('\\' :: c :: text) = (scanString '"' text).after ['\\', c] := by
  rw [scanString.eq_def]
  dsimp only
  rw [if_neg (by decide), if_pos (by rfl), if_pos simple]

theorem phrase_escape_simple (escape : c = '"' ∨ c = '\\') : isSimpleEscape c := by
  rcases escape with rfl | rfl <;> rfl

theorem scan_string_closing {quote : Char} (alone : rest.head? ≠ some quote) :
    scanString quote (quote :: rest) = ⟨.closed, [quote], rest⟩ := by
  rw [scanString.eq_def]
  cases rest with
  | nil =>
      dsimp only
      rw [if_pos rfl]
  | cons d rest =>
      have other : d ≠ quote := fun same => alone (congrArg some same)
      dsimp only
      rw [if_pos rfl, if_neg other]

theorem scan_string_doubled (quote : Char) (text : List Char) :
    scanString quote (quote :: quote :: text) = (scanString quote text).after [quote, quote] := by
  rw [scanString.eq_def]
  dsimp only
  rw [if_pos rfl, if_pos rfl]

-- A phrase is a string if no other one follows at once.
theorem phrased_string (phrased : Phrased text taken rest) (alone : rest.head? ≠ some '"') :
    scanString '"' text = ⟨.closed, taken, rest⟩ := by
  induction phrased with
  | close rest => exact scan_string_closing alone
  | escape simple _ ih =>
      rw [scan_string_escape (phrase_escape_simple simple), ih alone]
      rfl
  | plain going plain _ ih =>
      rw [scan_string_plain going (plain_between_quotes plain), ih alone]
      rfl

-- Where another one follows at once, the string ends where that one does.
theorem phrased_joined (phrased : Phrased text taken rest) (joined : rest = '"' :: after) :
    (scanString '"' text).ending = (scanString '"' after).ending ∧
      (scanString '"' text).rest = (scanString '"' after).rest := by
  induction phrased with
  | close rest =>
      rw [joined, scan_string_doubled]
      exact ⟨rfl, rfl⟩
  | escape simple _ ih =>
      rw [scan_string_escape (phrase_escape_simple simple)]
      exact ih joined
  | plain going plain _ ih =>
      rw [scan_string_plain going (plain_between_quotes plain)]
      exact ih joined

theorem phrase_crosses {depth : Nat} (phrased : Phrased text taken rest) (others : Crosses depth rest 0 []) :
    Crosses depth ('"' :: text) 0 [] := by
  by_cases next : rest.head? = some '"'
  · obtain ⟨after, joined⟩ := List.head?_eq_some_iff.mp next
    obtain ⟨ending, same⟩ := phrased_joined phrased joined
    rw [joined] at others
    cases others with
    | plain simple => cases simple
    | string quotes closed further => exact .string quotes (ending.trans closed) (same ▸ further)
  · have string := phrased_string phrased next
    refine .string (.inr rfl) (congrArg QuoteScan.ending string) ?_
    rwa [string]

def TokenKind.isTerm (kind : TokenKind) : Bool := kind == .identifier || kind == .stringLiteral

namespace Search

def termKind (word : List Char) : TokenKind :=
  if isOperator (String.ofList word) then .identifier else .stringLiteral

theorem term_kind (word : List Char) : (termKind word).isTerm := by
  unfold termKind
  split <;> rfl

-- What a token of a search is in its text.
inductive Taken : List Char → TokenKind → List Char → List Char → Prop where
  | opening (rest : List Char) : Taken ('(' :: rest) .openParen ['('] rest
  | closing (rest : List Char) : Taken (')' :: rest) .closeParen [')'] rest
  | phrase {text taken rest : List Char} (phrased : Phrased text taken rest) :
      Taken ('"' :: text) .stringLiteral ('"' :: taken) rest
  | word {c : Char} (text : List Char) (opening : c ≠ '(') (closing : c ≠ ')') (quote : c ≠ '"') :
      Taken (c :: text) (termKind (c :: text.takeWhile isWordChar)) (c :: text.takeWhile isWordChar)
        (text.dropWhile isWordChar)

variable {kind : TokenKind} {depth : Nat}

theorem taken_of_scan (scans : scan text = .token kind taken rest) (going : kind ≠ .finish) :
    Taken text kind taken rest := by
  cases text with
  | nil =>
      cases scans
      exact absurd rfl going
  | cons c text =>
      unfold scan at scans
      dsimp only at scans
      by_cases opening : c = '('
      · subst opening
        cases scans
        exact .opening _
      rw [if_neg opening] at scans
      by_cases closing : c = ')'
      · subst closing
        cases scans
        exact .closing _
      rw [if_neg closing] at scans
      by_cases quote : c = '"'
      · subst quote
        rw [if_pos rfl] at scans
        unfold Scan.quoted QuoteScan.fault? at scans
        cases ending : (scanPhrase text).ending with
        | closed =>
            rw [ending] at scans
            cases scans
            exact .phrase (phrased_of_scan text ending)
        | unclosed =>
            rw [ending] at scans
            cases scans
        | badEscape sequence =>
            rw [ending] at scans
            cases scans
      · rw [if_neg quote] at scans
        cases scans
        exact .word text opening closing quote

theorem scan_of_taken (reads : Taken text kind taken rest) : scan text = .token kind taken rest := by
  cases reads with
  | opening => rfl
  | closing => rfl
  | phrase phrased =>
      change Scan.quoted .stringLiteral [] '"' (scanPhrase _) = _
      rw [scan_of_phrased phrased]
      rfl
  | word text opening closing quote =>
      unfold scan
      dsimp only
      rw [if_neg opening, if_neg closing, if_neg quote]
      rfl

theorem taken_split (reads : Taken text kind taken rest) : taken ++ rest = text := by
  cases reads with
  | opening => rfl
  | closing => rfl
  | phrase phrased => exact congrArg ('"' :: ·) (phrased_split phrased)
  | word text => exact congrArg (_ :: ·) List.takeWhile_append_dropWhile

theorem taken_before (reads : Taken text kind taken rest) {tail : List Char}
    (outside : ∀ d ∈ tail.head?, isWordChar d = false) : Taken (text ++ tail) kind taken (rest ++ tail) := by
  cases reads with
  | opening rest => exact .opening _
  | closing rest => exact .closing _
  | phrase phrased => exact .phrase (phrased_append phrased _)
  | @word c text opening closing quote =>
      have split : text ++ tail = text.takeWhile isWordChar ++ (text.dropWhile isWordChar ++ tail) := by
        rw [← List.append_assoc, List.takeWhile_append_dropWhile]
      have front := Expression.take_while_all isWordChar text
      have stops : ∀ d ∈ (text.dropWhile isWordChar ++ tail).head?, isWordChar d = false := by
        intro d head
        rw [List.head?_append] at head
        cases left : text.dropWhile isWordChar with
        | nil =>
            rw [left] at head
            exact outside d head
        | cons e left' =>
            rw [left] at head
            refine Expression.head_drop_while isWordChar text d ?_
            rw [left]
            exact head
      have longer := Taken.word (text ++ tail) opening closing quote
      rwa [split, Expression.take_while_before front stops, Expression.drop_while_before front stops, ← split] at longer

-- A word without apostrophes, or a phrase, in quotes.
def Unquoted (term : List Char) : Prop := term.head? = some '"' ∨ '\'' ∉ term

instance (term : List Char) : Decidable (Unquoted term) := inferInstanceAs (Decidable (_ ∨ _))

theorem term_crosses (reads : Taken text kind taken rest) (term : kind.isTerm) (unquoted : Unquoted taken)
    (alone : ';' ∉ text) (others : Crosses depth rest 0 []) : Crosses depth text 0 [] := by
  cases reads with
  | opening => cases term
  | closing => cases term
  | phrase phrased => exact phrase_crosses phrased others
  | @word c text opening closing quote =>
      obtain bare : '\'' ∉ c :: text.takeWhile isWordChar := unquoted.resolve_left fun same => quote (Option.some.inj same)
      have plain : ∀ d ∈ c :: text.takeWhile isWordChar, isPlain d := by
        intro d member
        have inside : d ∈ c :: text := (List.Sublist.cons_cons c (List.takeWhile_sublist _)).subset member
        have single : d ≠ '\'' := fun same => bare (same ▸ member)
        have between : d ≠ ';' := fun same => alone (same ▸ inside)
        obtain ⟨left, right, double⟩ : d ≠ '(' ∧ d ≠ ')' ∧ d ≠ '"' := by
          rcases List.mem_cons.mp member with rfl | word
          · exact ⟨opening, closing, quote⟩
          · have inner := Expression.take_while_all isWordChar text d word
            simp only [isWordChar, Bool.not_eq_true', Bool.or_eq_false_iff, beq_eq_false_iff_ne] at inner
            exact ⟨inner.1.1.2, inner.1.2, inner.2⟩
        simp [isPlain, single, between, left, right, double]
      have front : Crosses depth (c :: text) depth (text.dropWhile isWordChar) := by
        have crossed : Crosses depth ((c :: text.takeWhile isWordChar) ++ text.dropWhile isWordChar) depth
            (text.dropWhile isWordChar) := .of_plain _ plain
        rwa [List.cons_append, List.takeWhile_append_dropWhile] at crossed
      exact front.trans others

end Search

end QueryOptions
