import QueryOptions.Proofs.Search.Thinned
import QueryOptions.Proofs.Token.Stream

set_option autoImplicit false

namespace QueryOptions

open Parse

-- Whether the byte at a place belongs to the token.
def Token.covers (token : Token) (place : Nat) : Bool :=
  token.position ≤ place && place < token.position + Text.byteLength token.text.toList

-- A text that starts at a place, with blanks in place of the characters of some tokens.
def blanked (chosen : List Token) : Nat → List Char → List Char
  | _, [] => []
  | place, c :: rest => (if chosen.any (·.covers place) then ' ' else c) :: blanked chosen (place + c.utf8Size) rest

section

variable {chosen tokens : List Token} {token : Token} {place : Nat} {text front back : List Char}

theorem blanked_append (chosen : List Token) (place : Nat) (front back : List Char) :
    blanked chosen place (front ++ back) =
      blanked chosen place front ++ blanked chosen (place + Text.byteLength front) back := by
  induction front generalizing place with
  | nil => rfl
  | cons c front ih =>
      rw [List.cons_append, blanked, ih, blanked, List.cons_append, Text.byteLength_cons, Nat.add_assoc]

theorem blanked_blank (blank : ∀ c ∈ text, Text.isBlank c) : ∀ c ∈ blanked chosen place text, Text.isBlank c := by
  induction text generalizing place with
  | nil => exact fun _ none => absurd none List.not_mem_nil
  | cons d text ih =>
      obtain ⟨first, others⟩ := List.forall_mem_cons.mp blank
      refine List.forall_mem_cons.mpr ⟨?_, ih others⟩
      split
      · rfl
      · exact first

theorem blanked_chosen (listed : token ∈ chosen) (behind : token.position ≤ place)
    (within : place + Text.byteLength text ≤ token.position + Text.byteLength token.text.toList) :
    ∀ c ∈ blanked chosen place text, Text.isBlank c := by
  induction text generalizing place with
  | nil => exact fun _ none => absurd none List.not_mem_nil
  | cons d text ih =>
      have size := d.utf8Size_pos
      rw [Text.byteLength_cons] at within
      refine List.forall_mem_cons.mpr ⟨?_, ih (by omega) (by omega)⟩
      have covered : token.covers place := by simp [Token.covers]; omega
      rw [if_pos (List.any_eq_true.mpr ⟨token, listed, covered⟩)]
      rfl

theorem blanked_other (apart : ∀ token ∈ chosen, token.position + Text.byteLength token.text.toList ≤ place ∨
    place + Text.byteLength text ≤ token.position) : blanked chosen place text = text := by
  induction text generalizing place with
  | nil => rfl
  | cons d text ih =>
      have size := d.utf8Size_pos
      simp only [Text.byteLength_cons] at apart
      rw [blanked, ih fun token listed => by have := apart token listed; omega, if_neg]
      rw [Bool.not_eq_true, List.any_eq_false]
      intro token listed
      have := apart token listed
      simp only [Token.covers, Bool.and_eq_true, decide_eq_true_eq]
      omega

theorem blanked_head (chosen : List Token) (place : Nat) (text : List Char) :
    ∀ d ∈ (blanked chosen place text).head?, d = ' ' ∨ d ∈ text.head? := by
  cases text with
  | nil => exact fun _ none => by cases none
  | cons c text =>
      rintro d head
      obtain rfl := Option.some.inj head
      split
      · exact .inl rfl
      · exact .inr rfl

end

namespace Search

variable {text taken rest rest' : List Char} {kind : TokenKind} {lexemes : List Lexeme} {tokens chosen : List Token}
variable {offset : Nat}

theorem phrased_again (phrased : Phrased text taken rest) (rest' : List Char) : Phrased (taken ++ rest') taken rest' := by
  induction phrased with
  | close => exact .close rest'
  | escape simple _ ih => exact .escape simple ih
  | plain going plain _ ih => exact .plain going plain ih

-- A token ends there again if a blank follows it, or what followed it before.
theorem taken_again (reads : Taken text kind taken rest) (heads : ∀ d ∈ rest'.head?, d = ' ' ∨ d ∈ rest.head?) :
    Taken (taken ++ rest') kind taken rest' := by
  cases reads with
  | opening => exact .opening rest'
  | closing => exact .closing rest'
  | phrase phrased => exact .phrase (phrased_again phrased rest')
  | @word c text opening closing quote =>
      have front := Expression.take_while_all isWordChar text
      have stops : ∀ d ∈ rest'.head?, isWordChar d = false := by
        intro d head
        rcases heads d head with rfl | before
        · decide
        · exact Expression.head_drop_while isWordChar text d before
      have longer := Taken.word (text.takeWhile isWordChar ++ rest') opening closing quote
      rwa [Expression.take_while_before front stops, Expression.drop_while_before front stops] at longer

theorem taken_in_place {between : List Char} (blank : ∀ c ∈ between, Text.isBlank c) (some : taken ≠ [])
    (reads : Taken ((between ++ (taken ++ rest)).dropWhile Text.isBlank) kind taken rest') :
    rest' = rest ∧ Taken (taken ++ rest) kind taken rest ∧ ∀ c ∈ taken.head?, Text.isBlank c = false := by
  obtain ⟨c, taken, rfl⟩ := List.exists_cons_of_ne_nil some
  rw [List.dropWhile_append_of_pos blank] at reads
  have visible : Text.isBlank c = false := by
    have head := congrArg List.head? (taken_split reads)
    exact Expression.head_drop_while Text.isBlank _ c head.symm
  rw [List.cons_append, List.dropWhile_cons_of_neg (by rw [visible]; decide)] at reads
  obtain rfl : rest' = rest := List.append_cancel_left (show c :: taken ++ rest' = c :: taken ++ rest from taken_split reads)
  refine ⟨rfl, reads, ?_⟩
  rintro _ ⟨⟩
  exact visible

theorem spelled_again (reads : Taken text kind taken rest) (visible : ∀ c ∈ taken.head?, Text.isBlank c = false)
    (some : taken ≠ []) (going : kind ≠ .finish) (heads : ∀ d ∈ rest'.head?, d = ' ' ∨ d ∈ rest.head?)
    (spelled : Spelled .search rest' lexemes) : Spelled .search (taken ++ rest') (⟨kind, String.ofList taken⟩ :: lexemes) := by
  have again := taken_again reads heads
  obtain ⟨c, taken, rfl⟩ := List.exists_cons_of_ne_nil some
  exact spelled_taken again (List.dropWhile_cons_of_neg (by rw [visible c rfl]; decide)) going spelled

-- Without the tokens that are written over, the others are read where they were. The tokens still to come are
-- those of the text, and the chosen ones are among them or lie in front of it.
theorem spelled_blanked (laid : Laid (∀ c ∈ ·, Text.isBlank c) offset text tokens)
    (spelled : Spelled .search text (tokens.map Token.lexeme)) (joins : ∀ token ∈ chosen, isAnd token.lexeme)
    (listed : ∀ token ∈ chosen, token ∈ tokens ∨ token.position + Text.byteLength token.text.toList ≤ offset) :
    ∃ fewer, Thins (tokens.map Token.lexeme) fewer ∧ Spelled .search (blanked chosen offset text) fewer := by
  induction laid with
  | finish blank =>
      refine ⟨[], .nil, .blank (List.dropWhile_eq_nil_iff.mpr fun c member => ?_)⟩
      exact blanked_blank blank c member
  | @token offset between rest token tokens blank taking placed others ih =>
      rw [List.map_cons] at spelled
      generalize made : token.lexeme = lexeme at spelled
      cases spelled with
      | @lexeme _ taken rest' kind lexemes scans going following =>
          obtain ⟨rfl, text⟩ := Lexeme.mk.inj made
          obtain rfl : token.text.toList = taken := by rw [text, String.toList_ofList]
          obtain ⟨rfl, reads, visible⟩ := taken_in_place blank taking (taken_of_scan scans going)
          have behind := laid_behind others
          obtain ⟨fewer, thins, spelled⟩ := ih following fun other chosen => by
            rcases listed other chosen with member | before
            · rcases List.mem_cons.mp member with rfl | member
              · exact .inr (Nat.le_refl _)
              · exact .inl member
            · exact .inr (by omega)
          rw [blanked_append, blanked_append, ← placed]
          by_cases gone : token ∈ chosen
          · refine ⟨fewer, .drop (joins token gone) thins, ?_⟩
            have nothing := blanked_chosen gone (Nat.le_refl _) (Nat.le_refl _)
            exact spelled_past_blanks (blanked_blank blank) (spelled_past_blanks nothing spelled)
          · refine ⟨token.lexeme :: fewer, .keep _ thins, spelled_past_blanks (blanked_blank blank) ?_⟩
            rw [blanked_other fun other chosen => ?_, made]
            · exact spelled_again reads visible taking going (blanked_head _ _ _) spelled
            · rcases listed other chosen with member | before
              · rcases List.mem_cons.mp member with rfl | member
                · exact absurd chosen gone
                · exact .inr (behind other member)
              · exact .inl (by omega)

end Search

-- The conjunctions of an accepted search can be written over with blanks, any of them and in any case of letters. The
-- search is accepted with the same limit on the depth then, and as the same tree.
theorem conjunctions_written_over {settings : Settings} {text : String} {tree : Expr}
    (accepted : parse settings .search text = .ok (.search tree)) :
    ∃ tokens, tokenize text .search 0 = .ok tokens ∧ ∀ chosen ⊆ tokens, (∀ token ∈ chosen, token.isKeyword true "and") →
      parse settings .search (String.ofList (blanked chosen 0 text.toList)) = .ok (.search tree) := by
  obtain ⟨lexemes, spelled, -, gets⟩ := Search.accepted_echoes accepted
  have plain : (Cursor.start text .search 0 false).Plain .search := ⟨rfl, rfl⟩
  obtain ⟨tokens, read, rfl⟩ := Cursor.tokens_of_spelled spelled plain rfl (Nat.lt_succ_self _)
  refine ⟨tokens, read, fun chosen subset joins => ?_⟩
  have laid := Cursor.laid_of_stream read
  rw [show (Cursor.start text .search 0 false).Gap = (∀ c ∈ ·, Text.isBlank c) from
    funext fun _ => if_neg fun kept => by cases kept.2] at laid
  obtain ⟨fewer, thins, written⟩ := Search.spelled_blanked laid spelled joins fun token member => .inl (subset member)
  refine search_of_gets (by rwa [String.toList_ofList]) (Search.whole_gets ?_)
  have whole := gets settings fewer [] thins Search.closed_nil
  rwa [List.append_nil] at whole

theorem touching_conjunctions_written_over :
    parse { maxDepth := 13 } .search "(\"a\"AND(b)and not c) AND \"and\" or andy" = .ok (.search
        (.binary .or (.binary .and (.binary .and (.binary .and (.term "a") (.term "b")) (.unary .not (.term "c")))
          (.term "and")) (.term "andy"))) ∧
      parse { maxDepth := 13 } .search "(\"a\"   (b)    not c) AND \"and\" or andy" = .ok (.search
        (.binary .or (.binary .and (.binary .and (.binary .and (.term "a") (.term "b")) (.unary .not (.term "c")))
          (.term "and")) (.term "andy"))) := by
  have accepted : parse { maxDepth := 13 } .search "(\"a\"AND(b)and not c) AND \"and\" or andy" = .ok (.search
      (.binary .or (.binary .and (.binary .and (.binary .and (.term "a") (.term "b")) (.unary .not (.term "c")))
        (.term "and")) (.term "andy"))) := search_tree (by decide +kernel)
  obtain ⟨tokens, read, written⟩ := conjunctions_written_over accepted
  have found : tokenize "(\"a\"AND(b)and not c) AND \"and\" or andy" .search 0 =
      .ok [⟨.openParen, "(", 0⟩, ⟨.stringLiteral, "\"a\"", 1⟩, ⟨.identifier, "AND", 4⟩, ⟨.openParen, "(", 7⟩,
        ⟨.stringLiteral, "b", 8⟩, ⟨.closeParen, ")", 9⟩, ⟨.identifier, "and", 10⟩, ⟨.identifier, "not", 14⟩,
        ⟨.stringLiteral, "c", 18⟩, ⟨.closeParen, ")", 19⟩, ⟨.identifier, "AND", 21⟩, ⟨.stringLiteral, "\"and\"", 25⟩,
        ⟨.identifier, "or", 31⟩, ⟨.stringLiteral, "andy", 34⟩] := by
    decide +kernel
  obtain rfl := Except.ok.inj (read.symm.trans found)
  have same : String.ofList (blanked [⟨.identifier, "AND", 4⟩, ⟨.identifier, "and", 10⟩] 0
      "(\"a\"AND(b)and not c) AND \"and\" or andy".toList) = "(\"a\"   (b)    not c) AND \"and\" or andy" := by
    decide +kernel
  exact ⟨accepted, same ▸ written [⟨.identifier, "AND", 4⟩, ⟨.identifier, "and", 10⟩] (by decide) (by decide)⟩

end QueryOptions
