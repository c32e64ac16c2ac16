import Mathlib.Data.List.Forall2
import QueryOptions.Proofs.Render

set_option autoImplicit false

namespace QueryOptions

open Expression

-- What one token of an expression says.
inductive Mark where
  | name (text : String)
  | literal (kind : TokenKind) (text : String)
  | parameter (text : String)
  | binary (operator : BinaryOperator)
  | membership
  | unary (operator : UnaryOperator)
deriving DecidableEq

-- Names, literals and aliases keep their text. A keyword is known by the operator it denotes.
def Mark.Denotes (settings : Settings) (lexeme : Lexeme) : Mark → Prop
  | .name text => lexeme.isName ∧ lexeme.text = text
  | .literal kind text => kind.isLiteral ∧ lexeme = ⟨kind, text⟩
  | .parameter text => lexeme = ⟨.annotationIdentifier, text⟩
  | .binary operator => ∃ level, operatorAt settings level lexeme = some operator
  | .membership => lexeme.isKeyword settings "in"
  | .unary operator => prefixAt settings lexeme = some operator

def TokenKind.isSeparator : TokenKind → Bool
  | openParen | closeParen | comma | slash | dot | colon => true
  | _ => false

def nameReading (name : String) : List Mark :=
  (name.toList.splitOn '.').map fun part => .name (String.ofList part)

namespace Expr

mutual

def reading : Expr → List Mark
  | .literal kind text => [.literal kind text]
  | .term text => [.literal .stringLiteral text]
  | .endPath name parent | .innerPath name parent => readingAbove parent ++ nameReading name
  | .rangeVariable name => nameReading name
  | .parameterAlias name => [.parameter name]
  | .binary operator left right => reading left ++ .binary operator :: reading right
  | .unary operator operand => .unary operator :: reading operand
  | .membership left right => reading left ++ .membership :: reading right
  | .collection items => readingItems items
  | .call name arguments source => readingAbove source ++ (nameReading name ++ readingItems arguments)
  | .lambda quantifier parent name body =>
      reading parent ++ (nameReading quantifier.name ++ (.name name :: reading body))
  | .nonempty parent => reading parent ++ nameReading Quantifier.any.name

def readingAbove : Option Expr → List Mark
  | none => []
  | some parent => reading parent

def readingItems : List Expr → List Mark
  | [] => []
  | item :: items => reading item ++ readingItems items

end

theorem reading_into_inner (tree : Expr) : tree.intoInner.reading = tree.reading := by
  cases tree <;> rfl

end Expr

-- The marks are what the lexemes say, one for each lexeme that is no separator.
def Tells (settings : Settings) (marks : List Mark) (lexemes : List Lexeme) : Prop :=
  List.Forall₂ (fun mark lexeme => mark.Denotes settings lexeme) marks
    (lexemes.filter fun lexeme => !lexeme.kind.isSeparator)

namespace Expression

variable {settings : Settings} {scope : List String} {lexeme : Lexeme} {lexemes front back : List Lexeme}
variable {mark : Mark} {marks marks' : List Mark} {name : String}

theorem name_no_separator (named : lexeme.isName) : lexeme.kind.isSeparator = false := by
  cases separates : lexeme.kind.isSeparator with
  | false => rfl
  | true =>
      unfold TokenKind.isSeparator at separates
      split at separates
      all_goals simp_all [Lexeme.isName, Cursor.isName]

theorem denotes_no_separator (denotes : mark.Denotes settings lexeme) : lexeme.kind.isSeparator = false := by
  cases mark with
  | name text => exact name_no_separator denotes.1
  | literal kind text =>
      obtain ⟨literal, rfl⟩ := denotes
      cases kind <;> first | rfl | cases literal
  | parameter text =>
      obtain rfl : lexeme = _ := denotes
      rfl
  | binary operator =>
      obtain ⟨level, spelled⟩ := denotes
      rw [operator_word spelled]
      rfl
  | membership =>
      rw [keyword_word denotes]
      rfl
  | unary operator =>
      have spelled : prefixAt settings lexeme = some operator := denotes
      unfold prefixAt at spelled
      split at spelled
      · rename_i minus
        rw [eq_of_beq minus]
        rfl
      · split at spelled
        · rename_i word
          rw [keyword_word word]
          rfl
        · cases spelled

theorem tells_nil : Tells settings [] [] := .nil

theorem tells_append (first : Tells settings marks front) (second : Tells settings marks' back) :
    Tells settings (marks ++ marks') (front ++ back) := by
  rw [Tells, List.filter_append]
  exact List.rel_append first second

theorem tells_separator (separates : lexeme.kind.isSeparator) (others : Tells settings marks lexemes) :
    Tells settings marks (lexeme :: lexemes) := by
  rw [Tells, List.filter_cons_of_neg (by simp [separates])]
  exact others

theorem tells_mark (denotes : mark.Denotes settings lexeme) (others : Tells settings marks lexemes) :
    Tells settings (mark :: marks) (lexeme :: lexemes) := by
  rw [Tells, List.filter_cons_of_pos (by simp [denotes_no_separator denotes])]
  exact .cons denotes others

theorem tells_single (denotes : mark.Denotes settings lexeme) : Tells settings [mark] [lexeme] :=
  tells_mark denotes tells_nil

theorem tells_enclosed {opening closing : Lexeme} (opens : opening.kind = .openParen)
    (inside : Tells settings marks lexemes) (closes : closing.kind = .closeParen) :
    Tells settings marks (opening :: (lexemes ++ [closing])) := by
  have behind := tells_append inside (tells_separator (by rw [closes]; rfl) tells_nil)
  rw [List.append_nil] at behind
  exact tells_separator (by rw [opens]; rfl) behind

theorem name_undotted (scanned : Scanned lexeme) (named : lexeme.isName) : '.' ∉ lexeme.text.toList := by
  obtain ⟨kind, name⟩ := lexeme
  obtain ⟨text, taken, rest, scans, rfl⟩ := scanned.read
  obtain ⟨first, word, whole, rfl, rfl, -⟩ := scan_named scans named
  rw [String.toList_ofList, List.mem_cons, not_or]
  refine ⟨fun same => ?_, fun member => ?_⟩
  · have starts := whole.starts
    rw [← same] at starts
    cases starts
  · cases whole.letters _ member

theorem name_reading_single (scanned : Scanned lexeme) (named : lexeme.isName) :
    nameReading lexeme.text = [.name lexeme.text] := by
  rw [nameReading, List.splitOn_eq_singleton (name_undotted scanned named), List.map_singleton, String.ofList_toList]

theorem name_reading_dotted {last : Lexeme} (scanned : Scanned last) (named : last.isName) :
    nameReading (name ++ "." ++ last.text) = nameReading name ++ [.name last.text] := by
  have parts : (name ++ "." ++ last.text).toList = name.toList ++ '.' :: last.text.toList := by
    rw [String.toList_append, String.toList_append, List.append_assoc]
    rfl
  rw [← name_reading_single scanned named, nameReading, nameReading, nameReading, parts, List.splitOn,
    List.splitOnP_append_cons _ _ (by decide), List.map_append]
  rfl

theorem name_tells (spelled : Name lexemes name) (scanned : ∀ lexeme ∈ lexemes, Scanned lexeme) :
    Tells settings (nameReading name) lexemes := by
  induction spelled with
  | single named =>
      rw [name_reading_single (scanned _ (List.mem_singleton_self _)) named]
      exact tells_single ⟨named, rfl⟩
  | dotted _ dots named ih =>
      simp only [List.forall_mem_append, List.forall_mem_cons] at scanned
      rw [name_reading_dotted scanned.2.2.1 named]
      exact tells_append (ih scanned.1) (tells_separator (by rw [dots]; rfl) (tells_single ⟨named, rfl⟩))

def PhraseTells (settings : Settings) (lexemes : List Lexeme) : Phrase → Prop
  | .chain _ tree | .primary tree | .candidates tree | .path tree => Tells settings tree.reading lexemes
  | .items trees | .arguments trees => Tells settings (Expr.readingItems trees) lexemes
  | .segment parent tree => ∃ own, tree.reading = Expr.readingAbove parent ++ own ∧ Tells settings own lexemes

theorem lambda_tells {body : Expr} {opening word colon closing : Lexeme}
    (front_tells : Tells settings (nameReading name) front) (opens : opening.kind = .openParen)
    (named : word.kind = .identifier) (colons : colon.kind = .colon) (condition : Tells settings body.reading lexemes)
    (closes : closing.kind = .closeParen) :
    Tells settings (nameReading name ++ (.name word.text :: body.reading))
      (front ++ opening :: word :: colon :: (lexemes ++ [closing])) := by
  have variable_denotes : (Mark.name word.text).Denotes settings word :=
    ⟨by rw [Lexeme.isName, Cursor.isName, named], rfl⟩
  have inside := tells_mark variable_denotes (tells_separator (by rw [colons]; rfl) condition)
  exact tells_append front_tells (tells_enclosed opens inside closes)

theorem derives_tells {phrase : Phrase} (derives : Derives settings scope phrase lexemes)
    (scanned : ∀ lexeme ∈ lexemes, Scanned lexeme) : PhraseTells settings lexemes phrase := by
  induction derives with
  | operand _ _ ih | tighter _ _ ih | path _ _ ih | single _ _ ih => exact ih scanned
  | prefixed spelled _ ih => exact tells_mark spelled (ih (List.forall_mem_cons.mp scanned).2)
  | link _ spelled _ before operand =>
      simp only [List.forall_mem_append, List.forall_mem_cons] at scanned
      exact tells_append (before scanned.1) (tells_mark ⟨_, spelled⟩ (operand scanned.2.2))
  | membership _ spelled _ before candidates =>
      simp only [List.forall_mem_append, List.forall_mem_cons] at scanned
      have tests : Mark.membership.Denotes settings _ := (Bool.and_eq_true_iff.mp spelled).2
      exact tells_append (before scanned.1) (tells_mark tests (candidates scanned.2.2))
  | literal literal => exact tells_single ⟨literal, rfl⟩
  | @parameter _ text =>
      have refers : (Mark.parameter text).Denotes settings ⟨.annotationIdentifier, text⟩ := rfl
      exact tells_single refers
  | group opens _ closes ih | list opens _ closes ih | some opens _ closes ih =>
      simp only [List.forall_mem_append, List.forall_mem_cons] at scanned
      exact tells_enclosed opens (ih scanned.2.1) closes
  | last _ ih => simpa [PhraseTells, Expr.readingItems] using ih scanned
  | further _ separates _ item others =>
      simp only [List.forall_mem_append, List.forall_mem_cons] at scanned
      exact tells_append (item scanned.1) (tells_separator (by rw [separates]; rfl) (others scanned.2.2))
  | none opens closes => exact tells_enclosed opens tells_nil closes
  | declared spelled => exact ⟨_, rfl, name_tells spelled scanned⟩
  | property spelled => exact ⟨_, rfl, name_tells spelled scanned⟩
  | call spelled _ _ ih =>
      obtain ⟨here, inside⟩ := List.forall_mem_append.mp scanned
      exact ⟨_, rfl, tells_append (name_tells spelled here) (ih inside)⟩
  | nonempty spelled quantifies opens closes =>
      obtain ⟨here, -⟩ := List.forall_mem_append.mp scanned
      obtain rfl := quantifier_name quantifies
      have empty : Tells settings [] ([] : List Lexeme) := tells_nil
      have whole := tells_append (name_tells spelled here) (tells_enclosed opens empty closes)
      exact ⟨_, rfl, by rwa [List.append_nil] at whole⟩
  | lambda spelled quantifies opens named colons _ _ closes ih =>
      simp only [List.forall_mem_append, List.forall_mem_cons] at scanned
      obtain rfl := quantifier_name quantifies
      exact ⟨_, rfl, lambda_tells (name_tells spelled scanned.1) opens named colons (ih scanned.2.2.2.2.1) closes⟩
  | root _ ih =>
      obtain ⟨own, same, tells⟩ := ih scanned
      rwa [PhraseTells, same]
  | step _ slashes _ before segment =>
      simp only [List.forall_mem_append, List.forall_mem_cons] at scanned
      obtain ⟨own, same, tells⟩ := segment scanned.2.2
      rw [PhraseTells, same, Expr.readingAbove, Expr.reading_into_inner]
      exact tells_append (before scanned.1) (tells_separator (by rw [slashes]; rfl) tells)

end Expression

-- The tree of a filter, read in order, says what the tokens of the text say.
theorem filter_in_order {settings : Settings} {text : String} {tree : Expr}
    (parsed : parse settings .filter text = .ok (.filter tree)) :
    ∃ tokens, tokenize text .expression 0 = .ok tokens ∧
      List.Forall₂ (fun mark token => mark.Denotes settings token.lexeme) tree.reading
        (tokens.filter fun token => !token.kind.isSeparator) := by
  obtain ⟨lexemes, spelled, derives⟩ := filter_derives parsed
  have plain : (Cursor.start text .expression 0 false).Plain .expression := ⟨rfl, rfl⟩
  obtain ⟨tokens, read, rfl⟩ := Cursor.tokens_of_spelled spelled plain rfl (Nat.lt_succ_self _)
  refine ⟨tokens, read, ?_⟩
  have tells : Tells settings tree.reading (tokens.map Token.lexeme) := derives_tells derives (spelled_scanned spelled)
  rwa [Tells, List.filter_map, List.forall₂_map_right_iff] at tells

theorem various_in_order :
    parse {} .filter "not a.b/any(x:x/y in (1,-2.5e3)) or @p eq 'it''s' and f(or, - c)/d/any()" = .ok (.filter .various) ∧
      ∃ tokens, tokenize "not a.b/any(x:x/y in (1,-2.5e3)) or @p eq 'it''s' and f(or, - c)/d/any()" .expression 0 = .ok tokens ∧
        List.Forall₂ (fun mark token => mark.Denotes {} token.lexeme) Expr.various.reading
          (tokens.filter fun token => !token.kind.isSeparator) := by
  have parsed : parse {} .filter "not a.b/any(x:x/y in (1,-2.5e3)) or @p eq 'it''s' and f(or, - c)/d/any()" =
      .ok (.filter .various) := filter_tree (by decide +kernel)
  exact ⟨parsed, filter_in_order parsed⟩

end QueryOptions
