import QueryOptions.Proofs.Render
import QueryOptions.Proofs.Shape
import QueryOptions.Proofs.Token.Apart

set_option autoImplicit false

namespace QueryOptions

variable {dialect : Dialect} {text taken left : List Char} {kind : TokenKind}

theorem Expression.scan_alone (scans : scan text = .token kind taken left) (going : kind ≠ .finish) :
    scan taken = .token kind taken [] := by
  by_cases sign : kind = .atSign
  · subst sign
    obtain ⟨rfl, -, -⟩ := scan_at_sign scans
    rfl
  · have alone := scan_local scans going sign (.inl delimited_nil)
    rwa [List.append_nil] at alone

theorem phrased_alone (phrased : Phrased text taken left) : Phrased taken taken [] := by
  induction phrased with
  | close => exact .close []
  | escape simple _ ih => exact .escape simple ih
  | plain going plain _ ih => exact .plain going plain ih

theorem Search.taken_alone (reads : Taken text kind taken left) : Taken taken kind taken [] := by
  cases reads with
  | opening => exact .opening []
  | closing => exact .closing []
  | phrase phrased => exact .phrase (phrased_alone phrased)
  | word text opening closing quote =>
      have inside := Expression.take_while_all isWordChar text
      have whole := Taken.word (text.takeWhile isWordChar) opening closing quote
      rwa [List.takeWhile_eq_self_iff.mpr inside, List.dropWhile_eq_nil_iff.mpr inside] at whole

theorem Dialect.scan_alone (scans : dialect.scan text = .token kind taken left) (going : kind ≠ .finish) :
    dialect.scan taken = .token kind taken [] := by
  cases dialect with
  | expression => exact Expression.scan_alone scans going
  | search => exact Search.scan_of_taken (Search.taken_alone (Search.taken_of_scan scans going))

theorem Cursor.stream_end {cursor : Cursor} (ends : cursor.rest = []) : cursor.stream = .ok [] := by
  have visible : ∀ c ∈ cursor.rest.head?, Text.isBlank c = false := by simp [ends]
  rw [stream_step, advance_visible visible, ends, Dialect.scan_nil]
  rfl

-- The text of a lexeme is read as this lexeme and as nothing else.
def Alone (dialect : Dialect) (lexeme : Lexeme) : Prop :=
  tokenize lexeme.text dialect 0 = .ok [⟨lexeme.kind, lexeme.text, 0⟩]

theorem alone_of_scan (scans : dialect.scan (text.dropWhile Text.isBlank) = .token kind taken left) (going : kind ≠ .finish) :
    Alone dialect ⟨kind, String.ofList taken⟩ := by
  obtain ⟨c, more, rfl, visible⟩ := Dialect.token_visible scans going
  let cursor := Cursor.start (String.ofList (c :: more)) dialect 0 false
  have here : cursor.rest = c :: more := String.toList_ofList
  have front : ∀ d ∈ cursor.rest.head?, Text.isBlank d = false := by simp [here, visible]
  have read : Cursor.advance cursor = .ok () (cursor.onto kind (c :: more) []) := by
    rw [Cursor.advance_visible front, here, show cursor.dialect = dialect from rfl, Dialect.scan_alone scans going]
    rfl
  have going' : (cursor.onto kind (c :: more) []).token.kind ≠ .finish := going
  change cursor.stream = _
  rw [Cursor.stream_step, read, Cursor.streamFrom, if_neg going', Cursor.stream_end rfl]
  rfl

theorem spelled_alone {lexemes : List Lexeme} (spelled : Spelled dialect text lexemes) :
    ∀ lexeme ∈ lexemes, Alone dialect lexeme := by
  induction spelled with
  | blank => exact List.forall_mem_nil _
  | lexeme scans going _ ih => exact List.forall_mem_cons.mpr ⟨alone_of_scan scans going, ih⟩

theorem scanned_alone {lexeme : Lexeme} (scanned : Scanned lexeme) : Alone .expression lexeme := by
  obtain ⟨kind, name⟩ := lexeme
  obtain ⟨⟨text, taken, left, scans, rfl⟩, going⟩ := scanned
  exact @alone_of_scan .expression _ _ _ _ scans going

def NameAlone (name : String) : Prop :=
  ∃ tokens, tokenize name .expression 0 = .ok tokens ∧ Expression.Name (tokens.map Token.lexeme) name

namespace Expr

-- What a node holds of the text is by itself what it is in the tree.
def HoldsAlone : Expr → Prop
  | .literal kind text => Alone .expression ⟨kind, text⟩
  | .parameterAlias text => Alone .expression ⟨.annotationIdentifier, text⟩
  | .endPath name _ | .innerPath name _ | .rangeVariable name | .call name _ _ => NameAlone name
  | .lambda _ _ name _ => Alone .expression ⟨.identifier, name⟩
  | .term _ | .binary _ _ _ | .unary _ _ | .membership _ _ | .collection _ | .nonempty _ => True

def AloneThroughout (tree : Expr) : Prop := ∀ role, Throughout (fun _ node => node.HoldsAlone) role tree

theorem alone_of_parts {tree : Expr} (holds : tree.HoldsAlone) (each : ∀ part ∈ tree.parts, AloneThroughout part.2) :
    AloneThroughout tree :=
  fun _ => throughout_of_parts holds fun part listed => each part listed part.1

structure PathAlone (tree : Expr) : Prop where
  holds : tree.HoldsAlone
  each : ∀ part ∈ tree.parts, AloneThroughout part.2

theorem PathAlone.ends {tree : Expr} (path : tree.PathAlone) : AloneThroughout tree := alone_of_parts path.holds path.each

theorem PathAlone.continues {tree : Expr} (path : tree.PathAlone) : AloneThroughout tree.intoInner := by
  refine alone_of_parts ?_ (by rw [into_inner_parts]; exact path.each)
  have holds := path.holds
  cases tree <;> exact holds

end Expr

namespace Expression

open QueryOptions.Expr (AloneThroughout alone_of_parts)

theorem name_alone {lexemes : List Lexeme} {name : String} (spelled : Name lexemes name)
    (scanned : ∀ lexeme ∈ lexemes, Scanned lexeme) : NameAlone name := by
  obtain ⟨own, written, spelled', -⟩ := name_written spelled scanned
  have whole : Spelled .expression name.toList own := spelled_written written fun _ absent => by cases absent
  have start : (Cursor.start name .expression 0 false).Plain .expression := ⟨rfl, rfl⟩
  obtain ⟨tokens, read, same⟩ := Cursor.tokens_of_spelled whole start rfl (Nat.lt_succ_self _)
  exact ⟨tokens, read, same ▸ spelled'⟩

def PhraseAlone : Phrase → Prop
  | .chain _ tree | .primary tree | .candidates tree => AloneThroughout tree
  | .items trees | .arguments trees => ∀ tree ∈ trees, AloneThroughout tree
  | .path tree => tree.PathAlone
  | .segment parent tree => (∀ source ∈ parent, AloneThroughout source) → tree.PathAlone

variable {settings : Settings} {scope : List String} {lexemes : List Lexeme} {phrase : Phrase}

theorem derives_alone (derives : Derives settings scope phrase lexemes) (scanned : ∀ lexeme ∈ lexemes, Scanned lexeme) :
    PhraseAlone phrase := by
  have above {parent : Option Expr} (alone : ∀ source ∈ parent, AloneThroughout source) :
      ∀ part ∈ parent.toList.map fun source => (Expr.Role.source, source), AloneThroughout part.2 :=
    List.forall_mem_map.mpr fun source listed => alone source (Option.mem_toList.mp listed)
  induction derives with
  | operand _ _ ih | tighter _ _ ih | single _ _ ih => exact ih scanned
  | root _ ih => exact ih scanned fun _ none => by cases none
  | path _ _ ih => exact (ih scanned).ends
  | prefixed _ _ ih =>
      exact alone_of_parts trivial (List.forall_mem_singleton.mpr (ih (List.forall_mem_cons.mp scanned).2))
  | link _ _ _ left right | membership _ _ _ left right =>
      simp only [List.forall_mem_append, List.forall_mem_cons] at scanned
      obtain ⟨front, -, back⟩ := scanned
      exact alone_of_parts trivial (List.forall_mem_cons.mpr ⟨left front, List.forall_mem_singleton.mpr (right back)⟩)
  | literal | parameter =>
      exact alone_of_parts (scanned_alone (scanned _ (List.mem_singleton_self _))) (List.forall_mem_nil _)
  | group _ _ _ ih | some _ _ _ ih =>
      simp only [List.forall_mem_append, List.forall_mem_cons] at scanned
      exact ih scanned.2.1
  | list _ _ _ ih =>
      simp only [List.forall_mem_append, List.forall_mem_cons] at scanned
      exact alone_of_parts trivial (List.forall_mem_map.mpr (ih scanned.2.1))
  | last _ ih => exact List.forall_mem_singleton.mpr (ih scanned)
  | further _ _ _ item others =>
      simp only [List.forall_mem_append, List.forall_mem_cons] at scanned
      exact List.forall_mem_cons.mpr ⟨item scanned.1, others scanned.2.2⟩
  | none => exact List.forall_mem_nil _
  | declared spelled => exact fun _ => ⟨name_alone spelled scanned, List.forall_mem_nil _⟩
  | property spelled => exact fun alone => ⟨name_alone spelled scanned, above alone⟩
  | call spelled _ _ ih =>
      obtain ⟨front, back⟩ := List.forall_mem_append.mp scanned
      exact fun alone =>
        ⟨name_alone spelled front, List.forall_mem_append.mpr ⟨above alone, List.forall_mem_map.mpr (ih back)⟩⟩
  | nonempty => exact fun alone => ⟨trivial, List.forall_mem_singleton.mpr (alone _ rfl)⟩
  | @lambda _ _ _ _ _ _ _ _ word _ _ _ _ _ named _ _ _ _ ih =>
      simp only [List.forall_mem_append, List.forall_mem_cons] at scanned
      obtain ⟨-, -, declared, -, inside, -⟩ := scanned
      have alone := scanned_alone declared
      rw [show word = ⟨.identifier, word.text⟩ by rw [← named]] at alone
      exact fun above => ⟨alone, List.forall_mem_cons.mpr ⟨above _ rfl, List.forall_mem_singleton.mpr (ih inside)⟩⟩
  | step _ _ _ before ih =>
      simp only [List.forall_mem_append, List.forall_mem_cons] at scanned
      obtain ⟨front, -, back⟩ := scanned
      refine ih back fun source same => ?_
      cases same
      exact (before front).continues

end Expression

theorem Expr.derived_alone {settings : Settings} {scope : List String} {tree : Expr}
    (derived : tree.Derived settings scope) : tree.AloneThroughout := by
  rcases derived with ⟨_, scanned, derives⟩ | ⟨_, scanned, -, derives⟩
  · exact Expression.derives_alone derives scanned
  · exact (Expression.derives_alone derives scanned).ends

-- Every token is by itself the only token of its text, so that no literal and no name of an
-- accepted option hangs on what stood around it.
theorem tokens_stand_alone :
    (∀ dialect text offset tokens, tokenize text dialect offset = .ok tokens →
      ∀ token ∈ tokens, tokenize token.text dialect 0 = .ok [⟨token.kind, token.text, 0⟩]) ∧
    ∀ settings option text parsed, parse settings option text = .ok parsed → ∀ tree ∈ parsed.expressions,
      ∀ role node, Expr.Stands .operand tree role node → node.HoldsAlone := by
  refine ⟨fun dialect text offset tokens read token member => ?_, fun settings option text parsed accepted tree listed => ?_⟩
  · have start : (Cursor.start text dialect offset false).Plain dialect := ⟨rfl, rfl⟩
    have spelled := Cursor.spelled_of_tokens start (Nat.lt_succ_self _) read
    exact spelled_alone spelled token.lexeme (List.mem_map_of_mem member)
  · exact Expr.derived_alone (parsed.expressions_derived (parse_formed accepted) tree listed) .operand

theorem failed_dates_stand_alone :
    (∃ tokens, tokenize "2012-13-45e1 -INF@p.q" .expression 3 = .ok tokens ∧
      tokens.map Token.lexeme = [⟨.integerLiteral, "2012"⟩, ⟨.integerLiteral, "-13"⟩, ⟨.singleLiteral, "-45e1"⟩,
        ⟨.doubleLiteral, "-INF"⟩, ⟨.annotationIdentifier, "@p.q"⟩] ∧
      ∀ token ∈ tokens, tokenize token.text .expression 0 = .ok [⟨token.kind, token.text, 0⟩]) ∧
    ∃ tree, parse {} .filter "NS.f(@p) gt 2012-12-03 or a/any(d:d eq 1.5)" = .ok (.filter tree) ∧
      ∀ role node, Expr.Stands .operand tree role node → node.HoldsAlone := by
  have read : tokenize "2012-13-45e1 -INF@p.q" .expression 3 =
      .ok [⟨.integerLiteral, "2012", 3⟩, ⟨.integerLiteral, "-13", 7⟩, ⟨.singleLiteral, "-45e1", 10⟩,
        ⟨.doubleLiteral, "-INF", 16⟩, ⟨.annotationIdentifier, "@p.q", 20⟩] := by decide +kernel
  have accepted : parse {} .filter "NS.f(@p) gt 2012-12-03 or a/any(d:d eq 1.5)" =
      .ok (.filter (.binary .or
        (.binary .greaterThan (.call "NS.f" [.parameterAlias "@p"] none) (.literal .dateOnlyLiteral "2012-12-03"))
        (.lambda .any (.innerPath "a" none) "d" (.binary .equal (.rangeVariable "d") (.literal .singleLiteral "1.5"))))) := by
    decide +kernel
  exact ⟨⟨_, read, rfl, tokens_stand_alone.1 _ _ _ _ read⟩,
    _, accepted, tokens_stand_alone.2 _ _ _ _ accepted _ List.mem_cons_self⟩

end QueryOptions
