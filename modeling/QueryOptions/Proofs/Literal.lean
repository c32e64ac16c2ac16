import QueryOptions.Proofs.Line
import QueryOptions.Proofs.Nested.Agreement
import QueryOptions.Proofs.Token.Phrase

set_option autoImplicit false

namespace QueryOptions

open Parse

def doubled : List Char → List Char
  | [] => []
  | c :: rest => if c = '\'' then c :: c :: doubled rest else c :: doubled rest

def literalOf (content : String) : String := "'" ++ String.ofList (doubled content.toList) ++ "'"

theorem scan_doubled {after : List Char} (alone : after.head? ≠ some '\'') (content : List Char) :
    scanString '\'' (doubled content ++ '\'' :: after) = ⟨.closed, doubled content ++ ['\''], after⟩ := by
  induction content with
  | nil => exact scan_string_closing alone
  | cons c content ih =>
      unfold doubled
      by_cases same : c = '\''
      · subst same
        rw [if_pos rfl, List.cons_append, List.cons_append, scan_string_doubled, ih]
        rfl
      · rw [if_neg same, List.cons_append, scan_string_plain same (Bool.and_false _), ih]
        rfl

namespace Word

def ofContent (content : List Char) : Word where
  kind := .stringLiteral
  text := '\'' :: (doubled content ++ ['\''])
  visible _ := rfl
  scans after parting := by
    have alone : after.head? ≠ some '\'' := by rcases parting with rfl | ⟨tail, rfl⟩ <;> simp
    change Scan.quoted .stringLiteral [] '\'' (scanString '\'' (doubled content ++ ['\''] ++ after)) = _
    rw [List.append_assoc, List.singleton_append, scan_doubled alone]
    rfl

theorem content_text (content : String) : String.ofList (ofContent content.toList).text = literalOf content := by
  simp only [← String.toList_inj, literalOf, String.toList_append, String.toList_ofList]
  rfl

end Word

namespace Expression

def property : Word := .ofLetters 'N' ['a', 'm', 'e'] (fun _ => rfl) rfl (by decide)
def condition : Word := .ofLetters 'Z' [] (fun _ => rfl) rfl (by decide)

variable {limit levels : Nat} {rest : List Word}

def equalsTree (content : String) : Expr :=
  .binary .equal (.endPath "Name" none) (.literal .stringLiteral (literalOf content))

theorem equals_gives (content : String) (loose : Loose rest) :
    Gives (limited limit) .rule (levels + 6) (comparison (limited limit) (levels + 6))
      (property :: equality :: .ofContent content.toList :: rest) (equalsTree content) rest := by
  have left : Gives (limited limit) .rule (levels + 5) (sum (limited limit) (levels + 5))
      (property :: equality :: .ofContent content.toList :: rest) (.endPath "Name" none)
      (equality :: .ofContent content.toList :: rest) :=
    sum_of_operand (fun _ => rfl) (name_gives rfl rfl fun _ => ⟨nofun, rfl, rfl⟩) (fun _ => rfl) fun _ => rfl
  have right : Gives (limited limit) .rule (levels + 4) (sum (limited limit) (levels + 4))
      (.ofContent content.toList :: rest) (.literal .stringLiteral (literalOf content)) rest := by
    have literal : Gives (limited limit) .rule (levels + 1) (primary (limited limit) (levels + 1))
        (.ofContent content.toList :: rest) (.literal .stringLiteral (literalOf content)) rest := by
      rw [← Word.content_text]
      exact literal_gives rfl rest
    exact sum_of_operand (fun _ => rfl) literal loose.noFactor loose.noTerm
  exact gets_chain_of left (gets_look (in_sees fun _ => rfl)
    (link_takes (comparison_sees fun _ => rfl) right (comparison_tail_skips loose _)))

theorem equals_alone_gives (content : String) :
    Gives (limited limit) .rule (levels + 8) (disjunction (limited limit) (levels + 8))
      [property, equality, .ofContent content.toList] (equalsTree content) [] :=
  gets_chain_of (gets_chain_of (equals_gives content loose_nil) (link_skips (keyword_sees fun _ => rfl)))
    (link_skips (keyword_sees fun _ => rfl))

theorem equals_and_gives (content : String) :
    Gives (limited limit) .rule (levels + 9) (disjunction (limited limit) (levels + 9))
      [property, equality, .ofContent content.toList, both, condition]
      (.binary .and (equalsTree content) (.endPath "Z" none)) [] := by
  have further : Gives (limited limit) .rule (levels + 6) (comparison (limited limit) (levels + 6)) [condition]
      (.endPath "Z" none) [] :=
    comparison_of_operand (fun _ => rfl) (name_gives rfl rfl fun _ => ⟨nofun, rfl, rfl⟩) loose_nil
  exact gets_chain_of (gets_chain_of (equals_gives content (loose_both _))
    (link_takes (keyword_sees fun _ => rfl) further (link_skips (keyword_sees fun _ => rfl))))
    (link_skips (keyword_sees fun _ => rfl))

end Expression

section

open Expression

theorem literal_list (content : String) : (literalOf content).toList = (Word.ofContent content.toList).text :=
  (congrArg String.toList (Word.content_text content)).symm.trans String.toList_ofList

theorem equals_written {content : String} {text : List Char} {rest : List Word}
    (written : text = "Name eq ".toList ++ ((literalOf content).toList ++ Word.line rest)) :
    text.dropWhile Text.isBlank =
      (Word.line (property :: equality :: .ofContent content.toList :: rest)).dropWhile Text.isBlank := by
  rw [written, literal_list]
  rfl

theorem equals_filter (content : String) :
    parse {} .filter ("Name eq " ++ literalOf content) = .ok (.filter (equalsTree content)) := by
  have written : ("Name eq " ++ literalOf content).toList =
      "Name eq ".toList ++ ((literalOf content).toList ++ Word.line []) := by
    simp only [String.toList_append, Word.line, List.flatMap_nil, List.append_nil]
  -- Eight of the levels that are allowed by default are needed.
  change parse (limited (248 + 8)) .filter _ = _
  exact filter_of_words (equals_written written) (equals_alone_gives content)

theorem equals_and_filter (content : String) :
    parse {} .filter ("Name eq " ++ literalOf content ++ " and Z") =
      .ok (.filter (.binary .and (equalsTree content) (.endPath "Z" none))) := by
  have written : ("Name eq " ++ literalOf content ++ " and Z").toList =
      "Name eq ".toList ++ ((literalOf content).toList ++ Word.line [both, condition]) := by
    rw [String.toList_append, String.toList_append, List.append_assoc]
    rfl
  change parse (limited (247 + 9)) .filter _ = _
  exact filter_of_words (equals_written written) (equals_and_gives content)

end

def pagedExpand? : Except ParseError ParsedOption → Option (List String × Nat × List String)
  | .ok (.expand [⟨path, ⟨none, none, some count, none, none, none, none⟩, none, none, none⟩,
      ⟨next, ⟨none, none, none, none, none, none, none⟩, none, none, none⟩]) => some (path, count, next)
  | _ => none

theorem paged_expand {result : Except ParseError ParsedOption} {path next : List String} {count : Nat}
    (found : pagedExpand? result = some (path, count, next)) :
    result = .ok (.expand [Item.toExpand ⟨path, { top := some count }⟩, Item.toExpand ⟨next, {}⟩]) := by
  unfold pagedExpand? at found
  split at found <;> cases found
  rfl

theorem equals_item (content : String) :
    parse {} .expand ("A($filter=Name eq " ++ literalOf content ++ ";$top=1),B") =
      .ok (.expand [Item.toExpand ⟨["A"], { filter := some (Expression.equalsTree content), top := some 1 }⟩,
        Item.toExpand ⟨["B"], {}⟩]) := by
  have paged : parse {} .expand (String.ofList ('A' :: '(' :: "$top=1),B".toList)) =
      .ok (.expand [Item.toExpand ⟨["A"], { top := some 1 }⟩, Item.toExpand ⟨["B"], {}⟩]) :=
    paged_expand (by decide +kernel)
  have text : "A($filter=Name eq " ++ literalOf content ++ ";$top=1),B" =
      String.ofList ('A' :: '(' :: (NestedKind.filter.itemOption.letters ++ '=' ::
        (("Name eq " ++ literalOf content).toList ++ ';' :: "$top=1),B".toList))) := by
    rw [← String.toList_inj, String.toList_ofList, String.toList_append, String.toList_append, String.toList_append,
      List.append_assoc, List.append_assoc]
    rfl
  rw [text]
  exact expand_prepends {} .filter (by decide) (equals_filter content) (by decide) paged

-- A string of any content stays in its literal, in a filter as in the filter of an item.
theorem literal_contained (content : String) :
    parse {} .filter ("Name eq " ++ literalOf content ++ " and Z") =
        .ok (.filter (.binary .and
          (.binary .equal (.endPath "Name" none) (.literal .stringLiteral (literalOf content)))
          (.endPath "Z" none))) ∧
      parse {} .expand ("A($filter=Name eq " ++ literalOf content ++ ";$top=1),B") =
        .ok (.expand [
          ⟨["A"], {
            filter := some (.binary .equal (.endPath "Name" none) (.literal .stringLiteral (literalOf content)))
            top := some 1 }, none, none, none⟩,
          ⟨["B"], {}, none, none, none⟩]) :=
  ⟨equals_and_filter content, equals_item content⟩

end QueryOptions
