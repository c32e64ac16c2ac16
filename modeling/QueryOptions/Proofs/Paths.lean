import QueryOptions.Equality
import QueryOptions.Proofs.Formed.Parts

set_option autoImplicit false

namespace QueryOptions

open Expression

namespace Items

variable {settings : Settings} {kind : ItemKind} {count : Nat} {last : Option String} {name segment : String}
variable {names before behind : List String} {lexemes : List Lexeme}

theorem path_names_ne_nil (path : Path settings kind count last names lexemes) : names ≠ [] := by
  cases path <;> exact List.cons_ne_nil _ _

-- Only the last segment is let by without a check that the slash behind it makes.
theorem path_split (path : Path settings kind count last names lexemes) (scanned : ∀ lexeme ∈ lexemes, Scanned lexeme)
    (parts : names = before ++ segment :: behind) :
    ∃ own : List Lexeme, (∀ lexeme ∈ own, Scanned lexeme) ∧ Segment settings kind own segment ∧
      Placed settings kind (count + before.length) (before.getLast?.or last) segment ∧
      (behind ≠ [] → slashFault? kind segment = none) := by
  induction path generalizing before with
  | last spelled placed =>
      obtain ⟨rfl, same⟩ | ⟨_, rfl, same⟩ := List.cons_eq_append_iff.mp parts
      · cases same
        exact ⟨_, scanned, spelled, placed, fun some => absurd rfl some⟩
      · cases (List.append_eq_nil_iff.mp same.symm).2
  | further spelled placed _ goes _ ih =>
      simp only [List.forall_mem_append, List.forall_mem_cons] at scanned
      obtain ⟨rfl, same⟩ | ⟨before, rfl, same⟩ := List.cons_eq_append_iff.mp parts
      · cases same
        exact ⟨_, scanned.1, spelled, placed, fun _ => goes⟩
      · obtain ⟨own, kept, found, stands, slashes⟩ := ih scanned.2.2 same
        refine ⟨own, kept, found, ?_, slashes⟩
        rw [List.length_cons, List.getLast?_cons]
        rw [Nat.add_right_comm] at stands
        cases tail : before.getLast? with
        | none => rwa [tail] at stands
        | some final => rwa [tail] at stands

theorem path_within (path : Path settings kind count last names lexemes) (scanned : ∀ lexeme ∈ lexemes, Scanned lexeme) :
    count + names.length ≤ settings.maxPathLength := by
  have parts := List.dropLast_append_getLast (path_names_ne_nil path)
  obtain ⟨_, -, -, placed, -⟩ := path_split path scanned parts.symm
  have length := congrArg List.length parts
  rw [List.length_append, List.length_singleton] at length
  have within := placed.within
  omega

theorem word_kind_dollar (word : List Char) : wordKind (String.ofList ('$' :: word)) = .identifier := by
  have other {spelled : String} (starts : spelled.toList.head? ≠ some '$') : String.ofList ('$' :: word) ≠ spelled := by
    rintro rfl
    exact starts (by rw [String.toList_ofList]; rfl)
  have unfolded {spelled : String} (starts : (Text.fold spelled).head? ≠ some '$') :
      ¬ Text.sameFolded (String.ofList ('$' :: word)) spelled := by
    intro same
    rw [← eq_of_beq same, Text.fold, String.toList_ofList] at starts
    exact starts rfl
  unfold wordKind
  rw [if_neg (not_or.mpr ⟨other (by decide), other (by decide)⟩),
    if_neg (by simp only [not_or]; exact ⟨other (by decide), other (by decide), other (by decide), other (by decide)⟩),
    if_neg (other (by decide)), if_neg (not_or.mpr ⟨unfolded (by decide), unfolded (by decide)⟩)]

theorem name_plain (spelled : Name lexemes name) (scanned : ∀ lexeme ∈ lexemes, Scanned lexeme)
    (bare : ∀ first ∈ lexemes.head?, isSystem first = false) : ∃ c rest, name.toList = c :: rest ∧ c ≠ '$' := by
  induction spelled with
  | @single first named =>
      obtain ⟨kind, spelled⟩ := first
      obtain ⟨_, _, _, scans, rfl⟩ := (scanned _ (List.mem_singleton_self _)).read
      obtain ⟨c, word, -, rfl, rfl, -⟩ := scan_named scans named
      refine ⟨c, word, String.toList_ofList, ?_⟩
      rintro rfl
      have system := bare _ rfl
      rw [isSystem, word_kind_dollar, String.toList_ofList] at system
      cases system
  | @dotted front name dot lexeme before dots named ih =>
      rw [List.head?_append_of_ne_nil _ (name_ne_nil before)] at bare
      obtain ⟨c, rest, same, other⟩ := ih (List.forall_mem_append.mp scanned).1 bare
      exact ⟨c, rest ++ ".".toList ++ lexeme.text.toList, by rw [String.toList_append, String.toList_append, same]; rfl, other⟩

theorem segment_system (spelled : Segment settings kind lexemes segment) (scanned : ∀ lexeme ∈ lexemes, Scanned lexeme)
    (dollar : segment.toList.head? = some '$') : isSystemSegment settings kind segment := by
  cases spelled with
  | system _ known => exact known
  | name bare starred =>
      cases starred with
      | name spelled =>
          obtain ⟨c, rest, same, other⟩ := name_plain spelled scanned bare
          rw [same] at dollar
          exact absurd (Option.some.inj dollar) other
      | star => exact absurd dollar (by decide)
      | wildcard before =>
          rw [List.head?_append_of_ne_nil _ (name_ne_nil before)] at bare
          obtain ⟨c, rest, same, other⟩ := name_plain before (List.forall_mem_append.mp scanned).1 bare
          rw [String.toList_append, same] at dollar
          exact absurd (Option.some.inj dollar) other

theorem system_segment_words (known : isSystemSegment settings kind segment) :
    segment = "$count" ∨ segment = "$ref" ∧ (kind = .select → settings.allowRefInSelect) := by
  rw [isSystemSegment, Bool.or_eq_true, Bool.and_eq_true, Bool.or_eq_true, beq_iff_eq, beq_iff_eq, beq_iff_eq] at known
  refine known.imp_right fun ⟨same, allowed⟩ => ⟨same, ?_⟩
  rintro rfl
  exact allowed.resolve_left (by decide)

theorem namespace_wildcard_iff (segment : String) : isNamespaceWildcard segment ↔ ['.', '*'] <:+ segment.toList := by
  rw [isNamespaceWildcard, List.isPrefixOf_iff_prefix, ← List.reverse_prefix]
  rfl

theorem expand_unfaulted (unfaulted : expandFault? last segment = none) :
    (last = some "*" → segment = "$ref") ∧ (segment = "*" → last = none) ∧ ¬ isNamespaceWildcard segment := by
  unfold expandFault? at unfaulted
  split at unfaulted
  · cases unfaulted
  · rename_i followed
    split at unfaulted
    · cases unfaulted
    · rename_i first
      split at unfaulted
      · cases unfaulted
      · rename_i wildcard
        refine ⟨fun same => ?_, fun same => ?_, wildcard⟩
        · exact Decidable.byContradiction fun other => followed ⟨same, other⟩
        · exact Option.not_isSome_iff_eq_none.mp fun some => first ⟨same, some⟩

theorem slash_unfaulted (unfaulted : slashFault? kind segment = none) :
    segment ≠ "$ref" ∧ segment ≠ "$count" ∧ (segment = "*" → kind ≠ .select) := by
  unfold slashFault? at unfaulted
  split at unfaulted
  · cases unfaulted
  · rename_i terminal
    split at unfaulted
    · cases unfaulted
    · rename_i wildcard
      exact ⟨fun same => terminal (.inl same), fun same => terminal (.inr same), fun same select => wildcard ⟨same, select⟩⟩

end Items

structure Entry.PathWellFormed (settings : Settings) (entry : Entry) : Prop where
  nonempty : 1 ≤ entry.path.length
  within : entry.path.length ≤ settings.maxPathLength
  system : ∀ before segment behind, entry.path = before ++ segment :: behind → segment.toList.head? = some '$' →
    (segment = "$count" ∨ segment = "$ref") ∧ behind = []
  reference : entry.kind = .select → "$ref" ∈ entry.path → settings.allowRefInSelect
  starLast : entry.kind = .select → ∀ before behind, entry.path = before ++ "*" :: behind → behind = []
  unqualified : entry.kind = .expand → ∀ segment ∈ entry.path, ¬ ['.', '*'] <:+ segment.toList
  starFirst : entry.kind = .expand → ∀ before behind, entry.path = before ++ "*" :: behind → before = []
  starAlone : entry.kind = .expand → entry.path.head? = some "*" → entry.path = ["*"] ∨ entry.path = ["*", "$ref"]

open Items in
theorem Entry.path_well_formed {settings : Settings} {entry : Entry}
    (spelled : PathFormed settings entry.kind entry.path) : entry.PathWellFormed settings := by
  obtain ⟨lexemes, scanned, path⟩ := spelled
  have split {before behind : List String} {segment : String} (parts : entry.path = before ++ segment :: behind) :=
    path_split path scanned parts
  have terminal {before behind : List String} {segment : String} (parts : entry.path = before ++ segment :: behind)
      (ends : segment = "$count" ∨ segment = "$ref") : behind = [] := by
    obtain ⟨_, -, -, -, slashes⟩ := split parts
    refine Decidable.byContradiction fun others => ?_
    obtain ⟨notRef, notCount, -⟩ := slash_unfaulted (slashes others)
    exact ends.elim notCount notRef
  refine ⟨List.length_pos_iff.mpr (path_names_ne_nil path), ?_, ?_, ?_, ?_, ?_, ?_, ?_⟩
  · have within := path_within path scanned
    omega
  · intro before segment behind parts dollar
    obtain ⟨_, kept, found, -, -⟩ := split parts
    have ends := (system_segment_words (segment_system found kept dollar)).imp_right And.left
    exact ⟨ends, terminal parts ends⟩
  · intro select member
    obtain ⟨before, behind, parts⟩ := List.append_of_mem member
    obtain ⟨_, kept, found, -, -⟩ := split parts
    obtain same | ⟨-, allowed⟩ := system_segment_words (segment_system found kept (by decide))
    · exact absurd same (by decide)
    · exact allowed select
  · intro select before behind parts
    obtain ⟨_, -, -, -, slashes⟩ := split parts
    exact Decidable.byContradiction fun others => (slash_unfaulted (slashes others)).2.2 rfl select
  · intro expand segment member
    obtain ⟨before, behind, parts⟩ := List.append_of_mem member
    obtain ⟨_, -, -, placed, -⟩ := split parts
    rw [← namespace_wildcard_iff]
    exact (expand_unfaulted (placed.allowed expand)).2.2
  · intro expand before behind parts
    obtain ⟨_, -, -, placed, -⟩ := split parts
    have first := (expand_unfaulted (placed.allowed expand)).2.1 rfl
    rw [Option.or_none] at first
    exact List.getLast?_eq_none_iff.mp first
  · intro expand head
    obtain ⟨others, parts⟩ := List.head?_eq_some_iff.mp head
    cases others with
    | nil => exact .inl parts
    | cons second others =>
        obtain ⟨_, -, -, placed, -⟩ := split (show entry.path = ["*"] ++ second :: others from parts)
        obtain rfl := (expand_unfaulted (placed.allowed expand)).1 rfl
        obtain rfl := terminal (show entry.path = ["*"] ++ "$ref" :: others from parts) (.inr rfl)
        exact .inr parts

-- In an accepted list every path is well formed, at whatever depth it stands there.
theorem parse_paths_well_formed {settings : Settings} {option : QueryOption} {text : String} {parsed : ParsedOption}
    (accepted : parse settings option text = .ok parsed) : ∀ entry ∈ parsed.entries, entry.PathWellFormed settings :=
  fun entry listed => Entry.path_well_formed (parsed.entries_formed (parse_formed accepted) entry listed).spelled

def ParsedOption.branched : ParsedOption :=
  .expand [⟨["*", "$ref"], {}, none, none, none⟩,
    ⟨["NS.Base", "B", "$count"], {},
      some [⟨["NS.*"], {}, none⟩, ⟨["C", "NS.Derived", "*"], {}, some [⟨["D", "$ref"], {}, none⟩]⟩],
      some [⟨["*"], {}, none, none, some .max⟩, ⟨["E", "NS.F"], {}, none, none, none⟩], none⟩]

theorem branched_paths_well_formed :
    parse { allowRefInSelect := true } .expand
        "*/$ref,NS.Base/B/$count($select=NS.*,C/NS.Derived/*($select=D/$ref);$expand=*($levels=max),E/NS.F)" =
        .ok .branched ∧
      ParsedOption.branched.entries.length = 7 ∧
      ∀ entry ∈ ParsedOption.branched.entries, entry.PathWellFormed { allowRefInSelect := true } := by
  have accepted : parse { allowRefInSelect := true } .expand
      "*/$ref,NS.Base/B/$count($select=NS.*,C/NS.Derived/*($select=D/$ref);$expand=*($levels=max),E/NS.F)" =
        .ok .branched := by decide +kernel
  exact ⟨accepted, rfl, parse_paths_well_formed accepted⟩

end QueryOptions
