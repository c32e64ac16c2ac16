import QueryOptions.Item.Path
import QueryOptions.Proofs.Derivation.Sound

set_option autoImplicit false

namespace QueryOptions.Items

open Parse Expression

def isSystem (lexeme : Lexeme) : Bool := lexeme.kind == .identifier && lexeme.text.toList.head? == some '$'

inductive Segment (settings : Settings) (kind : ItemKind) : List Lexeme → String → Prop where
  | system {word : Lexeme} (opens : isSystem word) (known : isSystemSegment settings kind word.text) :
      Segment settings kind [word] word.text
  | name {lexemes : List Lexeme} {name : String} (bare : ∀ first ∈ lexemes.head?, isSystem first = false)
      (spelled : Starred true lexemes name) : Segment settings kind lexemes name

-- Whether a segment may stand behind so many others, the last of which is given.
structure Placed (settings : Settings) (kind : ItemKind) (count : Nat) (last : Option String) (name : String) : Prop where
  allowed : kind = .expand → expandFault? last name = none
  within : count < settings.maxPathLength

inductive Path (settings : Settings) (kind : ItemKind) : Nat → Option String → List String → List Lexeme → Prop where
  | last {count : Nat} {last : Option String} {name : String} {lexemes : List Lexeme}
      (segment : Segment settings kind lexemes name) (placed : Placed settings kind count last name) :
      Path settings kind count last [name] lexemes
  | further {count : Nat} {last : Option String} {name : String} {names : List String} {front back : List Lexeme}
      {slash : Lexeme} (segment : Segment settings kind front name) (placed : Placed settings kind count last name)
      (slashes : slash.kind = .slash) (goes : slashFault? kind name = none)
      (others : Path settings kind (count + 1) (some name) names back) :
      Path settings kind count last (name :: names) (front ++ slash :: back)

variable {settings : Settings} {kind : ItemKind} {count fuel : Nat} {last : Option String} {name : String}
variable {names : List String} {lexemes : List Lexeme} {state after : ParseState} {moved : Cursor}

theorem starred_ne_nil (spelled : Starred true lexemes name) : lexemes ≠ [] := by
  cases spelled with
  | name spelled => exact name_ne_nil spelled
  | star | wildcard => simp

theorem segment_ne_nil (segment : Segment settings kind lexemes name) : lexemes ≠ [] := by
  cases segment with
  | system => simp
  | name _ spelled => exact starred_ne_nil spelled

theorem path_ne_nil (path : Path settings kind count last names lexemes) : lexemes ≠ [] := by
  cases path with
  | last segment => exact segment_ne_nil segment
  | further => simp

theorem segment_name_at (settings : Settings) (kind : ItemKind) (state : ParseState) :
    segmentName settings kind state =
      (if isSystem state.cursor.token.lexeme then
        if isSystemSegment settings kind state.cursor.token.text then do
          advance
          pure state.cursor.token.text
        else throw (.invalidPath (.systemSegment state.cursor.token.text) state.cursor.token.position)
      else dottedName true : Parse String) state := by
  change (if state.cursor.token.kind = .identifier ∧ state.cursor.token.text.toList.head? = some '$' then _ else _ :
    Parse String) state = _
  by_cases system : isSystem state.cursor.token.lexeme
  · rw [if_pos system, if_pos (by simpa [isSystem, Token.lexeme] using system)]
  · rw [if_neg system, if_neg (by simpa [isSystem, Token.lexeme] using system)]

theorem segment_name_sound (done : segmentName settings kind state = .ok name after) :
    ∃ lexemes, Walks state lexemes after ∧ Segment settings kind lexemes name := by
  rw [segment_name_at] at done
  by_cases system : isSystem state.cursor.token.lexeme
  · rw [if_pos system] at done
    by_cases known : isSystemSegment settings kind state.cursor.token.text
    · rw [if_pos known] at done
      obtain ⟨_, between, advanced, done⟩ := bind_ok done
      cases done
      have word : state.cursor.token.kind = .identifier := eq_of_beq (Bool.and_eq_true_iff.mp system).1
      exact ⟨_, advance_walks (by rw [word]; decide) advanced, .system system known⟩
    · rw [if_neg known] at done
      cases done
  · rw [if_neg system] at done
    obtain ⟨lexemes, walks, starred⟩ := starred_walks done
    refine ⟨lexemes, walks, .name (fun first head => ?_) starred⟩
    rw [Cursor.spans_head walks.spans first head]
    exact Bool.eq_false_iff.mpr system

theorem segment_name_complete (segment : Segment settings kind lexemes name) (spans : state.cursor.Spans lexemes moved)
    (stops : moved.token.kind ≠ .dot) : segmentName settings kind state = .ok name { state with cursor := moved } := by
  rw [segment_name_at]
  cases segment with
  | system opens known =>
      obtain ⟨rfl, between, advanced, others⟩ := Cursor.spans_cons spans
      obtain rfl := Cursor.spans_nil others
      rw [if_pos opens, if_pos (show isSystemSegment settings kind state.cursor.token.text from known)]
      exact bind_done (advance_done advanced)
  | name bare spelled =>
      have first := bare _ (Cursor.head_of_spans spans (starred_ne_nil spelled))
      rw [if_neg (by rw [first]; decide), Parse.dottedName, move, Cursor.starred_complete spelled spans stops]

theorem segment_by_name (settings : Settings) (kind : ItemKind) (count : Nat) (last : Option String) (state : ParseState) :
    segment settings kind count last state = (do
      let name ← segmentName settings kind
      if kind = .expand then refuse (expandFault? last name) state.cursor.token.position
      if settings.maxPathLength < count + 1 then
        throw (.invalidPath (.tooLong settings.maxPathLength) state.cursor.token.position)
      pure name : Parse String) state := rfl

theorem segment_ok (done : segment settings kind count last state = .ok name after) :
    segmentName settings kind state = .ok name after ∧ Placed settings kind count last name := by
  rw [segment_by_name] at done
  obtain ⟨found, between, read, done⟩ := bind_ok done
  have bounded (done : (do
      if settings.maxPathLength < count + 1 then
        throw (.invalidPath (.tooLong settings.maxPathLength) state.cursor.token.position)
      pure found : Parse String) between = .ok name after) :
      count < settings.maxPathLength ∧ found = name ∧ between = after := by
    by_cases long : settings.maxPathLength < count + 1
    · rw [if_pos long] at done
      cases done
    · rw [if_neg long] at done
      cases done
      exact ⟨by omega, rfl, rfl⟩
  by_cases expand : kind = .expand
  · rw [if_pos expand] at done
    obtain ⟨_, checked, refused, done⟩ := bind_ok done
    cases fault : expandFault? last found with
    | some fault =>
        rw [fault] at refused
        cases refused
    | none =>
        rw [fault] at refused
        cases refused
        obtain ⟨within, rfl, rfl⟩ := bounded done
        exact ⟨read, fun _ => fault, within⟩
  · rw [if_neg expand] at done
    obtain ⟨within, rfl, rfl⟩ := bounded done
    exact ⟨read, fun same => absurd same expand, within⟩

theorem segment_done (read : segmentName settings kind state = .ok name after)
    (placed : Placed settings kind count last name) : segment settings kind count last state = .ok name after := by
  rw [segment_by_name]
  refine (bind_done read).trans ?_
  have within : ¬ settings.maxPathLength < count + 1 := Nat.not_lt.mpr placed.within
  by_cases expand : kind = .expand
  · rw [if_pos expand, placed.allowed expand, if_neg within]
    rfl
  · rw [if_neg expand, if_neg within]
    rfl

theorem segments_sound (enough : state.cursor.rest.length < fuel)
    (done : segments settings kind fuel count last state = .ok names after) :
    ∃ lexemes, Walks state lexemes after ∧ Path settings kind count last names lexemes := by
  induction fuel generalizing count last names state with
  | zero => exact absurd enough (Nat.not_lt_zero _)
  | succ fuel ih =>
      obtain ⟨first, between, read, done⟩ := bind_ok done
      obtain ⟨named, placed⟩ := segment_ok read
      obtain ⟨front, walks, segment⟩ := segment_name_sound named
      change (if between.cursor.token.kind == .slash then _ else _ : Parse (List String)) between = _ at done
      by_cases slash : between.cursor.token.kind == .slash
      · rw [if_pos slash] at done
        have slashes := eq_of_beq slash
        obtain ⟨_, _, ⟨⟩, done⟩ := bind_ok done
        obtain ⟨_, checked, refused, done⟩ := bind_ok done
        cases fault : slashFault? kind first with
        | some fault =>
            rw [fault] at refused
            cases refused
        | none =>
            rw [fault] at refused
            cases refused
            obtain ⟨_, ready, advanced, done⟩ := bind_ok done
            obtain ⟨others, last, rest, done⟩ := bind_ok done
            cases done
            have going : between.cursor.token.kind ≠ .finish := by rw [slashes]; decide
            obtain ⟨moved, stepped, rfl⟩ := advance_ok advanced
            have fewer : moved.rest.length < fuel := by
              have here := Cursor.spans_takes walks.spans (segment_ne_nil segment) going
              have there := Cursor.advance_shortens stepped
              omega
            obtain ⟨back, walks', path⟩ := ih fewer rest
            have step := advance_walks going advanced
            exact ⟨_, walks_append walks (walks_cons step walks'), .further segment placed slashes fault path⟩
      · rw [if_neg slash] at done
        cases done
        exact ⟨front, walks, .last segment placed⟩

theorem path_sound (done : path settings kind state = .ok names after) :
    ∃ lexemes, Walks state lexemes after ∧ Path settings kind 0 none names lexemes :=
  segments_sound (Nat.lt_succ_self _) done

theorem segments_further {lexeme : Lexeme} (segment : Segment settings kind lexemes name)
    (placed : Placed settings kind count last name) (goes : slashFault? kind name = none) (slashes : lexeme.kind = .slash)
    {back : List Lexeme} (spans : state.cursor.Spans (lexemes ++ lexeme :: back) moved) :
    ∃ ready : Cursor, ready.Spans back moved ∧ segments settings kind (fuel + 1) count last state =
      (do let others ← segments settings kind fuel (count + 1) (some name)
          pure (name :: others) : Parse (List String)) { state with cursor := ready } := by
  obtain ⟨between, first, second⟩ := Cursor.spans_split spans
  obtain ⟨rfl, ready, advanced, others⟩ := Cursor.spans_cons second
  have slashes' : between.token.kind = .slash := slashes
  have named := segment_done (segment_name_complete segment first (by rw [slashes']; decide)) placed
  refine ⟨ready, others, (bind_done named).trans ((congrFun (if_pos (beq_of_eq slashes')) _).trans ?_)⟩
  refine (bind_done rfl).trans ?_
  rw [goes]
  exact (bind_done rfl).trans (bind_done (advance_done advanced))

theorem segments_complete (path : Path settings kind count last names lexemes) (enough : lexemes.length ≤ fuel)
    (spans : state.cursor.Spans lexemes moved) (dot : moved.token.kind ≠ .dot) (slash : moved.token.kind ≠ .slash) :
    segments settings kind fuel count last state = .ok names { state with cursor := moved } := by
  induction path generalizing fuel state with
  | last segment placed =>
      obtain ⟨fuel, rfl⟩ : ∃ fewer, fuel = fewer + 1 := by
        have some := List.length_pos_iff.mpr (segment_ne_nil segment)
        exact ⟨fuel - 1, by omega⟩
      refine (bind_done (segment_done (segment_name_complete segment spans dot) placed)).trans ?_
      exact congrFun (if_neg fun same => slash (eq_of_beq same)) _
  | @further count last name names front back mark segment placed slashes goes _ ih =>
      obtain ⟨fuel, rfl, fewer⟩ : ∃ fewer, fuel = fewer + 1 ∧ back.length ≤ fewer := by
        rw [List.length_append, List.length_cons] at enough
        exact ⟨fuel - 1, by omega, by omega⟩
      obtain ⟨ready, others, ran⟩ := @segments_further _ _ _ fuel _ _ _ _ _ _ segment placed goes slashes _ spans
      exact ran.trans (bind_done (@ih fuel { state with cursor := ready } fewer others))

theorem segments_refused {fault : PathFault} (path : Path settings kind count last names lexemes)
    (stops : ∀ final ∈ names.getLast?, slashFault? kind final = some fault) (enough : lexemes.length ≤ fuel)
    (spans : state.cursor.Spans lexemes moved) (slash : moved.token.kind = .slash) :
    segments settings kind fuel count last state =
      .error (.invalidPath fault moved.token.position) { state with cursor := moved } := by
  induction path generalizing fuel state with
  | @last count last name lexemes segment placed =>
      obtain ⟨fuel, rfl⟩ : ∃ fewer, fuel = fewer + 1 := by
        have some := List.length_pos_iff.mpr (segment_ne_nil segment)
        exact ⟨fuel - 1, by omega⟩
      have named := segment_done (segment_name_complete segment spans (by rw [slash]; decide)) placed
      have final : slashFault? kind name = some fault := stops name rfl
      refine (bind_done named).trans ((congrFun (if_pos (beq_of_eq slash)) _).trans ((bind_done rfl).trans ?_))
      rw [final]
      rfl
  | @further count last name names front back mark segment placed slashes goes others ih =>
      obtain ⟨fuel, rfl, fewer⟩ : ∃ fewer, fuel = fewer + 1 ∧ back.length ≤ fewer := by
        rw [List.length_append, List.length_cons] at enough
        exact ⟨fuel - 1, by omega, by omega⟩
      have stops' : ∀ final ∈ names.getLast?, slashFault? kind final = some fault := by
        obtain ⟨next, names, rfl⟩ : ∃ next others, names = next :: others := by cases others <;> exact ⟨_, _, rfl⟩
        rwa [List.getLast?_cons_cons] at stops
      obtain ⟨ready, others, ran⟩ := @segments_further _ _ _ fuel _ _ _ _ _ _ segment placed goes slashes _ spans
      exact ran.trans (bind_failed (@ih fuel { state with cursor := ready } stops' fewer others))

theorem path_complete (path : Path settings kind 0 none names lexemes) (spans : state.cursor.Spans lexemes moved)
    (dot : moved.token.kind ≠ .dot) (slash : moved.token.kind ≠ .slash) :
    Items.path settings kind state = .ok names { state with cursor := moved } :=
  segments_complete path (Cursor.spans_length spans) spans dot slash

end QueryOptions.Items
