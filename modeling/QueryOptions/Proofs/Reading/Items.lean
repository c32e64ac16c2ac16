import QueryOptions.Context
import QueryOptions.Proofs.Reading.Options

set_option autoImplicit false

namespace QueryOptions

open Parse

variable {M : Motion} {settings : Settings} {room : Prop} {part : Part} {depth depth' : Nat}
variable {state : ParseState} {levels cost : Nat} {α β : Type}

theorem start_reads {text : String} {offset : Nat} {p : Parse α} (body : Fits M settings .rule levels cost p)
    (start : state.cursor = .start text M.dialect offset false) :
    Reads M (Room settings levels cost state) .rule depth depth state ((do advance; p : Parse α) state) := by
  change Reads _ _ _ _ _ _ (EStateM.bind (move Cursor.advance) (fun _ => p) state)
  unfold EStateM.bind move
  cases advanced : Cursor.advance state.cursor with
  | ok value moved =>
      obtain ⟨lexed, passes⟩ := M.begins (start ▸ advanced)
      have ahead : state.cursor.ahead = text.toList := by
        rw [start]
        rfl
      have reached : Reached M .rule depth depth state { state with cursor := moved } :=
        ⟨lexed, ahead ▸ passes depth, rfl, rfl, fun _ => rfl⟩
      exact reads_reached reached (reads_of_room (fun room => room_after room reached) (body depth _ lexed))
  | error error moved =>
      exact fun _ => positional_not_exceeded (Cursor.advance_placed _ _ _ advanced)

def Stays (room : Prop) (state : ParseState) {α : Type} : EStateM.Result ParseError ParseState α → Prop
  | .ok _ after => after = state
  | .error error _ => room → ∀ limit, error ≠ .depthExceeded limit

theorem within_stays {text : String} {offset : Nat} {p : Parse α} (body : Fits M settings .rule levels cost p)
    (fits : room → state.depth + levels ≤ settings.maxDepth ∧ 8 * text.toList.length + cost ≤ levels) :
    Stays room state (within text M.dialect offset p state) := by
  rw [within_by_map]
  have inside : Reads M (Room settings levels cost { state with cursor := .start text M.dialect offset false })
      .rule 0 0 { state with cursor := .start text M.dialect offset false }
      ((do advance; p : Parse α) { state with cursor := .start text M.dialect offset false }) :=
    start_reads body rfl
  cases result : (do advance; p : Parse α) { state with cursor := .start text M.dialect offset false } with
  | ok value after =>
      rw [result] at inside
      obtain ⟨cursor, scope, depth, links⟩ := after
      obtain rfl : scope = state.scope := inside.kept.scope
      obtain rfl : links = state.links := inside.kept.links rfl
      obtain rfl : depth = state.depth := reached_depth inside
      rfl
  | error error after =>
      rw [result] at inside
      exact fun there => inside ⟨(fits there).1, (fits there).2⟩

theorem recurse_stays {p : Parse α} (fits : room → state.depth + cost ≤ settings.maxDepth)
    (body : Stays room { state with depth := state.depth + cost } (p { state with depth := state.depth + cost })) :
    Stays room state (recurse settings cost p state) := by
  change Stays _ _ (EStateM.bind (enter settings cost) _ state)
  unfold EStateM.bind
  rw [enter_exactly]
  by_cases deep : settings.maxDepth < state.depth + cost
  · rw [if_pos deep]
    intro there
    have := fits there
    omega
  · rw [if_neg deep]
    change Stays _ _ (closing settings (fun _ => cost) p { state with depth := state.depth + cost })
    cases result : p { state with depth := state.depth + cost } with
    | ok value after =>
        rw [result] at body
        obtain rfl : after = _ := body
        rw [closing_ok result (Nat.le_add_left _ _)]
        change ({ state with depth := state.depth + cost - cost } : ParseState) = state
        rw [Nat.add_sub_cancel]
    | error error after =>
        rw [result] at body
        obtain ⟨left, failed⟩ := closing_error settings (fun _ => cost) result
        rw [failed]
        exact body

theorem advance_delimiter {cursor moved : Cursor} (delimiter : AtDelimiter cursor.rest)
    (spoken : cursor.dialect = .expression) (blanks : cursor.keepsBlanks = false)
    (advanced : Cursor.advance cursor = .ok () moved) :
    moved.token.kind = .closeParen ∨ moved.token.kind = .semicolon := by
  obtain ⟨rest, offset, token, dialect, keepsBlanks⟩ := cursor
  dsimp only at *
  subst spoken blanks
  obtain ⟨c, after, rfl, rfl | rfl⟩ := delimiter
  · cases advanced
    exact .inl rfl
  · cases advanced
    exact .inr rfl

structure ValueRead (cursor moved : Cursor) (value : String) : Prop where
  lexed : moved.Lexed .expression
  passed : ∀ depth, Crosses depth cursor.ahead depth moved.ahead
  fits : value.toList.length + moved.ahead.length < cursor.ahead.length
  delimiter : moved.token.kind = .closeParen ∨ moved.token.kind = .semicolon

theorem ValueRead.going {cursor moved : Cursor} {value : String} (valueRead : ValueRead cursor moved value) :
    moved.token.kind ≠ .finish := by
  rcases valueRead.delimiter with close | semicolon
  · simp [close]
  · simp [semicolon]

theorem option_value_read {cursor moved : Cursor} {value : String} {position : Nat}
    (lexed : cursor.Lexed .expression) (equal : cursor.token.kind = .equal)
    (done : Cursor.optionValue cursor = .ok (value, position) moved) : ValueRead cursor moved value := by
  unfold Cursor.optionValue at done
  dsimp only at done
  cases fault : (scanValue (cursor.rest.length + 1) 0 cursor.rest).fault with
  | some error =>
      rw [fault] at done
      cases done
  | none =>
      obtain ⟨crosses, delimiter⟩ := scan_value_crosses _ 0 cursor.rest (Nat.lt_succ_self _) fault
      obtain ⟨taken, scan, split⟩ := scan_value_of_crosses crosses rfl delimiter _ (Nat.lt_succ_self _)
      rw [fault] at done
      dsimp only at done
      generalize scanValue (cursor.rest.length + 1) 0 cursor.rest = found at *
      rw [← show found.taken = taken from congrArg ValueScan.taken scan] at split
      split at done
      · rename_i advanced
        cases done
        have inner : cursor.token.kind.isBound = false := by rw [equal]; rfl
        have front : ∀ depth, Crosses depth cursor.ahead depth cursor.rest := lexed.passed rfl inner
        have after : Cursor.Lexed cursor.dialect moved :=
          (Cursor.advance_lexed (by exact lexed.blanks) advanced).1
        rw [lexed.spoken] at after
        have suffix := (rest_suffix (by exact lexed.blanks) advanced).length_le
        have taking := List.length_pos_iff.mpr (lexed.text (by simp [equal]))
        have lengths := congrArg List.length split
        refine ⟨after, fun depth => ?_, ?_, advance_delimiter (by exact delimiter)
          (by exact lexed.spoken) (by exact lexed.blanks) advanced⟩
        · have inside := crosses.deeper depth
          rw [Nat.zero_add] at inside
          exact (front depth).trans (inside.trans (crosses_rest (by exact lexed.blanks) advanced depth))
        · simp only [String.toList_ofList, Cursor.ahead, List.length_append] at *
          omega
      · cases done

-- The raw value after a `=` is shorter than the text ahead there, and a delimiter follows
-- it.
theorem reads_option_value {f : String × Nat → Parse α} (lexed : Cursor.Lexed .expression state.cursor)
    (equal : state.cursor.token.kind = .equal)
    (next : ∀ value position moved, ValueRead state.cursor moved value →
      Reads .raw room part depth depth' { state with cursor := moved }
        (f (value, position) { state with cursor := moved })) :
    Reads .raw room part depth depth' state ((move Cursor.optionValue >>= f) state) := by
  change Reads _ _ _ _ _ _ (EStateM.bind (move Cursor.optionValue) f state)
  unfold EStateM.bind move
  cases read : Cursor.optionValue state.cursor with
  | ok value moved =>
      obtain ⟨value, position⟩ := value
      have valueRead := option_value_read lexed equal read
      have reached : Reached .raw part depth depth state { state with cursor := moved } :=
        ⟨valueRead.lexed, valueRead.passed depth, rfl, rfl, fun _ => rfl⟩
      exact reads_reached reached (next value position moved valueRead)
  | error error moved =>
      exact fun _ => positional_not_exceeded (Cursor.option_value_placed _ _ _ read)

namespace Items

theorem refuse_reads (fault : Option PathFault) (position : Nat) {f : Unit → Parse α}
    (fine : Reads M room part depth depth' state (f () state)) :
    Reads M room part depth depth' state ((refuse fault position >>= f) state) := by
  cases fault with
  | none => exact fine
  | some fault => exact reads_refused rfl

theorem segment_name_fits (levels : Nat) (kind : ItemKind) :
    Fits M settings .rule levels 0 (segmentName settings kind) := by
  intro depth state lexed
  change Reads _ _ _ _ _ _
    ((if state.cursor.token.kind = .identifier ∧ state.cursor.token.text.toList.head? = some '$' then _
      else dottedName true : Parse String) state)
  split
  · rename_i system
    split
    · exact reads_advance_inner lexed (by rw [system.1]; rfl) fun _ lexed _ => reads_pure _ lexed
    · exact reads_refused rfl
  · have named : Reads M (Room settings levels 0 state) .rule depth depth state ((dottedName true >>= pure) state) :=
      reads_dotted_name lexed fun _ _ lexed _ => reads_pure _ lexed
    rwa [bind_pure] at named

theorem segment_fits (levels : Nat) (kind : ItemKind) (count : Nat) (last : Option String) :
    Fits M settings .rule levels 0 (segment settings kind count last) := by
  intro depth state lexed
  change Reads _ _ _ _ _ _ ((segmentName settings kind >>= _) state)
  refine reads_rule (segment_name_fits levels kind) lexed id fun segment after reached => ?_
  have bounded : Reads M (Room settings levels 0 state) .rule depth depth after
      ((if settings.maxPathLength < count + 1 then
        throw (.invalidPath (.tooLong settings.maxPathLength) state.cursor.token.position)
        else pure segment : Parse String) after) := by
    split
    · exact reads_refused rfl
    · exact reads_pure _ reached.lexed
  change Reads _ _ _ _ _ _ ((if kind = .expand then _ else _ : Parse String) after)
  split
  · exact refuse_reads _ _ bounded
  · exact bounded

theorem segments_fits (levels : Nat) (kind : ItemKind) (fuel count : Nat) (last : Option String) :
    Fits M settings .rule levels 0 (segments settings kind fuel count last) := by
  induction fuel generalizing count last with
  | zero => exact fun depth state lexed => reads_pure [] lexed
  | succ fuel ih =>
      intro depth state lexed
      refine reads_rule (segment_fits levels kind count last) lexed id fun first after reached => ?_
      refine reads_at_kind (fun slash => ?_) (fun _ => reads_pure _ reached.lexed)
      refine refuse_reads _ after.cursor.token.position ?_
      refine reads_advance_inner reached.lexed (by rw [slash]; rfl) fun moved lexed shorter => ?_
      refine reads_map (reads_of_room (fun room => ?_) (ih _ _ depth _ lexed))
      have room' := room_after room reached
      exact ⟨room'.opened, by have := room'.enough; dsimp only; omega⟩

theorem path_fits (levels : Nat) (kind : ItemKind) : Fits M settings .rule levels 0 (path settings kind) :=
  fun depth state lexed =>
    segments_fits levels kind (state.cursor.rest.length + 1) 0 none depth state lexed

def NestedFits (settings : Settings) (levels : Nat) (nested : ItemKind → String → Nat → Parse (List Item)) :
    Prop :=
  ∀ kind value position room state,
    (room → state.depth + levels ≤ settings.maxDepth ∧ 8 * (value.toList.length + 1) + 8 ≤ levels) →
    Stays room state (nested kind value position state)

def Given (p : Parse α) : Prop :=
  (∃ value, p = pure value) ∨ ∃ error : ParseError, error.position.isSome ∧ p = throw error

theorem count_value_given (option : ItemOption) (value : String) (position : Nat) :
    Given (countValue option value position) := by
  unfold countValue
  split
  · exact .inl ⟨_, rfl⟩
  · exact .inr ⟨_, rfl, rfl⟩

theorem bool_value_given (option : ItemOption) (value : String) (position : Nat) :
    Given (boolValue option value position) := by
  unfold boolValue
  dsimp only
  split
  · exact .inl ⟨_, rfl⟩
  · split
    · exact .inl ⟨_, rfl⟩
    · exact .inr ⟨_, rfl, rfl⟩

theorem levels_value_given (option : ItemOption) (value : String) (position : Nat) :
    Given (levelsValue option value position) := by
  unfold levelsValue
  split
  · exact .inl ⟨_, rfl⟩
  · rcases count_value_given option value position with ⟨count, same⟩ | ⟨error, placed, same⟩
    · exact .inl ⟨.count count, by rw [same, pure_bind]⟩
    · exact .inr ⟨error, placed, by rw [same]; rfl⟩

theorem given_stays {p : Parse α} {f : α → β} (given : Given p) :
    Stays room state ((do return f (← p) : Parse β) state) := by
  rcases given with ⟨value, rfl⟩ | ⟨error, placed, rfl⟩
  · rfl
  · exact fun _ => positional_not_exceeded placed

theorem stays_map {p : Parse α} {f : α → β} (stays : Stays room state (p state)) :
    Stays room state ((do return f (← p) : Parse β) state) := by
  change Stays _ _ (EStateM.bind p (fun value => pure (f value)) state)
  unfold EStateM.bind
  cases result : p state with
  | ok value after =>
      rw [result] at stays
      exact stays
  | error error after =>
      rw [result] at stays
      exact stays

variable {nested : ItemKind → String → Nat → Parse (List Item)}

theorem read_value_stays (fits : NestedFits settings levels nested) (options : NestedOptions)
    (option : ItemOption) (value : String) (position : Nat)
    (enough : room → state.depth + levels ≤ settings.maxDepth ∧ 8 * (value.toList.length + 1) + 8 ≤ levels) :
    Stays room state (readValue settings levels nested options option value position state) := by
  have inside (there : room) : state.depth + levels ≤ settings.maxDepth ∧ 8 * value.toList.length + 8 ≤ levels :=
    ⟨(enough there).1, by have := (enough there).2; omega⟩
  cases option with
  | filter =>
      refine stays_map ?_
      exact within_stays (Expression.whole_fits .raw settings levels) inside
  | orderBy =>
      refine stays_map ?_
      exact within_stays (Order.whole_fits .raw settings levels) inside
  | top => exact given_stays (count_value_given _ value position)
  | skip => exact given_stays (count_value_given _ value position)
  | count =>
      refine given_stays ?_
      exact bool_value_given .count value position
  | search =>
      refine stays_map ?_
      exact within_stays (Search.whole_fits settings levels) inside
  | select => exact stays_map (fits .select value position room state enough)
  | compute =>
      refine stays_map ?_
      exact within_stays (Compute.whole_fits .raw settings levels) inside
  | expand => exact stays_map (fits .expand value position room state enough)
  | levels =>
      refine given_stays ?_
      exact levels_value_given .levels value position

theorem reads_option_name {kind : ItemKind} {seen : List ItemOption} {f : ItemOption → Parse α}
    (lexed : Cursor.Lexed .expression state.cursor)
    (next : ∀ option moved, Cursor.Lexed .expression moved → moved.token.kind = .equal →
      moved.ahead.length ≤ state.cursor.rest.length → moved.ahead.length < state.cursor.ahead.length →
      Reads .raw room part depth depth' { state with cursor := moved } (f option { state with cursor := moved })) :
    Reads .raw room part depth depth' state ((optionName settings kind seen >>= f) state) := by
  change Reads _ _ _ _ _ _ (((if state.cursor.token.kind = .identifier then _ else _ : Parse ItemOption) >>= f) state)
  split
  · rename_i named
    have inner : state.cursor.token.kind.isBound = false := by rw [named]; rfl
    cases kind.option? settings state.cursor.token.text with
    | none => exact reads_refused rfl
    | some option =>
        dsimp only
        rw [bind_assoc]
        refine reads_advance (M := .raw) lexed (by simp [named])
          (fun moved advanced => Motion.raw.inner lexed inner advanced depth) fun moved advanced lexed' shorter => ?_
        rw [bind_assoc]
        refine reads_at_kind (fun equal => ?_) (fun _ => reads_refused rfl)
        change Reads _ _ _ _ _ _ (((if option ∈ seen then _ else _ : Parse ItemOption) >>= f) _)
        split
        · exact reads_refused rfl
        · exact next option moved lexed' equal (rest_suffix lexed.blanks advanced).length_le shorter
  · exact reads_refused rfl

theorem options_from_reads (fits : NestedFits settings levels nested) (kind : ItemKind) (count : Nat)
    (seen : List ItemOption) (options : NestedOptions) (depth : Nat) {state : ParseState}
    (enough : state.cursor.rest.length < count) (lexed : Cursor.Lexed .expression state.cursor) :
    Reads .raw (Room settings levels 8 state) .rule (depth + 1) depth state
      (optionsFrom settings kind levels nested count seen options state) := by
  -- Every round ends at a shorter text, so the count does not run out before the text does.
  induction count generalizing seen options state with
  | zero => exact absurd enough (Nat.not_lt_zero _)
  | succ count ih =>
      refine reads_option_name lexed fun option named lexed equal rest shorter => ?_
      refine reads_option_value lexed equal fun value position found valueRead => ?_
      have fitting := valueRead.fits
      have stays : Stays (Room settings levels 8 state) { state with cursor := found }
          (readValue settings levels nested options option value position { state with cursor := found }) :=
        read_value_stays fits options option value position fun room => ⟨room.opened, by
          have := room.enough
          dsimp only at fitting
          omega⟩
      change Reads _ _ _ _ _ _ (EStateM.bind (readValue _ _ _ _ _ _ _) _ _)
      unfold EStateM.bind
      cases result : readValue settings levels nested options option value position { state with cursor := found } with
      | error error after =>
          rw [result] at stays
          exact stays
      | ok options after =>
          rw [result] at stays
          obtain rfl : after = _ := stays
          dsimp only at fitting
          refine reads_at_kind (fun closes => ?_) (fun goes => ?_)
          · exact reads_advance_closing (M := .raw) valueRead.lexed closes fun moved lexed _ => reads_pure _ lexed
          · have semicolon : found.token.kind = .semicolon := valueRead.delimiter.resolve_left goes
            refine reads_advance (M := .raw) valueRead.lexed valueRead.going
              (fun moved advanced => crosses_semicolon valueRead.lexed semicolon advanced depth)
              fun moved advanced lexed shorter' => ?_
            dsimp only at shorter'
            have within := moved.rest_le_ahead
            have less : moved.ahead.length < state.cursor.ahead.length := by omega
            have fuel : moved.rest.length < count := by omega
            refine reads_of_room (fun room => ⟨room.opened, ?_⟩) (ih _ _ fuel lexed)
            have := room.enough
            dsimp only
            omega

theorem options_fits (fits : NestedFits settings levels nested) (kind : ItemKind)
    (lexed : Cursor.Lexed .expression state.cursor) (opening : state.cursor.token.kind = .openParen) :
    Reads .raw (Room settings levels 8 state) .rule depth depth state (options settings kind levels nested state) := by
  change Reads _ _ _ _ _ _ ((expect .openParen "'('" >>= _) state)
  refine reads_expect fun _ => reads_advance_opening (M := .raw) lexed opening fun moved lexed shorter => ?_
  refine reads_at_kind (fun _ => reads_refused rfl) (fun _ => ?_)
  have further : Reads .raw (Room settings levels 8 { state with cursor := moved }) .rule (depth + 1) depth
      { state with cursor := moved }
      (optionsFrom settings kind levels nested (moved.rest.length + 1) [] {} { state with cursor := moved }) :=
    options_from_reads fits kind (moved.rest.length + 1) [] {} depth (Nat.lt_succ_self _) lexed
  exact reads_of_room (fun room => ⟨room.opened, by have := room.enough; dsimp only; omega⟩) further

theorem item_fits (fits : NestedFits settings levels nested) (kind : ItemKind) :
    Fits .raw settings .rule levels 8 (item settings kind levels nested) := by
  intro depth state lexed
  refine reads_rule (path_fits levels kind) lexed (fun room => ⟨room.opened, by have := room.enough; omega⟩)
    fun path after reached => ?_
  refine reads_at_kind (fun opening => ?_) (fun _ => reads_pure _ reached.lexed)
  exact reads_map (reads_of_room (fun room => room_after room reached) (options_fits fits kind reached.lexed opening))

theorem list_fits (fits : NestedFits settings levels nested) (kind : ItemKind) :
    Fits .raw settings .rule levels 8 (list settings kind levels nested) := by
  intro depth state lexed
  refine reads_at_kind (fun _ => reads_pure [] lexed) (fun _ => ?_)
  exact fits_then_end (fits_sep_by rfl (item_fits fits kind)) depth state lexed

def inner [Counter] (settings : Settings) (levels : Nat) (kind : ItemKind) (value : String) (position : Nat) :
    Parse (List Item) :=
  if levels < 8 then tooDeep settings
  else recurse settings 8 (within value .expression position (whole settings kind (levels - 8)))

theorem whole_by_inner [Counter] (settings : Settings) (kind : ItemKind) (levels : Nat) :
    whole settings kind levels = list settings kind levels (inner settings levels) := by
  rcases Nat.lt_or_ge levels 8 with few | many
  · have same : inner settings levels = fun _ _ _ => tooDeep settings := by
      funext kind value position
      exact if_pos few
    rw [same]
    unfold whole
    split
    · omega
    · rfl
  · obtain ⟨levels, rfl⟩ := Nat.exists_eq_add_of_le' many
    have same : inner settings (levels + 8) = fun kind value position =>
        recurse settings 8 (within value .expression position (whole settings kind levels)) := by
      funext kind value position
      exact if_neg (Nat.not_lt.mpr many)
    rw [same]
    rfl

theorem inner_fits_of (fewer : ∀ kind less, less < levels → Fits .raw settings .rule less 8 (whole settings kind less)) :
    NestedFits settings levels (inner settings levels) := by
  intro kind value position room state enough
  unfold inner
  split
  · change room → _
    intro there
    have := enough there
    omega
  · refine recurse_stays (fun there => by have := enough there; omega) ?_
    exact within_stays (M := .raw) (fewer kind (levels - 8) (by omega)) fun there => by
      have := enough there
      dsimp only
      omega

theorem whole_fits (settings : Settings) (kind : ItemKind) (levels : Nat) :
    Fits .raw settings .rule levels 8 (whole settings kind levels) := by
  induction levels using Nat.strongRecOn generalizing kind with
  | ind levels ih =>
      rw [whole_by_inner]
      exact list_fits (inner_fits_of fun kind less few => ih less few kind) kind

theorem inner_fits (settings : Settings) (levels : Nat) : NestedFits settings levels (inner settings levels) :=
  inner_fits_of fun kind less _ => whole_fits settings kind less

end Items

end QueryOptions
