import QueryOptions.Proofs.Paths
import QueryOptions.Proofs.Rendering.Items
import QueryOptions.Proofs.Token.Session

set_option autoImplicit false

namespace QueryOptions

open Parse Text

namespace Cursor

variable {cursor moved : Cursor} {text front tail : List Char} {lexemes : List Lexeme} {base : Nat} {c : Char}
variable {kind : TokenKind}

theorem advance_sound (sound : cursor.Sound text base) (advanced : advance cursor = .ok () moved) : moved.Sound text base := by
  have onward := (advance_steady cursor sound).sound
  rwa [advanced] at onward

theorem spans_sound (spans : cursor.Spans lexemes moved) (sound : cursor.Sound text base) : moved.Sound text base := by
  induction spans with
  | refl => exact sound
  | step _ advanced _ ih => exact ih (advance_sound sound advanced)

theorem mark_position (on : cursor.Begins (c :: tail)) (visible : isBlank c = false)
    (found : Expression.punctuation? c = some kind) (sound : cursor.Sound (front ++ c :: tail) 0) :
    cursor.token.position = byteLength front := by
  obtain ⟨-, rest, token⟩ := begins_token on (scan_mark visible found tail)
  obtain ⟨before, -, -, advanced⟩ := on
  obtain ⟨between, reads⟩ := reads_of_advance advanced
  obtain ⟨passed, offset, whole⟩ := sound.rest
  have spelled : cursor.token.text = String.ofList [c] := congrArg Lexeme.text token
  rw [rest, List.append_cons] at whole
  have same : front ++ [c] = passed := List.append_cancel_right whole
  have behind := reads.offset
  rw [offset, ← same, byteLength_append, spelled, String.toList_ofList] at behind
  omega

end Cursor

namespace Items

variable {settings : Settings} {kind : ItemKind} {count count' : Nat} {last last' : Option String}
variable {names names' : List String} {front back : List Lexeme}

theorem path_anywhere (path : Path settings .select count last names front)
    (within : count' + names.length ≤ settings.maxPathLength) : Path settings .select count' last' names front := by
  induction path generalizing count' last' with
  | last segment => exact .last segment ⟨nofun, within⟩
  | further segment _ slashes goes _ ih =>
      rw [List.length_cons] at within
      exact .further segment ⟨nofun, by omega⟩ slashes goes (ih (by omega))

theorem path_joined {slash : Lexeme} (first : Path settings .select count last names front)
    (second : Path settings .select count' last' names' back) (slashes : slash.kind = .slash)
    (goes : ∀ final ∈ names.getLast?, slashFault? .select final = none)
    (within : count + (names.length + names'.length) ≤ settings.maxPathLength) :
    Path settings .select count last (names ++ names') (front ++ slash :: back) := by
  induction first with
  | last segment placed =>
      rw [List.length_singleton, ← Nat.add_assoc] at within
      exact .further segment placed slashes (goes _ rfl) (path_anywhere second within)
  | @further count last name names front behind mark segment placed slashes' goes' others ih =>
      rw [List.length_cons] at within
      have goes'' : ∀ final ∈ names.getLast?, slashFault? .select final = none := by
        obtain ⟨next, names, rfl⟩ := List.exists_cons_of_ne_nil (path_names_ne_nil others)
        rwa [List.getLast?_cons_cons] at goes
      rw [List.append_assoc]
      exact .further segment placed slashes' goes' (ih goes'' (by omega))

theorem path_formed_joined (first : PathFormed settings .select names) (second : PathFormed settings .select names')
    (goes : ∀ final ∈ names.getLast?, slashFault? .select final = none)
    (within : names.length + names'.length ≤ settings.maxPathLength) : PathFormed settings .select (names ++ names') := by
  obtain ⟨front, scanned, path⟩ := first
  obtain ⟨back, scanned', path'⟩ := second
  have slash : Scanned ⟨.slash, "/"⟩ := ⟨⟨['/'], ['/'], [], rfl, rfl⟩, by decide⟩
  refine ⟨front ++ ⟨.slash, "/"⟩ :: back, ?_, path_joined path path' rfl goes (by rwa [Nat.zero_add])⟩
  exact List.forall_mem_append.mpr ⟨scanned, List.forall_mem_cons.mpr ⟨slash, scanned'⟩⟩

theorem path_formed_some (formed : PathFormed settings kind names) : names ≠ [] := by
  obtain ⟨_, -, path⟩ := formed
  exact path_names_ne_nil path

theorem path_text_joined (first : names ≠ []) (second : names' ≠ []) :
    pathText (names ++ names') = pathText names ++ '/' :: pathText names' := by
  rw [pathText, List.map_append, punctuated_append (by simpa using first) (by simpa using second)]
  rfl

theorem path_text_parses (formed : PathFormed settings kind names) :
    parse settings kind.queryOption (String.ofList (pathText names)) = .ok (kind.parsed [⟨names, {}⟩]) := by
  have none : kind.optionsText (fun _ => none) = [] := by cases kind <;> rfl
  have restored : Restored settings kind (pathText names) ⟨names, {}⟩ := by
    have written := @item_restored settings kind names (fun _ => Option.none) {} formed (fun _ _ _ _ same => nomatch same)
      fun option given => absurd given option.not_given
    rwa [none, List.append_nil] at written
  have parsed := @list_text_parses settings kind _ [names] pathText (fun names => ⟨names, {}⟩)
    (List.forall_mem_singleton.mpr restored)
  rwa [List.map_singleton, punctuated_single] at parsed

theorem path_text_refused {fault : PathFault} (formed : PathFormed settings kind names)
    (stops : ∀ final ∈ names.getLast?, slashFault? kind final = some fault) (tail : List Char) :
    parse settings kind.queryOption (String.ofList (pathText names ++ '/' :: tail)) =
      .error (.invalidPath fault (byteLength (pathText names))) := by
  obtain ⟨lexemes, scanned, path⟩ := formed
  obtain ⟨own, fronted, path'⟩ := path_fronted path scanned
  have scans := fronted ('/' :: tail) (Expression.parted_mark (by decide) _)
  have next : Scannable ('/' :: tail) := ⟨_, _, _, scan_mark rfl rfl _⟩
  have plain : (kind.queryOption.start (String.ofList (pathText names ++ '/' :: tail))).cursor.Plain .expression :=
    ⟨kind.dialect_expression, rfl⟩
  obtain ⟨cursor, advanced, on⟩ := Cursor.begins_advance plain (String.toList_ofList) (scannable_of_scans scans next)
  obtain ⟨moved, spans, there⟩ := Cursor.begins_spans on scans next
  have sound : cursor.Sound (pathText names ++ '/' :: tail) 0 := by
    have start := Cursor.start_sound (String.ofList (pathText names ++ '/' :: tail)) kind.queryOption.dialect 0 false
    rw [String.toList_ofList] at start
    exact Cursor.advance_sound start advanced
  have position := Cursor.mark_position there rfl rfl (Cursor.spans_sound spans sound)
  have slash : moved.token.kind = .slash := (Cursor.begins_mark there rfl rfl).2.2
  have refused := @segments_refused settings kind 0 (cursor.rest.length + 1) Option.none names own (.fresh cursor) moved
    fault path' stops (Cursor.spans_length spans) spans slash
  rw [position] at refused
  have going := path_going path' spans
  have listed : list settings kind settings.maxDepth (inner settings settings.maxDepth) (.fresh cursor) =
      .error (.invalidPath fault (byteLength (pathText names))) (.fresh moved) :=
    (list_entire going).trans (bind_failed (bind_failed (bind_failed refused)))
  rw [← whole_by_inner] at listed
  have failed : kind.queryOption.grammar settings settings.maxDepth (.fresh cursor) =
      .error (.invalidPath fault (byteLength (pathText names))) (.fresh moved) := by
    cases kind <;> exact bind_failed listed
  exact parse_of_error ((bind_done (advance_done advanced)).trans failed)

end Items

-- A path of some item of `$select` in an accepted text, at whatever depth the item stands there.
def SelectPath (settings : Settings) (path : List String) : Prop :=
  ∃ option text parsed, parse settings option text = .ok parsed ∧
    ∃ entry ∈ parsed.entries, entry.kind = .select ∧ entry.path = path

open Items

variable {settings : Settings} {path : List String}

theorem select_path_formed (taken : SelectPath settings path) : PathFormed settings .select path := by
  obtain ⟨option, text, parsed, accepted, entry, listed, select, rfl⟩ := taken
  exact select ▸ (parsed.entries_formed (parse_formed accepted) entry listed).spelled

theorem slash_behind_wildcard {segment : String} (wildcard : isNamespaceWildcard segment) :
    slashFault? .select segment = none := by
  have other {word : String} (plain : isNamespaceWildcard word = false) : segment ≠ word := by
    rintro rfl
    rw [plain] at wildcard
    cases wildcard
  unfold slashFault?
  rw [if_neg (not_or.mpr ⟨other (by decide), other (by decide)⟩), if_neg fun star => other (by decide) star.1]

-- A star is the last segment, and no text goes on behind one with a slash. The wildcard of a namespace may
-- have any other path behind it.
theorem wildcards_in_select_paths (taken : SelectPath settings path) :
    "*" ∉ path.dropLast ∧
      (path.getLast? = some "*" → ∀ tail, parse settings .select (String.ofList (pathText path ++ '/' :: tail)) =
        .error (.invalidPath .wildcardContinued (byteLength (pathText path)))) ∧
      ∀ final ∈ path.getLast?, isNamespaceWildcard final → ∀ path', SelectPath settings path' →
        path.length + path'.length ≤ settings.maxPathLength →
        parse settings .select (String.ofList (pathText path ++ '/' :: pathText path')) =
          .ok (.select [⟨path ++ path', {}, none⟩]) := by
  have formed := select_path_formed taken
  have some := path_formed_some formed
  refine ⟨fun inside => ?_, fun star tail => ?_, fun final ends wildcard path' taken' within => ?_⟩
  · obtain ⟨before, behind, parts⟩ := List.append_of_mem inside
    have whole := List.dropLast_append_getLast some
    rw [parts, List.append_assoc] at whole
    have entry : (Entry.mk .select path {}).PathWellFormed settings := Entry.path_well_formed formed
    exact absurd (entry.starLast rfl _ _ whole.symm) (by simp)
  · refine @path_text_refused settings .select _ _ formed (fun final ends => ?_) tail
    cases star.symm.trans ends
    rfl
  · have formed' := select_path_formed taken'
    have goes : ∀ other ∈ path.getLast?, slashFault? .select other = none := by
      intro other ends'
      cases ends.symm.trans ends'
      exact slash_behind_wildcard wildcard
    have parsed := path_text_parses (path_formed_joined formed formed' goes within)
    rw [path_text_joined some (path_formed_some formed')] at parsed
    exact parsed

theorem wildcards_behind_one_another :
    parse {} .select "A($select=NS.*),B/*" = .ok (.select [⟨["A"], {}, some [⟨["NS.*"], {}, none⟩]⟩, ⟨["B", "*"], {}, none⟩]) ∧
      parse {} .select "NS.*/B/*" = .ok (.select [⟨["NS.*", "B", "*"], {}, none⟩]) ∧
      parse {} .select "B/*/C" = .error (.invalidPath .wildcardContinued 3) := by
  have accepted : parse {} .select "A($select=NS.*),B/*" =
      .ok (.select [⟨["A"], {}, some [⟨["NS.*"], {}, none⟩]⟩, ⟨["B", "*"], {}, none⟩]) := by decide +kernel
  have dotted : SelectPath {} ["NS.*"] := ⟨_, _, _, accepted, ⟨.select, ["NS.*"], {}⟩, .tail _ (.head _), rfl, rfl⟩
  have star : SelectPath {} ["B", "*"] := ⟨_, _, _, accepted, ⟨.select, ["B", "*"], {}⟩, .tail _ (.tail _ (.head _)), rfl, rfl⟩
  have joined := (wildcards_in_select_paths dotted).2.2 "NS.*" rfl (by decide) ["B", "*"] star (by decide)
  have refused := (wildcards_in_select_paths star).2.1 rfl ['C']
  have text : String.ofList (pathText ["NS.*"] ++ '/' :: pathText ["B", "*"]) = "NS.*/B/*" := by decide +kernel
  have text' : String.ofList (pathText ["B", "*"] ++ '/' :: ['C']) = "B/*/C" := by decide +kernel
  rw [text] at joined
  rw [text'] at refused
  exact ⟨accepted, joined, refused⟩

end QueryOptions
