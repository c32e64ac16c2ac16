import QueryOptions.Proofs.Json.Escape

set_option autoImplicit false

namespace QueryOptions.Json

inductive Proper : Json → Prop where
  | null : Proper .null
  | bool (value : Bool) : Proper (.bool value)
  | nat (value : Nat) : Proper (.nat value)
  | text (value : String) : Proper (.text value)
  | array {elements : List Json} (each : ∀ element ∈ elements, Proper element) : Proper (.array elements)
  | object {members : List (String × Json)} (names : ∀ member ∈ members, ∃ name, member.1 = escape name)
      (each : ∀ member ∈ members, Proper member.2) : Proper (.object members)

-- What stands between the tokens: the gap before an element, a member or a closing bracket,
-- which depends on how deep that stands, and what follows a colon.
structure Layout where
  gap : Nat → List Char
  afterColon : List Char

namespace Layout

def oneLine : Layout := ⟨fun _ => [], []⟩

def lines : Layout := ⟨fun level => (lineBreak level).toList, [' ']⟩

def name (layout : Layout) (written : String) : List Char :=
  '"' :: (written.toList ++ '"' :: ':' :: layout.afterColon)

mutual

def text (layout : Layout) (level : Nat) : Json → List Char
  | .null => "null".toList
  | .bool true => "true".toList
  | .bool false => "false".toList
  | .number written => written.toList
  | .string written => '"' :: (written.toList ++ ['"'])
  | .array [] => ['[', ']']
  | .array (first :: rest) =>
      '[' :: (layout.gap (level + 1) ++ (layout.text (level + 1) first ++
        (layout.elements (level + 1) rest ++ (layout.gap level ++ [']']))))
  | .object [] => ['\x7b', '\x7d']
  | .object ((name, value) :: rest) =>
      '\x7b' :: (layout.gap (level + 1) ++ (layout.name name ++ (layout.text (level + 1) value ++
        (layout.members (level + 1) rest ++ (layout.gap level ++ ['\x7d'])))))

def elements (layout : Layout) (level : Nat) : List Json → List Char
  | [] => []
  | element :: rest => ',' :: (layout.gap level ++ (layout.text level element ++ layout.elements level rest))

def members (layout : Layout) (level : Nat) : List (String × Json) → List Char
  | [] => []
  | (name, value) :: rest =>
      ',' :: (layout.gap level ++ (layout.name name ++ (layout.text level value ++ layout.members level rest)))

end

mutual

theorem one_line_text (level : Nat) (json : Json) : json.compact.toList = oneLine.text level json := by
  match json with
  | .null => rfl
  | .bool true => rfl
  | .bool false => rfl
  | .number written => rfl
  | .string written => simp [compact, quoted, text]
  | .array [] => rfl
  | .array (first :: rest) =>
      have parts := one_line_elements (level + 1) (first :: rest) (List.cons_ne_nil _ _)
      simp only [elements, oneLine, List.nil_append, List.cons.injEq, true_and] at parts
      simp [compact, text, parts, oneLine]
  | .object [] => rfl
  | .object ((name, value) :: rest) =>
      have parts := one_line_members (level + 1) ((name, value) :: rest) (List.cons_ne_nil _ _)
      simp only [members, oneLine, List.nil_append, List.cons.injEq, true_and] at parts
      simp [compact, text, parts, oneLine]

theorem one_line_elements (level : Nat) (elements : List Json) (some : elements ≠ []) :
    ',' :: (compactElements elements).toList = oneLine.elements level elements := by
  match elements with
  | [] => exact absurd rfl some
  | [element] => simp [compactElements, Layout.elements, one_line_text level element, oneLine]
  | element :: second :: rest =>
      have parts := one_line_elements level (second :: rest) (List.cons_ne_nil _ _)
      rw [Layout.elements, ← parts]
      simp [compactElements, one_line_text level element, oneLine]

theorem one_line_members (level : Nat) (members : List (String × Json)) (some : members ≠ []) :
    ',' :: (compactMembers members).toList = oneLine.members level members := by
  match members with
  | [] => exact absurd rfl some
  | [(name, value)] =>
      simp [compactMembers, Layout.members, Layout.name, quoted, one_line_text level value, oneLine]
  | (name, value) :: second :: rest =>
      have parts := one_line_members level (second :: rest) (List.cons_ne_nil _ _)
      rw [Layout.members, ← parts]
      simp [compactMembers, Layout.name, quoted, one_line_text level value, oneLine]

end

mutual

theorem lines_text (level : Nat) (json : Json) : (json.pretty level).toList = lines.text level json := by
  match json with
  | .null => rfl
  | .bool true => rfl
  | .bool false => rfl
  | .number written => rfl
  | .string written => simp [pretty, quoted, text]
  | .array [] => simp [pretty, text]
  | .array (first :: rest) =>
      have parts := lines_elements (level + 1) rest
      simp [pretty, text, parts, lines_text (level + 1) first, lines]
  | .object [] => simp [pretty, text]
  | .object ((name, value) :: rest) =>
      have parts := lines_members (level + 1) rest
      simp [pretty, text, Layout.name, quoted, parts, lines_text (level + 1) value, lines]

theorem lines_elements (level : Nat) (elements : List Json) :
    (prettyElements level elements).toList = lines.elements level elements := by
  match elements with
  | [] => rfl
  | element :: rest =>
      have parts := lines_elements level rest
      simp [prettyElements, Layout.elements, parts, lines_text level element, lines]

theorem lines_members (level : Nat) (members : List (String × Json)) :
    (prettyMembers level members).toList = lines.members level members := by
  match members with
  | [] => rfl
  | (name, value) :: rest =>
      have parts := lines_members level rest
      simp [prettyMembers, Layout.members, Layout.name, quoted, parts, lines_text level value, lines]

end

structure Blank (layout : Layout) : Prop where
  gap : ∀ level, ∀ c ∈ layout.gap level, isSpace c
  afterColon : ∀ c ∈ layout.afterColon, isSpace c

theorem one_line_blank : oneLine.Blank := ⟨fun _ _ none => absurd none List.not_mem_nil, fun _ none => absurd none List.not_mem_nil⟩

theorem lines_blank : lines.Blank := by
  refine ⟨fun level c member => ?_, fun c member => ?_⟩
  · change c ∈ (lineBreak level).toList at member
    rw [lineBreak, String.toList_ofList, List.mem_cons, List.mem_replicate] at member
    rcases member with rfl | ⟨_, rfl⟩ <;> rfl
  · rw [List.mem_singleton.mp member]
    rfl

end Layout

theorem skip_blanks {blanks : List Char} (blank : ∀ c ∈ blanks, isSpace c) (rest : List Char) :
    skipSpace (blanks ++ rest) = skipSpace rest := List.dropWhile_append_of_pos blank

theorem skip_nothing {c : Char} (other : isSpace c = false) (rest : List Char) : skipSpace (c :: rest) = c :: rest := by
  rw [skipSpace, List.dropWhile_cons_of_neg (by rw [other]; decide)]

theorem value_behind_blanks {blanks : List Char} (blank : ∀ c ∈ blanks, isSpace c) (steps : Nat) (rest : List Char) :
    value? steps (blanks ++ rest) = value? steps rest := by
  cases steps with
  | zero => rfl
  | succ steps => rw [value?, value?, skip_blanks blank]

theorem ends_number_before {c : Char} (other : c.isDigit = false ∧ c ≠ '.' ∧ c ≠ 'e' ∧ c ≠ 'E') (rest : List Char) :
    EndsNumber (c :: rest) := fun _ first => Option.some.inj first ▸ other

theorem ends_number_blanks {blanks rest : List Char} (blank : ∀ c ∈ blanks, isSpace c) (ends : EndsNumber rest) :
    EndsNumber (blanks ++ rest) := by
  cases blanks with
  | nil => exact ends
  | cons c blanks =>
      refine ends_number_before ?_ _
      have space := blank c List.mem_cons_self
      simp only [isSpace, Bool.or_eq_true, beq_iff_eq] at space
      rcases space with ((rfl | rfl) | rfl) | rfl <;> decide

-- The reader gives a document again from its text in a layout, wherever that stands.
def ReadsBack (layout : Layout) (json : Json) : Prop :=
  ∀ level steps rest, EndsNumber rest → 2 * (layout.text level json).length ≤ steps →
    value? steps (layout.text level json ++ rest) = some (json, rest)

section Layouts

variable {layout : Layout}

theorem text_starts (layout : Layout) {json : Json} (proper : Proper json) (level : Nat) :
    ∃ c chars, layout.text level json = c :: chars ∧ isSpace c = false ∧ c ≠ ']' ∧ c ≠ '\x7d' := by
  cases proper with
  | null => exact ⟨'n', "ull".toList, rfl, by decide⟩
  | bool value => cases value with
    | true => exact ⟨'t', "rue".toList, rfl, by decide⟩
    | false => exact ⟨'f', "alse".toList, rfl, by decide⟩
  | nat value =>
      cases written : Nat.toDigits 10 value with
      | nil => exact absurd written Nat.toDigits_ne_nil
      | cons c digits =>
          have digit : c.isDigit := Nat.isDigit_of_mem_toDigits (by decide) (by decide) (written ▸ List.mem_cons_self)
          refine ⟨c, digits, ?_, ?_, fun same => ?_, fun same => ?_⟩
          · rw [nat, Layout.text, Nat.toString_eq_ofList_toDigits, String.toList_ofList, written]
          · rw [Bool.eq_false_iff]
            intro space
            simp only [isSpace, Bool.or_eq_true, beq_iff_eq] at space
            rcases space with ((rfl | rfl) | rfl) | rfl <;> exact absurd digit (by decide)
          · exact absurd (same ▸ digit) (by decide)
          · exact absurd (same ▸ digit) (by decide)
  | text value => exact ⟨'"', _, rfl, by decide⟩
  | @array elements each => cases elements with
    | nil => exact ⟨'[', _, rfl, by decide⟩
    | cons first rest => exact ⟨'[', _, rfl, by decide⟩
  | @object members names each => cases members with
    | nil => exact ⟨'\x7b', _, rfl, by decide⟩
    | cons first rest => exact ⟨'\x7b', _, rfl, by decide⟩

theorem steps_left {json : Json} (proper : Proper json) {level steps : Nat}
    (enough : 2 * (layout.text level json).length ≤ steps) : ∃ fewer, steps = fewer + 1 := by
  obtain ⟨c, chars, starts, _⟩ := text_starts layout proper level
  rw [starts, List.length_cons] at enough
  exact ⟨steps - 1, by omega⟩

theorem nat_reads_back (value : Nat) : ReadsBack layout (.nat value) := by
  intro level steps rest ends enough
  obtain ⟨steps, rfl⟩ := steps_left (Proper.nat value) enough
  obtain ⟨c, chars, starts, space, _⟩ := text_starts layout (Proper.nat value) level
  have written : layout.text level (.nat value) = (toString value).toList := rfl
  rw [written] at starts ⊢
  have read := number_of_nat value ends
  have digit : c.isDigit := by
    rw [Nat.toString_eq_ofList_toDigits, String.toList_ofList] at starts
    exact Nat.isDigit_of_mem_toDigits (by decide) (by decide) (starts ▸ List.mem_cons_self)
  have apart (other : Char) (letter : other.isDigit = false) : c ≠ other :=
    fun same => absurd (same ▸ digit) (by rw [letter]; decide)
  rw [starts, List.cons_append] at read ⊢
  rw [value?, skip_nothing space]
  simp only [if_neg (apart '"' rfl), if_neg (apart '[' rfl), if_neg (apart '\x7b' rfl), if_neg (apart 'n' rfl),
    if_neg (apart 't' rfl), if_neg (apart 'f' rfl), read, Option.map_some, ← starts, String.ofList_toList]
  rfl

theorem text_reads_back (value : String) : ReadsBack layout (.text value) := by
  intro level steps rest ends enough
  obtain ⟨steps, rfl⟩ := steps_left (Proper.text value) enough
  have read := string_of_escape value rest
  rw [Json.text, Layout.text, List.cons_append, List.append_assoc, List.singleton_append, value?, skip_nothing rfl]
  simp only [if_true, read, Option.map_some, String.ofList_toList]

theorem ends_before_more (blank : layout.Blank) {closing : Char} (bracket : closing = ']' ∨ closing = '\x7d')
    {text : List Char} (starts : ∀ c, text.head? = some c → c = ',') (level : Nat) (rest : List Char) :
    EndsNumber (text ++ (layout.gap level ++ closing :: rest)) := by
  cases text with
  | nil =>
      rw [List.nil_append]
      refine ends_number_blanks (blank.gap level) (ends_number_before ?_ rest)
      rcases bracket with rfl | rfl <;> decide
  | cons c text =>
      refine ends_number_before ?_ _
      rw [starts c rfl]
      decide

theorem elements_start (layout : Layout) (level : Nat) (elements : List Json) :
    ∀ c, (layout.elements level elements).head? = some c → c = ',' := by
  cases elements with
  | nil => exact fun c none => by cases none
  | cons first rest => exact fun c comma => (Option.some.inj comma).symm

theorem members_start (layout : Layout) (level : Nat) (members : List (String × Json)) :
    ∀ c, (layout.members level members).head? = some c → c = ',' := by
  cases members with
  | nil => exact fun c none => by cases none
  | cons first rest => exact fun c comma => (Option.some.inj comma).symm

theorem value_at_elements {text chars : List Char} {c : Char} (steps : Nat) (opens : skipSpace text = c :: chars)
    (some : c ≠ ']') :
    value? (steps + 1) ('[' :: text) = (elements? steps text).map fun (elements, rest) => (.array elements, rest) := by
  rw [value?, skip_nothing rfl]
  simp [opens, some]

theorem value_at_members {text chars : List Char} {c : Char} (steps : Nat) (opens : skipSpace text = c :: chars)
    (some : c ≠ '\x7d') :
    value? (steps + 1) ('\x7b' :: text) = (members? steps text).map fun (members, rest) => (.object members, rest) := by
  rw [value?, skip_nothing rfl]
  simp [opens, some]

-- By induction on the elements: each is read up to the comma or the bracket behind it.
theorem elements_read_back (blank : layout.Blank) (level outer : Nat) (rest : List Char) (first : Json)
    (elements : List Json) (each : ∀ element ∈ first :: elements, ReadsBack layout element) (steps : Nat)
    (enough : 2 * (layout.text level first ++ (layout.elements level elements ++ (layout.gap outer ++ [']']))).length ≤
      steps) :
    elements? steps (layout.gap level ++ (layout.text level first ++
      (layout.elements level elements ++ (layout.gap outer ++ ']' :: rest)))) = some (first :: elements, rest) := by
  induction elements generalizing first steps with
  | nil =>
      simp only [List.length_append, List.length_singleton] at enough
      obtain ⟨steps, rfl⟩ : ∃ fewer, steps = fewer + 1 := ⟨steps - 1, by omega⟩
      have ends := ends_before_more blank (.inl rfl) (elements_start layout level []) outer rest
      have read := each first List.mem_cons_self level steps _ ends (by omega)
      rw [elements?, value_behind_blanks (blank.gap level), read]
      simp only [Option.bind_eq_bind, Option.bind_some, Layout.elements, List.nil_append,
        skip_blanks (blank.gap outer), skip_nothing (c := ']') rfl]
  | cons second elements ih =>
      simp only [Layout.elements, List.length_append, List.length_cons] at enough
      obtain ⟨steps, rfl⟩ : ∃ fewer, steps = fewer + 1 := ⟨steps - 1, by omega⟩
      have ends := ends_before_more blank (.inl rfl) (elements_start layout level (second :: elements)) outer rest
      have read := each first List.mem_cons_self level steps _ ends (by omega)
      have others := ih second (fun element member => each element (List.mem_cons_of_mem _ member)) steps
        (by simp only [List.length_append, List.length_singleton]; omega)
      rw [elements?, value_behind_blanks (blank.gap level), read]
      simp only [Option.bind_eq_bind, Option.bind_some, Layout.elements, List.cons_append, List.append_assoc,
        skip_nothing (c := ',') rfl, others]

theorem array_reads_back (blank : layout.Blank) {elements : List Json} (proper : ∀ element ∈ elements, Proper element)
    (each : ∀ element ∈ elements, ReadsBack layout element) : ReadsBack layout (.array elements) := by
  intro level steps rest ends enough
  cases elements with
  | nil =>
      obtain ⟨steps, rfl⟩ := steps_left (Proper.array proper) enough
      rfl
  | cons first elements =>
      simp only [Layout.text, List.length_cons, List.length_append] at enough
      obtain ⟨steps, rfl⟩ : ∃ fewer, steps = fewer + 1 := ⟨steps - 1, by omega⟩
      obtain ⟨c, chars, starts, space, some, _⟩ := text_starts layout (proper first List.mem_cons_self) (level + 1)
      have read := elements_read_back blank (level + 1) level rest first elements each steps
        (by simp only [List.length_append, List.length_cons]; omega)
      simp only [Layout.text, List.cons_append, List.append_assoc, List.nil_append]
      have opens : skipSpace (layout.gap (level + 1) ++ (layout.text (level + 1) first ++
          (layout.elements (level + 1) elements ++ (layout.gap level ++ ']' :: rest)))) =
            c :: (chars ++ (layout.elements (level + 1) elements ++ (layout.gap level ++ ']' :: rest))) := by
        rw [skip_blanks (blank.gap (level + 1)), starts, List.cons_append, skip_nothing space]
      rw [value_at_elements steps opens some, read]
      rfl

section

variable (blank : layout.Blank) {level steps : Nat} {text : String} {value : Json} {after outer rest : List Char}

include blank

theorem last_member (read : value? steps after = some (value, outer)) (closes : skipSpace outer = '\x7d' :: rest) :
    members? (steps + 1) (layout.gap level ++ (layout.name (escape text) ++ after)) =
      some ([(escape text, value)], rest) := by
  have name := string_of_escape text (':' :: (layout.afterColon ++ after))
  rw [members?, skip_blanks (blank.gap level)]
  simp only [Layout.name, List.cons_append, List.append_assoc, skip_nothing (c := '"') rfl, name, Option.bind_eq_bind,
    Option.bind_some, skip_nothing (c := ':') rfl, value_behind_blanks blank.afterColon, String.ofList_toList, read, closes]

theorem further_member {next : List Char} {members : List (String × Json)} (read : value? steps after = some (value, outer))
    (separates : skipSpace outer = ',' :: next) (others : members? steps next = some (members, rest)) :
    members? (steps + 1) (layout.gap level ++ (layout.name (escape text) ++ after)) =
      some ((escape text, value) :: members, rest) := by
  have name := string_of_escape text (':' :: (layout.afterColon ++ after))
  rw [members?, skip_blanks (blank.gap level)]
  simp only [Layout.name, List.cons_append, List.append_assoc, skip_nothing (c := '"') rfl, name, Option.bind_eq_bind,
    Option.bind_some, skip_nothing (c := ':') rfl, value_behind_blanks blank.afterColon, String.ofList_toList, read,
    separates, others]

end

theorem members_read_back (blank : layout.Blank) (level outer : Nat) (rest : List Char) (name : String) (value : Json)
    (members : List (String × Json)) (names : ∀ member ∈ (name, value) :: members, ∃ text, member.1 = escape text)
    (each : ∀ member ∈ (name, value) :: members, ReadsBack layout member.2) (steps : Nat)
    (enough : 2 * (layout.name name ++ (layout.text level value ++ (layout.members level members ++
      (layout.gap outer ++ ['\x7d'])))).length ≤ steps) :
    members? steps (layout.gap level ++ (layout.name name ++ (layout.text level value ++
      (layout.members level members ++ (layout.gap outer ++ '\x7d' :: rest))))) =
        some ((name, value) :: members, rest) := by
  induction members generalizing name value steps with
  | nil =>
      obtain ⟨text, rfl⟩ := names (name, value) List.mem_cons_self
      simp only [List.length_append, List.length_singleton] at enough
      obtain ⟨steps, rfl⟩ : ∃ fewer, steps = fewer + 1 := ⟨steps - 1, by omega⟩
      have ends := ends_before_more blank (.inr rfl) (members_start layout level []) outer rest
      have reads : ReadsBack layout value := each (escape text, value) List.mem_cons_self
      refine last_member blank (reads level steps _ ends (by omega)) ?_
      rw [Layout.members, List.nil_append, skip_blanks (blank.gap outer), skip_nothing (c := '\x7d') rfl]
  | cons second members ih =>
      obtain ⟨text, rfl⟩ := names (name, value) List.mem_cons_self
      obtain ⟨second, other⟩ := second
      simp only [Layout.members, List.length_append, List.length_cons] at enough
      obtain ⟨steps, rfl⟩ : ∃ fewer, steps = fewer + 1 := ⟨steps - 1, by omega⟩
      have ends := ends_before_more blank (.inr rfl) (members_start layout level ((second, other) :: members)) outer rest
      have reads : ReadsBack layout value := each (escape text, value) List.mem_cons_self
      have others := ih second other (fun member listed => names member (List.mem_cons_of_mem _ listed))
        (fun member listed => each member (List.mem_cons_of_mem _ listed)) steps
        (by simp only [List.length_append, List.length_singleton]; omega)
      refine further_member blank (reads level steps _ ends (by omega)) ?_ others
      simp only [Layout.members, List.cons_append, List.append_assoc, skip_nothing (c := ',') rfl]

theorem object_reads_back (blank : layout.Blank) {members : List (String × Json)}
    (names : ∀ member ∈ members, ∃ text, member.1 = escape text) (proper : ∀ member ∈ members, Proper member.2)
    (each : ∀ member ∈ members, ReadsBack layout member.2) : ReadsBack layout (.object members) := by
  intro level steps rest ends enough
  cases members with
  | nil =>
      obtain ⟨steps, rfl⟩ := steps_left (Proper.object names proper) enough
      rfl
  | cons first members =>
      obtain ⟨name, value⟩ := first
      simp only [Layout.text, List.length_cons, List.length_append] at enough
      obtain ⟨steps, rfl⟩ : ∃ fewer, steps = fewer + 1 := ⟨steps - 1, by omega⟩
      have read := members_read_back blank (level + 1) level rest name value members names each steps
        (by simp only [List.length_append, List.length_cons]; omega)
      have opens (after : List Char) : ∃ chars,
          skipSpace (layout.gap (level + 1) ++ (layout.name name ++ after)) = '"' :: chars :=
        ⟨_, by rw [skip_blanks (blank.gap (level + 1)), Layout.name, List.cons_append, skip_nothing rfl]⟩
      simp only [Layout.text, List.cons_append, List.append_assoc, List.nil_append]
      rw [value_at_members steps (opens _).choose_spec (by decide), read]
      rfl

theorem proper_reads_back (blank : layout.Blank) {json : Json} (proper : Proper json) : ReadsBack layout json := by
  induction proper with
  | null =>
      intro level steps rest ends enough
      obtain ⟨steps, rfl⟩ := steps_left .null enough
      rfl
  | bool value =>
      intro level steps rest ends enough
      obtain ⟨steps, rfl⟩ := steps_left (.bool value) enough
      cases value <;> rfl
  | nat value => exact nat_reads_back value
  | text value => exact text_reads_back value
  | array each ih => exact array_reads_back blank each ih
  | object names each ih => exact object_reads_back blank names each ih

end Layouts

theorem parse_of_reads_back {layout : Layout} {json : Json} (reads : ReadsBack layout json) {text : String}
    (written : text.toList = layout.text 0 json) : parse? text = some json := by
  have whole := reads 0 (2 * text.toList.length + 2) [] (fun _ none => by cases none) (by rw [written]; omega)
  rw [List.append_nil, ← written] at whole
  rw [parse?, whole]
  rfl

theorem parse_written {json : Json} (proper : Proper json) :
    parse? json.compact = some json ∧ parse? (json.pretty 0) = some json :=
  ⟨parse_of_reads_back (proper_reads_back Layout.one_line_blank proper) (Layout.one_line_text 0 json),
    parse_of_reads_back (proper_reads_back Layout.lines_blank proper) (Layout.lines_text 0 json)⟩

end QueryOptions.Json
