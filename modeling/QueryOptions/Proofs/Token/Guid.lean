import QueryOptions.Proofs.Derivation.Written

set_option autoImplicit false

namespace QueryOptions

open Expression

variable {text rest back : List Char}

namespace Calendar

-- A number of a date is not longer than it may be, so the dash behind it comes early.
theorem number_dash {least most value : Nat} (read : number? least most text = some (value, rest))
    (dash : char? '-' rest = some back) : '-' ∈ text.take (most + 1) := by
  obtain ⟨digits, rfl, -, short, -⟩ := number_parts read
  obtain ⟨more, enough⟩ : ∃ more, most + 1 - digits.length = more + 1 := ⟨most - digits.length, by omega⟩
  rw [char_parts dash, List.take_append, enough]
  simp

theorem year_dash {least : Nat} {year : Int} (plain : text.head? ≠ some '-')
    (read : year? least text = some (year, rest)) (dash : char? '-' rest = some back) : '-' ∈ text.take 5 := by
  unfold year? at read
  split at read
  · exact absurd rfl plain
  · obtain ⟨⟨value, after⟩, digits, same⟩ := Option.map_eq_some_iff.mp read
    cases same
    exact number_dash digits dash

theorem date_dash {leastYear least : Nat} {date : Date} (plain : text.head? ≠ some '-')
    (read : date? leastYear least text = some (date, rest)) : '-' ∈ text.take 5 := by
  simp only [date?, Option.bind_eq_bind, Option.bind_eq_some_iff, Prod.exists] at read
  obtain ⟨_, _, years, _, dash, -⟩ := read
  exact year_dash plain years dash

theorem is_date_dash (plain : text.head? ≠ some '-') (date : isDate text) : '-' ∈ text.take 5 := by
  unfold isDate at date
  split at date
  · rename_i read
    exact date_dash plain read
  · cases date

theorem is_date_time_dash (plain : text.head? ≠ some '-') (point : isDateTimeOffset text) : '-' ∈ text.take 5 := by
  rcases Bool.or_eq_true_iff.mp point with full | short
  · obtain ⟨_, read⟩ := Option.isSome_iff_exists.mp full
    simp only [Option.bind_eq_bind, Option.bind_eq_some_iff, Prod.exists] at read
    obtain ⟨_, _, years, _, dash, -⟩ := read
    exact number_dash years dash
  · obtain ⟨_, read⟩ := Option.isSome_iff_exists.mp short
    simp only [Option.bind_eq_bind, Option.bind_eq_some_iff, Prod.exists] at read
    obtain ⟨_, _, days, -⟩ := read
    exact date_dash plain days

end Calendar

namespace Expression

variable {group : List Char}

theorem guid_inside {sizes : List Nat} (form : Guid.Grouped sizes text) : ∀ c ∈ text, isDelimiter c = false := by
  intro c member
  rcases Guid.grouped_characters form c member with hex | rfl
  · exact inner_delimits hex_digit_inner hex
  · rfl

-- Neither dates nor points in time look like guids, because no dash comes as early.
theorem guid_kind (long : group.length = 8) (hex : ∀ c ∈ group, Text.isHexDigit c) (guid : Guid.isGuid (group ++ '-' :: back)) :
    formKind? (group ++ '-' :: back) = some .guidLiteral := by
  have bare : '-' ∉ group := fun dash => absurd (hex '-' dash) (by decide)
  have late : '-' ∉ (group ++ '-' :: back).take 5 := by
    rw [List.take_append_of_le_length (by rw [long]; decide)]
    exact fun dash => bare (List.mem_of_mem_take dash)
  have plain : (group ++ '-' :: back).head? ≠ some '-' := fun head => by
    obtain ⟨more, same⟩ := List.head?_eq_some_iff.mp head
    rw [same] at late
    exact late List.mem_cons_self
  unfold formKind?
  rw [if_neg fun date => late (Calendar.is_date_dash plain date),
    if_neg fun point => late (Calendar.is_date_time_dash plain point), if_pos guid]

theorem scan_guid_digit {c d : Char} {tail : List Char} (digit : c.isDigit) (hex : Text.isHexDigit d)
    (whole : run (c :: d :: tail ++ rest) = c :: d :: tail) (kind : formKind? (c :: d :: tail) = some .guidLiteral) :
    scan (c :: d :: tail ++ rest) = .token .guidLiteral (c :: d :: tail) rest := by
  have read := hex_digits_read d (hex_digit_listed hex)
  have decimal : isBinary (c :: d :: tail ++ rest) = false := by simp [isBinary, read]
  have number : scan (c :: d :: tail ++ rest) = scanDigits false (c :: d :: tail ++ rest) :=
    scan_of_branch (.number digit (digit_no_start digit))
  rw [number, scan_digits_other decimal]
  simp only [Bool.false_eq_true, if_false, List.nil_append, whole, kind, List.drop_left]

-- It starts like a name, and the dash behind its first group makes it a guid.
theorem scan_guid_letter {c : Char} {word : List Char} (letter : ¬ c.isDigit) (digits : ∀ d ∈ c :: word, Text.isHexDigit d)
    (whole : run (c :: word ++ '-' :: back ++ rest) = c :: word ++ '-' :: back)
    (guid : Guid.isGuid (c :: word ++ '-' :: back)) :
    scan (c :: word ++ '-' :: back ++ rest) = .token .guidLiteral (c :: word ++ '-' :: back) rest := by
  have read (d : Char) (member : d ∈ c :: word) := hex_digits_read d (hex_digit_listed (digits d member))
  obtain ⟨starts, -, -, dollar, -⟩ := read c List.mem_cons_self
  have start : Text.isIdentifierStart c := by simp [starts, letter]
  have letters : ∀ d ∈ word, Text.isIdentifierContinue d := fun d member => (read d (List.mem_cons_of_mem c member)).2.1
  have name : scan (c :: word ++ '-' :: back ++ rest) = scanWord c (word ++ '-' :: (back ++ rest)) := by
    rw [← scan_of_branch (.word start fun same => absurd same dollar)]
    simp
  have same : c :: (word ++ '-' :: (back ++ rest)) = c :: word ++ '-' :: back ++ rest := by simp
  rw [name, scan_word_guid letters (by rw [same, whole]; exact guid), same, whole, List.drop_left]

theorem scan_guid (form : Guid.Grouped [8, 4, 4, 4, 12] text) (delimited : Delimited rest) :
    scan (text ++ rest) = .token .guidLiteral text rest := by
  have guid := Guid.is_guid_iff.mpr form
  have whole : run (text ++ rest) = text := by rw [run_append _ delimited, run_all (guid_inside form)]
  cases form with
  | @further _ _ group back long hex _ =>
      have kind := guid_kind long hex guid
      match group, long with
      | c :: d :: word, _ =>
          by_cases digit : c.isDigit
          · exact scan_guid_digit digit (hex d (by simp)) whole kind
          · exact scan_guid_letter digit hex whole guid

end Expression

-- A guid in front of a comma, a closing parenthesis, a blank or the end is the next token,
-- at whatever place, and whether or not blanks are tokens.
theorem guid_is_one_token {cursor : Cursor} (form : Guid.Grouped [8, 4, 4, 4, 12] text) (delimited : Delimited rest)
    (dialect : cursor.dialect = .expression) (here : cursor.rest = text ++ rest) :
    Cursor.advance cursor = .ok () { cursor with
      rest := rest
      offset := cursor.offset + Text.byteLength text
      token := ⟨.guidLiteral, String.ofList text, cursor.offset⟩ } := by
  have scans := scan_guid form delimited
  have inside := guid_inside form
  cases text with
  | nil => cases Guid.grouped_dashes form
  | cons c text => exact Cursor.advance_onto dialect here (inside_visible (inside c List.mem_cons_self)) scans

theorem numeric_guid_is_one_token :
    let text := "12345678-1e4d-4F00-8000-00000000000a".toList
    let cursor : Cursor := ⟨text ++ [')', ';'], 7, .unread 7, .expression, true⟩
    Guid.Grouped [8, 4, 4, 4, 12] text ∧ Delimited [')', ';'] ∧ cursor.dialect = .expression ∧ cursor.rest = text ++ [')', ';'] ∧
      Cursor.advance cursor =
        .ok () ⟨[')', ';'], 43, ⟨.guidLiteral, "12345678-1e4d-4F00-8000-00000000000a", 7⟩, .expression, true⟩ := by
  intro text cursor
  have form : Guid.Grouped [8, 4, 4, 4, 12] text := Guid.is_guid_iff.mp (by decide)
  have delimited : Delimited [')', ';'] := delimited_mark rfl [';']
  exact ⟨form, delimited, rfl, rfl, guid_is_one_token form delimited rfl rfl⟩

end QueryOptions
