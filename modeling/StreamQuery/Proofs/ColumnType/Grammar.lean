import StreamQuery.Proofs.ColumnType.AnyCase
/-!
# The grammar of column types

A scalar is spelled by one of its names, an array by its element in angle brackets and a map by
`STRING` and its value, in any case, and with blanks around each type and in front of the brackets.
Exactly the texts that spell a type are read, each as the type that it spells.
-/

namespace StreamQuery

open Text

theorem cutAtComma?_uncut {depth : Nat} {before : List Char}
    (uncut : depthAfter? depth before = some 0) (behind : List Char) :
    ColumnType.cutAtComma? depth (before ++ ',' :: behind) = some (before, behind) := by
  induction before generalizing depth with
  | nil =>
      cases uncut
      rfl
  | cons c before ih =>
      rw [depthAfter?] at uncut
      by_cases cut : c = ',' ∧ depth = 0
      · rw [if_pos cut] at uncut
        cases uncut
      · rw [if_neg cut] at uncut
        rw [List.cons_append, ColumnType.cutAtComma?, if_neg cut]
        exact congrArg (Option.map _) (ih uncut)

namespace ColumnType

/-- The names of the scalars. -/
def names : ColumnType → List String
  | boolean => ["BOOLEAN", "BOOL"]
  | int => ["INT", "INTEGER"]
  | bigint => ["BIGINT"]
  | double => ["DOUBLE"]
  | string => ["STRING", "VARCHAR", "VARCHAR(STRING)"]
  | bytes => ["BYTES"]
  | array _ | map _ => []

theorem scalar?_iff {name : String} {type : ColumnType} :
    scalar? name = some type ↔ name ∈ type.names := by
  constructor
  · intro found
    unfold scalar? at found
    split at found
    case h_11 => cases found
    all_goals
      cases found
      simp [names]
  · intro named
    cases type with
    | array | map => cases named
    | _ =>
        simp only [names, List.mem_cons, List.not_mem_nil, or_false] at named
        rcases named with rfl | rfl | rfl <;> rfl

/-- A keyword, blanks, and something in angle brackets. -/
def bracketed (keyword gap inside : List Char) : List Char :=
  keyword ++ (gap ++ '<' :: (inside ++ ['>']))

/-- The texts that spell a type. -/
inductive Spells : ColumnType → List Char → Prop
  | scalar {type : ColumnType} {name : String} {word : List Char} (named : name ∈ type.names)
      (cased : word.map Char.toUpper = name.toList) : Spells type word
  | array {element : ColumnType} {keyword gap inner : List Char}
      (cased : keyword.map Char.toUpper = "ARRAY".toList) (blank : ∀ c ∈ gap, isBlank c = true)
      (spelled : Spells element inner) : Spells element.array (bracketed keyword gap inner)
  | map {value : ColumnType} {keyword gap first second : List Char}
      (cased : keyword.map Char.toUpper = "MAP".toList) (blank : ∀ c ∈ gap, isBlank c = true)
      (key : Spells .string first) (spelled : Spells value second) :
      Spells value.map (bracketed keyword gap (first ++ ',' :: second))
  | padded {type : ColumnType} {before text after : List Char}
      (blankBefore : ∀ c ∈ before, isBlank c = true) (blankAfter : ∀ c ∈ after, isBlank c = true)
      (spelled : Spells type text) : Spells type (before ++ (text ++ after))

/-- The texts that are read while a text is read. -/
inductive Inside : List Char → List Char → Prop
  | element {text element : List Char}
      (found : between? "ARRAY".toList ((trimChars text).map Char.toUpper) = some element) :
      Inside element text
  | key {text entry key value : List Char}
      (found : between? "MAP".toList ((trimChars text).map Char.toUpper) = some entry)
      (cut : cutAtComma? 0 entry = some (key, value)) : Inside key text
  | value {text entry key value : List Char}
      (found : between? "MAP".toList ((trimChars text).map Char.toUpper) = some entry)
      (cut : cutAtComma? 0 entry = some (key, value)) : Inside value text

theorem length_inside {inner text : List Char} (inside : Inside inner text) :
    inner.length < text.length := by
  have trimmed : ((trimChars text).map Char.toUpper).length ≤ text.length := by
    rw [List.length_map]
    exact length_trimChars text
  cases inside with
  | element found =>
      have shorter := length_between? found
      omega
  | key found cut =>
      have shorter := length_between? found
      have parts := length_cutAtComma? cut
      omega
  | value found cut =>
      have shorter := length_between? found
      have parts := length_cutAtComma? cut
      omega

theorem inside_wellFounded : WellFounded Inside :=
  Subrelation.wf length_inside (measure List.length).wf

/-! ### What is read is spelled -/

theorem bracketed_of_upper {text name gap inside : List Char}
    (upper : text.map Char.toUpper = bracketed name gap inside) :
    ∃ keyword space inner, text = bracketed keyword space inner ∧
      keyword.map Char.toUpper = name ∧ space.map Char.toUpper = gap ∧
      inner.map Char.toUpper = inside := by
  obtain ⟨keyword, behind, rfl, cased, rest⟩ := List.map_eq_append_iff.mp upper
  obtain ⟨space, enclosed, rfl, blank, rest⟩ := List.map_eq_append_iff.mp rest
  obtain ⟨opening, closed, rfl, opens, rest⟩ := List.map_eq_cons_iff.mp rest
  obtain ⟨inner, ending, rfl, within, rest⟩ := List.map_eq_append_iff.mp rest
  obtain ⟨closing, rfl, closes⟩ := List.map_eq_singleton_iff.mp rest
  rw [toUpper_eq_iff (by decide)] at opens closes
  rw [opens, closes]
  exact ⟨keyword, space, inner, rfl, cased, blank, within⟩

theorem blank_upper_iff {gap : List Char} :
    (∀ c ∈ gap.map Char.toUpper, isBlank c = true) ↔ ∀ c ∈ gap, isBlank c = true := by
  simp only [List.forall_mem_map, isBlank_toUpper]

theorem spells_of_trimmed {type : ColumnType} {text : List Char}
    (spelled : Spells type (trimChars text)) : Spells type text := by
  obtain ⟨before, after, whole, blankBefore, blankAfter⟩ := trimChars_cut text
  rw [whole]
  exact .padded blankBefore blankAfter spelled

theorem spells_of_read {type : ColumnType} {text : List Char}
    (read : parseChars text = .ok type) : Spells type text := by
  -- Induction on the length, which is less for the texts inside.
  induction size : text.length using Nat.strong_induction_on generalizing text type with
  | h number induction =>
      apply spells_of_trimmed
      rw [parseChars_eq, parseUpper_iff] at read
      rcases read with ⟨element, inner, found, read, rfl⟩ |
          ⟨entry, key, value, inner, -, found, cut, word, read, rfl⟩ | ⟨-, -, scalar⟩
      · have shorter := length_inside (.element found)
        obtain ⟨gap, upper, blank⟩ := between?_eq found
        obtain ⟨keyword, space, inside, same, cased, rfl, rfl⟩ := bracketed_of_upper upper
        rw [List.length_map] at shorter
        rw [same]
        exact .array cased (blank_upper_iff.mp blank)
          (induction _ (by omega) ((parseChars_upper _ _).mp read) rfl)
      · have shorterKey := length_inside (.key found cut)
        have shorterValue := length_inside (.value found cut)
        obtain ⟨gap, upper, blank⟩ := between?_eq found
        obtain ⟨keyword, space, inside, same, cased, rfl, rfl⟩ := bracketed_of_upper upper
        obtain ⟨first, rest, rfl, rfl, upper⟩ := List.map_eq_append_iff.mp (cutAtComma?_eq cut)
        obtain ⟨comma, second, rfl, divides, rfl⟩ := List.map_eq_cons_iff.mp upper
        rw [toUpper_eq_iff (by decide)] at divides
        rw [List.length_map] at shorterKey shorterValue
        rw [same, divides]
        exact .map cased (blank_upper_iff.mp blank)
          (induction _ (by omega) ((parseChars_upper _ _).mp word) rfl)
          (induction _ (by omega) ((parseChars_upper _ _).mp read) rfl)
      · exact .scalar (scalar?_iff.mp scalar) (String.toList_ofList).symm

/-! ### What is spelled is read -/

theorem read_name {type : ColumnType} {name : String} (named : name ∈ type.names) :
    parseChars name.toList = .ok type := by
  cases type with
  | array | map => cases named
  | _ =>
      simp only [names, List.mem_cons, List.not_mem_nil, or_false] at named
      rcases named with rfl | rfl | rfl <;> decide +kernel

theorem depthAfter?_name {type : ColumnType} {name : String} (named : name ∈ type.names)
    (depth : Nat) : depthAfter? depth name.toList = some depth := by
  cases type with
  | array | map => cases named
  | _ =>
      simp only [names, List.mem_cons, List.not_mem_nil, or_false] at named
      rcases named with rfl | rfl | rfl <;> simp [depthAfter?]

/-- Whatever brackets the text stands in, it closes those that it opens. -/
theorem depthAfter?_spelled {type : ColumnType} {text : List Char} (spelled : Spells type text)
    (depth : Nat) : depthAfter? depth text = some depth := by
  have keyword {word name : List Char} (cased : word.map Char.toUpper = name)
      (quiet : ∀ c ∈ name, c ∉ dividers) (depth : Nat) : depthAfter? depth word = some depth := by
    rw [← depthAfter?_upper, cased, depthAfter?_quiet quiet]
  induction spelled generalizing depth with
  | scalar named cased => rw [← depthAfter?_upper, cased, depthAfter?_name named]
  | array cased blank spelled ih =>
      simp [bracketed, depthAfter?_append, keyword cased (by simp [dividers]),
        depthAfter?_blanks blank, depthAfter?, ih]
  | map cased blank key spelled ihKey ihValue =>
      simp [bracketed, depthAfter?_append, keyword cased (by simp [dividers]),
        depthAfter?_blanks blank, depthAfter?, ihKey, ihValue]
  | padded blankBefore blankAfter spelled ih =>
      simp [depthAfter?_append, depthAfter?_blanks blankBefore, depthAfter?_blanks blankAfter, ih]

theorem between?_bracketed (name : List Char) {gap : List Char}
    (blank : ∀ c ∈ gap, isBlank c = true) (inside : List Char) :
    between? name (bracketed name gap inside) = some inside := by
  have opened : dropBlanks (gap ++ '<' :: (inside ++ ['>'])) = '<' :: (inside ++ ['>']) := by
    rw [dropBlanks, List.dropWhile_append_of_pos blank, List.dropWhile_cons_of_neg (by decide)]
  rw [between?, bracketed, after?_append]
  simp only [opened, List.getLast?_concat, if_true, List.dropLast_concat]

theorem bracketed_upper (keyword gap inside : List Char) :
    (bracketed keyword gap inside).map Char.toUpper =
      bracketed (keyword.map Char.toUpper) (gap.map Char.toUpper) (inside.map Char.toUpper) := by
  simp only [bracketed, List.map_append, List.map_cons, List.map_nil]
  rfl

theorem trimChars_bracketed {first : Char} (begins : isBlank first = false)
    (rest gap inside : List Char) :
    trimChars (bracketed (first :: rest) gap inside) = bracketed (first :: rest) gap inside := by
  have ends : bracketed (first :: rest) gap inside =
      first :: rest ++ (gap ++ '<' :: inside) ++ ['>'] := by simp [bracketed]
  exact trimChars_visible begins (show isBlank '>' = false by decide) rfl ends

/-- Brackets behind a keyword are read in upper case. -/
theorem read_bracketed {keyword : List Char} {first : Char} {rest : List Char}
    (cased : keyword.map Char.toUpper = first :: rest) (begins : isBlank first = false)
    (gap inside : List Char) {type : ColumnType} {upper : List Char}
    (same : upper = bracketed (first :: rest) (gap.map Char.toUpper) (inside.map Char.toUpper)) :
    parseChars (bracketed keyword gap inside) = .ok type ↔ parseUpper upper upper = .ok type := by
  have whole : upper.map Char.toUpper = upper := by
    rw [same, ← cased, ← bracketed_upper, map_toUpper_upper]
  rw [← parseChars_upper, bracketed_upper, cased, ← same, parseChars_eq, same,
    trimChars_bracketed begins, ← same, whole]

theorem read_array {keyword gap inner : List Char} {element : ColumnType}
    (cased : keyword.map Char.toUpper = "ARRAY".toList) (blank : ∀ c ∈ gap, isBlank c = true)
    (read : parseChars inner = .ok element) :
    parseChars (bracketed keyword gap inner) = .ok element.array := by
  rw [read_bracketed cased (by decide) gap inner rfl, parseUpper_iff]
  left
  exact ⟨_, element, between?_bracketed _ (blank_upper_iff.mpr blank) _,
    (parseChars_upper _ _).mpr read, rfl⟩

theorem read_map {keyword gap first second : List Char} {value : ColumnType}
    (cased : keyword.map Char.toUpper = "MAP".toList) (blank : ∀ c ∈ gap, isBlank c = true)
    (uncut : depthAfter? 0 first = some 0) (key : parseChars first = .ok .string)
    (read : parseChars second = .ok value) :
    parseChars (bracketed keyword gap (first ++ ',' :: second)) = .ok value.map := by
  rw [read_bracketed cased (by decide) gap _ rfl, parseUpper_iff]
  right
  left
  have cut : cutAtComma? 0 ((first ++ ',' :: second).map Char.toUpper) =
      some (first.map Char.toUpper, second.map Char.toUpper) := by
    rw [List.map_append, List.map_cons]
    exact cutAtComma?_uncut ((depthAfter?_upper 0 first).trans uncut) _
  exact ⟨_, _, _, value, rfl, between?_bracketed _ (blank_upper_iff.mpr blank) _, cut,
    (parseChars_upper _ _).mpr key, (parseChars_upper _ _).mpr read, rfl⟩

theorem read_of_spelled {type : ColumnType} {text : List Char} (spelled : Spells type text) :
    parseChars text = .ok type := by
  induction spelled with
  | scalar named cased => rw [← parseChars_upper, cased, read_name named]
  | array cased blank spelled ih => exact read_array cased blank ih
  | map cased blank key spelled ihKey ihValue =>
      exact read_map cased blank (depthAfter?_spelled key 0) ihKey ihValue
  | padded blankBefore blankAfter spelled ih =>
      rw [← ih]
      exact parseChars_trim ((trimChars_before blankBefore _).trans (trimChars_after blankAfter _))

/-- Exactly the texts that spell a type are read, as that type; reading ends on every text; and the
text of a type is read back in any case. -/
theorem parse_grammar :
    (∀ text type, parse text = .ok type ↔ Spells type text.toList) ∧
    WellFounded Inside ∧
    ∀ text (type : ColumnType), sameWord text type.text = true → parse text = .ok type := by
  refine ⟨fun text type => ⟨spells_of_read, read_of_spelled⟩, inside_wellFounded,
    fun text type same => ?_⟩
  have upper : text.toList.map Char.toUpper = type.text.toList.map Char.toUpper :=
    String.ofList_injective (beq_iff_eq.mp same)
  rw [parse, ← parseChars_upper, upper, parseChars_upper, parseChars_text]

theorem nested_grammar :
    sameWord "map<String, Array<Double>>" (ColumnType.map (.array .double)).text = true ∧
      parse "map<String, Array<Double>>" = .ok (.map (.array .double)) :=
  have same : sameWord "map<String, Array<Double>>" (ColumnType.map (.array .double)).text =
      true := by decide +kernel
  ⟨same, parse_grammar.2.2 _ _ same⟩

end ColumnType

end StreamQuery
