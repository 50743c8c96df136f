import StreamQuery.Proofs.ColumnType.TypeText
/-!
# Types in any case

Texts of column types are read without regard to the case of letters. Blanks, brackets and commas
have no case, so the upper-case text is trimmed and cut where the text is.
-/

namespace StreamQuery

namespace Text

/-- A letter in lower case becomes another letter, and every other character stays. -/
theorem toUpper_cases (c : Char) :
    c.toUpper = c ∨
      (97 ≤ c.toNat ∧ c.toNat ≤ 122) ∧ 65 ≤ c.toUpper.toNat ∧ c.toUpper.toNat ≤ 90 := by
  by_cases lower : 'a'.val ≤ c.val ∧ c.val ≤ 'z'.val
  · right
    have low : 97 ≤ c.toNat := lower.1
    have high : c.toNat ≤ 122 := lower.2
    have upper : c.toUpper = ⟨c.val + ('A'.val - 'a'.val), _⟩ := dif_pos lower
    have code : c.toUpper.toNat = (c.toNat + 4294967264) % 4294967296 := by
      rw [upper]
      exact UInt32.toNat_add _ _
    omega
  · left
    exact dif_neg lower

theorem toUpper_toUpper (c : Char) : c.toUpper.toUpper = c.toUpper := by
  rcases toUpper_cases c with same | ⟨_, upper⟩
  · rw [same, same]
  · rcases toUpper_cases c.toUpper with same | ⟨lower, _⟩
    · exact same
    · omega

theorem upperCase_upperCase (text : String) : upperCase (upperCase text) = upperCase text := by
  simp only [upperCase, String.toList_ofList, List.map_map, Function.comp_def, toUpper_toUpper]

/-- True of a character that is no letter of ASCII. -/
def isCaseless (c : Char) : Bool :=
  c.toNat < 65 || (90 < c.toNat && c.toNat < 97) || 122 < c.toNat

theorem toUpper_eq_iff {mark : Char} (caseless : isCaseless mark = true) (c : Char) :
    c.toUpper = mark ↔ c = mark := by
  have range : mark.toNat < 65 ∨ 90 < mark.toNat ∧ mark.toNat < 97 ∨ 122 < mark.toNat := by
    simpa [isCaseless, or_assoc] using caseless
  rcases toUpper_cases c with same | ⟨lower, upper⟩
  · rw [same]
  · constructor
    · rintro rfl
      omega
    · rintro rfl
      omega

theorem isBlank_toUpper (c : Char) : isBlank c.toUpper = isBlank c := by
  rcases toUpper_cases c with same | ⟨lower, upper⟩
  · rw [same]
  · have visible (d : Char) (letter : 65 ≤ d.toNat ∧ d.toNat ≤ 122) : isBlank d = false := by
      simp [isBlank]
      omega
    rw [visible c (by omega), visible c.toUpper (by omega)]

theorem dropTrailing_upper (text : List Char) :
    dropTrailing isBlank (text.map Char.toUpper) =
      (dropTrailing isBlank text).map Char.toUpper := by
  have same : isBlank ∘ Char.toUpper = isBlank := funext isBlank_toUpper
  rw [dropTrailing, dropTrailing, ← List.map_reverse, List.dropWhile_map, same, List.map_reverse]

theorem trimChars_upper (text : List Char) :
    trimChars (text.map Char.toUpper) = (trimChars text).map Char.toUpper := by
  have same : isBlank ∘ Char.toUpper = isBlank := funext isBlank_toUpper
  rw [trimChars, dropBlanks, List.dropWhile_map, same, dropTrailing_upper, ← dropBlanks,
    ← trimChars]

theorem map_toUpper_upper (text : List Char) :
    (text.map Char.toUpper).map Char.toUpper = text.map Char.toUpper := by
  rw [List.map_map]
  exact congrArg (List.map · text) (funext toUpper_toUpper)

end Text

open Text

theorem depthAfter?_upper (depth : Nat) (text : List Char) :
    depthAfter? depth (text.map Char.toUpper) = depthAfter? depth text := by
  induction text generalizing depth with
  | nil => rfl
  | cons c rest ih =>
      simp only [List.map_cons, depthAfter?, ih,
        toUpper_eq_iff (show isCaseless ',' = true by decide),
        toUpper_eq_iff (show isCaseless '<' = true by decide),
        toUpper_eq_iff (show isCaseless '(' = true by decide),
        toUpper_eq_iff (show isCaseless '>' = true by decide),
        toUpper_eq_iff (show isCaseless ')' = true by decide)]

namespace ColumnType

/-- What a trimmed text in upper case is read as; the text as it was is shown in errors. -/
def parseUpper (trimmed upper : List Char) : Except SchemaError ColumnType :=
  match between? ['A', 'R', 'R', 'A', 'Y'] upper with
  | some element => (parseChars element).map .array
  | none =>
      match between? ['M', 'A', 'P'] upper with
      | some entry =>
          match cutAtComma? 0 entry with
          | none => .error (.malformed (String.ofList trimmed))
          | some (key, value) =>
              match parseChars key with
              | .error error => .error error
              | .ok type =>
                  if type = .string then (parseChars value).map .map
                  else .error (.unknownType (String.ofList trimmed))
      | none =>
          match scalar? (String.ofList upper) with
          | some type => .ok type
          | none => .error (.unknownType (String.ofList trimmed))

theorem parseChars_eq (text : List Char) :
    parseChars text = parseUpper (trimChars text) ((trimChars text).map Char.toUpper) := by
  rw [parseChars, parseUpper]
  split
  · next element found => simp only [found]
  · next none =>
      simp only [none]
      split
      · next entry found =>
          simp only [found]
          split
          · next uncut => simp only [uncut]
          · next key value cut => exact cut ▸ rfl
      · next outside => exact outside ▸ rfl

/-- What is read, and that the text shown in errors does not matter for it. -/
theorem parseUpper_iff {trimmed upper : List Char} {type : ColumnType} :
    parseUpper trimmed upper = .ok type ↔
      (∃ element inner, between? ['A', 'R', 'R', 'A', 'Y'] upper = some element ∧
        parseChars element = .ok inner ∧ type = .array inner) ∨
      (∃ entry key value inner, between? ['A', 'R', 'R', 'A', 'Y'] upper = none ∧
        between? ['M', 'A', 'P'] upper = some entry ∧ cutAtComma? 0 entry = some (key, value) ∧
        parseChars key = .ok .string ∧ parseChars value = .ok inner ∧ type = .map inner) ∨
      (between? ['A', 'R', 'R', 'A', 'Y'] upper = none ∧ between? ['M', 'A', 'P'] upper = none ∧
        scalar? (String.ofList upper) = some type) := by
  unfold parseUpper
  cases array : between? ['A', 'R', 'R', 'A', 'Y'] upper with
  | some element =>
      cases inner : parseChars element <;> simp [inner, Except.map, eq_comm]
  | none =>
      cases map : between? ['M', 'A', 'P'] upper with
      | none => cases scalar : scalar? (String.ofList upper) <;> simp
      | some entry =>
          cases cut : cutAtComma? 0 entry with
          | none => simp [cut]
          | some parts =>
              cases key : parseChars parts.1 with
              | error error => simp [cut, key, Prod.ext_iff]
              | ok keyType =>
                  by_cases word : keyType = .string
                  · cases value : parseChars parts.2 <;>
                      simp [cut, key, value, word, Except.map, Prod.ext_iff, eq_comm]
                  · simp [cut, key, word, Prod.ext_iff]

/-- The case of letters does not matter for what is read. -/
theorem parseChars_upper (text : List Char) (type : ColumnType) :
    parseChars (text.map Char.toUpper) = .ok type ↔ parseChars text = .ok type := by
  rw [parseChars_eq, parseChars_eq text, trimChars_upper, map_toUpper_upper]
  rw [parseUpper_iff, parseUpper_iff]

/-! ### Characters that no type has -/

theorem after?_eq {part text rest : List Char} (found : after? part text = some rest) :
    text = part ++ rest := by
  induction part generalizing text with
  | nil =>
      cases found
      rfl
  | cons c part ih =>
      cases text with
      | nil => cases found
      | cons d text =>
          rw [after?] at found
          by_cases same : c = d
          · rw [if_pos same] at found
            rw [same, ih found, List.cons_append]
          · rw [if_neg same] at found
            cases found

theorem between?_eq {name text inner : List Char} (found : between? name text = some inner) :
    ∃ gap, text = name ++ (gap ++ '<' :: (inner ++ ['>'])) ∧ ∀ c ∈ gap, isBlank c = true := by
  unfold between? at found
  split at found
  · cases found
  · next rest after =>
      split at found
      · next body opened =>
          by_cases closed : body.getLast? = some '>'
          · rw [if_pos closed] at found
            cases found
            refine ⟨rest.takeWhile isBlank, ?_, fun c member => List.mem_takeWhile_imp member⟩
            have whole : body.dropLast ++ ['>'] = body := List.dropLast_append_getLast? '>' closed
            have cut : rest = rest.takeWhile isBlank ++ '<' :: body := by
              rw [← opened, dropBlanks, List.takeWhile_append_dropWhile]
            rw [whole, ← cut, after?_eq after]
          · rw [if_neg closed] at found
            cases found
      · cases found

theorem cutAtComma?_eq {depth : Nat} {text before behind : List Char}
    (found : cutAtComma? depth text = some (before, behind)) : text = before ++ ',' :: behind := by
  induction text generalizing depth before with
  | nil => cases found
  | cons c rest ih =>
      rw [cutAtComma?] at found
      by_cases cut : c = ',' ∧ depth = 0
      · rw [if_pos cut] at found
        cases found
        rw [cut.1, List.nil_append]
      · rw [if_neg cut] at found
        obtain ⟨⟨first, second⟩, later, same⟩ := Option.map_eq_some_iff.mp found
        cases same
        rw [ih later, List.cons_append]

theorem scalar?_unquoted {text : List Char} {type : ColumnType}
    (read : scalar? (String.ofList text) = some type) : '\x60' ∉ text := by
  have named : text = (String.ofList text).toList := by rw [String.toList_ofList]
  rw [named]
  unfold scalar? at read
  split at read
  case h_11 => cases read
  all_goals
    next same =>
      rw [same]
      decide

theorem between?_unquoted {name text inner : List Char} (found : between? name text = some inner)
    (outside : '\x60' ∉ name) (inside : '\x60' ∉ inner) : '\x60' ∉ text := by
  obtain ⟨gap, rfl, blank⟩ := between?_eq found
  have free : '\x60' ∉ gap := fun member => absurd (blank _ member) (by decide)
  simp [outside, inside, free]

theorem trimmed_unquoted {text : List Char} (free : '\x60' ∉ (trimChars text).map Char.toUpper) :
    '\x60' ∉ text := by
  intro member
  apply free
  exact List.mem_map.mpr ⟨'\x60', mem_trimChars (by decide) member, by decide⟩

/-- No text of a type, in any case and with any blanks, has a backquote. -/
theorem parseChars_unquoted {text : List Char} {type : ColumnType}
    (read : parseChars text = .ok type) : '\x60' ∉ text := by
  induction size : text.length using Nat.strong_induction_on generalizing text type with
  | h number induction =>
      have trimmed : ((trimChars text).map Char.toUpper).length ≤ text.length := by
        rw [List.length_map]
        exact length_trimChars text
      apply trimmed_unquoted
      rw [parseChars_eq, parseUpper_iff] at read
      rcases read with ⟨element, inner, found, read, -⟩ |
          ⟨entry, key, value, inner, -, found, cut, word, read, -⟩ | ⟨-, -, scalar⟩
      · have shorter := length_between? found
        exact between?_unquoted found (by decide) (induction _ (by omega) read rfl)
      · have shorter := length_between? found
        have parts := length_cutAtComma? cut
        apply between?_unquoted found (by decide)
        rw [cutAtComma?_eq cut, List.mem_append, List.mem_cons]
        rintro (inKey | comma | inValue)
        · exact induction _ (by omega) word rfl inKey
        · cases comma
        · exact induction _ (by omega) read rfl inValue
      · exact scalar?_unquoted scalar

end ColumnType

end StreamQuery
