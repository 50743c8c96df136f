import StreamQuery.Proofs.Text.Reading
import StreamQuery.Proofs.Text.Words
import StreamQuery.Window
/-!
# Texts of durations

A duration is read from exactly two words, an integer of 64 bits and the name of a unit in any case.
Behind the singular name of a unit any number of letters S is passed over, where the plural has one.
Every other text is refused with itself, or with the word that should name a unit, and the text of a
duration is read as that duration.
-/

namespace StreamQuery

open Text

namespace TimeUnit

/-- The name of one of a unit. The keyword is the name of several. -/
def singular : TimeUnit → String
  | milliseconds => "MILLISECOND"
  | seconds => "SECOND"
  | minutes => "MINUTE"
  | hours => "HOUR"
  | days => "DAY"

theorem keyword_singular (unit : TimeUnit) :
    unit.keyword.toList = unit.singular.toList ++ ['S'] := by
  cases unit <;> rfl

theorem ofSingular?_iff {name : String} {unit : TimeUnit} :
    ofSingular? name = some unit ↔ name = unit.singular := by
  constructor
  · intro found
    unfold ofSingular? at found
    split at found
    case h_6 => cases found
    all_goals
      cases found
      rfl
  · rintro rfl
    cases unit <;> rfl

/-- A word is the singular or the plural name of a unit, in any case. -/
def Named (unit : TimeUnit) (word : List Char) : Prop :=
  word.map Char.toUpper = unit.singular.toList ∨ word.map Char.toUpper = unit.keyword.toList

/-- A word is the singular name of a unit, in any case, with some letters S behind it. -/
def Stretched (unit : TimeUnit) (word : List Char) : Prop :=
  ∃ count, word.map Char.toUpper = unit.singular.toList ++ List.replicate count 'S'

theorem Named.stretched {unit : TimeUnit} {word : List Char} (named : unit.Named word) :
    unit.Stretched word := by
  rcases named with one | several
  · exact ⟨0, by rw [one, List.replicate_zero, List.append_nil]⟩
  · exact ⟨1, by rw [several, keyword_singular]; rfl⟩

/-- Where no two letters S end a word, it has one at most behind the singular name. -/
theorem Stretched.named {unit : TimeUnit} {word : List Char} (stretched : unit.Stretched word)
    (single : ¬ ['S', 'S'] <:+ word.map Char.toUpper) : unit.Named word := by
  obtain ⟨count, spelled⟩ := stretched
  match count with
  | 0 => exact .inl (by rw [spelled, List.replicate_zero, List.append_nil])
  | 1 => exact .inr (by rw [spelled, keyword_singular]; rfl)
  | count + 2 =>
      refine absurd ?_ single
      rw [spelled, List.replicate_add, ← List.append_assoc]
      exact List.suffix_append _ _

theorem dropTrailing_singular (unit : TimeUnit) :
    dropTrailing (· == 'S') unit.singular.toList = unit.singular.toList := by
  cases unit <;> rfl

theorem dropTrailing_iff (unit : TimeUnit) (upper : List Char) :
    dropTrailing (· == 'S') upper = unit.singular.toList ↔
      ∃ count, upper = unit.singular.toList ++ List.replicate count 'S' := by
  constructor
  · intro kept
    obtain ⟨dropped, whole, letters⟩ := dropTrailing_cut (· == 'S') upper
    have same : dropped = List.replicate dropped.length 'S' :=
      List.eq_replicate_of_mem fun c member => by simpa using letters c member
    rw [kept, same] at whole
    exact ⟨dropped.length, whole⟩
  · rintro ⟨count, rfl⟩
    have letters : ∀ c ∈ List.replicate count 'S', (c == 'S') = true := by
      intro c member
      rw [List.eq_of_mem_replicate member]
      rfl
    rw [dropTrailing_after letters, dropTrailing_singular]

theorem found_iff (unit : TimeUnit) (word : List Char) :
    ofSingular? (String.ofList (dropTrailing (· == 'S') (word.map Char.toUpper))) = some unit ↔
      unit.Stretched word := by
  rw [ofSingular?_iff, ← String.toList_inj, String.toList_ofList, dropTrailing_iff]
  rfl

theorem parse_of_stretched {text : String} {unit : TimeUnit}
    (stretched : unit.Stretched (trimChars text.toList)) : parse text = .ok unit := by
  have found := (found_iff unit _).2 stretched
  unfold parse
  simp only [found]

theorem parse_unknown {text : String}
    (unknown : ∀ unit : TimeUnit, ¬ unit.Stretched (trimChars text.toList)) :
    parse text = .error (.unknownTimeUnit text) := by
  unfold parse
  simp only
  split
  · next unit found => exact absurd ((found_iff unit _).1 found) (unknown unit)
  · rfl

end TimeUnit

namespace Duration

/-- A text of two words: an integer of 64 bits and a name of a unit. -/
inductive Reads (named : TimeUnit → List Char → Prop) (text : String) : Duration → Prop
  | words {amount word : List Char} {value : Int} {unit : TimeUnit}
      (spaced : Spaced text.toList [amount, word]) (numeral : Numeral amount value)
      (fits : fitsSigned 64 value = true) (name : named unit word) :
      Reads named text ⟨value, unit⟩

/-- Why a text is no duration: as a whole, or because its second word names no unit. -/
inductive Rejects (text : String) : StatementError → Prop
  | whole (other : ∀ amount word value, Spaced text.toList [amount, word] →
      Numeral amount value → fitsSigned 64 value = false) :
      Rejects text (.unknownTimeUnit text)
  | word {amount word : List Char} {value : Int} (spaced : Spaced text.toList [amount, word])
      (numeral : Numeral amount value) (fits : fitsSigned 64 value = true)
      (unknown : ∀ unit : TimeUnit, ¬ unit.Stretched word) :
      Rejects text (.unknownTimeUnit (String.ofList word))

theorem words_of_spaced {text : String} {found : List (List Char)}
    (spaced : Spaced text.toList found) : words text = found.map String.ofList := by
  rw [words_eq, spaced.pieces]

theorem trimChars_word {word : List Char} (visible : ∀ c ∈ word, isBlank c = false) :
    trimChars word = word := by
  rcases List.eq_nil_or_concat word with rfl | ⟨before, last, rfl⟩
  · rfl
  · have ends : isBlank last = false := visible last (by simp)
    cases before with
    | nil => exact trimChars_visible ends ends (List.nil_append _) (List.nil_append _).symm
    | cons first middle =>
        have begins : isBlank first = false := visible first (by simp)
        exact trimChars_visible begins ends rfl List.concat_eq_append

/-- A text that begins as a duration is read as its second word is. -/
theorem parse_words {text : String} {amount word : List Char} {value : Int}
    (spaced : Spaced text.toList [amount, word]) (numeral : Numeral amount value)
    (fits : fitsSigned 64 value = true) :
    parse text = (TimeUnit.parse (String.ofList word)).map fun unit => ⟨value, unit⟩ := by
  rw [parse, words_of_spaced spaced]
  simp only [List.map_cons, List.map_nil, String.toList_ofList, numeral.read, fits, if_true]

theorem parse_other {text : String}
    (other : ∀ amount word value, Spaced text.toList [amount, word] →
      Numeral amount value → fitsSigned 64 value = false) :
    parse text = .error (.unknownTimeUnit text) := by
  unfold parse
  split
  · next amount unit found =>
      have spaced := (words_iff text _).1 found
      split
      · next value read =>
          rw [other _ _ _ spaced ((readInt?_iff _ _).1 read)]
          rfl
      · rfl
  · rfl

theorem parse_reads {text : String} {duration : Duration}
    (reads : Reads TimeUnit.Stretched text duration) : parse text = .ok duration := by
  cases reads with
  | @words amount word value unit spaced numeral fits name =>
      have trimmed : trimChars (String.ofList word).toList = word := by
        rw [String.toList_ofList]
        exact trimChars_word (spaced.visible word (by simp))
      have known : TimeUnit.parse (String.ofList word) = .ok unit := by
        apply TimeUnit.parse_of_stretched
        rw [trimmed]
        exact name
      rw [parse_words spaced numeral fits, known]
      rfl

theorem parse_rejects {text : String} {error : StatementError} (rejects : Rejects text error) :
    parse text = .error error := by
  cases rejects with
  | whole other => exact parse_other other
  | @word amount word value spaced numeral fits unknown =>
      have trimmed : trimChars (String.ofList word).toList = word := by
        rw [String.toList_ofList]
        exact trimChars_word (spaced.visible word (by simp))
      have refused : TimeUnit.parse (String.ofList word) =
          .error (.unknownTimeUnit (String.ofList word)) := by
        apply TimeUnit.parse_unknown
        rw [trimmed]
        exact unknown
      rw [parse_words spaced numeral fits, refused]
      rfl

/-- Every text is that of a duration, or there is a reason why it is none. -/
theorem reads_or_rejects (text : String) :
    (∃ duration, Reads TimeUnit.Stretched text duration) ∨ ∃ error, Rejects text error := by
  by_cases begun : ∃ amount word value, Spaced text.toList [amount, word] ∧
      Numeral amount value ∧ fitsSigned 64 value = true
  · obtain ⟨amount, word, value, spaced, numeral, fits⟩ := begun
    by_cases known : ∃ unit : TimeUnit, unit.Stretched word
    · obtain ⟨unit, name⟩ := known
      exact .inl ⟨_, .words spaced numeral fits name⟩
    · exact .inr ⟨_, .word spaced numeral fits (not_exists.1 known)⟩
  · refine .inr ⟨_, .whole fun amount word value spaced numeral => ?_⟩
    apply Bool.eq_false_iff.2
    intro fits
    exact begun ⟨amount, word, value, spaced, numeral, fits⟩

theorem Reads.of_parse {text : String} {duration : Duration} (read : parse text = .ok duration) :
    Reads TimeUnit.Stretched text duration := by
  rcases reads_or_rejects text with ⟨other, reads⟩ | ⟨error, rejects⟩
  · cases (parse_reads reads).symm.trans read
    exact reads
  · cases (parse_rejects rejects).symm.trans read

theorem Rejects.of_parse {text : String} {error : StatementError}
    (refused : parse text = .error error) : Rejects text error := by
  rcases reads_or_rejects text with ⟨duration, reads⟩ | ⟨other, rejects⟩
  · cases (parse_reads reads).symm.trans refused
  · cases (parse_rejects rejects).symm.trans refused
    exact rejects

theorem digit_visible {c : Char} (digit : c.isDigit = true) : isBlank c = false := by
  have range : 48 ≤ c.toNat ∧ c.toNat ≤ 57 := by
    simpa [Char.isDigit, UInt32.le_iff_toNat_le] using digit
  simp [isBlank]
  omega

theorem numeral_word {text : List Char} {value : Int} (numeral : Numeral text value) :
    text ≠ [] ∧ ∀ c ∈ text, isBlank c = false := by
  cases numeral with
  | bare some decimal => exact ⟨some, fun c member => digit_visible (decimal c member)⟩
  | plus some decimal | minus some decimal =>
      refine ⟨List.cons_ne_nil _ _, List.forall_mem_cons.2 ⟨by decide, ?_⟩⟩
      exact fun c member => digit_visible (decimal c member)

/-- The text of a duration is its amount and the keyword of its unit. -/
theorem text_reads (duration : Duration) (fits : fitsSigned 64 duration.amount = true) :
    Reads TimeUnit.Named duration.text duration := by
  have numeral : Numeral (toString duration.amount).toList duration.amount :=
    (readInt?_iff _ _).1 (readInt?_toString duration.amount)
  have unitWord : duration.unit.keyword.toList ≠ [] ∧
      ∀ c ∈ duration.unit.keyword.toList, isBlank c = false := by
    have visible : duration.unit.keyword.toList.all (fun c => !isBlank c) = true := by
      cases duration.unit <;> rfl
    refine ⟨?_, by simpa using visible⟩
    cases duration.unit <;> exact List.cons_ne_nil _ _
  have cased : duration.unit.keyword.toList.map Char.toUpper = duration.unit.keyword.toList := by
    cases duration.unit <;> rfl
  obtain ⟨some, visible⟩ := numeral_word numeral
  have noneLeft : Spaced [] [] := .blank (List.forall_mem_nil _)
  have last : Spaced ([' '] ++ (duration.unit.keyword.toList ++ []))
      [duration.unit.keyword.toList] :=
    .word space_blank unitWord.1 unitWord.2 (by simp) noneLeft
  have first : Spaced ([] ++ ((toString duration.amount).toList ++
      ([' '] ++ (duration.unit.keyword.toList ++ []))))
      [(toString duration.amount).toList, duration.unit.keyword.toList] :=
    .word (List.forall_mem_nil _) some visible (by simp [isBlank]) last
  have spaced : Spaced duration.text.toList
      [(toString duration.amount).toList, duration.unit.keyword.toList] := by
    simpa [text] using first
  exact .words spaced numeral fits (.inr cased)

theorem Reads.imp {named wider : TimeUnit → List Char → Prop} {text : String} {duration : Duration}
    (reads : Reads named text duration)
    (covers : ∀ words, Spaced text.toList words → ∀ word ∈ words, ∀ unit, named unit word →
      wider unit word) : Reads wider text duration := by
  cases reads with
  | words spaced numeral fits name =>
      exact .words spaced numeral fits (covers _ spaced _ (by simp) _ name)

/-- Which texts are durations: two words, an integer of 64 bits and a name of a unit, in any case,
with any number of letters S behind its singular form. Where no word ends in two letters S the name
is the singular or the plural. All other texts are refused, with themselves or with the word that
names no unit; and the text of a duration is read as that duration. -/
theorem duration_texts (text : String) :
    (∀ duration, parse text = .ok duration ↔ Reads TimeUnit.Stretched text duration) ∧
      ((∀ words, Spaced text.toList words →
          ∀ word ∈ words, ¬ ['S', 'S'] <:+ word.map Char.toUpper) →
        ∀ duration, parse text = .ok duration ↔ Reads TimeUnit.Named text duration) ∧
      (∀ error, parse text = .error error ↔ Rejects text error) ∧
      ∀ duration : Duration, fitsSigned 64 duration.amount = true →
        parse duration.text = .ok duration := by
  have widen {text : String} {duration : Duration} (reads : Reads TimeUnit.Named text duration) :
      Reads TimeUnit.Stretched text duration :=
    reads.imp fun _ _ _ _ _ named => named.stretched
  refine ⟨fun _ => ⟨.of_parse, parse_reads⟩, ?_, fun _ => ⟨.of_parse, parse_rejects⟩, ?_⟩
  · intro single duration
    constructor
    · intro read
      exact (Reads.of_parse read).imp fun words spaced word member _ stretched =>
        stretched.named (single words spaced word member)
    · intro reads
      exact parse_reads (widen reads)
  · intro duration fits
    exact parse_reads (widen (duration.text_reads fits))

/-- The least amount of 64 bits, and a text with a sign, blanks of several kinds and letters of both
cases. -/
theorem least_days_texts :
    parse "\t+07\u3000 hOur\n" = .ok ⟨7, .hours⟩ ∧
      Reads TimeUnit.Named "\t+07\u3000 hOur\n" ⟨7, .hours⟩ ∧
      parse (⟨-9223372036854775808, .days⟩ : Duration).text =
        .ok ⟨-9223372036854775808, .days⟩ := by
  have read : parse "\t+07\u3000 hOur\n" = .ok ⟨7, .hours⟩ := by decide +kernel
  have single : ∀ words, Spaced "\t+07\u3000 hOur\n".toList words →
      ∀ word ∈ words, ¬ ['S', 'S'] <:+ word.map Char.toUpper := by
    intro words spaced
    rw [← spaced.pieces]
    decide +kernel
  exact ⟨read, ((duration_texts _).2.1 single _).1 read, (duration_texts "").2.2.2 _ (by decide)⟩

/-- A word with two letters S behind the name of a unit is neither its singular nor its plural, and
is read all the same. -/
theorem stretched_days_read :
    parse "5 dayss" = .ok ⟨5, .days⟩ ∧ ¬ Reads TimeUnit.Named "5 dayss" ⟨5, .days⟩ := by
  refine ⟨by decide +kernel, ?_⟩
  intro reads
  cases reads with
  | words spaced numeral fits name =>
      have pieces := spaced.pieces
      rw [show visiblePieces "5 dayss".toList = [['5'], "dayss".toList] by decide +kernel] at pieces
      cases pieces
      have upper : "dayss".toList.map Char.toUpper = "DAYSS".toList := by decide +kernel
      rcases name with one | several
      · rw [upper] at one
        exact absurd one (by decide)
      · rw [upper] at several
        exact absurd several (by decide)

end Duration

end StreamQuery
