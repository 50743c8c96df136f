import StreamQuery.Text.Ascii
import StreamQuery.Text.Quoted
import Mathlib.Data.List.Forall2
/-!
# Scanning a text for literals

A reader that knows nothing of the dialect but its quotes: a single quote opens a literal, a doubled
quote inside it stands for one quote, and the next single quote closes it. What a text shows to this
reader is built up from its parts: a part that does not end in a literal may be followed by any text,
and a part that may end in one must not be followed by a quote. Along with the literals goes the
nesting of the brackets outside of them.
-/

namespace StreamQuery.Text

/-- What a scan finds: the contents of the literals in order, and all the text outside of them. -/
structure Scanned where
  literals : List String
  outside : List Char
  deriving DecidableEq, Repr

/-- Where a scan stands. -/
inductive ScanState where
  | outside
  | inside (content : List Char)
  /-- A quote was met inside a literal: another one stands for a quote, all else ends it. -/
  | closing (content : List Char)

/-- Adds what was found before. -/
def Scanned.after (literals : List String) (outside : List Char) (found : Scanned) : Scanned :=
  ⟨literals ++ found.literals, outside ++ found.outside⟩

/-- Scans on from a state; there is no result when a literal is left open. -/
def scanFrom : ScanState → List Char → Option Scanned
  | .outside, [] => some ⟨[], []⟩
  | .inside _, [] => none
  | .closing content, [] => some ⟨[String.ofList content], []⟩
  | .outside, c :: rest =>
      if c = '\'' then scanFrom (.inside []) rest
      else (scanFrom .outside rest).map (.after [] [c])
  | .inside content, c :: rest =>
      if c = '\'' then scanFrom (.closing content) rest
      else scanFrom (.inside (content ++ [c])) rest
  | .closing content, c :: rest =>
      if c = '\'' then scanFrom (.inside (content ++ ['\''])) rest
      else (scanFrom .outside rest).map (.after [String.ofList content] [c])

def scan (text : List Char) : Option Scanned :=
  scanFrom .outside text

/-- The brackets still open after a text, the innermost first, as what closes them. There is no
result when a bracket is closed that is not the innermost one. -/
def nest : List Char → List Char → Option (List Char)
  | stack, [] => some stack
  | stack, c :: rest =>
      if c = '(' then nest (')' :: stack) rest
      else if c = '[' then nest (']' :: stack) rest
      else if c = ')' ∨ c = ']' then
        match stack with
        | top :: below => if top = c then nest below rest else none
        | [] => none
      else nest stack rest

/-- Every bracket is closed by its counterpart, and no bracket is closed that is not open. -/
def IsBalanced (text : List Char) : Prop :=
  nest [] text = some []

/-- Characters that mean nothing to a scan. -/
def isInert (c : Char) : Bool :=
  c ≠ '\'' && c ≠ '(' && c ≠ ')' && c ≠ '[' && c ≠ ']' && c ≠ ';'

/-- A text without quotes, parentheses, square brackets and semicolons. -/
def IsInert (text : String) : Prop :=
  text.toList.all isInert = true

instance (text : String) : Decidable (IsInert text) :=
  inferInstanceAs (Decidable (_ = _))

/-! ### Parts of a text -/

/-- What may follow a part: anything, or anything but a quote. -/
def MayFollow (solid : Bool) (rest : List Char) : Prop :=
  solid = true ∨ rest.head? ≠ some '\''

/-- A part of a text shows some literals, and leads from some open brackets to others. -/
def Shows (solid : Bool) (text : String) (literals : List String) (before after : List Char) :
    Prop :=
  ∃ outside,
    (∀ rest, MayFollow solid rest →
      scan (text.toList ++ rest) = (scan rest).map (.after literals outside)) ∧
    (∀ stack, nest (before ++ stack) outside = some (after ++ stack)) ∧ ';' ∉ outside

/-- A piece of fixed text: no quote, no semicolon, something there, and brackets as told. -/
def isFrame (before : List Char) (text : String) (after : List Char) : Bool :=
  !text.isEmpty && !text.toList.contains '\'' && !text.toList.contains ';' &&
    nest before text.toList == some after

theorem nest_frame {text before after : List Char} (nested : nest before text = some after)
    (stack : List Char) : nest (before ++ stack) text = some (after ++ stack) := by
  induction text generalizing before with
  | nil =>
      cases nested
      rfl
  | cons c rest induction =>
      unfold nest at nested ⊢
      split at nested
      · next round => rw [if_pos round]; exact induction nested
      · next other =>
          rw [if_neg other]
          split at nested
          · next square => rw [if_pos square]; exact induction nested
          · next other =>
              rw [if_neg other]
              split at nested
              · next closes =>
                  rw [if_pos closes]
                  cases before with
                  | nil => cases nested
                  | cons top below =>
                      simp only [List.cons_append] at nested ⊢
                      split at nested
                      · next same => rw [if_pos same]; exact induction nested
                      · cases nested
              · next inert => rw [if_neg inert]; exact induction nested

theorem nest_append (stack left right : List Char) :
    nest stack (left ++ right) = (nest stack left).bind fun between => nest between right := by
  induction left generalizing stack with
  | nil => rfl
  | cons c rest induction =>
      rw [List.cons_append]
      conv_lhs => unfold nest
      conv_rhs => enter [1]; unfold nest
      split
      · exact induction _
      · split
        · exact induction _
        · split
          · cases stack with
            | nil => rfl
            | cons top below =>
                simp only
                split
                · exact induction _
                · rfl
          · exact induction _

theorem scan_unquoted {text : List Char} (unquoted : '\'' ∉ text) (rest : List Char) :
    scan (text ++ rest) = (scan rest).map (.after [] text) := by
  induction text with
  | nil =>
      cases found : scan rest <;> simp [found, Scanned.after]
  | cons c others induction =>
      have first : c ≠ '\'' := by
        rintro rfl
        exact unquoted List.mem_cons_self
      have later := induction fun member => unquoted (List.mem_cons_of_mem _ member)
      unfold scan at later ⊢
      rw [List.cons_append, scanFrom, if_neg first, later, Option.map_map]
      rfl

/-- The inside of a quoted text is read back as it was. -/
theorem scanFrom_doubled (content before rest : List Char) :
    scanFrom (.inside before) (doubleQuotes content ++ '\'' :: rest) =
      scanFrom (.closing (before ++ content)) rest := by
  induction content generalizing before with
  | nil => simp [doubleQuotes, scanFrom]
  | cons c others induction =>
      unfold doubleQuotes
      split
      · next same =>
          simp [scanFrom, induction, same]
      · next other =>
          simp [scanFrom, induction, other]

/-- A literal ends where no further quote follows. -/
theorem scanFrom_closing (content rest : List Char) (free : rest.head? ≠ some '\'') :
    scanFrom (.closing content) rest = (scan rest).map (.after [String.ofList content] []) := by
  cases rest with
  | nil => rfl
  | cons c others =>
      have first : c ≠ '\'' := by simpa using free
      unfold scan
      rw [scanFrom, scanFrom, if_neg first, if_neg first, Option.map_map]
      rfl

theorem map_after (found : Option Scanned) (left right : List String) (outer inner : List Char) :
    (found.map (Scanned.after right inner)).map (Scanned.after left outer) =
      found.map (Scanned.after (left ++ right) (outer ++ inner)) := by
  cases found <;> simp [Scanned.after]

namespace Shows

variable {solid : Bool} {text next : String} {literals more : List String}
  {before between after : List Char}

/-- Any part may be followed by any text but a quote. -/
theorem soften (shows : Shows solid text literals before after) :
    Shows false text literals before after := by
  obtain ⟨outside, scans, rest⟩ := shows
  refine ⟨outside, fun rest free => scans rest ?_, rest⟩
  rcases free with solid | free
  · cases solid
  · exact .inr free

/-- A part that leaves all brackets closed can stand within others. -/
theorem deepen (shows : Shows solid text literals [] []) (stack : List Char) :
    Shows solid text literals stack stack := by
  obtain ⟨outside, scans, nested, semicolon⟩ := shows
  exact ⟨outside, scans, fun others => nested (stack ++ others), semicolon⟩

theorem quoted (content : String) : Shows false (quote content) [content] [] [] := by
  refine ⟨[], fun rest free => ?_, fun stack => rfl, List.not_mem_nil⟩
  have open_ : rest.head? ≠ some '\'' := by
    rcases free with solid | open_
    · cases solid
    · exact open_
  have begun : (quote content).toList ++ rest =
      '\'' :: (doubleQuotes content.toList ++ '\'' :: rest) := by
    simp [quote]
  unfold scan
  rw [begun, scanFrom, if_pos rfl, scanFrom_doubled, List.nil_append, scanFrom_closing _ _ open_,
    String.ofList_toList]
  rfl

theorem frame (framed : isFrame before text after = true) : Shows true text [] before after := by
  simp only [isFrame, Bool.and_eq_true, Bool.not_eq_true', beq_iff_eq] at framed
  obtain ⟨⟨⟨_, unquoted⟩, semicolon⟩, nested⟩ := framed
  exact ⟨text.toList, fun rest _ => scan_unquoted (by simpa using unquoted) rest,
    nest_frame nested, by simpa using semicolon⟩

theorem inert (plain : IsInert text) : Shows true text [] [] [] := by
  have each : ∀ c ∈ text.toList, isInert c = true := List.all_eq_true.mp plain
  refine ⟨text.toList, fun rest _ => scan_unquoted ?_ rest, fun stack => ?_, ?_⟩
  · intro member
    cases each _ member
  · generalize text.toList = characters at each
    induction characters with
    | nil => rfl
    | cons c rest induction =>
        have first := each c List.mem_cons_self
        simp only [isInert, Bool.and_eq_true, decide_eq_true_eq] at first
        unfold nest
        rw [if_neg (by simp [first]), if_neg (by simp [first]), if_neg (by simp [first])]
        exact induction fun c member => each c (List.mem_cons_of_mem _ member)
  · intro member
    cases each _ member

/-- A part that any text may follow, and what follows it. -/
theorem append (left : Shows true text literals before between)
    (right : Shows solid next more between after) :
    Shows solid (text ++ next) (literals ++ more) before after := by
  obtain ⟨leftOutside, leftScans, leftNested, leftSemicolon⟩ := left
  obtain ⟨rightOutside, rightScans, rightNested, rightSemicolon⟩ := right
  refine ⟨leftOutside ++ rightOutside, fun rest free => ?_, fun stack => ?_, ?_⟩
  · rw [String.toList_append, List.append_assoc, leftScans _ (.inl rfl), rightScans rest free,
      map_after]
  · rw [nest_append, leftNested, Option.bind_some, rightNested]
  · simp [leftSemicolon, rightSemicolon]

/-- Any part, and fixed text that follows it. -/
theorem andThen (left : Shows solid text literals before between) (next : String)
    (after : List Char) (framed : isFrame between next after = true) :
    Shows true (text ++ next) literals before after := by
  obtain ⟨_, _, rightNested, rightSemicolon⟩ := frame framed
  simp only [isFrame, Bool.and_eq_true, Bool.not_eq_true', beq_iff_eq] at framed
  obtain ⟨⟨⟨some, unquoted⟩, semicolon⟩, nested⟩ := framed
  have unquoted : '\'' ∉ next.toList := by simpa using unquoted
  have free (rest : List Char) : MayFollow solid (next.toList ++ rest) := by
    right
    cases characters : next.toList with
    | nil => simp [String.toList_eq_nil_iff.mp characters] at some
    | cons c others =>
        rw [characters] at unquoted
        rintro same
        cases same
        exact unquoted List.mem_cons_self
  obtain ⟨outside, scans, leftNested, leftSemicolon⟩ := left
  refine ⟨outside ++ next.toList, fun rest _ => ?_, fun stack => ?_, ?_⟩
  · rw [String.toList_append, List.append_assoc, scans _ (free rest),
      scan_unquoted unquoted rest, map_after, List.append_nil]
  · rw [nest_append, leftNested, Option.bind_some, nest_frame nested]
  · simpa [leftSemicolon] using semicolon

/-- Parts with a fixed text between neighbours. -/
theorem join {separator : String} (framed : isFrame [] separator [] = true)
    {texts : List String} {literals : List (List String)}
    (parts : List.Forall₂ (fun text shown => Shows false text shown [] []) texts literals) :
    Shows false (joinWith separator texts) literals.flatten [] [] := by
  induction parts with
  | nil =>
      have nothing : IsInert "" := by decide
      exact (inert nothing).soften
  | @cons text shown others more first rest induction =>
      cases rest with
      | nil => simpa [joinWith] using first
      | cons second rest => exact List.append_nil shown ▸ (first.andThen separator [] framed).append induction

end Shows

/-- Texts that show some literals, part by part. -/
def ShowAll (texts : List String) (literals : List String) : Prop :=
  ∃ shown, List.Forall₂ (fun text part => Shows false text part [] []) texts shown ∧
    shown.flatten = literals

namespace ShowAll

variable {text : String} {texts others part literals more : List String}

theorem nil : ShowAll [] [] :=
  ⟨[], .nil, rfl⟩

/-- No texts show nothing. -/
theorem literals_of_nil (all : ShowAll [] literals) : literals = [] := by
  obtain ⟨shown, parts, rfl⟩ := all
  cases parts
  rfl

theorem cons (first : Shows false text part [] []) (rest : ShowAll texts literals) :
    ShowAll (text :: texts) (part ++ literals) := by
  obtain ⟨shown, parts, rfl⟩ := rest
  exact ⟨part :: shown, .cons first parts, rfl⟩

theorem append (left : ShowAll texts literals) (right : ShowAll others more) :
    ShowAll (texts ++ others) (literals ++ more) := by
  obtain ⟨leftShown, leftParts, rfl⟩ := left
  obtain ⟨rightShown, rightParts, rfl⟩ := right
  exact ⟨leftShown ++ rightShown, List.rel_append leftParts rightParts, List.flatten_append⟩

theorem join (all : ShowAll texts literals) (separator : String)
    (framed : isFrame [] separator [] = true) :
    Shows false (joinWith separator texts) literals [] [] := by
  obtain ⟨shown, parts, rfl⟩ := all
  exact Shows.join framed parts

end ShowAll

/-- What a scan finds in a text that is ended by a semicolon. -/
theorem scan_ended {body : String} {literals : List String}
    (shows : Shows false body literals [] []) :
    ∃ outside, scan (body ++ ";").toList = some ⟨literals, outside ++ [';']⟩ ∧
      IsBalanced (outside ++ [';']) ∧ ';' ∉ outside := by
  obtain ⟨outside, scans, nested, semicolon⟩ := shows
  have whole := scans [';'] (.inr (by decide))
  refine ⟨outside, ?_, ?_, semicolon⟩
  · rw [String.toList_append]
    simpa [scan, scanFrom, Scanned.after] using whole
  · have inner : nest [] outside = some [] := by simpa using nested []
    rw [IsBalanced, nest_append, inner]
    rfl

end StreamQuery.Text
