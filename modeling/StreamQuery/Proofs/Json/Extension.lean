import StreamQuery.Json.Parser
import Mathlib.Data.List.Basic
/-!
# Values with text behind them

What a value reads as does not depend on the text behind it, as soon as the reader has seen one
character that does not belong to the value. Only a number needs to see such a character: strings,
words and containers show their own end. A value is also read the same where more nesting is
allowed.
-/

namespace StreamQuery.Json

open Decimal Text

variable {α : Type}

/-- A reader that has seen where a value ends reads the same with more text behind. -/
def IsSteady (read : List Char → Option (α × List Char)) : Prop :=
  ∀ {text value left}, read text = some (value, left) → left ≠ [] → ∀ rest,
    read (text ++ rest) = some (value, left ++ rest)

theorem skipSpace_append {text : List Char} (some : skipSpace text ≠ []) (rest : List Char) :
    skipSpace (text ++ rest) = skipSpace text ++ rest := by
  unfold skipSpace at some ⊢
  rw [List.dropWhile_append, if_neg (by simpa using some)]

theorem skipSpace_cons {text left : List Char} {c : Char} (found : skipSpace text = c :: left)
    (rest : List Char) : skipSpace (text ++ rest) = c :: (left ++ rest) := by
  rw [skipSpace_append (by simp [found]), found]
  rfl

/-! ### Strings and words -/

theorem readStringOnto_append {read text inside left : List Char}
    (done : readStringOnto read text = some (inside, left)) (rest : List Char) :
    readStringOnto read (text ++ rest) = some (inside, left ++ rest) := by
  fun_induction readStringOnto read text with
  | case2 read others =>
      cases done
      simp [readStringOnto]
  | case6 read a b c d code found single high e f g h more low second paired induction =>
      simp only [List.cons_append]
      rw [readStringOnto]
      simpa [found, single, high, second, paired] using induction done
  | case9 read a b c d others code found single plain induction =>
      simp only [List.cons_append]
      rw [readStringOnto]
      simpa [found, single, plain] using induction done
  | case10 read c others short plain escaped induction =>
      have other : c ≠ 'u' := by
        rintro rfl
        cases escaped
      simp only [List.cons_append]
      rw [readStringOnto]
      · simpa [escaped] using induction done
      · intro _ _ _ _ _ same
        exact absurd same other
  | case13 read c others unquoted _ unescaped visible induction =>
      have plain : c ≠ '\\' := by
        rintro rfl
        cases others with
        | nil => cases done
        | cons next more => exact unescaped next more rfl rfl
      simp only [List.cons_append]
      rw [readStringOnto]
      · simpa [visible] using induction done
      · exact unquoted
      · intro _ _ _ _ _ same
        exact absurd same plain
      · intro _ _ same
        exact absurd same plain
  | _ => cases done

theorem readString_append {text left : List Char} {content : String}
    (done : readString? text = some (content, left)) (rest : List Char) :
    readString? (text ++ rest) = some (content, left ++ rest) := by
  unfold readString? at done ⊢
  rw [Option.map_eq_some_iff] at done
  obtain ⟨⟨inside, after⟩, read, same⟩ := done
  cases same
  rw [readStringOnto_append read]
  rfl

theorem readWord_append {word text left : List Char} {value result : Json}
    (done : readWord? word value text = some (result, left)) (rest : List Char) :
    readWord? word value (text ++ rest) = some (result, left ++ rest) := by
  unfold readWord? at done ⊢
  split at done
  · next first =>
      cases done
      obtain ⟨after, rfl⟩ := List.isPrefixOf_iff_prefix.mp first
      rw [if_pos (by simp)]
      simp
  · cases done

/-! ### Numbers -/

theorem splitDigits_append {text digits left : List Char} {c : Char}
    (split : splitDigits text = (digits, c :: left)) (rest : List Char) :
    splitDigits (text ++ rest) = (digits, c :: (left ++ rest)) := by
  unfold splitDigits at split ⊢
  obtain ⟨taken, dropped⟩ := Prod.mk.injEq .. ▸ split
  have part : text.takeWhile Char.isDigit ++ text.dropWhile Char.isDigit = text :=
    List.takeWhile_append_dropWhile
  have stops : text.takeWhile Char.isDigit ≠ text := by
    intro all
    rw [all, dropped] at part
    simp at part
  rw [List.dropWhile_append, dropped, List.takeWhile_append, taken]
  have short : digits.length ≠ text.length := by
    intro same
    rw [taken, dropped] at part
    have lengths := congrArg List.length part
    simp only [List.length_append, List.length_cons] at lengths
    omega
  simp [short]

theorem scanWhole_append {text digits left : List Char} {c : Char}
    (done : scanWhole? text = some (digits, c :: left)) (rest : List Char) :
    scanWhole? (text ++ rest) = some (digits, c :: (left ++ rest)) := by
  unfold scanWhole? at done ⊢
  split at done
  · cases done
  · cases done
  · next found none zero =>
      have split : splitDigits text = (digits, c :: left) := by simpa using done
      rw [split] at none zero
      rw [splitDigits_append split]
      split
      · next empty =>
          cases empty
          exact (none _ rfl).elim
      · next leading =>
          cases leading
          exact (zero _ _ _ rfl).elim
      · rfl

theorem scanPlaces_append {text left : List Char} {places : Option (List Char)} {c : Char}
    (done : scanPlaces? text = some (places, c :: left)) (rest : List Char) :
    scanPlaces? (text ++ rest) = some (places, c :: (left ++ rest)) := by
  unfold scanPlaces? at done
  split at done
  · split at done
    · cases done
    · next digits after some split =>
        cases done
        rw [List.cons_append, scanPlaces?, splitDigits_append split]
        split
        · next empty =>
            cases empty
            exact (some rfl).elim
        · next same =>
            cases same
            rfl
  · next plain =>
      cases done
      rw [List.cons_append, scanPlaces?]
      rintro _ same
      cases same
      exact plain _ rfl

theorem splitSign_append {text left : List Char} {sign : Bool} {c : Char}
    (split : splitSign text = (sign, c :: left)) (rest : List Char) :
    splitSign (text ++ rest) = (sign, c :: (left ++ rest)) := by
  unfold splitSign at split
  split at split
  · cases split
    rfl
  · cases split
    rfl
  · next minus plus =>
      cases split
      rw [List.cons_append, splitSign]
      · rintro _ same
        cases same
        exact minus _ rfl
      · rintro _ same
        cases same
        exact plus _ rfl

theorem scanExponent_append {text left : List Char} {exponent : Option (Bool × List Char)}
    {c : Char} (done : scanExponent? text = some (exponent, c :: left)) (rest : List Char) :
    scanExponent? (text ++ rest) = some (exponent, c :: (left ++ rest)) := by
  cases text with
  | nil => cases done
  | cons mark others =>
      simp only [scanExponent?, List.cons_append] at done ⊢
      split at done
      · next marked =>
          rw [if_pos marked]
          obtain ⟨negative, body, signed⟩ : ∃ negative body, splitSign others = (negative, body) :=
            ⟨_, _, rfl⟩
          obtain ⟨found, after, split⟩ : ∃ found after, splitDigits body = (found, after) :=
            ⟨_, _, rfl⟩
          simp only [signed, split] at done
          cases found with
          | nil => cases done
          | cons digit digits =>
              cases body with
              | nil => cases split
              | cons first more =>
                  cases done
                  rw [splitSign_append signed]
                  simp only
                  rw [← List.cons_append, splitDigits_append split]
      · next plain =>
          cases done
          rw [if_neg plain]

theorem scanNumeral_steady : IsSteady scanNumeral? := by
  intro text numeral left done more rest
  obtain ⟨c, after, rfl⟩ := List.exists_cons_of_ne_nil more
  have unsigned {negative : Bool} {body : List Char}
      (done : (do
        let whole ← scanWhole? body
        let places ← scanPlaces? whole.2
        let exponent ← scanExponent? places.2
        pure (Numeral.mk negative whole.1 places.1 exponent.1, exponent.2)) =
          some (numeral, c :: after)) :
      (do
        let whole ← scanWhole? (body ++ rest)
        let places ← scanPlaces? whole.2
        let exponent ← scanExponent? places.2
        pure (Numeral.mk negative whole.1 places.1 exponent.1, exponent.2)) =
          some (numeral, c :: (after ++ rest)) := by
    simp only [Option.bind_eq_bind, Option.bind_eq_some_iff] at done
    obtain ⟨⟨whole, behindWhole⟩, wholeDone, ⟨places, behindPlaces⟩, placesDone,
      ⟨exponent, behind⟩, exponentDone, same⟩ := done
    cases same
    obtain ⟨_, _, rfl⟩ : ∃ c left, behindPlaces = c :: left := by
      refine List.exists_cons_of_ne_nil ?_
      rintro rfl
      cases exponentDone
    obtain ⟨_, _, rfl⟩ : ∃ c left, behindWhole = c :: left := by
      refine List.exists_cons_of_ne_nil ?_
      rintro rfl
      cases placesDone
    simp only [Option.bind_eq_bind, scanWhole_append wholeDone, Option.bind_some]
    rw [← List.cons_append, scanPlaces_append placesDone, Option.bind_some]
    rw [← List.cons_append, scanExponent_append exponentDone, Option.bind_some]
    rfl
  unfold scanNumeral? at done ⊢
  split at done
  next negative body signed =>
  split at signed
  · cases signed
    exact unsigned done
  · next others plain =>
      cases signed
      cases text with
      | nil => cases done
      | cons first others =>
          have unsignedFirst : first ≠ '-' := by
            rintro rfl
            exact plain _ rfl
          simp only [List.cons_append]
          split
          · next same =>
              cases same
              exact absurd rfl unsignedFirst
          · exact unsigned done

theorem readScalar_steady : IsSteady readScalar? := by
  intro text value left done more rest
  cases text with
  | nil => cases done
  | cons c others =>
      simp only [readScalar?, List.cons_append] at done ⊢
      split at done
      · next quote =>
          rw [if_pos quote]
          rw [Option.map_eq_some_iff] at done ⊢
          obtain ⟨⟨content, after⟩, read, same⟩ := done
          cases same
          exact ⟨_, readString_append read rest, rfl⟩
      · next unquoted =>
          rw [if_neg unquoted]
          split at done
          · next null =>
              rw [if_pos null]
              exact readWord_append done rest
          · next other =>
              rw [if_neg other]
              split at done
              · next true_ =>
                  rw [if_pos true_]
                  exact readWord_append done rest
              · next other =>
                  rw [if_neg other]
                  split at done
                  · next false_ =>
                      rw [if_pos false_]
                      exact readWord_append done rest
                  · next other =>
                      rw [if_neg other]
                      split at done
                      · next number =>
                          rw [if_pos number]
                          simp only [Option.bind_eq_bind, Option.bind_eq_some_iff] at done ⊢
                          obtain ⟨⟨numeral, after⟩, scanned, number, valued, same⟩ := done
                          cases same
                          exact ⟨_, scanNumeral_steady scanned more rest, _, valued, rfl⟩
                      · cases done

/-! ### Containers -/

/-- A sequence shows its own end, and needs no more fuel for what follows. -/
theorem readSequence_append {close : Char} {readOne : List Char → Option (α × List Char)}
    (steady : IsSteady readOne) {fuel more : Nat} {read items : List α} {text left : List Char}
    (done : readSequence? close readOne fuel read text = some (items, left)) (enough : fuel ≤ more)
    (rest : List Char) :
    readSequence? close readOne more read (text ++ rest) = some (items, left ++ rest) := by
  induction fuel generalizing more read text with
  | zero => cases done
  | succ fuel induction =>
      obtain ⟨more, rfl⟩ := Nat.exists_eq_add_of_lt (Nat.lt_of_lt_of_le fuel.succ_pos enough)
      rw [Nat.zero_add] at enough ⊢
      simp only [readSequence?, Option.bind_eq_bind, Option.bind_eq_some_iff] at done ⊢
      obtain ⟨⟨item, after⟩, one, next⟩ := done
      simp only at next
      have stops : after ≠ [] := by
        rintro rfl
        cases next
      refine ⟨_, steady one stops rest, ?_⟩
      simp only
      split at next
      · next behind comma =>
          rw [skipSpace_cons comma]
          exact induction next (Nat.le_of_succ_le_succ enough)
      · next mark behind other found =>
          rw [skipSpace_cons found]
          split
          · next comma =>
              cases comma
              exact (other rfl).elim
          · next same =>
              cases same
              split at next
              · next closes =>
                  cases next
                  rw [if_pos closes]
              · cases next
          · next nothing => cases nothing
      · cases next

theorem readBracketed_append {close : Char} {readOne : List Char → Option (α × List Char)}
    (steady : IsSteady readOne) {items : List α} {text left : List Char}
    (done : readBracketed? close readOne text = some (items, left)) (rest : List Char) :
    readBracketed? close readOne (text ++ rest) = some (items, left ++ rest) := by
  unfold readBracketed? at done ⊢
  split at done
  · cases done
  · next c behind found =>
      rw [skipSpace_cons found]
      simp only
      split at done
      · next closes =>
          cases done
          rw [if_pos closes]
      · next opens =>
          rw [if_neg opens, ← List.cons_append]
          exact readSequence_append steady done (by simp) rest

theorem readMember_steady {readValue : List Char → Option (Json × List Char)}
    (steady : IsSteady readValue) : IsSteady (readMember? readValue) := by
  intro text member left done more rest
  unfold readMember? at done ⊢
  split at done
  · next behind found =>
      rw [skipSpace_cons found]
      simp only [Option.bind_eq_bind, Option.bind_eq_some_iff] at done ⊢
      obtain ⟨⟨key, after⟩, keyRead, done⟩ := done
      refine ⟨_, readString_append keyRead rest, ?_⟩
      simp only at done ⊢
      split at done
      · next behind colon =>
          rw [skipSpace_cons colon]
          simp only [Option.bind_eq_some_iff] at done ⊢
          obtain ⟨⟨value, after⟩, valueRead, same⟩ := done
          cases same
          exact ⟨_, steady valueRead more rest, rfl⟩
      · cases done
  · cases done

theorem readValue_array {text rest left : List Char} {items : List Json} {depth : Nat}
    (found : skipSpace text = '[' :: rest)
    (done : readBracketed? ']' (readValue? depth) rest = some (items, left)) :
    readValue? (depth + 1) text = some (.array items, left) := by
  unfold readValue?
  rw [found]
  simp only
  rw [done]
  rfl

theorem readValue_object {text rest left : List Char} {members : List (String × Json)}
    {depth : Nat} (found : skipSpace text = '\x7b' :: rest)
    (done : readBracketed? '\x7d' (readMember? (readValue? depth)) rest = some (members, left)) :
    readValue? (depth + 1) text = some (ofMembers members, left) := by
  unfold readValue?
  rw [found]
  simp only
  rw [done]
  rfl

/-- What reads as a scalar begins with no bracket. -/
theorem readValue_scalar {text : List Char} {result : Json × List Char}
    (done : readScalar? (skipSpace text) = some result) (depth : Nat) :
    readValue? depth text = some result := by
  unfold readValue?
  split
  · next found =>
      rw [found] at done
      cases done
  · next found =>
      rw [found] at done
      cases done
  · exact done

/-- The three ways in which a value is read. -/
theorem readValue_cases {depth : Nat} {text left : List Char} {value : Json}
    (done : readValue? depth text = some (value, left)) :
    (∃ below rest items, depth = below + 1 ∧ skipSpace text = '[' :: rest ∧
      readBracketed? ']' (readValue? below) rest = some (items, left) ∧ value = .array items) ∨
    (∃ below rest members, depth = below + 1 ∧ skipSpace text = '\x7b' :: rest ∧
      readBracketed? '\x7d' (readMember? (readValue? below)) rest = some (members, left) ∧
      value = ofMembers members) ∨
    readScalar? (skipSpace text) = some (value, left) := by
  unfold readValue? at done
  split at done
  · next below rest found =>
      rw [Option.map_eq_some_iff] at done
      obtain ⟨⟨items, after⟩, read, same⟩ := done
      cases same
      exact .inl ⟨below, rest, items, rfl, found, read, rfl⟩
  · next below rest found =>
      rw [Option.map_eq_some_iff] at done
      obtain ⟨⟨members, after⟩, read, same⟩ := done
      cases same
      exact .inr (.inl ⟨below, rest, members, rfl, found, read, rfl⟩)
  · exact .inr (.inr done)

theorem readValue_steady (depth : Nat) : IsSteady (readValue? depth) := by
  have scalar {depth : Nat} {text left : List Char} {value : Json}
      (done : readScalar? (skipSpace text) = some (value, left)) (more : left ≠ [])
      (rest : List Char) : readValue? depth (text ++ rest) = some (value, left ++ rest) := by
    have begun : skipSpace text ≠ [] := by
      intro nothing
      rw [nothing] at done
      cases done
    refine readValue_scalar ?_ depth
    rw [skipSpace_append begun]
    exact readScalar_steady done more rest
  induction depth with
  | zero =>
      intro text value left done more rest
      rcases readValue_cases done with ⟨_, _, _, none, _⟩ | ⟨_, _, _, none, _⟩ | plain
      · cases none
      · cases none
      · exact scalar plain more rest
  | succ depth induction =>
      intro text value left done more rest
      rcases readValue_cases done with
        ⟨_, _, _, same, found, read, rfl⟩ | ⟨_, _, _, same, found, read, rfl⟩ | plain
      · cases same
        exact readValue_array (skipSpace_cons found rest) (readBracketed_append induction read rest)
      · cases same
        exact readValue_object (skipSpace_cons found rest)
          (readBracketed_append (readMember_steady induction) read rest)
      · exact scalar plain more rest

/-- An object shows its own end. -/
theorem readValue_object_append {depth : Nat} {text inside left : List Char} {value : Json}
    (opens : skipSpace text = '\x7b' :: inside)
    (done : readValue? depth text = some (value, left)) (rest : List Char) :
    readValue? depth (text ++ rest) = some (value, left ++ rest) := by
  rcases readValue_cases done with
    ⟨_, _, _, _, found, _⟩ | ⟨below, _, _, rfl, found, read, rfl⟩ | plain
  · rw [opens] at found
    cases found
  · rw [opens] at found
    cases found
    exact readValue_object (skipSpace_cons opens rest)
      (readBracketed_append (readMember_steady (readValue_steady below)) read rest)
  · rw [opens] at plain
    cases plain

/-! ### Depth -/

/-- One reader reads all that another one reads. -/
def Covers (wide narrow : List Char → Option (α × List Char)) : Prop :=
  ∀ {text result}, narrow text = some result → wide text = some result

theorem readSequence_covers {close : Char} {wide narrow : List Char → Option (α × List Char)}
    (covers : Covers wide narrow) {fuel : Nat} {read : List α} {text : List Char}
    {result : List α × List Char}
    (done : readSequence? close narrow fuel read text = some result) :
    readSequence? close wide fuel read text = some result := by
  induction fuel generalizing read text with
  | zero => cases done
  | succ fuel induction =>
      simp only [readSequence?, Option.bind_eq_bind, Option.bind_eq_some_iff] at done ⊢
      obtain ⟨⟨item, after⟩, one, next⟩ := done
      refine ⟨_, covers one, ?_⟩
      simp only at next ⊢
      split at next
      · exact induction next
      · exact next
      · exact next

theorem readBracketed_covers {close : Char} {wide narrow : List Char → Option (α × List Char)}
    (covers : Covers wide narrow) :
    Covers (readBracketed? close wide) (readBracketed? close narrow) := by
  intro text result done
  unfold readBracketed? at done ⊢
  split at done
  · exact done
  · split at done
    · next closes =>
        rw [if_pos closes]
        exact done
    · next opens =>
        rw [if_neg opens]
        exact readSequence_covers covers done

theorem readMember_covers {wide narrow : List Char → Option (Json × List Char)}
    (covers : Covers wide narrow) : Covers (readMember? wide) (readMember? narrow) := by
  intro text result done
  unfold readMember? at done ⊢
  split at done
  · simp only [Option.bind_eq_bind, Option.bind_eq_some_iff] at done ⊢
    obtain ⟨⟨key, after⟩, keyRead, done⟩ := done
    refine ⟨_, keyRead, ?_⟩
    simp only at done ⊢
    split at done
    · simp only [Option.bind_eq_some_iff] at done ⊢
      obtain ⟨⟨value, behind⟩, valueRead, same⟩ := done
      exact ⟨_, covers valueRead, same⟩
    · exact done
  · exact done

/-- More nesting may be allowed. -/
theorem readValue_deeper (depth : Nat) : Covers (readValue? (depth + 1)) (readValue? depth) := by
  induction depth with
  | zero =>
      rintro text ⟨value, left⟩ done
      rcases readValue_cases done with ⟨_, _, _, none, _⟩ | ⟨_, _, _, none, _⟩ | plain
      · cases none
      · cases none
      · exact readValue_scalar plain _
  | succ depth induction =>
      rintro text ⟨value, left⟩ done
      rcases readValue_cases done with
        ⟨_, _, _, same, found, read, rfl⟩ | ⟨_, _, _, same, found, read, rfl⟩ | plain
      · cases same
        exact readValue_array found (readBracketed_covers induction read)
      · cases same
        exact readValue_object found (readBracketed_covers (readMember_covers induction) read)
      · exact readValue_scalar plain _

end StreamQuery.Json
