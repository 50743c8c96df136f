import StreamQuery.Literal.Checked
import StreamQuery.Proofs.Record.TypedValue
/-!
# The two conversions of values

On the way in a value of data exchange is stored as a literal of a column type; on the way out it
is brought to the form that a record field reads. The two are written apart and agree at every type:
what can be stored can be brought, to a form that is stored as the same literal, and what has been
brought stays as it is and can be stored, but for integers that are too great for a column.
-/

namespace StreamQuery

open Decimal Text

/-- The values that data exchange has: integers of a word, finite doubles, and objects whose members
are in order. -/
inductive Json.Valid : Json → Prop where
  | null : Valid .null
  | bool (value : Bool) : Valid (.bool value)
  | int {value : Int} (fits : fitsSigned 64 value = true ∨ fitsUnsigned 64 value = true) :
      Valid (.int value)
  | double {value : Binary64} (finite : value.isFinite = true) : Valid (.double value)
  | string (content : String) : Valid (.string content)
  | array {items : List Json} (all : ∀ item ∈ items, Valid item) : Valid (.array items)
  | object {members : Keyed Json} (ordered : members.Ordered)
      (all : ∀ member ∈ members, Valid member.2) : Valid (.object members)

/-- The literals of a column type. Null is of no type, and so there is none inside a container. -/
inductive Literal.OfType : ColumnType → Literal → Prop where
  | boolean (value : Bool) : OfType .boolean (.boolean value)
  | int {value : Int} (fits : fitsSigned 32 value = true) : OfType .int (.integer value)
  | bigint {value : Int} (fits : fitsSigned 64 value = true) : OfType .bigint (.integer value)
  | double {value : Binary64} (finite : value.isFinite = true) : OfType .double (.double value)
  | string (content : String) : OfType .string (.string content)
  | bytes (content : List UInt8) : OfType .bytes (.bytes content)
  | array {element : ColumnType} {items : List Literal}
      (all : ∀ item ∈ items, OfType element item) : OfType (.array element) (.array items)
  | map {value : ColumnType} {entries : Keyed Literal} (ordered : entries.Ordered)
      (all : ∀ entry ∈ entries, OfType value entry.2) : OfType (.map value) (.map entries)

namespace Row

/-- The forms in which a record field of a column type reads its values. -/
inductive Brought : ColumnType → Json → Prop where
  | boolean (value : Bool) : Brought .boolean (.bool value)
  | int {value : Int} (fits : fitsSigned 32 value = true) : Brought .int (.int value)
  | bigint {value : Int} (fits : fitsSigned 64 value = true ∨ fitsUnsigned 64 value = true) :
      Brought .bigint (.int value)
  | double {value : Binary64} (finite : value.isFinite = true) : Brought .double (.double value)
  | string (content : String) : Brought .string (.string content)
  | bytes (content : List UInt8) : Brought .bytes (bytesAsJson content)
  | array {element : ColumnType} {items : List Json} (all : ∀ item ∈ items, Brought element item) :
      Brought (.array element) (.array items)
  | map {value : ColumnType} {members : List (String × Json)}
      (all : ∀ member ∈ members, Brought value member.2) : Brought (.map value) (.object members)

/-- Some integer in the place of a 64-bit column is past the greatest one of a signed word. -/
inductive ExceedsBigint : ColumnType → Json → Prop where
  | leaf {value : Int} (past : 2 ^ 63 ≤ value) : ExceedsBigint .bigint (.int value)
  | item {element : ColumnType} {items : List Json} {item : Json} (member : item ∈ items)
      (inside : ExceedsBigint element item) : ExceedsBigint (.array element) (.array items)
  | entry {value : ColumnType} {members : List (String × Json)} {member : String × Json}
      (among : member ∈ members) (inside : ExceedsBigint value member.2) :
      ExceedsBigint (.map value) (.object members)

end Row

/-! ### Containers item by item -/

theorem mapError_ok {ε ζ α : Type} {change : ε → ζ} {result : Except ε α} {value : α} :
    result.mapError change = .ok value ↔ result = .ok value := by
  cases result <;> simp [Except.mapError]

namespace Row

theorem convertItems_iff {convert : Json → Except ConversionError Json} {index : Nat}
    {items converted : List Json} :
    convertItems convert index items = .ok converted ↔
      List.Forall₂ (fun item result => convert item = .ok result) items converted := by
  constructor
  · intro done
    induction items generalizing index converted with
    | nil =>
        cases done
        exact .nil
    | cons item rest ih =>
        obtain ⟨result, here, done⟩ := ok_of_bind done
        obtain ⟨others, later, done⟩ := ok_of_bind done
        cases done
        exact .cons (mapError_ok.mp here) (ih later)
  · intro all
    induction all generalizing index with
    | nil => rfl
    | cons here rest ih =>
        rw [convertItems, here, ih]
        rfl

theorem convertMembers_iff {convert : Json → Except ConversionError Json}
    {members converted : List (String × Json)} :
    convertMembers convert members = .ok converted ↔
      List.Forall₂ (fun member result => result.1 = member.1 ∧ convert member.2 = .ok result.2)
        members converted := by
  constructor
  · intro done
    induction members generalizing converted with
    | nil =>
        cases done
        exact .nil
    | cons member rest ih =>
        obtain ⟨result, here, done⟩ := ok_of_bind done
        obtain ⟨others, later, done⟩ := ok_of_bind done
        cases done
        exact .cons ⟨rfl, mapError_ok.mp here⟩ (ih later)
  · intro all
    induction all with
    | nil => rfl
    | @cons member result _ _ here rest ih =>
        obtain ⟨key, value⟩ := member
        obtain ⟨_, found⟩ := result
        obtain ⟨rfl, here⟩ := here
        rw [convertMembers, here, ih]
        rfl

end Row

theorem Literal.mapValues_iff {α β ε : Type} {convert : α → Except ε β}
    {members : List (String × α)} {converted : List (String × β)} :
    mapValues convert members = .ok converted ↔
      List.Forall₂ (fun member result => result.1 = member.1 ∧ convert member.2 = .ok result.2)
        members converted := by
  constructor
  · intro done
    induction members generalizing converted with
    | nil =>
        cases done
        exact .nil
    | cons member rest ih =>
        obtain ⟨result, here, done⟩ := ok_of_bind done
        obtain ⟨others, later, done⟩ := ok_of_bind done
        cases done
        exact .cons ⟨rfl, here⟩ (ih later)
  · intro all
    induction all with
    | nil => rfl
    | @cons member result _ _ here rest ih =>
        obtain ⟨key, value⟩ := member
        obtain ⟨_, found⟩ := result
        obtain ⟨rfl, here⟩ := here
        rw [mapValues, here, ih]
        rfl

/-! ### What the two conversions do -/

namespace Row

variable {type element value : ColumnType} {json result : Json}

/-- A value that is no null is converted the same whether null is allowed or not. -/
theorem convert_present (present : json.isNull = false) (type : ColumnType) (nullable : Bool) :
    convert type nullable json = convert type false json := by
  unfold convert
  rw [if_neg (by simp [present]), if_neg (by simp [present])]

theorem present_of_convert (done : convert type false json = .ok result) :
    json.isNull = false := by
  by_contra null
  unfold convert at done
  rw [if_pos (by simpa using null)] at done
  cases done

theorem convert_array_iff (present : json.isNull = false) {nullable : Bool} :
    convert (.array element) nullable json = .ok result ↔
      ∃ items converted, json = .array items ∧ result = .array converted ∧
        List.Forall₂ (fun item found => convert element false item = .ok found) items
          converted := by
  cases json with
  | array items =>
      rw [convert_array]
      constructor
      · intro done
        obtain ⟨converted, found, rfl⟩ := ok_of_map done
        exact ⟨items, converted, rfl, rfl, convertItems_iff.mp found⟩
      · rintro ⟨_, converted, same, rfl, all⟩
        cases same
        rw [convertItems_iff.mpr all]
        rfl
  | null => cases present
  | _ => simp [convert, Json.isNull]

theorem convert_map_iff (present : json.isNull = false) {nullable : Bool} :
    convert (.map value) nullable json = .ok result ↔
      ∃ members converted, json = .object members ∧ result = .object converted ∧
        List.Forall₂ (fun member found =>
          found.1 = member.1 ∧ convert value false member.2 = .ok found.2) members converted := by
  cases json with
  | object members =>
      rw [convert_map]
      constructor
      · intro done
        obtain ⟨converted, found, rfl⟩ := ok_of_map done
        exact ⟨members, converted, rfl, rfl, convertMembers_iff.mp found⟩
      · rintro ⟨_, converted, same, rfl, all⟩
        cases same
        rw [convertMembers_iff.mpr all]
        rfl
  | null => cases present
  | _ => simp [convert, Json.isNull]

end Row

namespace Literal

variable {type element value : ColumnType} {json : Json} {literal : Literal}

theorem elementOfJson_iff {convert : Json → Except ConversionError Literal} :
    elementOfJson element convert json = .ok literal ↔
      json.isNull = false ∧ convert json = .ok literal := by
  unfold elementOfJson
  cases json.isNull <;> simp

theorem ofJson_array_iff (present : json.isNull = false) :
    ofJson (.array element) json = .ok literal ↔
      ∃ items literals, json = .array items ∧ literal = .array literals ∧
        List.Forall₂ (fun item found => item.isNull = false ∧ ofJson element item = .ok found)
          items literals := by
  cases json with
  | array items =>
      rw [ofJson_array]
      constructor
      · intro done
        obtain ⟨literals, found, rfl⟩ := ok_of_map done
        refine ⟨items, literals, rfl, rfl, (forall₂_of_mapM found).imp ?_⟩
        exact fun item literal => elementOfJson_iff.mp
      · rintro ⟨_, literals, same, rfl, all⟩
        cases same
        rw [mapM_of_forall₂ (all.imp fun item literal => elementOfJson_iff.mpr)]
        rfl
  | null => cases present
  | _ => simp [ofJson, Json.isNull]

theorem ofJson_map_iff (present : json.isNull = false) :
    ofJson (.map value) json = .ok literal ↔
      ∃ members literals, json = .object members ∧ literal = .map literals ∧
        List.Forall₂ (fun member found => found.1 = member.1 ∧ member.2.isNull = false ∧
          ofJson value member.2 = .ok found.2) members literals := by
  cases json with
  | object members =>
      rw [ofJson_map]
      constructor
      · intro done
        obtain ⟨literals, found, rfl⟩ := ok_of_map done
        refine ⟨members, literals, rfl, rfl, (mapValues_iff.mp found).imp ?_⟩
        exact fun member literal => And.imp_right elementOfJson_iff.mp
      · rintro ⟨_, literals, same, rfl, all⟩
        cases same
        rw [mapValues_iff.mpr (all.imp fun member literal => And.imp_right elementOfJson_iff.mpr)]
        rfl
  | null => cases present
  | _ => simp [ofJson, Json.isNull]

end Literal

/-! ### Scalars -/

theorem Json.Valid.asDouble? {json : Json} (valid : json.Valid) {value : Binary64}
    (read : json.asDouble? = some value) : value.isFinite = true := by
  cases valid with
  | @int number fits =>
      cases read
      apply Binary64.ofInt_isFinite
      simp only [fitsSigned, fitsUnsigned, wordSize, Bool.and_eq_true, decide_eq_true_eq] at fits
      norm_num at fits
      omega
  | double finite =>
      cases read
      exact finite
  | _ => cases read

namespace Json

variable {json : Json}

theorem ite_some_iff {fits : Int → Bool} {number value : Int} :
    (if fits number = true then some number else none) = some value ↔
      number = value ∧ fits value = true := by
  rw [Option.ite_none_right_eq_some, Option.some.injEq]
  constructor
  · rintro ⟨fits, rfl⟩
    exact ⟨rfl, fits⟩
  · rintro ⟨rfl, fits⟩
    exact ⟨fits, rfl⟩

theorem asSigned?_iff {value : Int} :
    json.asSigned? = some value ↔ json = .int value ∧ fitsSigned 64 value = true := by
  cases json with
  | int number => simp only [asSigned?, ite_some_iff, Json.int.injEq]
  | _ => simp [asSigned?]

theorem asUnsigned?_iff {value : Int} :
    json.asUnsigned? = some value ↔ json = .int value ∧ fitsUnsigned 64 value = true := by
  cases json with
  | int number => simp only [asUnsigned?, ite_some_iff, Json.int.injEq]
  | _ => simp [asUnsigned?]

theorem asInteger?_iff {value : Int} :
    json.asSigned?.or json.asUnsigned? = some value ↔
      json = .int value ∧ (fitsSigned 64 value = true ∨ fitsUnsigned 64 value = true) := by
  rw [Option.or_eq_some_iff, asSigned?_iff, asUnsigned?_iff]
  constructor
  · rintro (⟨same, fits⟩ | ⟨-, same, fits⟩)
    · exact ⟨same, .inl fits⟩
    · exact ⟨same, .inr fits⟩
  · rintro ⟨rfl, fits⟩
    by_cases word : fitsSigned 64 value = true
    · exact .inl ⟨rfl, word⟩
    · exact .inr ⟨if_neg word, rfl, fits.resolve_left word⟩

theorem asSigned?_filter_iff {value : Int} :
    json.asSigned?.filter (fitsSigned 32) = some value ↔
      json = .int value ∧ fitsSigned 32 value = true := by
  rw [Option.filter_eq_some_iff, asSigned?_iff]
  constructor
  · rintro ⟨⟨same, -⟩, fits⟩
    exact ⟨same, fits⟩
  · rintro ⟨same, fits⟩
    exact ⟨⟨same, fitsSigned_mono (by decide) fits⟩, fits⟩

end Json

namespace Row

variable {json result : Json}

theorem convert_boolean_iff :
    convertScalar .boolean json = .ok result ↔
      ∃ value, json.asBool? = some value ∧ result = .bool value := by
  cases found : json.asBool? <;> simp [convertScalar, found, eq_comm]

theorem convert_int_iff :
    convertScalar .int json = .ok result ↔
      ∃ value, json.asSigned?.filter (fitsSigned 32) = some value ∧ result = .int value := by
  cases found : json.asSigned?.filter (fitsSigned 32) <;> simp [convertScalar, found, eq_comm]

theorem convert_bigint_iff :
    convertScalar .bigint json = .ok result ↔
      ∃ value, json.asSigned?.or json.asUnsigned? = some value ∧ result = .int value := by
  cases found : json.asSigned?.or json.asUnsigned? <;> simp [convertScalar, found, eq_comm]

theorem convert_double_iff :
    convertScalar .double json = .ok result ↔
      ∃ value, json.asDouble? = some value ∧ result = Json.ofDouble value := by
  cases found : json.asDouble? <;> simp [convertScalar, found, eq_comm]

theorem convert_string_iff :
    convertScalar .string json = .ok result ↔
      ∃ content, json.asString? = some content ∧ result = .string content := by
  cases found : json.asString? <;> simp [convertScalar, found, eq_comm]

/-- Byte strings come as lists or as base 64. -/
theorem convert_bytes_iff :
    convertScalar .bytes json = .ok result ↔
      ∃ content, result = bytesAsJson content ∧
        ((∃ items, json = .array items ∧ items.mapM Json.asByte? = some content) ∨
          ∃ text, json = .string text ∧ Base64.decode? text.toList = some content) := by
  cases json with
  | string text =>
      cases decoded : Base64.decode? text.toList <;>
        simp [convertScalar, convertBytes, decoded, eq_comm]
  | array items =>
      cases bytes : items.mapM Json.asByte? <;>
        simp [convertScalar, convertBytes, bytes, eq_comm]
  | _ => simp [convertScalar, convertBytes]

end Row

namespace Literal

variable {json : Json} {literal : Literal}

theorem boolean_ofJson_iff :
    scalarOfJson .boolean json = .ok literal ↔
      ∃ value, json.asBool? = some value ∧ literal = .boolean value := by
  cases found : json.asBool? <;> simp [scalarOfJson, found, eq_comm]

theorem int_ofJson_iff :
    scalarOfJson .int json = .ok literal ↔
      ∃ value, json.asSigned?.filter (fitsSigned 32) = some value ∧ literal = .integer value := by
  cases found : json.asSigned?.filter (fitsSigned 32) <;> simp [scalarOfJson, found, eq_comm]

theorem bigint_ofJson_iff :
    scalarOfJson .bigint json = .ok literal ↔
      ∃ value, json.asSigned? = some value ∧ literal = .integer value := by
  cases json with
  | int value =>
      cases word : fitsSigned 64 value with
      | false => simp [scalarOfJson, bigintOfJson, Json.asSigned?, word]
      | true =>
          simp only [scalarOfJson, bigintOfJson, Json.asSigned?, word, if_true, Except.ok.injEq,
            Option.some.injEq, exists_eq_left']
          exact eq_comm
  | _ => simp [scalarOfJson, bigintOfJson, Json.asSigned?]

theorem double_ofJson_iff :
    scalarOfJson .double json = .ok literal ↔
      ∃ value, json.asDouble? = some value ∧ literal = .double value := by
  cases found : json.asDouble? <;> simp [scalarOfJson, found, eq_comm]

theorem string_ofJson_iff :
    scalarOfJson .string json = .ok literal ↔
      ∃ content, json.asString? = some content ∧ literal = .string content := by
  cases found : json.asString? <;> simp [scalarOfJson, found, eq_comm]

theorem bytes_ofJson_iff :
    scalarOfJson .bytes json = .ok literal ↔
      ∃ content, literal = .bytes content ∧
        ∃ items, json = .array items ∧ items.mapM Json.asByte? = some content := by
  cases json with
  | array items =>
      cases bytes : items.mapM Json.asByte? <;>
        simp [scalarOfJson, Json.asArray?, bytes, eq_comm]
  | _ => simp [scalarOfJson, Json.asArray?]

end Literal

/-! ### Brought values -/

theorem fitsSigned_of_less {value : Int}
    (fits : fitsSigned 64 value = true ∨ fitsUnsigned 64 value = true) (less : value < 2 ^ 63) :
    fitsSigned 64 value = true := by
  simp only [fitsSigned, fitsUnsigned, wordSize, Bool.and_eq_true, decide_eq_true_eq] at fits ⊢
  norm_num at fits less ⊢
  omega

namespace Row

variable {type : ColumnType} {json result : Json}

theorem convertScalar_brought (valid : json.Valid) (done : convertScalar type json = .ok result) :
    Brought type result := by
  cases type with
  | boolean =>
      obtain ⟨value, -, rfl⟩ := convert_boolean_iff.mp done
      exact .boolean value
  | int =>
      obtain ⟨value, read, rfl⟩ := convert_int_iff.mp done
      exact .int (Json.asSigned?_filter_iff.mp read).2
  | bigint =>
      obtain ⟨value, read, rfl⟩ := convert_bigint_iff.mp done
      exact .bigint (Json.asInteger?_iff.mp read).2
  | double =>
      obtain ⟨value, read, rfl⟩ := convert_double_iff.mp done
      have finite := valid.asDouble? read
      rw [Json.ofDouble, if_pos finite]
      exact .double finite
  | string =>
      obtain ⟨content, -, rfl⟩ := convert_string_iff.mp done
      exact .string content
  | bytes =>
      obtain ⟨content, rfl, -⟩ := convert_bytes_iff.mp done
      exact .bytes content
  | array element => cases done
  | map value => cases done

/-- What a value of data exchange is brought to. -/
theorem convert_brought (valid : json.Valid) (done : convert type false json = .ok result) :
    Brought type result := by
  have present := present_of_convert done
  induction type generalizing json result with
  | array element ih =>
      obtain ⟨items, converted, rfl, rfl, all⟩ := (convert_array_iff present).mp done
      cases valid with
      | array valid =>
          refine .array fun item among => ?_
          obtain ⟨source, member, done⟩ := exists_item all among
          exact ih (valid source member) done (present_of_convert done)
  | map value ih =>
      obtain ⟨members, converted, rfl, rfl, all⟩ := (convert_map_iff present).mp done
      cases valid with
      | object ordered valid =>
          refine .map fun member among => ?_
          obtain ⟨source, member, -, done⟩ := exists_item all among
          exact ih (valid source member) done (present_of_convert done)
  | _ =>
      rw [convert_scalar rfl present] at done
      exact convertScalar_brought valid done

theorem Brought.present (brought : Brought type json) : json.isNull = false := by
  cases brought <;> rfl

/-- What has been brought stays as it is. -/
theorem Brought.convert (brought : Brought type json) : convert type false json = .ok json := by
  have present := brought.present
  induction brought with
  | boolean value =>
      rw [convert_scalar rfl present, convert_boolean_iff]
      exact ⟨value, rfl, rfl⟩
  | int fits =>
      rw [convert_scalar rfl present, convert_int_iff]
      exact ⟨_, Json.asSigned?_filter_iff.mpr ⟨rfl, fits⟩, rfl⟩
  | bigint fits =>
      rw [convert_scalar rfl present, convert_bigint_iff]
      exact ⟨_, Json.asInteger?_iff.mpr ⟨rfl, fits⟩, rfl⟩
  | double finite =>
      rw [convert_scalar rfl present, convert_double_iff]
      exact ⟨_, rfl, (if_pos finite).symm⟩
  | string content =>
      rw [convert_scalar rfl present, convert_string_iff]
      exact ⟨content, rfl, rfl⟩
  | bytes content =>
      rw [convert_scalar rfl present, convert_bytes_iff]
      exact ⟨content, rfl, .inl ⟨_, rfl, mapM_asByte? content⟩⟩
  | array all ih =>
      refine (convert_array_iff present).mpr ⟨_, _, rfl, rfl, List.forall₂_same.mpr ?_⟩
      exact fun item member => ih item member (all item member).present
  | map all ih =>
      refine (convert_map_iff present).mpr ⟨_, _, rfl, rfl, List.forall₂_same.mpr ?_⟩
      exact fun entry member => ⟨rfl, ih entry member (all entry member).present⟩

/-- What has been brought can be stored, if no integer in it is too great. -/
theorem Brought.stored (brought : Brought type json) (within : ¬ExceedsBigint type json) :
    ∃ literal, Literal.ofJson type json = .ok literal := by
  have present := brought.present
  induction brought with
  | boolean value =>
      rw [Literal.ofJson_scalar rfl present]
      exact ⟨_, Literal.boolean_ofJson_iff.mpr ⟨value, rfl, rfl⟩⟩
  | int fits =>
      rw [Literal.ofJson_scalar rfl present]
      exact ⟨_, Literal.int_ofJson_iff.mpr
        ⟨_, Json.asSigned?_filter_iff.mpr ⟨rfl, fits⟩, rfl⟩⟩
  | bigint fits =>
      have word := fitsSigned_of_less fits (not_le.mp fun past => within (.leaf past))
      rw [Literal.ofJson_scalar rfl present]
      exact ⟨_, Literal.bigint_ofJson_iff.mpr ⟨_, Json.asSigned?_iff.mpr ⟨rfl, word⟩, rfl⟩⟩
  | double finite =>
      rw [Literal.ofJson_scalar rfl present]
      exact ⟨_, Literal.double_ofJson_iff.mpr ⟨_, rfl, rfl⟩⟩
  | string content =>
      rw [Literal.ofJson_scalar rfl present]
      exact ⟨_, Literal.string_ofJson_iff.mpr ⟨content, rfl, rfl⟩⟩
  | bytes content =>
      rw [Literal.ofJson_scalar rfl present]
      exact ⟨_, Literal.bytes_ofJson_iff.mpr ⟨content, rfl, _, rfl, mapM_asByte? content⟩⟩
  | @array element items all ih =>
      have each : ∀ item ∈ items, ∃ literal, item.isNull = false ∧
          Literal.ofJson element item = .ok literal := by
        intro item member
        obtain ⟨literal, stored⟩ :=
          ih item member (fun exceeds => within (.item member exceeds)) (all item member).present
        exact ⟨literal, (all item member).present, stored⟩
      obtain ⟨literals, found⟩ := exists_forall₂.mpr each
      exact ⟨_, (Literal.ofJson_array_iff present).mpr ⟨items, literals, rfl, rfl, found⟩⟩
  | @map value members all ih =>
      have each : ∀ member ∈ members, ∃ entry : String × Literal, entry.1 = member.1 ∧
          member.2.isNull = false ∧ Literal.ofJson value member.2 = .ok entry.2 := by
        intro member among
        obtain ⟨literal, stored⟩ :=
          ih member among (fun exceeds => within (.entry among exceeds)) (all member among).present
        exact ⟨(member.1, literal), rfl, (all member among).present, stored⟩
      obtain ⟨entries, found⟩ := exists_forall₂.mpr each
      exact ⟨_, (Literal.ofJson_map_iff present).mpr ⟨members, entries, rfl, rfl, found⟩⟩

/-- An integer that is too great is stored in no container either. -/
theorem ExceedsBigint.refused (exceeds : ExceedsBigint type json) (literal : Literal) :
    Literal.ofJson type json ≠ .ok literal := by
  induction exceeds generalizing literal with
  | leaf past =>
      rw [Literal.ofJson_scalar rfl rfl]
      intro stored
      obtain ⟨number, read, -⟩ := Literal.bigint_ofJson_iff.mp stored
      obtain ⟨same, fits⟩ := Json.asSigned?_iff.mp read
      cases same
      simp only [fitsSigned, wordSize, Bool.and_eq_true] at fits
      norm_num at fits past
      omega
  | item member inside ih =>
      intro stored
      obtain ⟨_, literals, same, -, all⟩ := (Literal.ofJson_array_iff rfl).mp stored
      cases same
      obtain ⟨found, -, -, stored⟩ := exists_result all member
      exact ih found stored
  | entry among inside ih =>
      intro stored
      obtain ⟨_, entries, same, -, all⟩ := (Literal.ofJson_map_iff rfl).mp stored
      cases same
      obtain ⟨found, -, -, -, stored⟩ := exists_result all among
      exact ih found.2 stored

theorem Brought.stored_iff (brought : Brought type json) :
    (∃ literal, Literal.ofJson type json = .ok literal) ↔ ¬ExceedsBigint type json :=
  ⟨fun ⟨literal, stored⟩ exceeds => exceeds.refused literal stored, brought.stored⟩

end Row

/-! ### Stored values -/

theorem Keyed.keys_of_forall₂ {α β : Type} {members : Keyed α} {entries : Keyed β}
    (same : List.Forall₂ (fun member entry => entry.1 = member.1) members entries) :
    keys entries = keys members := by
  induction same with
  | nil => rfl
  | cons first rest ih => exact congrArg₂ List.cons first ih

namespace Literal

variable {type : ColumnType} {json : Json} {literal : Literal}

theorem notFiniteItem?_none {items : List Literal} (all : ∀ item ∈ items, notFinite? item = none) :
    notFiniteItem? items = none := by
  induction items with
  | nil => rfl
  | cons item rest ih =>
      have later := ih fun other member => all other (List.mem_cons_of_mem _ member)
      rw [notFiniteItem?, all item List.mem_cons_self, later]

theorem notFiniteEntry?_none {entries : List (String × Literal)}
    (all : ∀ entry ∈ entries, notFinite? entry.2 = none) : notFiniteEntry? entries = none := by
  induction entries with
  | nil => rfl
  | cons entry rest ih =>
      have later := ih fun other member => all other (List.mem_cons_of_mem _ member)
      rw [ notFiniteEntry?, all entry List.mem_cons_self, later]

theorem OfType.finite (ofType : literal.OfType type) : literal.notFinite? = none := by
  induction ofType with
  | double finite => rw [notFinite?, if_pos finite]
  | array all ih => rw [notFinite?, notFiniteItem?_none ih]
  | map ordered all ih => rw [notFinite?, notFiniteEntry?_none ih]
  | _ => rfl

/-- Every literal of a column type has a text. -/
theorem OfType.checkedText (ofType : literal.OfType type) :
    literal.checkedText = .ok literal.text := by
  rw [Literal.checkedText, ofType.finite]

theorem scalar_returns (valid : json.Valid) (stored : scalarOfJson type json = .ok literal) :
    ∃ converted, Row.convertScalar type json = .ok converted ∧ converted.isNull = false ∧
      scalarOfJson type converted = .ok literal ∧ literal.OfType type := by
  cases type with
  | boolean =>
      obtain ⟨value, read, rfl⟩ := boolean_ofJson_iff.mp stored
      exact ⟨.bool value, Row.convert_boolean_iff.mpr ⟨value, read, rfl⟩, rfl,
        boolean_ofJson_iff.mpr ⟨value, rfl, rfl⟩, .boolean value⟩
  | int =>
      obtain ⟨value, read, rfl⟩ := int_ofJson_iff.mp stored
      obtain ⟨rfl, fits⟩ := Json.asSigned?_filter_iff.mp read
      exact ⟨.int value, Row.convert_int_iff.mpr ⟨value, read, rfl⟩, rfl, stored, .int fits⟩
  | bigint =>
      obtain ⟨value, read, rfl⟩ := bigint_ofJson_iff.mp stored
      obtain ⟨rfl, fits⟩ := Json.asSigned?_iff.mp read
      have integer := Json.asInteger?_iff.mpr ⟨rfl, .inl fits⟩
      exact ⟨.int value, Row.convert_bigint_iff.mpr ⟨value, integer, rfl⟩, rfl, stored,
        .bigint fits⟩
  | double =>
      obtain ⟨value, read, rfl⟩ := double_ofJson_iff.mp stored
      have finite := valid.asDouble? read
      exact ⟨.double value, Row.convert_double_iff.mpr ⟨value, read, (if_pos finite).symm⟩, rfl,
        double_ofJson_iff.mpr ⟨value, rfl, rfl⟩, .double finite⟩
  | string =>
      obtain ⟨content, read, rfl⟩ := string_ofJson_iff.mp stored
      exact ⟨.string content, Row.convert_string_iff.mpr ⟨content, read, rfl⟩, rfl,
        string_ofJson_iff.mpr ⟨content, rfl, rfl⟩, .string content⟩
  | bytes =>
      obtain ⟨content, rfl, items, rfl, read⟩ := bytes_ofJson_iff.mp stored
      exact ⟨Row.bytesAsJson content,
        Row.convert_bytes_iff.mpr ⟨content, rfl, .inl ⟨items, rfl, read⟩⟩, rfl,
        bytes_ofJson_iff.mpr ⟨content, rfl, _, rfl, mapM_asByte? content⟩, .bytes content⟩
  | array element => cases stored
  | map value => cases stored

/-- What can be stored can be brought, and is then stored as the same literal. -/
theorem ofJson_returns (valid : json.Valid) (present : json.isNull = false)
    (stored : ofJson type json = .ok literal) :
    ∃ converted, Row.convert type false json = .ok converted ∧ converted.isNull = false ∧
      ofJson type converted = .ok literal ∧ literal.OfType type := by
  induction type generalizing json literal with
  | array element ih =>
      obtain ⟨items, literals, rfl, rfl, all⟩ := (ofJson_array_iff present).mp stored
      cases valid with
      | array valid =>
          have each : ∀ item ∈ items, ∀ literal,
              (item.isNull = false ∧ ofJson element item = .ok literal) →
              ∃ middle, Row.convert element false item = .ok middle ∧
                (middle.isNull = false ∧ ofJson element middle = .ok literal) ∧
                literal.OfType element := by
            rintro item member literal ⟨present, stored⟩
            obtain ⟨middle, done, some, again, ofType⟩ := ih (valid item member) present stored
            exact ⟨middle, done, ⟨some, again⟩, ofType⟩
          obtain ⟨converted, done, again⟩ := exists_between all each
          refine ⟨.array converted, ?_, rfl, ?_, .array fun literal member => ?_⟩
          · exact (Row.convert_array_iff rfl).mpr ⟨items, converted, rfl, rfl, done⟩
          · refine (ofJson_array_iff rfl).mpr ⟨converted, literals, rfl, rfl, again.imp ?_⟩
            exact fun middle literal => And.left
          · obtain ⟨middle, -, -, ofType⟩ := exists_item again member
            exact ofType
  | map value ih =>
      obtain ⟨members, entries, rfl, rfl, all⟩ := (ofJson_map_iff present).mp stored
      cases valid with
      | object ordered valid =>
          have each : ∀ member ∈ members, ∀ entry : String × Literal,
              (entry.1 = member.1 ∧ member.2.isNull = false ∧
                ofJson value member.2 = .ok entry.2) →
              ∃ middle : String × Json,
                (middle.1 = member.1 ∧ Row.convert value false member.2 = .ok middle.2) ∧
                (entry.1 = middle.1 ∧ middle.2.isNull = false ∧
                  ofJson value middle.2 = .ok entry.2) ∧ entry.2.OfType value := by
            rintro member among entry ⟨key, present, stored⟩
            obtain ⟨middle, done, some, again, ofType⟩ := ih (valid member among) present stored
            exact ⟨(member.1, middle), ⟨rfl, done⟩, ⟨key, some, again⟩, ofType⟩
          obtain ⟨converted, done, again⟩ := exists_between all each
          have keys : Keyed.keys entries = Keyed.keys members :=
            Keyed.keys_of_forall₂ (all.imp fun member entry => And.left)
          have grown : Keyed.Ordered entries := by
            rw [Keyed.Ordered, keys]
            exact ordered
          refine ⟨.object converted, ?_, rfl, ?_, .map grown fun entry member => ?_⟩
          · exact (Row.convert_map_iff rfl).mpr ⟨members, converted, rfl, rfl, done⟩
          · refine (ofJson_map_iff rfl).mpr ⟨converted, entries, rfl, rfl, again.imp ?_⟩
            exact fun middle entry => And.left
          · obtain ⟨middle, -, -, ofType⟩ := exists_item again member
            exact ofType
  | _ =>
      rw [ofJson_scalar rfl present] at stored
      obtain ⟨converted, done, some, again, ofType⟩ := scalar_returns valid stored
      refine ⟨converted, ?_, some, ?_, ofType⟩
      · rwa [Row.convert_scalar rfl present]
      · rwa [ofJson_scalar rfl some]

end Literal

/-- The two conversions agree at every type. What can be stored is a literal of the type, has a
text, and can be brought to a form that is stored as the same literal; what has been brought stays
as it is, and can be stored unless an integer in it is too great for its column. -/
theorem conversions_agree (type : ColumnType) {json : Json} (valid : json.Valid)
    (present : json.isNull = false) :
    (∀ literal, Literal.ofJson type json = .ok literal →
        literal.OfType type ∧ literal.checkedText = .ok literal.text ∧
        ∃ converted, (∀ nullable, Row.convert type nullable json = .ok converted) ∧
          Literal.ofJson type converted = .ok literal) ∧
      ∀ nullable converted, Row.convert type nullable json = .ok converted →
        (∀ again, Row.convert type again converted = .ok converted) ∧
        ((∃ literal, Literal.ofJson type converted = .ok literal) ↔
          ¬Row.ExceedsBigint type converted) := by
  constructor
  · intro literal stored
    obtain ⟨converted, done, -, again, ofType⟩ := Literal.ofJson_returns valid present stored
    refine ⟨ofType, ofType.checkedText, converted, fun nullable => ?_, again⟩
    rw [Row.convert_present present, done]
  · intro nullable converted done
    rw [Row.convert_present present] at done
    have brought := Row.convert_brought valid done
    refine ⟨fun again => ?_, brought.stored_iff⟩
    rw [Row.convert_present brought.present, brought.convert]

/-- A map of byte strings, one of them of the greatest and the least byte. -/
def byteLists : Json :=
  .object [("a", .array []), ("b", .array [.int 255, .int 0])]

/-- A list of integers, one of them too great for a column. -/
def greatIntegers : Json :=
  .array [.int 5, .int (2 ^ 63)]

theorem byteLists_valid : byteLists.Valid := by
  refine .object (show ["a", "b"].Pairwise (· < ·) by decide) ?_
  intro member among
  rcases List.mem_cons.mp among with rfl | among
  · exact .array nofun
  · cases List.mem_singleton.mp among
    refine .array fun item member => ?_
    rcases List.mem_cons.mp member with rfl | member
    · exact .int (by decide)
    · cases List.mem_singleton.mp member
      exact .int (by decide)

theorem greatIntegers_valid : greatIntegers.Valid := by
  refine .array fun item member => ?_
  rcases List.mem_cons.mp member with rfl | member
  · exact .int (by decide)
  · cases List.mem_singleton.mp member
    exact .int (by decide)

theorem agreed_values :
    byteLists.Valid ∧ greatIntegers.Valid ∧
      (Literal.map [("a", .bytes []), ("b", .bytes [255, 0])]).OfType (.map .bytes) ∧
      Row.convert (.array .bigint) true greatIntegers = .ok greatIntegers ∧
      ¬∃ literal, Literal.ofJson (.array .bigint) greatIntegers = .ok literal := by
  have stored : Literal.ofJson (.map .bytes) byteLists =
      .ok (.map [("a", .bytes []), ("b", .bytes [255, 0])]) := by rfl
  have brought : Row.convert (.array .bigint) false greatIntegers = .ok greatIntegers := by rfl
  have bytes := (conversions_agree (.map .bytes) byteLists_valid rfl).1 _ stored
  have integers := (conversions_agree (.array .bigint) greatIntegers_valid rfl).2 _ _ brought
  have past : Row.ExceedsBigint (.array .bigint) greatIntegers :=
    .item (List.mem_cons_of_mem _ List.mem_cons_self) (.leaf le_rfl)
  exact ⟨byteLists_valid, greatIntegers_valid, bytes.1, integers.1 true,
    fun found => integers.2.mp found past⟩

end StreamQuery
