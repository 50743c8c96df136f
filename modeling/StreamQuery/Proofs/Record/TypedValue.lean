import StreamQuery.Proofs.Decimal.Representable
import StreamQuery.Proofs.Keyed
import StreamQuery.Proofs.Results
import StreamQuery.Proofs.Text.Base64Writing
import StreamQuery.Record.Value
import StreamQuery.Row.Convert
/-!
# Values of native types

A value of a native type is written as data exchange, stored as a literal, shown by the engine, and
read back from a row. At every type whose values are never absent inside a container, the value that
is read is the one that was written.
-/

namespace StreamQuery

open Decimal Text

namespace NativeType

/-- A type that is owned and mapped, without an option in it. -/
def isSolid : NativeType → Bool
  | bool | integer _ | single | double | char | string => true
  | list element => element.isSolid
  | map value => value.isSolid
  | borrowedText | option _ | declared _ | unmapped _ => false

/-- A solid type or an option of one. -/
def isStorable : NativeType → Bool
  | option content => content.isSolid
  | type => type.isSolid

theorem isSolid_columnType {type : NativeType} (solid : type.isSolid = true) :
    ∃ column, type.columnType = .ok column := by
  induction type with
  | list element ih =>
      obtain ⟨column, found⟩ := ih solid
      unfold columnType
      split
      · exact ⟨_, rfl⟩
      · exact ⟨column.array, by rw [found]; rfl⟩
  | map value ih =>
      obtain ⟨column, found⟩ := ih solid
      exact ⟨column.map, by rw [columnType, found]; rfl⟩
  | bool | integer | single | double | char | string => exact ⟨_, rfl⟩
  | _ => cases solid

end NativeType

/-- The values of a native type. Doubles are finite, and where the column type has 64 bits an integer
is one of a signed word. -/
inductive Inhabits : NativeType → NativeValue → Prop where
  | boolean (value : Bool) : Inhabits .bool (.boolean value)
  | integer {type : IntegerType} {value : Int} (held : type.holds value = true)
      (bounded : type.columnType = .bigint → fitsSigned 64 value = true) :
      Inhabits (.integer type) (.integer value)
  | single {value : Binary64} (exact : value.IsSingle) : Inhabits .single (.float value)
  | double {value : Binary64} (finite : value.isFinite = true) : Inhabits .double (.float value)
  | char (c : Char) : Inhabits .char (.text (String.singleton c))
  | string (content : String) : Inhabits .string (.text content)
  | list {element : NativeType} {items : List NativeValue}
      (all : ∀ item ∈ items, Inhabits element item) : Inhabits (.list element) (.list items)
  | map {value : NativeType} {entries : Keyed NativeValue} (ordered : entries.Ordered)
      (all : ∀ entry ∈ entries, Inhabits value entry.2) : Inhabits (.map value) (.map entries)
  | absent (content : NativeType) : Inhabits (.option content) .absent
  | present {content : NativeType} {value : NativeValue} (inside : Inhabits content value) :
      Inhabits (.option content) value

namespace Literal

mutual

/-- A stored literal as the engine shows it in a row: byte strings as base 64, all else as it is. -/
def shown : Literal → Json
  | .null => .null
  | .boolean value => .bool value
  | .integer value => .int value
  | .double value => Json.ofDouble value
  | .string content => .string content
  | .bytes content => .string (String.ofList (Base64.encode content))
  | .array items => .array (shownItems items)
  | .map entries => .object (shownEntries entries)

def shownItems : List Literal → List Json
  | [] => []
  | item :: rest => shown item :: shownItems rest

def shownEntries : List (String × Literal) → List (String × Json)
  | [] => []
  | (key, value) :: rest => (key, shown value) :: shownEntries rest

end

end Literal

/-- A value goes out as a literal and comes back as itself. -/
structure Returns (type : NativeType) (column : ColumnType) (value : NativeValue)
    (literal : Literal) (converted : Json) : Prop where
  written : value.toJson.isNull = false
  stored : Literal.ofJson column value.toJson = .ok literal
  shown : literal.shown.isNull = false
  brought : ∀ nullable, Row.convert column nullable literal.shown = .ok converted
  kept : converted.isNull = false
  read : NativeValue.read type converted = .ok value

/-! ### Scalars and containers -/

namespace Row

variable {type : ColumnType} {json : Json}

theorem convert_scalar (scalar : type.isContainer = false) (present : json.isNull = false)
    (nullable : Bool) : convert type nullable json = convertScalar type json := by
  unfold convert
  rw [if_neg (by simp [present])]
  cases type with
  | array element => cases scalar
  | map value => cases scalar
  | _ => rfl

theorem convert_array (element : ColumnType) (nullable : Bool) (items : List Json) :
    convert (.array element) nullable (.array items) =
      (convertItems (convert element false) 0 items).map .array :=
  rfl

theorem convert_map (value : ColumnType) (nullable : Bool) (members : List (String × Json)) :
    convert (.map value) nullable (.object members) =
      (convertMembers (convert value false) members).map .object :=
  rfl

end Row

namespace Literal

variable {type : ColumnType} {json : Json}

theorem ofJson_scalar (scalar : type.isContainer = false) (present : json.isNull = false) :
    ofJson type json = scalarOfJson type json := by
  unfold ofJson
  rw [if_neg (by simp [present])]
  cases type with
  | array element => cases scalar
  | map value => cases scalar
  | _ => rfl

theorem ofJson_array (element : ColumnType) (items : List Json) :
    ofJson (.array element) (.array items) =
      (items.mapM (elementOfJson element (ofJson element))).map .array :=
  rfl

theorem ofJson_map (value : ColumnType) (members : List (String × Json)) :
    ofJson (.map value) (.object members) =
      (mapValues (elementOfJson value (ofJson value)) members).map .map :=
  rfl

end Literal

/-! ### Integers -/

theorem wordSize_mono {narrow wide : Nat} (le : narrow ≤ wide) : wordSize narrow ≤ wordSize wide :=
  Nat.pow_le_pow_right (by decide) le

theorem fitsSigned_mono {narrow wide : Nat} (le : narrow ≤ wide) {value : Int}
    (fits : fitsSigned narrow value = true) : fitsSigned wide value = true := by
  have grows := wordSize_mono (show narrow - 1 ≤ wide - 1 by omega)
  simp only [fitsSigned, Bool.and_eq_true, decide_eq_true_eq] at fits ⊢
  omega

theorem fitsSigned_of_unsigned {narrow wide : Nat} (less : narrow < wide) {value : Int}
    (fits : fitsUnsigned narrow value = true) : fitsSigned wide value = true := by
  have grows := wordSize_mono (show narrow ≤ wide - 1 by omega)
  simp only [fitsSigned, fitsUnsigned, Bool.and_eq_true, decide_eq_true_eq] at fits ⊢
  omega

namespace IntegerType

variable {type : IntegerType} {value : Int}

/-- A column of 32 bits holds every value of the types that go there. -/
theorem fits_int (held : type.holds value = true) (narrow : type.columnType = .int) :
    fitsSigned 32 value = true := by
  obtain ⟨signed, bits, machine⟩ := type
  unfold columnType at narrow
  cases machine with
  | true => simp at narrow
  | false =>
      cases signed with
      | true =>
          have few : bits ≤ 32 := by
            by_contra many
            simp [many] at narrow
          exact fitsSigned_mono few held
      | false =>
          have few : bits ≤ 16 := by
            by_contra many
            simp [many] at narrow
          have held : fitsUnsigned bits value = true := held
          exact fitsSigned_of_unsigned (by omega) held

theorem columnType_cases (type : IntegerType) :
    type.columnType = .int ∨ type.columnType = .bigint :=
  ite_eq_or_eq _ _ _

end IntegerType

/-! ### Scalars -/

theorem read_integer {type : IntegerType} {value : Int} (held : type.holds value = true) :
    NativeValue.read (.integer type) (.int value) = .ok (.integer value) :=
  if_pos held

theorem read_single {value : Binary64} (exact : value.IsSingle) :
    NativeValue.read .single (.double value) = .ok (.float value) :=
  congrArg (Except.ok ∘ NativeValue.float) (Binary64.throughSingle_exact exact)

theorem read_char (c : Char) :
    NativeValue.read .char (.string (String.singleton c)) = .ok (.text (String.singleton c)) :=
  if_pos (by simp)

/-- A value returns from a scalar column if the two conversions of scalars agree on it. -/
theorem Returns.ofScalar {type : NativeType} {column : ColumnType} {value : NativeValue}
    {literal : Literal} {converted : Json} (scalar : column.isContainer = false)
    (written : value.toJson.isNull = false) (shown : literal.shown.isNull = false)
    (stored : Literal.scalarOfJson column value.toJson = .ok literal)
    (brought : Row.convertScalar column literal.shown = .ok converted)
    (kept : converted.isNull = false) (read : NativeValue.read type converted = .ok value) :
    Returns type column value literal converted where
  written := written
  stored := (Literal.ofJson_scalar scalar written).trans stored
  shown := shown
  brought nullable := (Row.convert_scalar scalar shown nullable).trans brought
  kept := kept
  read := read

theorem integer_returns {type : IntegerType} {value : Int} (held : type.holds value = true)
    (bounded : type.columnType = .bigint → fitsSigned 64 value = true) :
    Returns (.integer type) type.columnType (.integer value) (.integer value) (.int value) := by
  have read := read_integer held
  rcases type.columnType_cases with narrow | wide
  · have fits := IntegerType.fits_int held narrow
    have word := fitsSigned_mono (show 32 ≤ 64 by decide) fits
    have found : (Json.int value).asSigned?.filter (fitsSigned 32) = some value := by
      simp [Json.asSigned?, word, fits, Option.filter]
    rw [narrow]
    refine .ofScalar rfl rfl rfl ?_ ?_ rfl read
    · simp only [NativeValue.toJson, Literal.scalarOfJson, found, Option.map_some]
    · simp only [Literal.shown, Row.convertScalar, found, Option.map_some]
  · have word := bounded wide
    have found : (Json.int value).asSigned? = some value := if_pos word
    rw [wide]
    refine .ofScalar rfl rfl rfl (if_pos word) ?_ rfl read
    simp only [Literal.shown, Row.convertScalar, found, Option.orElse_some, Option.map_some]

theorem float_returns {value : Binary64} (finite : value.isFinite = true) {type : NativeType}
    (read : NativeValue.read type (.double value) = .ok (.float value)) :
    Returns type .double (.float value) (.double value) (.double value) := by
  have number : Json.ofDouble value = .double value := if_pos finite
  have written : (NativeValue.float value).toJson = .double value := number
  have shown : (Literal.double value).shown = .double value := number
  refine .ofScalar rfl (by rw [written]; rfl) (by rw [shown]; rfl) ?_ ?_ rfl read
  · rw [written]
    rfl
  · rw [shown]
    exact congrArg Except.ok number

theorem text_returns {content : String} {type : NativeType}
    (read : NativeValue.read type (.string content) = .ok (.text content)) :
    Returns type .string (.text content) (.string content) (.string content) :=
  .ofScalar rfl rfl rfl rfl rfl rfl read

theorem boolean_returns (value : Bool) :
    Returns .bool .boolean (.boolean value) (.boolean value) (.bool value) :=
  .ofScalar rfl rfl rfl rfl rfl rfl rfl

/-! ### Containers -/

theorem read_array (element : NativeType) (items : List Json) :
    NativeValue.read (.list element) (.array items) =
      (items.mapM (NativeValue.read element)).map .list :=
  rfl

theorem read_object (value : NativeType) (members : List (String × Json)) :
    NativeValue.read (.map value) (.object members) =
      (NativeValue.readEntries (NativeValue.read value) members).map .map :=
  rfl

/-- A list of byte values is the list of its bytes. -/
theorem bytes_of_items {items : List NativeValue}
    (all : ∀ item ∈ items, Inhabits (.integer .byte) item) :
    ∃ bytes : List UInt8, items = bytes.map fun byte => .integer byte.toNat := by
  induction items with
  | nil => exact ⟨[], rfl⟩
  | cons item rest ih =>
      obtain ⟨bytes, values⟩ := ih fun other member => all other (List.mem_cons_of_mem _ member)
      cases all item List.mem_cons_self with
      | integer held bounded =>
          next value =>
            have range : 0 ≤ value ∧ value < 256 := by
              simpa [IntegerType.holds, IntegerType.byte, fitsUnsigned, wordSize] using held
            obtain ⟨byte, same⟩ : ∃ byte : UInt8, value = byte.toNat :=
              ⟨UInt8.ofNat value.toNat, by
                rw [UInt8.toNat_ofNat_of_lt' (by simp [UInt8.size]; omega)]
                omega⟩
            exact ⟨byte :: bytes, by rw [same, values]; rfl⟩

theorem toJsonItems_bytes (bytes : List UInt8) :
    NativeValue.toJsonItems (bytes.map fun byte => .integer byte.toNat) =
      bytes.map fun byte => .int byte.toNat := by
  induction bytes with
  | nil => rfl
  | cons byte rest ih => simp [NativeValue.toJsonItems, NativeValue.toJson, ih]

theorem asByte?_byte (byte : UInt8) : Json.asByte? (.int byte.toNat) = some byte := by
  have bound := byte.toNat_lt
  have fits : fitsUnsigned 8 byte.toNat = true := by
    simp [fitsUnsigned, wordSize]
    omega
  simp [Json.asByte?, fits]

theorem mapM_asByte? (bytes : List UInt8) :
    (bytes.map fun byte => Json.int byte.toNat).mapM Json.asByte? = some bytes := by
  induction bytes with
  | nil => rfl
  | cons byte rest ih =>
      rw [List.map_cons, List.mapM_cons, asByte?_byte, ih]
      rfl

theorem read_bytes (bytes : List UInt8) :
    (bytes.map fun byte => Json.int byte.toNat).mapM (NativeValue.read (.integer .byte)) =
      .ok (bytes.map fun byte => .integer byte.toNat) := by
  rw [List.mapM_map]
  refine mapM_ok fun byte _ => ?_
  have bound := byte.toNat_lt
  have held : IntegerType.byte.holds byte.toNat = true := by
    simp [IntegerType.holds, IntegerType.byte, fitsUnsigned, wordSize]
    omega
  simp only [Function.comp, read_integer held]

theorem byteList_returns (bytes : List UInt8) :
    Returns (.list (.integer .byte)) .bytes (.list (bytes.map fun byte => .integer byte.toNat))
      (.bytes bytes) (Row.bytesAsJson bytes) := by
  refine .ofScalar rfl rfl rfl ?_ ?_ rfl ?_
  · simp only [NativeValue.toJson, toJsonItems_bytes, Literal.scalarOfJson, Json.asArray?,
      Option.bind_some, mapM_asByte?, Option.map_some]
  · simp only [Literal.shown, Row.convertScalar, Row.convertBytes, String.toList_ofList,
      Base64.decode?_encode]
  · rw [Row.bytesAsJson, read_array, read_bytes]
    rfl

/-- Items that return one by one return as a list. -/
theorem items_return {element : NativeType} {column : ColumnType} {items : List NativeValue}
    (all : ∀ item ∈ items, ∃ literal converted, Returns element column item literal converted)
    (index : Nat) :
    ∃ literals converted,
      (NativeValue.toJsonItems items).mapM
        (Literal.elementOfJson column (Literal.ofJson column)) = .ok literals ∧
      Row.convertItems (Row.convert column false) index (Literal.shownItems literals) =
        .ok converted ∧
      converted.mapM (NativeValue.read element) = .ok items := by
  induction items generalizing index with
  | nil => exact ⟨[], [], rfl, rfl, rfl⟩
  | cons item rest ih =>
      obtain ⟨literal, json, first⟩ := all item List.mem_cons_self
      obtain ⟨literals, converted, stored, brought, read⟩ :=
        ih (fun other member => all other (List.mem_cons_of_mem _ member)) (index + 1)
      refine ⟨literal :: literals, json :: converted, ?_, ?_, ?_⟩
      · rw [NativeValue.toJsonItems, List.mapM_cons, Literal.elementOfJson, first.written,
          stored]
        simp [first.stored, bind, Except.bind, pure, Except.pure]
      · rw [Literal.shownItems, Row.convertItems, first.brought, brought]
        rfl
      · rw [List.mapM_cons, first.read, read]
        rfl

/-- Entries that return one by one return under their keys. -/
theorem entries_return {type : NativeType} {column : ColumnType}
    {entries : List (String × NativeValue)}
    (all : ∀ entry ∈ entries, ∃ literal converted, Returns type column entry.2 literal converted) :
    ∃ literals converted,
      Literal.mapValues (Literal.elementOfJson column (Literal.ofJson column))
        (NativeValue.toJsonEntries entries) = .ok literals ∧
      Row.convertMembers (Row.convert column false) (Literal.shownEntries literals) =
        .ok converted ∧
      NativeValue.readEntries (NativeValue.read type) converted = .ok entries := by
  induction entries with
  | nil => exact ⟨[], [], rfl, rfl, rfl⟩
  | cons entry rest ih =>
      obtain ⟨key, value⟩ := entry
      obtain ⟨literal, json, first⟩ := all (key, value) List.mem_cons_self
      obtain ⟨literals, converted, stored, brought, read⟩ :=
        ih fun other member => all other (List.mem_cons_of_mem _ member)
      refine ⟨(key, literal) :: literals, (key, json) :: converted, ?_, ?_, ?_⟩
      · rw [NativeValue.toJsonEntries, Literal.mapValues, Literal.elementOfJson, first.written,
          stored]
        simp [first.stored, bind, Except.bind, pure, Except.pure]
      · rw [Literal.shownEntries, Row.convertMembers, first.brought, brought]
        rfl
      · rw [NativeValue.readEntries, first.read, read]
        rfl

/-- Every value of a solid type comes back as itself. -/
theorem Inhabits.returns {type : NativeType} {value : NativeValue} (inhabits : Inhabits type value)
    (solid : type.isSolid = true) {column : ColumnType} (stored : type.columnType = .ok column) :
    ∃ literal converted, Returns type column value literal converted := by
  induction inhabits generalizing column with
  | boolean value =>
      cases stored
      exact ⟨_, _, boolean_returns value⟩
  | integer held bounded =>
      cases stored
      exact ⟨_, _, integer_returns held bounded⟩
  | single exact =>
      cases stored
      exact ⟨_, _, float_returns exact.1 (read_single exact)⟩
  | double finite =>
      cases stored
      exact ⟨_, _, float_returns finite rfl⟩
  | char c =>
      cases stored
      exact ⟨_, _, text_returns (read_char c)⟩
  | string content =>
      cases stored
      exact ⟨_, _, text_returns rfl⟩
  | @list element items all ih =>
      unfold NativeType.columnType at stored
      split at stored
      · next byte =>
          subst byte
          cases stored
          obtain ⟨bytes, rfl⟩ := bytes_of_items all
          exact ⟨_, _, byteList_returns bytes⟩
      · obtain ⟨inner, found, rfl⟩ := ok_of_map stored
        obtain ⟨literals, converted, stored, brought, read⟩ :=
          items_return (fun item member => ih item member solid found) 0
        refine ⟨.array literals, .array converted, rfl, ?_, rfl, fun nullable => ?_, rfl, ?_⟩
        · rw [NativeValue.toJson, Literal.ofJson_array, stored]
          rfl
        · rw [Literal.shown, Row.convert_array, brought]
          rfl
        · rw [read_array, read]
          rfl
  | @map content entries ordered all ih =>
      obtain ⟨inner, found, rfl⟩ := ok_of_map stored
      obtain ⟨literals, converted, stored, brought, read⟩ :=
        entries_return (fun entry member => ih entry member solid found)
      refine ⟨.map literals, .object converted, rfl, ?_, rfl, fun nullable => ?_, rfl, ?_⟩
      · rw [NativeValue.toJson, Literal.ofJson_map, stored]
        rfl
      · rw [Literal.shown, Row.convert_map, brought]
        rfl
      · rw [read_object, read]
        rfl
  | absent | present => cases solid

end StreamQuery
