import KMeansSeeding.Json.Numeral
import KMeansSeeding.Json.Skipped

/-!
# Reading documents of a known shape

A `Shape` says what a document must look like. `Shape.read` takes a text that has the shape and
answers with its `Json` value; for any other text it fails at the first place that does not fit.

Records come in two forms: fields with names, in any order and with fields nobody asked for, or a
list of the values in the order of the shape. The value read always has all fields, in the order of
the shape.
-/

namespace KMeansSeeding.Json

/-- What a document must look like. -/
inductive Shape where
  /-- A single-precision number. -/
  | single
  /-- A double-precision number. -/
  | double
  /-- A natural number of at most 64 bits, with its name in failures. -/
  | natural (expected : String)
  | flag
  /-- One of some words, as a string or as the only field of a record, with null. -/
  | choice (words : List String)
  | nullable (shape : Shape)
  | list (item : Shape)
  /-- Named fields: a name, a shape, and the values that stand in for a field that is missing in the
  named form and in the listed form. -/
  | record (name : String) (fields : List (String × Shape × Option Json × Option Json))
  deriving Repr

namespace Reader

/-! ## Leaves -/

/-- A value of another type than the expected one: fails with what was found, or with what is wrong
with the value itself. -/
def wrongType {α : Type} (expected : String) : Reader α := do
  match ← peek with
  | none => failHere .expectedValue
  | some c =>
    match c with
    | 'n' =>
      word ['n', 'u', 'l', 'l']
      failHere (.invalidType .null expected)
    | 't' =>
      word ['t', 'r', 'u', 'e']
      failHere (.invalidType (.boolean true) expected)
    | 'f' =>
      word ['f', 'a', 'l', 's', 'e']
      failHere (.invalidType (.boolean false) expected)
    | '-' =>
      skip 1
      let numeral ← number true
      failHere (.invalidType numeral.found expected)
    | '"' =>
      skip 1
      let text ← string
      failHere (.invalidType (.text text) expected)
    | '[' => failHere (.invalidType .sequence expected)
    | '\x7b' => failHere (.invalidType .map expected)
    | _ =>
      if c.isDigit then
        let numeral ← number false
        failHere (.invalidType numeral.found expected)
      else failAhead .expectedValue

/-- Peeks at the first character of a value. -/
def startOfValue : Reader Char := do
  match ← peekSolid with
  | none => failHere .endOfValue
  | some c => return c

/-- Takes a number. -/
def numeral (expected : String) : Reader Numeral := do
  let c ← startOfValue
  if c = '-' then
    skip 1
    number true
  else if c.isDigit then number false
  else wrongType expected

/-- Takes a single-precision number. -/
def single : Reader Json := do
  return .single (← numeral "f32").toSingle

/-- Takes a double-precision number. -/
def double : Reader Json := do
  return .double (← numeral "f64").toDouble

/-- Takes a natural number. -/
def natural (expected : String) : Reader Json := do
  match ← numeral expected with
  | .natural value => return .natural value
  | .negative magnitude => failHere (.invalidValue (.integer (-magnitude)) expected)
  | .floating value => failHere (.invalidType (.floating value) expected)

/-- Takes a truth value. -/
def flag : Reader Json := do
  match ← startOfValue with
  | 't' =>
    word ['t', 'r', 'u', 'e']
    return .flag true
  | 'f' =>
    word ['f', 'a', 'l', 's', 'e']
    return .flag false
  | _ => wrongType "a boolean"

/-- Takes null, or what the reader takes. -/
def nullable (reader : Reader Json) : Reader Json := do
  match ← peekSolid with
  | some 'n' =>
    word ['n', 'u', 'l', 'l']
    return .null
  | _ => reader

/-- The word that was read must be a known one. -/
def known (words : List String) (text : String) : Reader Json :=
  if words.contains text then return .text text else failHere (.unknownVariant text words)

/-- Takes the colon between a name and a value. -/
def colon : Reader Unit := do
  match ← peekSolid with
  | some ':' => skip 1
  | some _ => failAhead .expectedColon
  | none => failHere .endOfObject

/-- Takes null. -/
def unit : Reader Unit := do
  match ← startOfValue with
  | 'n' => word ['n', 'u', 'l', 'l']
  | _ => wrongType "unit"

/-- Takes one of some words, alone or as the name of a null field. -/
def choice (words : List String) : Reader Json := do
  match ← startOfValue with
  | '"' =>
    skip 1
    known words (← string)
  | '\x7b' =>
    skip 1
    let word ← do
      match ← peekSolid with
      | some '"' =>
        skip 1
        known words (← string)
      | some '\x7d' => failAhead .expectedValue
      | some _ => failAhead .keyNotString
      | none => failHere .endOfObject
    colon
    unit
    match ← peekSolid with
    | some '\x7d' =>
      skip 1
      return word
    | some _ => failHere .expectedValue
    | none => failHere .endOfObject
  | _ => failAhead .expectedValue

/-! ## Lists -/

/-- Whether another item of a list follows; takes the comma before it. -/
def anotherItem (first : Bool) : Reader Bool := do
  match ← peekSolid with
  | none => failHere .endOfList
  | some c =>
    if c = ']' then return false
    else if first then return true
    else if c = ',' then
      skip 1
      match ← peekSolid with
      | some ']' => failAhead .trailingComma
      | some _ => return true
      | none => failHere .endOfValue
    else failAhead .expectedListEnd

/-- Takes the end of a list. -/
def closeList : Reader Unit := do
  match ← peekSolid with
  | some ']' => skip 1
  | some ',' =>
    skip 1
    match ← peekSolid with
    | some ']' => failAhead .trailingComma
    | _ => failAhead .trailingCharacters
  | some _ => failAhead .trailingCharacters
  | none => failHere .endOfList

/-- Takes items up to the end of the list, at most `steps` of them. -/
def items (item : Reader Json) : (steps : Nat) → (first : Bool) → Reader (List Json)
  | 0, _ => return []
  | steps + 1, first => do
    if ← anotherItem first then
      let value ← item
      return value :: (← items item steps false)
    else return []

/-- Takes a list. -/
def list (item : Reader Json) : Reader Json := do
  match ← startOfValue with
  | '[' =>
    skip 1
    let values ← placed (thenClose (items item (← steps) true) closeList)
    return .list values
  | _ => wrongType "a sequence"

/-! ## Records -/

/-- A field of a record as a reader: its name, what stands in for it when it is missing in the named
and in the listed form, and how its value is read. -/
structure Slot where
  name : String
  ifUnnamed : Option Json
  ifUnlisted : Option Json
  read : Reader Json

/-- Whether another field follows; takes the comma before it. -/
def anotherField (first : Bool) : Reader Bool := do
  match ← peekSolid with
  | none => failHere .endOfObject
  | some c =>
    if c = '\x7d' then return false
    else if first then
      if c = '"' then return true else failAhead .keyNotString
    else if c = ',' then
      skip 1
      match ← peekSolid with
      | some '"' => return true
      | some '\x7d' => failAhead .trailingComma
      | some _ => failAhead .keyNotString
      | none => failHere .endOfValue
    else failAhead .expectedObjectEnd

/-- Takes the end of a record of named fields. -/
def closeRecord : Reader Unit := do
  match ← peekSolid with
  | some '\x7d' => skip 1
  | some ',' => failAhead .trailingComma
  | some _ => failAhead .trailingCharacters
  | none => failHere .endOfObject

/-- Takes named fields up to the end of the record, at most `steps` of them; answers with the fields
of the shape in the order of the text. -/
def namedFields (slots : List Slot) : (steps : Nat) → (first : Bool) →
    (taken : List (String × Json)) → Reader (List (String × Json))
  | 0, _, taken => return taken
  | steps + 1, first, taken => do
    if ← anotherField first then
      skip 1
      let name ← string
      match slots.find? (·.name == name) with
      | some slot =>
        if (taken.lookup name).isSome then failWhole (.duplicateField name)
        else
          colon
          let value ← slot.read
          namedFields slots steps false (taken ++ [(name, value)])
      | none =>
        colon
        skipValue
        namedFields slots steps false taken
    else return taken

/-- The fields of the shape in order, from those that were named. -/
def arrange (named : List (String × Json)) : List Slot → Reader (List (String × Json))
  | [] => return []
  | slot :: slots => do
    match (named.lookup slot.name).or slot.ifUnnamed with
    | some value => return (slot.name, value) :: (← arrange named slots)
    | none => failWhole (.missingField slot.name)

/-- The wording of a record that a list should fill. -/
def describeRecord (name : String) (count : Nat) : String :=
  if count = 1 then s!"struct {name} with 1 element" else s!"struct {name} with {count} elements"

/-- Takes the values of the fields from a list, after `taken` of them. -/
def listedFields (expected : String) : (taken : Nat) → List Slot → Reader (List (String × Json))
  | _, [] => return []
  | taken, slot :: slots => do
    if ← anotherItem (taken == 0) then
      let value ← slot.read
      return (slot.name, value) :: (← listedFields expected (taken + 1) slots)
    else
      match slot.ifUnlisted with
      | some value => return (slot.name, value) :: (← listedFields expected (taken + 1) slots)
      | none => failWhole (.invalidLength taken expected)

/-- Takes a record in either form. -/
def record (name : String) (slots : List Slot) : Reader Json := do
  match ← startOfValue with
  | '\x7b' =>
    skip 1
    let steps ← steps
    let fields ← placed <| thenClose
      (do arrange (← namedFields slots steps true []) slots) closeRecord
    return .record fields
  | '[' =>
    skip 1
    let expected := describeRecord name slots.length
    let fields ← placed (thenClose (listedFields expected 0 slots) closeList)
    return .record fields
  | _ => wrongType s!"struct {name}"

end Reader

namespace Shape

open Reader (Slot)

mutual

/-- Takes a value of a shape. -/
def read : Shape → Reader Json
  | .single => Reader.single
  | .double => Reader.double
  | .natural expected => Reader.natural expected
  | .flag => Reader.flag
  | .choice words => Reader.choice words
  | .nullable shape => Reader.nullable (read shape)
  | .list item => Reader.list (read item)
  | .record name fields => Reader.record name (slots fields)

/-- The fields of a record as readers. -/
def slots : List (String × Shape × Option Json × Option Json) → List Slot
  | [] => []
  | (name, shape, ifUnnamed, ifUnlisted) :: fields =>
    ⟨name, ifUnnamed, ifUnlisted, read shape⟩ :: slots fields

end

/-- Takes a value that fills the whole text. -/
def whole (shape : Shape) : Reader Json := do
  let value ← shape.read
  match ← Reader.peekSolid with
  | none => return value
  | some _ => Reader.failAhead .trailingCharacters

/-- The value of a text of the shape. -/
def parse (shape : Shape) (text : String) : Except Failure Json :=
  match shape.whole (.ofText text) with
  | .ok value _ => .ok value
  | .error failure _ => .error failure

end Shape

end KMeansSeeding.Json
