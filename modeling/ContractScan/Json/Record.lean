import ContractScan.Json.Basic

/-!
# Records in JSON

A record is written as an object, whose other members are passed over, or as an array of its
fields in order. `Json.record?` finds the fields, and the three accessors of `Record` say what a
missing one means.
-/

namespace ContractScan.Json

/-- The fields of a record that were given, by name. -/
structure Record where
  fields : List (String × Json)
  /-- The fields were given by their order. -/
  positional : Bool
deriving Repr

/-- The fields of the given names. A name that is given twice is refused, and so is an array with
more items than names, unless `surplus` items are passed over. -/
def record? (surplus : Bool) (names : List String) : Json → Option Record
  | .object ms =>
    let known := ms.filter fun m ↦ names.contains m.1
    if (known.map Prod.fst).Nodup then some ⟨known, false⟩ else none
  | .array xs =>
    if xs.length ≤ names.length || surplus then some ⟨names.zip xs, true⟩ else none
  | _ => none

namespace Record

/-- The field that was given under the name. -/
def given? (r : Record) (name : String) : Option Json := r.fields.lookup name

/-- A field that must be given. -/
def required (r : Record) (name : String) (decode : Json → Option α) : Option α :=
  (r.given? name).bind decode

/-- A field that takes the default when it is not given. -/
def defaulted (r : Record) (name : String) (default : α) (decode : Json → Option α) : Option α :=
  match r.given? name with
  | some j => decode j
  | none => some default

/-- A value that is null when there is none. -/
def nullable (decode : Json → Option α) : Json → Option (Option α)
  | .null => some none
  | j => (decode j).map some

/-- A field that is missing when it is null, or not given in an object. -/
def optional (r : Record) (name : String) (decode : Json → Option α) : Option (Option α) :=
  match r.given? name with
  | some j => nullable decode j
  | none => if r.positional then none else some none

end Record

/-- A name among several: a text, or the name of an only member whose value says nothing. -/
def choice? (saysNothing : Json → Bool) (ofName? : String → Option α) : Json → Option α
  | .text s => ofName? s
  | .object [(name, v)] => if saysNothing v then ofName? name else none
  | _ => none

/-- The null value. -/
def isNull : Json → Bool
  | .null => true
  | _ => false

/-- Every item decoded. -/
def list? (decode : Json → Option α) : Json → Option (List α)
  | .array xs => xs.mapM decode
  | _ => none

end ContractScan.Json
