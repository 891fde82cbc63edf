import ShapeQuery.Binary64.Rounding

/-!
# JSON values

A JSON value is a plain inductive type. An object is the list of its members; every object that
this library builds lists them in increasing order of their keys and repeats none, so two values
built here are equal exactly when they hold the same members.

A number is either a whole number, when it fits a signed or an unsigned 64-bit word, or a finite
double-precision number. Neither NaN nor an infinity is a JSON number, and the type says so.
-/

namespace ShapeQuery

namespace Json

/-- A JSON number. -/
inductive Number where
  /-- A whole number that fits a signed or an unsigned 64-bit word. -/
  | integer (n : Int) (fits : -0x8000000000000000 ≤ n ∧ n ≤ 0xffffffffffffffff)
  /-- A finite double-precision number. -/
  | real (x : Binary64) (finite : x.isFinite = true)
deriving DecidableEq

namespace Number

/-- The double-precision value of a number; a whole number is rounded to it. -/
def toBinary64 : Number → Binary64
  | integer n _ => Binary64.ofInt n
  | real x _ => x

/-- A double-precision number as a JSON number, if it is finite. -/
def ofBinary64? (x : Binary64) : Option Number :=
  if h : x.isFinite = true then some (real x h) else none

/-- A whole number as a JSON number: kept as it is if it fits a word, and otherwise rounded. -/
def ofInt? (n : Int) : Option Number :=
  if h : -0x8000000000000000 ≤ n ∧ n ≤ 0xffffffffffffffff then some (integer n h)
  else ofBinary64? (Binary64.ofInt n)

end Number

end Json

/-- A JSON value. -/
inductive Json where
  | null
  | bool (b : Bool)
  | number (n : Json.Number)
  | string (s : String)
  | array (items : List Json)
  | object (members : List (String × Json))

namespace Json

instance : Inhabited Json := ⟨null⟩

/-- Adds a member at its place in the order of keys; a member with the same key is replaced. -/
def insertMember (key : String) (value : Json) : List (String × Json) → List (String × Json)
  | [] => [(key, value)]
  | (k, v) :: rest =>
    if key < k then (key, value) :: (k, v) :: rest
    else if key = k then (key, value) :: rest
    else (k, v) :: insertMember key value rest

/-- The object with the given members; of two with the same key the later one counts. -/
def ofMembers (members : List (String × Json)) : Json :=
  object (members.foldl (fun done m ↦ insertMember m.1 m.2 done) [])

/-- A natural number as a value: exact in a 64-bit word, rounded beyond, and null past every
double-precision number. -/
def ofNat (n : Nat) : Json := ((Number.ofInt? n).map number).getD null

/-- The value of `some`, or null. -/
def ofOption {α : Type} (encode : α → Json) : Option α → Json
  | none => null
  | some a => encode a

end Json

end ShapeQuery
