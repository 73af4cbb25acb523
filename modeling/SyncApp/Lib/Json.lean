import Mathlib.Data.List.Basic

/-!
# JSON values, and the questions strict readers ask of them

A JSON text is its syntax tree. An object is the list of its members in the order of the text, so
a tree may repeat a key, and `Json.constant` is a bare word such as `NaN`, which lenient parsers
let through. `Json.strict` decides the trees a strict parse lets through, and a payload is an
object body that carries the proof of it.

The readers built on this module ask three things of an object: what a key holds (`get?`), whether
its key set is a given one (`hasKeys`), and how many members it has. `hasKeys` reads the two key
lists as sets, as a comparison of key sets does.

Number literals stay as written: no question here looks inside a number.
-/

set_option autoImplicit false

namespace Lib

/-- A JSON text, as its syntax tree. -/
inductive Json where
  | null
  | bool (value : Bool)
  | num (literal : String)
  | str (value : String)
  | constant (word : String)
  | arr (items : List Json)
  | obj (members : List (String × Json))
deriving Inhabited

namespace Json

/-- What a key holds in an object body: the first member of that name. -/
def get? (members : List (String × Json)) (key : String) : Option Json :=
  members.lookup key

/-- The keys of an object body, in text order. -/
def keys (members : List (String × Json)) : List String :=
  members.map Prod.fst

/-- The key set of an object body is the given one. -/
def hasKeys (members : List (String × Json)) (names : List String) : Bool :=
  (keys members).all (names.contains ·) && names.all ((keys members).contains ·)

/-- The value is the string `text`. -/
def isStr (text : String) : Option Json → Bool
  | some (.str value) => value == text
  | _ => false

/-- The value is the truth value `true`, and not merely truthy. -/
def isTrue : Option Json → Bool
  | some (.bool value) => value
  | _ => false

mutual

/-- A strict parse accepts the text: no object repeats a key, and no constant word occurs when
constants are refused. -/
def strict (constants : Bool) : Json → Bool
  | .constant _ => constants
  | .arr items => strictItems constants items
  | .obj members => decide (keys members).Nodup && strictMembers constants members
  | _ => true

def strictItems (constants : Bool) : List Json → Bool
  | [] => true
  | item :: items => strict constants item && strictItems constants items

def strictMembers (constants : Bool) : List (String × Json) → Bool
  | [] => true
  | (_, value) :: members => strict constants value && strictMembers constants members

end

mutual

/-- The number of bytes of the text's compact spelling, its strings free of escapes. -/
def compactLength : Json → Nat
  | .null => 4
  | .bool value => if value then 4 else 5
  | .num literal => literal.utf8ByteSize
  | .str value => value.utf8ByteSize + 2
  | .constant word => word.utf8ByteSize
  | .arr items => compactItems items + 1
  | .obj members => compactMembers members + 1

def compactItems : List Json → Nat
  | [] => 1
  | item :: items => compactLength item + 1 + compactItems items

def compactMembers : List (String × Json) → Nat
  | [] => 1
  | (key, value) :: members => key.utf8ByteSize + 4 + compactLength value + compactMembers members

end

/-! ## Keys -/

theorem hasKeys_iff {members : List (String × Json)} {names : List String} :
    hasKeys members names = true ↔ ∀ key, key ∈ keys members ↔ key ∈ names := by
  simp only [hasKeys, Bool.and_eq_true, List.all_eq_true, List.contains_iff_mem]
  constructor
  · rintro ⟨there, back⟩ key
    exact ⟨there key, back key⟩
  · intro same
    exact ⟨fun key => (same key).mp, fun key => (same key).mpr⟩

/-- A key that holds something is one of the body's keys. -/
theorem mem_keys_of_get? {members : List (String × Json)} {key : String} {value : Json}
    (found : get? members key = some value) : key ∈ keys members := by
  obtain ⟨front, back, rfl, -⟩ := List.lookup_eq_some_iff.mp found
  simp [keys]

theorem isStr_iff {text : String} {value : Option Json} :
    isStr text value = true ↔ value = some (.str text) := by
  cases value with
  | none => simp [isStr]
  | some value => cases value <;> simp [isStr]

theorem isTrue_iff {value : Option Json} : isTrue value = true ↔ value = some (.bool true) := by
  cases value with
  | none => simp [isTrue]
  | some value => cases value <;> simp [isTrue]

/-- A text with no constant words is strict whether or not constants are let through. -/
theorem strict_mono {constants : Bool} : ∀ {json : Json}, strict false json = true →
    strict constants json = true
  | .null, _ => rfl
  | .bool _, _ => rfl
  | .num _, _ => rfl
  | .str _, _ => rfl
  | .constant _, accepted => by cases accepted
  | .arr items, accepted => strictItems_mono items accepted
  | .obj members, accepted => by
    simp only [strict, Bool.and_eq_true] at accepted ⊢
    exact ⟨accepted.1, strictMembers_mono members accepted.2⟩
where
  strictItems_mono : ∀ items : List Json, strictItems false items = true →
      strictItems constants items = true
    | [], _ => rfl
    | item :: items, accepted => by
      simp only [strictItems, Bool.and_eq_true] at accepted ⊢
      exact ⟨strict_mono accepted.1, strictItems_mono items accepted.2⟩
  strictMembers_mono : ∀ members : List (String × Json), strictMembers false members = true →
      strictMembers constants members = true
    | [], _ => rfl
    | (_, value) :: members, accepted => by
      simp only [strictMembers, Bool.and_eq_true] at accepted ⊢
      exact ⟨strict_mono accepted.1, strictMembers_mono members accepted.2⟩

/-- A **payload**: the body of an object that every strict parse accepts. -/
structure Payload where
  members : List (String × Json)
  accepted : strict false (.obj members) = true

/-- What a payload holds under a key. -/
def Payload.get? (payload : Payload) (key : String) : Option Json :=
  Json.get? payload.members key

end Json

end Lib
