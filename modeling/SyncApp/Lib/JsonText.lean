import SyncApp.Lib.Utf8
import Mathlib.Data.List.TakeWhile

/-!
# JSON texts, written and read

A text is a list of code points. `write` spells a value in the compact form, and `read` reads any
JSON text. An object keeps its members in the order of the text, a repeated key too; what is read
of it decides whether it may repeat one (`unique`). A number with a fraction or an exponent stays
as written.

`read_write`: what is written is read back, and nothing may be cut off or follow. A code point
above the basic plane that was escaped as two is read as one again; texts with a lone half of such
a pair next to its other half are not (`Whole` leaves them out).
-/

set_option autoImplicit false

namespace Lib.JsonText

inductive Value where
  | null
  | bool (value : Bool)
  | int (value : Int)
  | float (literal : List Nat)
  | str (value : List Nat)
  | arr (items : List Value)
  | obj (members : List (List Nat × Value))
deriving Inhabited

/-! ## Writing -/

/-- A code unit of a string, and whether it is spelled by its number. -/
structure Unit where
  escaped : Bool
  code : Nat
deriving DecidableEq

def hexDigit (n : Nat) : Nat := if n < 10 then 48 + n else 87 + n

/-- `\uXXXX`. -/
def hex (n : Nat) : List Nat :=
  [92, 117, hexDigit (n / 4096 % 16), hexDigit (n / 256 % 16), hexDigit (n / 16 % 16),
    hexDigit (n % 16)]

/-- The units a code point is written as; `ascii` leaves no code point outside ASCII. -/
def unitsOf (ascii : Bool) (c : Nat) : List Unit :=
  if c = 34 ∨ c = 92 ∨ c = 8 ∨ c = 9 ∨ c = 10 ∨ c = 12 ∨ c = 13 then [⟨false, c⟩]
  else if c < 32 then [⟨true, c⟩]
  else if !ascii ∨ c < 127 then [⟨false, c⟩]
  else if c < 0x10000 then [⟨true, c⟩]
  else [⟨true, 0xD800 + (c - 0x10000) / 1024⟩, ⟨true, 0xDC00 + (c - 0x10000) % 1024⟩]

/-- The letter that stands after the backslash, for a code point with a short escape. -/
def escapeLetter (c : Nat) : Option Nat :=
  if c = 34 then some 34 else if c = 92 then some 92 else if c = 8 then some 98
  else if c = 9 then some 116 else if c = 10 then some 110 else if c = 12 then some 102
  else if c = 13 then some 114 else none

def writeUnit (unit : Unit) : List Nat :=
  if unit.escaped then hex unit.code
  else match escapeLetter unit.code with
    | some letter => [92, letter]
    | none => [unit.code]

def writeString (ascii : Bool) (value : List Nat) : List Nat :=
  34 :: (value.flatMap (unitsOf ascii)).flatMap writeUnit ++ [34]

def writeNat (n : Nat) : List Nat := (Nat.toDigits 10 n).map Char.toNat

def writeInt : Int → List Nat
  | .ofNat n => writeNat n
  | .negSucc n => 45 :: writeNat (n + 1)

mutual

/-- A value in the compact form: no blank anywhere. -/
def write (ascii : Bool) : Value → List Nat
  | .null => [110, 117, 108, 108]
  | .bool true => [116, 114, 117, 101]
  | .bool false => [102, 97, 108, 115, 101]
  | .int value => writeInt value
  | .float literal => literal
  | .str value => writeString ascii value
  | .arr [] => [91, 93]
  | .arr (item :: items) => 91 :: write ascii item ++ writeItems ascii items
  | .obj [] => [123, 125]
  | .obj ((key, value) :: members) =>
    123 :: writeString ascii key ++ 58 :: write ascii value ++ writeMembers ascii members

/-- What follows the first item of an array. -/
def writeItems (ascii : Bool) : List Value → List Nat
  | [] => [93]
  | item :: items => 44 :: write ascii item ++ writeItems ascii items

def writeMembers (ascii : Bool) : List (List Nat × Value) → List Nat
  | [] => [125]
  | (key, value) :: members =>
    44 :: writeString ascii key ++ 58 :: write ascii value ++ writeMembers ascii members

end

/-! ## Reading -/

def isBlank (c : Nat) : Bool := c = 32 || c = 9 || c = 10 || c = 13

def skip (input : List Nat) : List Nat := input.dropWhile isBlank

def isDigit (c : Nat) : Bool := 48 ≤ c && c ≤ 57

def hexValue (c : Nat) : Option Nat :=
  if isDigit c then some (c - 48)
  else if 97 ≤ c ∧ c ≤ 102 then some (c - 87)
  else if 65 ≤ c ∧ c ≤ 70 then some (c - 55)
  else none

def hexCode (a b c d : Nat) : Option Nat := do
  return (← hexValue a) * 4096 + (← hexValue b) * 256 + (← hexValue c) * 16 + (← hexValue d)

/-- What a short escape stands for. -/
def unescape (letter : Nat) : Option Nat :=
  if letter = 34 then some 34 else if letter = 92 then some 92 else if letter = 47 then some 47
  else if letter = 98 then some 8 else if letter = 102 then some 12
  else if letter = 110 then some 10 else if letter = 114 then some 13
  else if letter = 116 then some 9 else none

/-- One more unit in front of what was read. -/
def push (unit : Unit) (read : Option (List Unit × List Nat)) : Option (List Unit × List Nat) :=
  read.map fun read => (unit :: read.1, read.2)

/-- The units of a string up to its closing quote, and what follows it. -/
def readUnits : List Nat → Option (List Unit × List Nat)
  | [] => none
  | c :: rest =>
    if c = 34 then some ([], rest)
    else if c = 92 then match rest with
      | [] => none
      | letter :: rest =>
        if letter = 117 then match rest with
          | a :: b :: c :: d :: rest =>
            match hexCode a b c d with
            | some code => push ⟨true, code⟩ (readUnits rest)
            | none => none
          | _ => none
        else match unescape letter with
          | some code => push ⟨false, code⟩ (readUnits rest)
          | none => none
    else if c < 32 then none
    else push ⟨false, c⟩ (readUnits rest)

/-- Two escaped units that are the halves of one code point. -/
def isPair (high low : Unit) : Bool :=
  high.escaped && low.escaped && 0xD800 ≤ high.code && high.code ≤ 0xDBFF &&
    0xDC00 ≤ low.code && low.code ≤ 0xDFFF

/-- The code points of units. -/
def join : List Unit → List Nat
  | [] => []
  | [unit] => [unit.code]
  | high :: low :: units =>
    if isPair high low then
      (0x10000 + (high.code - 0xD800) * 1024 + (low.code - 0xDC00)) :: join units
    else high.code :: join (low :: units)

/-- A string after its opening quote. -/
def readString (input : List Nat) : Option (List Nat × List Nat) :=
  (readUnits input).map fun read => (join read.1, read.2)

def digits (input : List Nat) : List Nat × List Nat :=
  (input.takeWhile isDigit, input.dropWhile isDigit)

def valueOf (digits : List Nat) : Nat := Nat.ofDigitChars 10 (digits.map Char.ofNat) 0

/-- The fraction at the front of the input, where there is one. -/
def readFraction : List Nat → List Nat × List Nat
  | 46 :: rest =>
    match digits rest with
    | ([], _) => ([], 46 :: rest)
    | (found, rest) => (46 :: found, rest)
  | input => ([], input)

/-- The exponent at the front of the input, where there is one. -/
def readExponent (input : List Nat) : List Nat × List Nat :=
  match input with
  | e :: rest =>
    if e = 101 ∨ e = 69 then
      let sign := rest.takeWhile (fun c => c = 43 || c = 45) |>.take 1
      match digits (rest.drop sign.length) with
      | ([], _) => ([], input)
      | (found, rest) => (e :: sign ++ found, rest)
    else ([], input)
  | [] => ([], [])

/-- The whole part of a number: a zero, or digits that do not begin with one. -/
def readWhole (input : List Nat) : Option (List Nat × List Nat) :=
  match input with
  | 48 :: rest => some ([48], rest)
  | _ => match digits input with
    | ([], _) => none
    | read => some read

/-- An integer, or the number as it is spelled. -/
def numberOf (negative : Bool) (whole fraction exponent : List Nat) : Value :=
  if fraction = [] ∧ exponent = [] then
    .int (if negative then -valueOf whole else valueOf whole)
  else .float ((if negative then [45] else []) ++ whole ++ fraction ++ exponent)

def readMagnitude (negative : Bool) (input : List Nat) : Option (Value × List Nat) :=
  (readWhole input).map fun whole =>
    let fraction := readFraction whole.2
    let exponent := readExponent fraction.2
    (numberOf negative whole.1 fraction.1 exponent.1, exponent.2)

def readNumber : List Nat → Option (Value × List Nat)
  | 45 :: rest => readMagnitude true rest
  | input => readMagnitude false input

/-- The words that are values. -/
def words : List (List Nat × Value) :=
  [([110, 117, 108, 108], .null), ([116, 114, 117, 101], .bool true),
    ([102, 97, 108, 115, 101], .bool false), ([78, 97, 78], .float [78, 97, 78]),
    ([73, 110, 102, 105, 110, 105, 116, 121], .float [73, 110, 102, 105, 110, 105, 116, 121]),
    ([45, 73, 110, 102, 105, 110, 105, 116, 121],
      .float [45, 73, 110, 102, 105, 110, 105, 116, 121])]

def readWord (input : List Nat) : Option (Value × List Nat) :=
  (words.find? fun word => word.1.isPrefixOf input).map fun word =>
    (word.2, input.drop word.1.length)

mutual

/-- A value at the front of the input; `fuel` bounds the calls under way. -/
def readValue : Nat → List Nat → Option (Value × List Nat)
  | 0, _ => none
  | fuel + 1, input =>
    match input with
    | 34 :: rest => (readString rest).map fun read => (.str read.1, read.2)
    | 91 :: rest =>
      match skip rest with
      | 93 :: rest => some (.arr [], rest)
      | rest => (readItems fuel rest).map fun read => (.arr read.1, read.2)
    | 123 :: rest =>
      match skip rest with
      | 125 :: rest => some (.obj [], rest)
      | rest => (readMembers fuel rest).map fun read => (.obj read.1, read.2)
    | _ => (readWord input).or (readNumber input)

def readItems : Nat → List Nat → Option (List Value × List Nat)
  | 0, _ => none
  | fuel + 1, input =>
    match readValue fuel input with
    | none => none
    | some (item, rest) =>
      match skip rest with
      | 93 :: rest => some ([item], rest)
      | 44 :: rest => (readItems fuel (skip rest)).map fun read => (item :: read.1, read.2)
      | _ => none

def readMembers : Nat → List Nat → Option (List (List Nat × Value) × List Nat)
  | 0, _ => none
  | fuel + 1, input =>
    match input with
    | 34 :: rest =>
      match readString rest with
      | none => none
      | some (key, rest) =>
        match skip rest with
        | 58 :: rest =>
          match readValue fuel (skip rest) with
          | none => none
          | some (value, rest) =>
            match skip rest with
            | 125 :: rest => some ([(key, value)], rest)
            | 44 :: rest =>
              (readMembers fuel (skip rest)).map fun read => ((key, value) :: read.1, read.2)
            | _ => none
        | _ => none
    | _ => none

end

/-- Reads a whole text. Each call under way has a code point of its own, a bracket or a comma, so
the fuel is enough. -/
def read (input : List Nat) : Option Value :=
  match readValue (input.length + 1) (skip input) with
  | some (value, rest) => if skip rest = [] then some value else none
  | none => none

/-- What a key holds: the last member of that name. -/
def get? (members : List (List Nat × Value)) (key : List Nat) : Option Value :=
  (members.reverse.find? (·.1 = key)).map (·.2)

/-- The keys, taken as a set, are these. -/
def hasKeys (members : List (List Nat × Value)) (names : List (List Nat)) : Bool :=
  members.all (fun member => names.contains member.1) &&
    names.all fun name => members.any (·.1 = name)

mutual

/-- No object repeats a key. -/
def unique : Value → Bool
  | .arr items => uniqueItems items
  | .obj members => decide (members.map (·.1)).Nodup && uniqueMembers members
  | _ => true

def uniqueItems : List Value → Bool
  | [] => true
  | item :: items => unique item && uniqueItems items

def uniqueMembers : List (List Nat × Value) → Bool
  | [] => true
  | (_, value) :: members => unique value && uniqueMembers members

end

/-! ## Strings -/

/-- A unit whose spelling is read as it. -/
def Written (unit : Unit) : Prop :=
  if unit.escaped then unit.code < 0x10000
  else (escapeLetter unit.code).isSome ∨ 32 ≤ unit.code

theorem hexValue_hexDigit {n : Nat} (small : n < 16) : hexValue (hexDigit n) = some n := by
  unfold hexDigit hexValue isDigit
  by_cases decimal : n < 10
  · rw [if_pos decimal, if_pos (by simp; omega)]
    congr 1
    omega
  · rw [if_neg decimal, if_neg (by simp; omega), if_pos (by omega)]
    congr 1
    omega

theorem hexCode_hex {n : Nat} (small : n < 0x10000) :
    hexCode (hexDigit (n / 4096 % 16)) (hexDigit (n / 256 % 16)) (hexDigit (n / 16 % 16))
      (hexDigit (n % 16)) = some n := by
  unfold hexCode
  rw [hexValue_hexDigit (by omega), hexValue_hexDigit (by omega), hexValue_hexDigit (by omega),
    hexValue_hexDigit (by omega)]
  show some _ = some n
  congr 1
  omega

/-- The letter of an escape is read as what it stands for, and is not that of a number. -/
theorem unescape_escapeLetter {c letter : Nat} (short : escapeLetter c = some letter) :
    letter ≠ 117 ∧ unescape letter = some c := by
  unfold escapeLetter at short
  split at short
  · next here => cases short; subst here; decide
  split at short
  · next here => cases short; subst here; decide
  split at short
  · next here => cases short; subst here; decide
  split at short
  · next here => cases short; subst here; decide
  split at short
  · next here => cases short; subst here; decide
  split at short
  · next here => cases short; subst here; decide
  split at short
  · next here => cases short; subst here; decide
  · cases short

/-- A code point without a short escape is no quote and no backslash. -/
theorem plain_of_escapeLetter {c : Nat} (long : escapeLetter c = none) : c ≠ 34 ∧ c ≠ 92 := by
  constructor
  · rintro rfl
    cases long
  · rintro rfl
    cases long

theorem readUnits_writeUnit {unit : Unit} (written : Written unit) (rest : List Nat) :
    readUnits (writeUnit unit ++ rest) = push unit (readUnits rest) := by
  obtain ⟨escaped, code⟩ := unit
  cases escaped with
  | true =>
    have small : code < 0x10000 := by simpa [Written] using written
    show readUnits (hex code ++ rest) = _
    conv_lhs => unfold readUnits hex
    simp only [List.cons_append, List.nil_append, Nat.reduceEqDiff, if_false, if_true,
      hexCode_hex small]
  | false =>
    cases short : escapeLetter code with
    | some letter =>
      obtain ⟨other, back⟩ := unescape_escapeLetter short
      have spelled : writeUnit ⟨false, code⟩ = [92, letter] := by
        simp [writeUnit, short]
      rw [spelled]
      conv_lhs => unfold readUnits
      simp only [List.cons_append, List.nil_append, Nat.reduceEqDiff, if_false, if_true, other,
        back]
    | none =>
      obtain ⟨noQuote, noSlash⟩ := plain_of_escapeLetter short
      have visible : ¬code < 32 := by
        have := written
        simp [Written, short] at this
        omega
      have spelled : writeUnit ⟨false, code⟩ = [code] := by
        simp [writeUnit, short]
      rw [spelled]
      conv_lhs => unfold readUnits
      simp only [List.cons_append, List.nil_append, noQuote, noSlash, visible, if_false]

theorem readUnits_write {units : List Unit} (written : ∀ unit ∈ units, Written unit)
    (rest : List Nat) : readUnits (units.flatMap writeUnit ++ 34 :: rest) = some (units, rest) := by
  induction units with
  | nil =>
    show readUnits (34 :: rest) = _
    unfold readUnits
    rw [if_pos rfl]
  | cons unit units ih =>
    obtain ⟨here, later⟩ := List.forall_mem_cons.mp written
    rw [List.flatMap_cons, List.append_assoc, readUnits_writeUnit here, ih later]
    rfl

theorem unitsOf_written {ascii : Bool} {c : Nat} (bound : c < 0x110000) :
    ∀ unit ∈ unitsOf ascii c, Written unit := by
  unfold unitsOf
  split
  · next short =>
    intro unit mem
    cases List.mem_singleton.mp mem
    rcases short with rfl | rfl | rfl | rfl | rfl | rfl | rfl <;> exact .inl rfl
  split
  · next control =>
    intro unit mem
    cases List.mem_singleton.mp mem
    show c < 0x10000
    omega
  split
  · intro unit mem
    cases List.mem_singleton.mp mem
    exact .inr (by show 32 ≤ c; omega)
  split
  · next basic =>
    intro unit mem
    cases List.mem_singleton.mp mem
    exact basic
  · intro unit mem
    rcases List.mem_pair.mp mem with rfl | rfl
    · show 0xD800 + (c - 0x10000) / 1024 < 0x10000
      omega
    · show 0xDC00 + (c - 0x10000) % 1024 < 0x10000
      omega

/-- A unit that is no half of a code point stands for itself. -/
theorem join_cons {unit : Unit} (half : unit.escaped = true → ¬(0xD800 ≤ unit.code ∧ unit.code ≤ 0xDBFF))
    (units : List Unit) : join (unit :: units) = unit.code :: join units := by
  cases units with
  | nil => rfl
  | cons low units =>
    have apart : isPair unit low = false := by
      unfold isPair
      cases escaped : unit.escaped with
      | false => rfl
      | true =>
        have := half escaped
        simp only [Bool.true_and, Bool.and_eq_false_iff, decide_eq_false_iff_not]
        omega
    rw [join, apart]
    rfl

/-- **The units of a code point are read as it.** -/
theorem join_unitsOf {ascii : Bool} {c : Nat} (scalar : Utf8.Scalar c) (units : List Unit) :
    join (unitsOf ascii c ++ units) = c :: join units := by
  have ⟨bound, whole⟩ : c < 0x110000 ∧ ¬(0xD800 ≤ c ∧ c ≤ 0xDFFF) := scalar
  unfold unitsOf
  split
  · exact join_cons (by nofun) units
  split
  · exact join_cons (fun _ => by show ¬(0xD800 ≤ c ∧ c ≤ 0xDBFF); omega) units
  split
  · exact join_cons (by nofun) units
  split
  · exact join_cons (fun _ => by show ¬(0xD800 ≤ c ∧ c ≤ 0xDBFF); omega) units
  · have pair : isPair ⟨true, 0xD800 + (c - 0x10000) / 1024⟩
        ⟨true, 0xDC00 + (c - 0x10000) % 1024⟩ = true := by
      simp only [isPair, Bool.true_and, Bool.and_eq_true, decide_eq_true_eq]
      omega
    have value : 0x10000 + (0xD800 + (c - 0x10000) / 1024 - 0xD800) * 1024 +
        (0xDC00 + (c - 0x10000) % 1024 - 0xDC00) = c := by
      omega
    rw [List.cons_append, List.cons_append, List.nil_append, join, if_pos pair, value]

theorem join_text {ascii : Bool} {value : List Nat} (scalars : ∀ c ∈ value, Utf8.Scalar c) :
    join (value.flatMap (unitsOf ascii)) = value := by
  induction value with
  | nil => rfl
  | cons c value ih =>
    obtain ⟨scalar, later⟩ := List.forall_mem_cons.mp scalars
    rw [List.flatMap_cons, join_unitsOf scalar, ih later]

/-- **A string is read back**, whatever follows it. -/
theorem readString_write {ascii : Bool} {value : List Nat}
    (scalars : ∀ c ∈ value, Utf8.Scalar c) (rest : List Nat) :
    readString ((value.flatMap (unitsOf ascii)).flatMap writeUnit ++ 34 :: rest) =
      some (value, rest) := by
  have written : ∀ unit ∈ value.flatMap (unitsOf ascii), Written unit := by
    intro unit mem
    obtain ⟨c, at_c, mem⟩ := List.mem_flatMap.mp mem
    exact unitsOf_written (scalars c at_c).1 unit mem
  rw [readString, readUnits_write written, Option.map_some, join_text scalars]

/-! ## Numbers -/

/-- The input does not go on with a number. -/
def Ends (rest : List Nat) : Prop :=
  ∀ c ∈ rest.head?, isDigit c = false ∧ c ≠ 46 ∧ c ≠ 101 ∧ c ≠ 69

theorem writeNat_digits {n c : Nat} (mem : c ∈ writeNat n) : isDigit c = true := by
  obtain ⟨digit, held, rfl⟩ := List.mem_map.mp mem
  have digit := Nat.isDigit_of_mem_toDigits (by omega) (by omega) held
  obtain ⟨low, high⟩ := Char.isDigit_iff_toNat.mp digit
  simp only [isDigit, Bool.and_eq_true, decide_eq_true_eq]
  exact ⟨low, high⟩

theorem writeNat_ne_nil (n : Nat) : writeNat n ≠ [] := by
  intro empty
  exact Nat.toDigits_ne_nil (List.map_eq_nil_iff.mp empty)

/-- Only zero is written with a zero in front. -/
theorem writeNat_head {n : Nat} (positive : 0 < n) : (writeNat n).head? ≠ some 48 := by
  induction n using Nat.strongRecOn with
  | ind n ih =>
    by_cases small : n < 10
    · unfold writeNat
      rw [Nat.toDigits_of_lt_base small]
      have : n = 1 ∨ n = 2 ∨ n = 3 ∨ n = 4 ∨ n = 5 ∨ n = 6 ∨ n = 7 ∨ n = 8 ∨ n = 9 := by omega
      rcases this with rfl | rfl | rfl | rfl | rfl | rfl | rfl | rfl | rfl <;> decide
    · have front := ih (n / 10) (by omega) (by omega)
      unfold writeNat at front ⊢
      rw [Nat.toDigits_of_base_le (by omega) (by omega), List.map_append, List.head?_append]
      cases first : (List.map Char.toNat (Nat.toDigits 10 (n / 10))).head? with
      | none => exact absurd (List.head?_eq_none_iff.mp first) (writeNat_ne_nil (n / 10))
      | some c =>
        rw [first] at front
        exact front

theorem valueOf_writeNat (n : Nat) : valueOf (writeNat n) = n := by
  have back : (Nat.toDigits 10 n).map (Char.ofNat ∘ Char.toNat) = Nat.toDigits 10 n := by
    conv_rhs => rw [← List.map_id (Nat.toDigits 10 n)]
    exact List.map_congr_left fun c _ => Char.ofNat_toNat c
  unfold valueOf writeNat
  rw [List.map_map, back, Nat.ofDigitChars_ten_toDigits]

theorem digits_append {front rest : List Nat} (all : ∀ c ∈ front, isDigit c = true)
    (ends : Ends rest) : digits (front ++ rest) = (front, rest) := by
  have stops : rest.takeWhile isDigit = [] ∧ rest.dropWhile isDigit = rest := by
    cases rest with
    | nil => exact ⟨rfl, rfl⟩
    | cons c rest =>
      have other := (ends c rfl).1
      exact ⟨List.takeWhile_cons_of_neg (by simp [other]), List.dropWhile_cons_of_neg (by simp [other])⟩
  unfold digits
  rw [List.takeWhile_append_of_pos all, List.dropWhile_append_of_pos all, stops.1, stops.2,
    List.append_nil]

theorem readWhole_writeNat (n : Nat) {rest : List Nat} (ends : Ends rest) :
    readWhole (writeNat n ++ rest) = some (writeNat n, rest) := by
  rcases Nat.eq_zero_or_pos n with rfl | positive
  · rfl
  · have split := digits_append (fun c mem => writeNat_digits (n := n) mem) ends
    have head := writeNat_head positive
    unfold readWhole
    cases spelled : writeNat n with
    | nil => exact absurd spelled (writeNat_ne_nil n)
    | cons c more =>
      rw [spelled] at split head
      have other : c ≠ 48 := fun same => head (by rw [same]; rfl)
      rw [List.cons_append]
      split
      · next same => exact absurd (List.cons.inj same).1 other
      · rw [← List.cons_append, split]

theorem readMagnitude_writeNat (negative : Bool) (n : Nat) {rest : List Nat} (ends : Ends rest) :
    readMagnitude negative (writeNat n ++ rest) =
      some (.int (if negative then -n else n), rest) := by
  have fraction : readFraction rest = ([], rest) := by
    unfold readFraction
    split
    · next rest => exact absurd rfl (ends 46 rfl).2.1
    · rfl
  have exponent : readExponent rest = ([], rest) := by
    unfold readExponent
    cases rest with
    | nil => rfl
    | cons c rest =>
      obtain ⟨-, -, noE, noe⟩ := ends c rfl
      exact if_neg (by simp [noE, noe])
  rw [readMagnitude, readWhole_writeNat n ends, Option.map_some]
  simp only [fraction, exponent, numberOf, valueOf_writeNat, and_self, if_true]

/-- No word begins like a number, but for the negative infinity. -/
theorem readWord_number {c : Nat} (digit : isDigit c = true) (rest : List Nat) :
    readWord (c :: rest) = none ∧ readWord (45 :: c :: rest) = none := by
  simp only [isDigit, Bool.and_eq_true, decide_eq_true_eq] at digit
  have other {d : Nat} (far : d < 48 ∨ 57 < d) : (d == c) = false := by
    simp only [beq_eq_false_iff_ne]
    omega
  constructor
  · simp [readWord, words, List.find?, List.isPrefixOf, other]
  · simp [readWord, words, List.find?, List.isPrefixOf, other]

/-- **A number is read back.** -/
theorem readNumber_write (value : Int) {rest : List Nat} (ends : Ends rest) :
    (readWord (writeInt value ++ rest)).or (readNumber (writeInt value ++ rest)) =
      some (.int value, rest) := by
  cases value with
  | ofNat n =>
    have read := readMagnitude_writeNat false n ends
    show (readWord (writeNat n ++ rest)).or (readNumber (writeNat n ++ rest)) = _
    cases spelled : writeNat n with
    | nil => exact absurd spelled (writeNat_ne_nil n)
    | cons c more =>
      have digit : isDigit c = true :=
        writeNat_digits (n := n) (by rw [spelled]; exact List.mem_cons_self)
      have other : c ≠ 45 := by
        rintro rfl
        cases digit
      rw [spelled] at read
      rw [List.cons_append] at read ⊢
      rw [(readWord_number digit _).1, Option.none_or]
      unfold readNumber
      split
      · next same => exact absurd (List.cons.inj same).1 other
      · exact read
  | negSucc n =>
    have read := readMagnitude_writeNat true (n + 1) ends
    show (readWord (45 :: (writeNat (n + 1) ++ rest))).or
      (readMagnitude true (writeNat (n + 1) ++ rest)) = _
    rw [read]
    cases spelled : writeNat (n + 1) with
    | nil => exact absurd spelled (writeNat_ne_nil (n + 1))
    | cons c more =>
      have digit : isDigit c = true :=
        writeNat_digits (n := n + 1) (by rw [spelled]; exact List.mem_cons_self)
      rw [List.cons_append, (readWord_number digit _).2, Option.none_or]
      rfl

/-! ## Values -/

mutual

/-- No number with a fraction, and every string is a text. -/
def Plain : Value → Prop
  | .float _ => False
  | .str value => ∀ c ∈ value, Utf8.Scalar c
  | .arr items => PlainItems items
  | .obj members => PlainMembers members
  | _ => True

def PlainItems : List Value → Prop
  | [] => True
  | item :: items => Plain item ∧ PlainItems items

def PlainMembers : List (List Nat × Value) → Prop
  | [] => True
  | (key, value) :: members =>
    (∀ c ∈ key, Utf8.Scalar c) ∧ Plain value ∧ PlainMembers members

end

theorem uniqueItems_iff {items : List Value} :
    uniqueItems items = true ↔ ∀ item ∈ items, unique item = true := by
  induction items with
  | nil => simp [uniqueItems]
  | cons item items ih => rw [uniqueItems, Bool.and_eq_true, ih, List.forall_mem_cons]

theorem plainItems_iff {items : List Value} : PlainItems items ↔ ∀ item ∈ items, Plain item := by
  induction items with
  | nil => simp [PlainItems]
  | cons item items ih => rw [PlainItems, ih, List.forall_mem_cons]

/-- A code point that a value can begin with. -/
def Opens (c : Nat) : Prop := isBlank c = false ∧ c ≠ 93 ∧ c ≠ 125

instance (c : Nat) : Decidable (Opens c) := inferInstanceAs (Decidable (_ ∧ _))

theorem writeInt_head (value : Int) :
    ∃ c more, writeInt value = c :: more ∧ (c = 45 ∨ isDigit c = true) := by
  cases value with
  | ofNat n =>
    show ∃ c more, writeNat n = c :: more ∧ _
    cases spelled : writeNat n with
    | nil => exact absurd spelled (writeNat_ne_nil n)
    | cons c more =>
      have mem : c ∈ writeNat n := by
        rw [spelled]
        exact List.mem_cons_self
      exact ⟨c, more, rfl, .inr (writeNat_digits mem)⟩
  | negSucc n => exact ⟨45, _, rfl, .inl rfl⟩

theorem opens_of_head {c : Nat} (head : c = 45 ∨ isDigit c = true) : Opens c := by
  rcases head with rfl | digit
  · decide
  · simp only [isDigit, Bool.and_eq_true, decide_eq_true_eq] at digit
    refine ⟨?_, by omega, by omega⟩
    simp only [isBlank, Bool.or_eq_false_iff, decide_eq_false_iff_not]
    omega

theorem write_opens (ascii : Bool) {value : Value} (plain : Plain value) :
    ∃ c more, write ascii value = c :: more ∧ Opens c := by
  cases value with
  | null => exact ⟨_, _, by rw [write], by decide⟩
  | bool value =>
    cases value with
    | true => exact ⟨_, _, by rw [write], by decide⟩
    | false => exact ⟨_, _, by rw [write], by decide⟩
  | int value =>
    obtain ⟨c, more, spelled, head⟩ := writeInt_head value
    exact ⟨c, more, by rw [write, spelled], opens_of_head head⟩
  | float literal => exact plain.elim
  | str value => exact ⟨34, _, by rw [write, writeString, List.cons_append], by decide⟩
  | arr items =>
    cases items with
    | nil => exact ⟨_, _, by rw [write], by decide⟩
    | cons item items => exact ⟨91, _, by rw [write, List.cons_append], by decide⟩
  | obj members =>
    cases members with
    | nil => exact ⟨_, _, by rw [write], by decide⟩
    | cons member members =>
      exact ⟨123, _, by rw [write, List.cons_append, List.cons_append], by decide⟩

theorem skip_cons {c : Nat} (visible : isBlank c = false) (rest : List Nat) :
    skip (c :: rest) = c :: rest := List.dropWhile_cons_of_neg (by simp [visible])

/-- With this fuel every value that is no longer is read back, whatever follows. -/
def ReadsValues (ascii : Bool) (fuel : Nat) : Prop :=
  ∀ value rest, Plain value → (write ascii value).length ≤ fuel → Ends rest →
    readValue fuel (write ascii value ++ rest) = some (value, rest)

def ReadsItems (ascii : Bool) (fuel : Nat) : Prop :=
  ∀ item items rest, Plain item → PlainItems items →
    (write ascii item).length + (writeItems ascii items).length ≤ fuel →
      readItems fuel (write ascii item ++ (writeItems ascii items ++ rest)) =
        some (item :: items, rest)

def ReadsMembers (ascii : Bool) (fuel : Nat) : Prop :=
  ∀ key value members rest, (∀ c ∈ key, Utf8.Scalar c) → Plain value → PlainMembers members →
    (write ascii value).length + (writeMembers ascii members).length < fuel →
      readMembers fuel (writeString ascii key ++
        58 :: (write ascii value ++ (writeMembers ascii members ++ rest))) =
          some ((key, value) :: members, rest)

theorem length_writeItems_pos (ascii : Bool) (items : List Value) :
    0 < (writeItems ascii items).length := by
  cases items with
  | nil => exact Nat.one_pos
  | cons item items => simp [writeItems]

theorem length_writeMembers_pos (ascii : Bool) (members : List (List Nat × Value)) :
    0 < (writeMembers ascii members).length := by
  cases members with
  | nil => exact Nat.one_pos
  | cons member members => simp [writeMembers]

theorem length_write_pos (ascii : Bool) {value : Value} (plain : Plain value) :
    0 < (write ascii value).length := by
  obtain ⟨c, more, spelled, -⟩ := write_opens ascii plain
  rw [spelled]
  exact Nat.succ_pos _

theorem ends_writeItems (ascii : Bool) (items : List Value) (rest : List Nat) :
    Ends (writeItems ascii items ++ rest) := by
  cases items with
  | nil =>
    intro c first
    cases first
    decide
  | cons item items =>
    intro c first
    rw [writeItems, List.cons_append, List.cons_append] at first
    cases first
    decide

theorem ends_writeMembers (ascii : Bool) (members : List (List Nat × Value)) (rest : List Nat) :
    Ends (writeMembers ascii members ++ rest) := by
  cases members with
  | nil =>
    intro c first
    cases first
    decide
  | cons member members =>
    intro c first
    rw [writeMembers, List.cons_append, List.cons_append, List.cons_append] at first
    cases first
    decide

theorem readsItems_succ {ascii : Bool} {fuel : Nat} (values : ReadsValues ascii fuel)
    (items : ReadsItems ascii fuel) : ReadsItems ascii (fuel + 1) := by
  intro item more rest plain plains enough
  have positive := length_writeItems_pos ascii more
  have first := values item (writeItems ascii more ++ rest) plain (by omega)
    (ends_writeItems ascii more rest)
  rw [readItems, first]
  cases more with
  | nil => rfl
  | cons next more =>
    obtain ⟨here, later⟩ := plains
    obtain ⟨c, front, spelled, blank, -⟩ := write_opens ascii here
    have second := items next more rest here later (by
      have := length_write_pos ascii plain
      simp only [writeItems, List.cons_append, List.length_cons, List.length_append] at enough
      omega)
    simp only [writeItems, List.cons_append, List.append_assoc]
    rw [skip_cons (by decide)]
    simp only [spelled, List.cons_append] at second ⊢
    rw [skip_cons blank, second]
    rfl

theorem readsMembers_succ {ascii : Bool} {fuel : Nat} (values : ReadsValues ascii fuel)
    (members : ReadsMembers ascii fuel) : ReadsMembers ascii (fuel + 1) := by
  intro key value more rest scalars plain plains enough
  have positive := length_writeMembers_pos ascii more
  have first := values value (writeMembers ascii more ++ rest) plain (by omega)
    (ends_writeMembers ascii more rest)
  obtain ⟨c, front, spelled, blank, -⟩ := write_opens ascii plain
  unfold readMembers writeString
  simp only [List.cons_append, List.append_assoc, List.nil_append]
  rw [readString_write scalars]
  dsimp only
  rw [skip_cons (by decide)]
  simp only [spelled, List.cons_append] at first ⊢
  rw [skip_cons blank, first]
  cases more with
  | nil => rfl
  | cons member more =>
    obtain ⟨nextKey, next⟩ := member
    obtain ⟨texts, here, later⟩ := plains
    have second := members nextKey next more rest texts here later (by
      simp only [writeMembers, List.cons_append, List.length_cons, List.length_append] at enough
      omega)
    simp only [writeMembers, List.cons_append, List.append_assoc]
    rw [skip_cons (by decide)]
    simp only [writeString, List.cons_append, List.append_assoc, List.nil_append] at second ⊢
    rw [skip_cons (by decide), second]
    rfl

theorem readValue_string (fuel : Nat) (rest : List Nat) : readValue (fuel + 1) (34 :: rest) =
    (readString rest).map fun read => (.str read.1, read.2) := rfl

theorem readValue_items (fuel : Nat) {c : Nat} {rest : List Nat} (blank : isBlank c = false)
    (unclosed : c ≠ 93) : readValue (fuel + 1) (91 :: c :: rest) =
      (readItems fuel (c :: rest)).map fun read => (.arr read.1, read.2) := by
  show (match skip (c :: rest) with
    | 93 :: rest => some (Value.arr [], rest)
    | rest => (readItems fuel rest).map fun read : List Value × List Nat =>
      (Value.arr read.1, read.2)) = _
  rw [skip_cons blank]
  split
  · next same => exact absurd (List.cons.inj same).1 unclosed
  · rfl

theorem readValue_members (fuel : Nat) (rest : List Nat) :
    readValue (fuel + 1) (123 :: 34 :: rest) =
      (readMembers fuel (34 :: rest)).map fun read => (.obj read.1, read.2) := by
  show (match skip (34 :: rest) with
    | 125 :: rest => some (Value.obj [], rest)
    | rest => (readMembers fuel rest).map fun read : List (List Nat × Value) × List Nat =>
      (Value.obj read.1, read.2)) = _
  simp only [skip_cons (show isBlank 34 = false by decide)]

theorem readsValues_succ {ascii : Bool} {fuel : Nat} (items : ReadsItems ascii fuel)
    (members : ReadsMembers ascii fuel) : ReadsValues ascii (fuel + 1) := by
  intro value rest plain enough ends
  cases value with
  | null => rfl
  | bool value => cases value <;> rfl
  | int value =>
    have read := readNumber_write value ends
    obtain ⟨c, more, spelled, head⟩ := writeInt_head value
    rw [write]
    rw [spelled, List.cons_append] at read ⊢
    unfold readValue
    split
    · next same => cases same; rcases head with wrong | wrong <;> cases wrong
    · next same => cases same; rcases head with wrong | wrong <;> cases wrong
    · next same => cases same; rcases head with wrong | wrong <;> cases wrong
    · exact read
  | float literal => exact plain.elim
  | str value =>
    simp only [write, writeString, List.cons_append, List.append_assoc, List.nil_append]
    rw [readValue_string, readString_write plain]
    rfl
  | arr values =>
    cases values with
    | nil => rfl
    | cons item values =>
      obtain ⟨here, later⟩ := plain
      obtain ⟨c, front, spelled, blank, noClose, -⟩ := write_opens ascii here
      have read := items item values rest here later (by
        simp only [write, List.cons_append, List.length_cons, List.length_append] at enough
        omega)
      simp only [write, List.cons_append, List.append_assoc]
      simp only [spelled, List.cons_append] at read ⊢
      rw [readValue_items fuel blank noClose, read]
      rfl
  | obj values =>
    cases values with
    | nil => rfl
    | cons member values =>
      obtain ⟨key, value⟩ := member
      obtain ⟨texts, here, later⟩ := plain
      have read := members key value values rest texts here later (by
        simp only [write, writeString, List.cons_append, List.length_cons, List.length_append] at enough
        omega)
      simp only [write, List.cons_append, List.append_assoc]
      simp only [writeString, List.cons_append, List.append_assoc, List.nil_append] at read ⊢
      rw [readValue_members, read]
      rfl

theorem reads (ascii : Bool) (fuel : Nat) :
    ReadsValues ascii fuel ∧ ReadsItems ascii fuel ∧ ReadsMembers ascii fuel := by
  induction fuel with
  | zero =>
    refine ⟨fun value rest plain enough => ?_, fun item items rest plain _ enough => ?_,
      fun _ _ _ _ _ _ _ enough => absurd enough (Nat.not_lt_zero _)⟩
    · have := length_write_pos ascii plain
      omega
    · have := length_write_pos ascii plain
      omega
  | succ fuel ih =>
    obtain ⟨values, items, members⟩ := ih
    exact ⟨readsValues_succ items members, readsItems_succ values items,
      readsMembers_succ values members⟩

/-- **What is written is read back**, with blanks allowed after it. -/
theorem read_write {ascii : Bool} {value : Value} (plain : Plain value) {rest : List Nat}
    (blank : ∀ c ∈ rest, isBlank c = true) : read (write ascii value ++ rest) = some value := by
  obtain ⟨c, front, spelled, visible, -⟩ := write_opens ascii plain
  have nothing : skip rest = [] := List.dropWhile_eq_nil_iff.mpr blank
  have ends : Ends rest := by
    intro c first
    have := blank c (List.mem_of_mem_head? first)
    simp only [isBlank, Bool.or_eq_true, decide_eq_true_eq] at this
    rcases this with ((rfl | rfl) | rfl) | rfl <;> decide
  have whole := (reads ascii ((write ascii value ++ rest).length + 1)).1 value rest plain
    (by rw [List.length_append]; omega) ends
  unfold read
  have start : skip (write ascii value ++ rest) = write ascii value ++ rest := by
    rw [spelled, List.cons_append, skip_cons visible]
  rw [start, whole]
  dsimp only
  rw [if_pos nothing]

/-! ## Bytes -/

/-- Reads a text from its bytes. -/
def load (bytes : List UInt8) : Option Value := (Utf8.decode bytes).bind read

theorem hexDigit_ascii {n : Nat} (small : n < 16) : hexDigit n < 128 := by
  unfold hexDigit
  split <;> omega

theorem writeUnit_ascii {unit : Unit} (ascii : unit.escaped = true ∨ unit.code < 128) :
    ∀ c ∈ writeUnit unit, c < 128 := by
  unfold writeUnit
  split
  · intro c mem
    simp only [hex, List.mem_cons, List.not_mem_nil, or_false] at mem
    rcases mem with rfl | rfl | rfl | rfl | rfl | rfl
    · decide
    · decide
    all_goals exact hexDigit_ascii (by omega)
  next plain =>
    have small := ascii.resolve_left plain
    split
    · next letter short =>
      intro c mem
      rcases List.mem_pair.mp mem with rfl | rfl
      · decide
      · unfold escapeLetter at short
        split at short
        · cases short; decide
        split at short
        · cases short; decide
        split at short
        · cases short; decide
        split at short
        · cases short; decide
        split at short
        · cases short; decide
        split at short
        · cases short; decide
        split at short
        · cases short; decide
        · cases short
    · intro c mem
      rw [List.mem_singleton.mp mem]
      exact small

theorem digit_ascii {c : Nat} (digit : isDigit c = true) : 32 ≤ c ∧ c < 128 := by
  simp only [isDigit, Bool.and_eq_true, decide_eq_true_eq] at digit
  omega

theorem writeInt_ascii (value : Int) : ∀ c ∈ writeInt value, 32 ≤ c ∧ c < 128 := by
  intro c mem
  cases value with
  | ofNat n => exact digit_ascii (writeNat_digits (n := n) mem)
  | negSucc n =>
    rcases List.mem_cons.mp mem with rfl | digit
    · decide
    · exact digit_ascii (writeNat_digits digit)

section Alphabet

variable {P : Nat → Prop} {ascii : Bool}

theorem all_of_ascii (low : ∀ c, 32 ≤ c ∧ c < 128 → P c) {word : List Nat}
    (ascii : word.all (fun c => 32 ≤ c ∧ c < 128) = true) : ∀ c ∈ word, P c :=
  fun c mem => low c (of_decide_eq_true (List.all_eq_true.mp ascii c mem))

variable (low : ∀ c, 32 ≤ c ∧ c < 128 → P c)
  (texts : ∀ value : List Nat, (∀ c ∈ value, Utf8.Scalar c) → ∀ c ∈ writeString ascii value, P c)

include low texts

/-- What a value is spelled with: visible ASCII, and what its strings are spelled with. -/
theorem write_all : ∀ {value : Value}, Plain value → ∀ c ∈ write ascii value, P c
  | .null, _ => all_of_ascii low (by rfl)
  | .bool true, _ => all_of_ascii low (by rfl)
  | .bool false, _ => all_of_ascii low (by rfl)
  | .int value, _ => fun c mem => low c (writeInt_ascii value c mem)
  | .float _, plain => plain.elim
  | .str value, plain => texts value plain
  | .arr [], _ => all_of_ascii low (by rfl)
  | .arr (item :: items), plain => by
    simp only [write, List.cons_append, List.forall_mem_cons, List.forall_mem_append]
    exact ⟨low 91 (by decide), write_all plain.1, items_all items plain.2⟩
  | .obj [], _ => all_of_ascii low (by rfl)
  | .obj ((key, value) :: members), plain => by
    simp only [write, List.cons_append, List.forall_mem_cons, List.forall_mem_append]
    exact ⟨low 123 (by decide), ⟨texts key plain.1, low 58 (by decide), write_all plain.2.1⟩,
      members_all members plain.2.2⟩
where
  items_all : ∀ items : List Value, PlainItems items → ∀ c ∈ writeItems ascii items, P c
    | [], _ => all_of_ascii low (by rfl)
    | item :: items, plain => by
      simp only [writeItems, List.cons_append, List.forall_mem_cons, List.forall_mem_append]
      exact ⟨low 44 (by decide), write_all plain.1, items_all items plain.2⟩
  members_all : ∀ members : List (List Nat × Value), PlainMembers members →
      ∀ c ∈ writeMembers ascii members, P c
    | [], _ => all_of_ascii low (by rfl)
    | (key, value) :: members, plain => by
      simp only [writeMembers, List.cons_append, List.forall_mem_cons, List.forall_mem_append]
      exact ⟨low 44 (by decide), ⟨texts key plain.1, low 58 (by decide), write_all plain.2.1⟩,
        members_all members plain.2.2⟩

end Alphabet

theorem unitsOf_ascii (c : Nat) : ∀ unit ∈ unitsOf true c, unit.escaped = true ∨ unit.code < 128 := by
  intro unit mem
  unfold unitsOf at mem
  split at mem
  · next short =>
    cases List.mem_singleton.mp mem
    exact .inr (by show c < 128; omega)
  split at mem
  · cases List.mem_singleton.mp mem
    exact .inl rfl
  split at mem
  · next visible =>
    cases List.mem_singleton.mp mem
    rcases visible with wrong | small
    · cases wrong
    · exact .inr (by show c < 128; omega)
  split at mem
  · cases List.mem_singleton.mp mem
    exact .inl rfl
  · rcases List.mem_pair.mp mem with rfl | rfl <;> exact .inl rfl

theorem writeString_ascii (value : List Nat) : ∀ c ∈ writeString true value, c < 128 := by
  intro c mem
  simp only [writeString, List.cons_append, List.mem_cons, List.mem_append, List.mem_flatMap,
    List.not_mem_nil, or_false] at mem
  rcases mem with rfl | ⟨unit, ⟨code, -, from_code⟩, spelled⟩ | rfl
  · decide
  · exact writeUnit_ascii (unitsOf_ascii code unit from_code) c spelled
  · decide

/-- **Without code points outside ASCII**, where these are escaped. -/
theorem write_ascii {value : Value} (plain : Plain value) : ∀ c ∈ write true value, c < 128 :=
  write_all (fun _ visible => visible.2) (fun value _ => writeString_ascii value) plain

/-- A unit that a code point is written as is ASCII where it is spelled, or the code point. -/
theorem unitsOf_scalar {ascii : Bool} {c : Nat} (scalar : Utf8.Scalar c) :
    ∀ unit ∈ unitsOf ascii c, unit.escaped = true ∨ Utf8.Scalar unit.code := by
  intro unit mem
  unfold unitsOf at mem
  split at mem
  · cases List.mem_singleton.mp mem
    exact .inr scalar
  split at mem
  · cases List.mem_singleton.mp mem
    exact .inl rfl
  split at mem
  · cases List.mem_singleton.mp mem
    exact .inr scalar
  split at mem
  · cases List.mem_singleton.mp mem
    exact .inl rfl
  · rcases List.mem_pair.mp mem with rfl | rfl <;> exact .inl rfl

theorem writeString_scalar {ascii : Bool} (value : List Nat)
    (scalars : ∀ c ∈ value, Utf8.Scalar c) : ∀ c ∈ writeString ascii value, Utf8.Scalar c := by
  intro c mem
  simp only [writeString, List.cons_append, List.mem_cons, List.mem_append, List.mem_flatMap,
    List.not_mem_nil, or_false] at mem
  rcases mem with rfl | ⟨unit, ⟨code, held, from_code⟩, spelled⟩ | rfl
  · decide
  · rcases unitsOf_scalar (scalars code held) unit from_code with escaped | scalar
    · exact Utf8.scalar_of_ascii (writeUnit_ascii (.inl escaped) c spelled)
    · by_cases small : unit.code < 128
      · exact Utf8.scalar_of_ascii (writeUnit_ascii (.inr small) c spelled)
      · unfold writeUnit at spelled
        split at spelled
        · next escaped =>
          exact Utf8.scalar_of_ascii (writeUnit_ascii (.inl escaped) c (by
            unfold writeUnit
            rwa [if_pos escaped]))
        split at spelled
        · next short =>
          unfold escapeLetter at short
          repeat (split at short; · omega)
          cases short
        · rw [List.mem_singleton.mp spelled]
          exact scalar
  · decide

theorem write_scalar {ascii : Bool} {value : Value} (plain : Plain value) :
    ∀ c ∈ write ascii value, Utf8.Scalar c :=
  write_all (fun _ visible => Utf8.scalar_of_ascii visible.2) writeString_scalar plain

theorem writeUnit_visible {unit : Unit} (written : Written unit) : ∀ c ∈ writeUnit unit, 32 ≤ c := by
  intro c mem
  unfold writeUnit at mem
  split at mem
  · simp only [hex, List.mem_cons, List.not_mem_nil, or_false] at mem
    have digit (n : Nat) : 32 ≤ hexDigit n := by
      unfold hexDigit
      split <;> omega
    rcases mem with rfl | rfl | rfl | rfl | rfl | rfl
    · decide
    · decide
    all_goals exact digit _
  next plain =>
    split at mem
    · next letter short =>
      rcases List.mem_pair.mp mem with rfl | rfl
      · decide
      · have back := unescape_escapeLetter short
        by_contra control
        have none : unescape c = none := by
          unfold unescape
          rw [if_neg (by omega), if_neg (by omega), if_neg (by omega), if_neg (by omega),
            if_neg (by omega), if_neg (by omega), if_neg (by omega), if_neg (by omega)]
        rw [none] at back
        cases back.2
    · next long =>
      rw [List.mem_singleton.mp mem]
      unfold Written at written
      rw [if_neg plain, long] at written
      exact written.resolve_left nofun

theorem writeString_visible {ascii : Bool} (value : List Nat)
    (scalars : ∀ c ∈ value, Utf8.Scalar c) : ∀ c ∈ writeString ascii value, 32 ≤ c := by
  intro c mem
  simp only [writeString, List.cons_append, List.mem_cons, List.mem_append, List.mem_flatMap,
    List.not_mem_nil, or_false] at mem
  rcases mem with rfl | ⟨unit, ⟨code, held, from_code⟩, spelled⟩ | rfl
  · decide
  · exact writeUnit_visible (unitsOf_written (scalars code held).1 unit from_code) c spelled
  · decide

/-- **Without control characters**: what is written is one line. -/
theorem write_visible {ascii : Bool} {value : Value} (plain : Plain value) :
    ∀ c ∈ write ascii value, 32 ≤ c :=
  write_all (fun _ visible => visible.1) writeString_visible plain

/-- **What was written is loaded**, with blanks allowed after it. -/
theorem load_write {ascii : Bool} {value : Value} (plain : Plain value) {rest : List Nat}
    (blank : ∀ c ∈ rest, isBlank c = true) :
    load (Utf8.encode (write ascii value ++ rest)) = some value := by
  have scalars : ∀ c ∈ write ascii value ++ rest, Utf8.Scalar c := by
    intro c mem
    rcases List.mem_append.mp mem with spelled | after
    · exact write_scalar plain c spelled
    · have := blank c after
      simp only [isBlank, Bool.or_eq_true, decide_eq_true_eq] at this
      exact Utf8.scalar_of_ascii (by omega)
  rw [load, Utf8.decode_encode scalars, Option.bind_some, read_write plain blank]

/-- Items that are each read as something are read together. -/
theorem mapM_map {α β γ : Type} {f : α → β} {g : β → Option γ} {h : α → γ} {items : List α}
    (each : ∀ item ∈ items, g (f item) = some (h item)) :
    (items.map f).mapM g = some (items.map h) := by
  induction items with
  | nil => rfl
  | cons item items ih =>
    obtain ⟨here, later⟩ := List.forall_mem_cons.mp each
    rw [List.map_cons, List.mapM_cons, here, ih later]
    rfl

/-- ASCII takes one byte for each code point. -/
theorem length_encode_ascii {text : List Nat} (ascii : ∀ c ∈ text, c < 128) :
    (Utf8.encode text).length = text.length := by
  induction text with
  | nil => rfl
  | cons c text ih =>
    obtain ⟨small, later⟩ := List.forall_mem_cons.mp ascii
    have one : Utf8.encodeChar c = [.ofNat c] := if_pos small
    rw [Utf8.encode, List.flatMap_cons, one, List.singleton_append, List.length_cons,
      List.length_cons, ← ih later, Utf8.encode]

end Lib.JsonText
