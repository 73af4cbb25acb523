import SyncApp.Lib.IsoTime
import SyncApp.Lib.JsonText
import SyncApp.Lib.SealedRow
import SyncApp.Pipeline.ObservationChain
import SyncApp.Pipeline.WorkRows
import SyncApp.Supervisor.Readers

/-!
# The columns of durable records

What a row of the state database holds, how the columns of a record are read, which texts the
journals allow in them, and the seal over a record: the SHA-256 of its values as JSON. The seal
tells records apart whose texts are ASCII (`digest_injective`), as all texts are that the journals
allow.

SHA-256 is a parameter, as the hexadecimal text of a digest, and `datetime.fromisoformat` is one. A
time is a count of microseconds.
-/

set_option autoImplicit false

namespace SyncApp

open Lib

namespace Records

/-- A column as SQLite gives it; `other` is a number with a fraction or a blob. -/
inductive Column where
  | null
  | integer (n : Int)
  | text (value : PyStr)
  | other (payload : List UInt8)
deriving DecidableEq

/-! ## Reading columns -/

def textOf (invalid : String) : Column → Except String PyStr
  | .text value => .ok value
  | _ => .error invalid

def integerOf (invalid : String) : Column → Except String Int
  | .integer n => .ok n
  | _ => .error invalid

/-- `None if column is None else read(column)`. -/
def optional {α : Type} (read : Column → Except String α) : Column → Except String (Option α)
  | .null => .ok none
  | column => (read column).map some

def timeOf (fromisoformat : PyStr → Option DateTime) (invalid : String) (column : Column) :
    Except String DateTime := do
  let value ← textOf invalid column
  match fromisoformat value with
  | some time => return time
  | none => throw invalid

/-! ## Writing columns -/

/-- `astimezone(UTC).isoformat()`. A naive time has no reading in UTC; every record refuses one
before it is written. -/
def isoText : DateTime → Except String PyStr
  | .aware utc =>
    if 0 ≤ utc ∧ utc < Calendar.limit then .ok (Calendar.isoformat utc.toNat)
    else .error "date value out of range"
  | .naive => .error "naive time"

def timeColumn (time : DateTime) : Except String Column := (isoText time).map .text

def optionalTime : Option DateTime → Except String Column
  | none => .ok .null
  | some time => timeColumn time

def optionalText : Option PyStr → Column
  | none => .null
  | some value => .text value

/-- A value as `json.dumps` takes it. -/
def jsonOf : Column → Except String JsonText.Value
  | .null => .ok .null
  | .integer n => .ok (.int n)
  | .text value => .ok (.str value)
  | .other _ => .error "Object of type bytes is not JSON serializable"

/-- `json.dumps(values, ensure_ascii=True, separators=(",", ":")).encode("ascii")`. -/
def payload (values : List Column) : Except String (List UInt8) := do
  let items ← values.mapM jsonOf
  return Utf8.encode (JsonText.write true (.arr items))

/-- `_digest` and `_record_digest`. -/
def digestOf (sha256 : List UInt8 → PyStr) (values : List Column) : Except String Column := do
  let bytes ← payload values
  return .text (sha256 bytes)

/-- No other bytes have the SHA-256 of these values. -/
def Unmatched (sha256 : List UInt8 → PyStr) (values : Except String (List Column)) : Prop :=
  ∀ written bytes, values = .ok written → payload written = .ok bytes →
    ∀ other, sha256 other = sha256 bytes → other = bytes

/-- `_timestamp`. -/
def timestamp (invalid : String) : DateTime → Except String DateTime
  | .aware utc =>
    if 0 ≤ utc ∧ utc < Calendar.limit then .ok (.aware utc) else .error "date value out of range"
  | .naive => .error invalid

/-! ## Times -/

/-- The time in UTC of an aware one. -/
def awareTime (invalid : String) : DateTime → Except String Int
  | .aware utc => .ok utc
  | .naive => .error invalid

/-- `time is not None and time < instant`. -/
def optionallyBefore : Option DateTime → Int → Except String Bool
  | none, _ => .ok false
  | some (.aware utc), instant => .ok (utc < instant)
  | some .naive, _ => .error "can't compare offset-naive and offset-aware datetimes"

/-! ## Texts -/

open ObservationChain (isHex isDeploymentId isSlugStart)

def hexOf (width : Nat) (value : PyStr) : Bool := value.length = width && value.all isHex

/-- `_HASH`. -/
def isHash (value : PyStr) : Bool := hexOf 64 value

/-- `_COMMIT` of rollbacks and promotions, `_OBJECT_ID` of backups. -/
def isObjectId (value : PyStr) : Bool := hexOf 40 value || hexOf 64 value

/-- `_COMMIT` of backups. -/
def isCommit (value : PyStr) : Bool := hexOf 40 value

/-- `_TARGET`. -/
def isTarget (value : PyStr) : Bool :=
  let owner := value.takeWhile (· ≠ 47)
  let name := (value.dropWhile (· ≠ 47)).tail
  value.contains 47 && owner.length ≤ 39 && owner.head?.any isSlugStart &&
    owner.all (fun c => isSlugStart c || c = 45) && 1 ≤ name.length && name.length ≤ 100 &&
    name.all fun c => isSlugStart c || c = 95 || c = 46 || c = 45

/-- `_TAG`. -/
def isTag (value : PyStr) : Bool :=
  let front := text "syncapp-known-good-"
  front.isPrefixOf value && value.length = front.length + 36 &&
    (value.drop front.length).all fun c => isHex c || c = 45

def isDigit (c : Nat) : Bool := 48 ≤ c && c ≤ 57

/-- `_CORE_RELEASE`. -/
def isCoreRelease (value : PyStr) : Bool :=
  let month := (value.drop 5).takeWhile (· ≠ 46)
  let patch := ((value.drop 5).dropWhile (· ≠ 46)).tail
  (value.take 2 = [50, 48]) && ((value.drop 2).take 2).all isDigit && (value.drop 4).head? = some 46 &&
    (["1", "2", "3", "4", "5", "6", "7", "8", "9", "10", "11", "12"].map text).contains month &&
    (value.drop 5).contains 46 && patch.all isDigit && (patch = [48] || patch.head?.any (· ≠ 48))

def isAscii (value : PyStr) : Bool := value.all (· < 128)

theorem isHex_ascii {c : Nat} (hex : isHex c = true) : c < 128 := by
  unfold isHex at hex
  grind

theorem isSlugStart_ascii {c : Nat} (start : isSlugStart c = true) : c < 128 := by
  unfold isSlugStart at start
  grind

theorem isAscii_iff {value : PyStr} : isAscii value = true ↔ ∀ c ∈ value, c < 128 := by
  unfold isAscii
  rw [List.all_eq_true]
  exact forall₂_congr fun c _ => decide_eq_true_iff

theorem hexOf_ascii {width : Nat} {value : PyStr} (hex : hexOf width value = true) :
    isAscii value = true := by
  unfold hexOf at hex
  rw [Bool.and_eq_true, List.all_eq_true] at hex
  exact isAscii_iff.mpr fun c mem => isHex_ascii (hex.2 c mem)

theorem isObjectId_ascii {value : PyStr} (shape : isObjectId value = true) :
    isAscii value = true := by
  unfold isObjectId at shape
  rw [Bool.or_eq_true] at shape
  exact shape.elim hexOf_ascii hexOf_ascii

theorem isSlug_ascii {value : PyStr} (shape : ObservationChain.isSlug value = true) :
    isAscii value = true := by
  cases value with
  | nil => cases shape
  | cons c rest =>
    unfold ObservationChain.isSlug at shape
    rw [Bool.and_eq_true, Bool.and_eq_true, List.all_eq_true] at shape
    refine isAscii_iff.mpr (List.forall_mem_cons.mpr ⟨isSlugStart_ascii shape.1.1, ?_⟩)
    intro d mem
    have later := shape.2 d mem
    rw [Bool.or_eq_true, Bool.or_eq_true, decide_eq_true_eq, decide_eq_true_eq] at later
    rcases later with (start | rfl) | rfl
    · exact isSlugStart_ascii start
    all_goals decide

theorem isDeploymentId_ascii {value : PyStr} (shape : isDeploymentId value = true) :
    isAscii value = true := by
  unfold isDeploymentId at shape
  rw [Bool.and_eq_true, List.all_eq_true] at shape
  refine isAscii_iff.mpr fun c mem => ?_
  obtain ⟨i, bound, there⟩ := List.mem_iff_getElem.mp mem
  have held := shape.2 (c, i) (by
    rw [List.mem_zipIdx_iff_getElem?, ← there]
    exact List.getElem?_eq_getElem bound)
  dsimp only at held
  split at held
  · rw [decide_eq_true_eq] at held
    omega
  · exact isHex_ascii held

theorem isTarget_ascii {value : PyStr} (shape : isTarget value = true) : isAscii value = true := by
  unfold isTarget at shape
  simp only [Bool.and_eq_true, List.all_eq_true] at shape
  obtain ⟨⟨⟨⟨⟨⟨-, -⟩, -⟩, owner⟩, -⟩, -⟩, name⟩ := shape
  have parts : value = value.takeWhile (· ≠ 47) ++ value.dropWhile (· ≠ 47) :=
    List.takeWhile_append_dropWhile.symm
  refine isAscii_iff.mpr fun c mem => ?_
  rw [parts] at mem
  rcases List.mem_append.mp mem with front | back
  · have held := owner c front
    rw [Bool.or_eq_true, decide_eq_true_eq] at held
    exact held.elim isSlugStart_ascii fun same => by omega
  · cases rest : value.dropWhile (· ≠ 47) with
    | nil => rw [rest] at back; cases back
    | cons d more =>
      have slash : d = 47 := by
        have stops := List.head?_dropWhile_not (fun c => decide (c ≠ 47)) value
        rw [rest] at stops
        simpa using stops
      rw [rest] at back name
      rcases List.mem_cons.mp back with rfl | later
      · omega
      · have held := name c later
        rw [Bool.or_eq_true, Bool.or_eq_true, Bool.or_eq_true, decide_eq_true_eq,
          decide_eq_true_eq, decide_eq_true_eq] at held
        rcases held with ((start | same) | same) | same
        · exact isSlugStart_ascii start
        all_goals omega

theorem isTag_ascii {value : PyStr} (shape : isTag value = true) : isAscii value = true := by
  unfold isTag at shape
  simp only [Bool.and_eq_true, List.isPrefixOf_iff_prefix, List.all_eq_true] at shape
  obtain ⟨⟨⟨rest, rfl⟩, -⟩, tail⟩ := shape
  rw [List.drop_left] at tail
  refine isAscii_iff.mpr (List.forall_mem_append.mpr ⟨isAscii_iff.mp (by decide), ?_⟩)
  intro c mem
  have held := tail c mem
  rw [Bool.or_eq_true, decide_eq_true_eq] at held
  exact held.elim isHex_ascii fun same => by omega

theorem isDigit_ascii {c : Nat} (digit : isDigit c = true) : c < 128 := by
  unfold isDigit at digit
  grind

theorem isCoreRelease_ascii {value : PyStr} (shape : isCoreRelease value = true) :
    isAscii value = true := by
  unfold isCoreRelease at shape
  simp only [Bool.and_eq_true, decide_eq_true_eq, List.all_eq_true] at shape
  obtain ⟨⟨⟨⟨⟨⟨century, years⟩, point⟩, month⟩, -⟩, patch⟩, -⟩ := shape
  have months : ∀ month ∈ ["1", "2", "3", "4", "5", "6", "7", "8", "9", "10", "11", "12"].map text,
      isAscii month = true := by decide
  have front : value = value.take 2 ++ ((value.drop 2).take 2 ++ value.drop 4) := by
    rw [show value.drop 4 = (value.drop 2).drop 2 by rw [List.drop_drop], List.take_append_drop,
      List.take_append_drop]
  have rest : value.drop 4 = 46 :: value.drop 5 := by
    rw [show value.drop 5 = (value.drop 4).drop 1 by rw [List.drop_drop], List.drop_one]
    exact (List.cons_head?_tail point).symm
  refine isAscii_iff.mpr ?_
  rw [front, rest, century]
  simp only [List.forall_mem_append, List.forall_mem_cons]
  refine ⟨⟨by decide, by decide, fun c mem => nomatch mem⟩, fun c mem => isDigit_ascii (years c mem),
    by decide, ?_⟩
  rw [← List.takeWhile_append_dropWhile (p := (· ≠ 46)) (l := value.drop 5)]
  refine List.forall_mem_append.mpr
    ⟨isAscii_iff.mp (months _ (List.contains_iff_mem.mp month)), ?_⟩
  cases later : (value.drop 5).dropWhile (· ≠ 46) with
  | nil => exact fun c mem => nomatch mem
  | cons d more =>
    have stops := List.head?_dropWhile_not (fun c => decide (c ≠ 46)) (value.drop 5)
    rw [later] at stops patch
    refine List.forall_mem_cons.mpr ⟨?_, fun c mem => isDigit_ascii (patch c mem)⟩
    have point' : d = 46 := by simpa using stops
    omega

/-! ## The seal -/

/-- No blob, and no text beyond ASCII. -/
def Column.plain : Column → Bool
  | .text value => isAscii value
  | .other _ => false
  | _ => true

theorem optionalText_plain {value : Option PyStr} (ascii : ∀ text ∈ value, isAscii text = true) :
    (optionalText value).plain = true := by
  cases value with
  | none => rfl
  | some text => exact ascii text rfl

theorem isoText_aware {time : DateTime} {value : PyStr} (written : isoText time = .ok value) :
    ∃ t, t < Calendar.limit ∧ time = .aware t ∧ value = Calendar.isoformat t := by
  cases time with
  | naive => cases written
  | aware utc =>
    unfold isoText at written
    dsimp only at written
    split at written
    next within =>
      cases written
      exact ⟨utc.toNat, by omega, by rw [Int.toNat_of_nonneg within.1], rfl⟩
    next => cases written

theorem timeColumn_text {time : DateTime} {column : Column} (written : timeColumn time = .ok column) :
    ∃ t, t < Calendar.limit ∧ time = .aware t ∧ column = .text (Calendar.isoformat t) := by
  unfold timeColumn at written
  cases read : isoText time with
  | error failure => rw [read] at written; cases written
  | ok value =>
    rw [read] at written
    cases written
    obtain ⟨t, within, rfl, rfl⟩ := isoText_aware read
    exact ⟨t, within, rfl, rfl⟩

/-- A time that is aware is its own time in UTC. -/
theorem timestamp_eq {invalid : String} {time moment : DateTime}
    (taken : timestamp invalid time = .ok moment) : moment = time := by
  cases time with
  | naive => cases taken
  | aware utc =>
    unfold timestamp at taken
    dsimp only at taken
    split at taken
    next => exact (Except.ok.inj taken).symm
    next => cases taken

theorem timeColumn_plain {time : DateTime} {column : Column} (written : timeColumn time = .ok column) :
    column.plain = true := by
  obtain ⟨t, -, -, rfl⟩ := timeColumn_text written
  exact isAscii_iff.mpr fun c mem => Calendar.isoformat_ascii t c mem

theorem optionalTime_plain {time : Option DateTime} {column : Column}
    (written : optionalTime time = .ok column) : column.plain = true := by
  cases time with
  | none => cases written; rfl
  | some time => exact timeColumn_plain written

theorem jsonOf_plain {column : Column} (plain : column.plain = true) :
    ∃ value, jsonOf column = .ok value ∧ JsonText.Plain value := by
  cases column with
  | null => exact ⟨_, rfl, trivial⟩
  | integer n => exact ⟨_, rfl, trivial⟩
  | text value =>
    exact ⟨_, rfl, fun c mem => Utf8.scalar_of_ascii (isAscii_iff.mp plain c mem)⟩
  | other payload => cases plain

theorem jsonOf_injective {first second : Column} {value : JsonText.Value}
    (one : jsonOf first = .ok value) (two : jsonOf second = .ok value) : first = second := by
  cases first <;> cases second <;> cases one <;> cases two <;> rfl

theorem mapM_jsonOf_plain {values : List Column} (plain : ∀ column ∈ values, column.plain = true) :
    ∃ items, values.mapM jsonOf = .ok items ∧ JsonText.Plain (.arr items) := by
  induction values with
  | nil => exact ⟨[], rfl, trivial⟩
  | cons column values ih =>
    obtain ⟨item, written, fine⟩ := jsonOf_plain (plain column List.mem_cons_self)
    obtain ⟨items, rest, more⟩ := ih fun c mem => plain c (List.mem_cons_of_mem _ mem)
    exact ⟨item :: items, by rw [List.mapM_cons, written, rest]; rfl, fine, more⟩

theorem mapM_jsonOf_injective {first second : List Column} {items : List JsonText.Value}
    (one : first.mapM jsonOf = .ok items) (two : second.mapM jsonOf = .ok items) :
    first = second := by
  induction first generalizing second items with
  | nil =>
    cases one
    cases second with
    | nil => rfl
    | cons column second =>
      rw [List.mapM_cons] at two
      obtain ⟨_, -, rest⟩ := Raising.bind_eq_ok.mp two
      obtain ⟨_, -, rest⟩ := Raising.bind_eq_ok.mp rest
      cases rest
  | cons column first ih =>
    rw [List.mapM_cons] at one
    obtain ⟨item, written, rest⟩ := Raising.bind_eq_ok.mp one
    obtain ⟨more, writtens, rest⟩ := Raising.bind_eq_ok.mp rest
    cases rest
    cases second with
    | nil => cases two
    | cons column' second =>
      rw [List.mapM_cons] at two
      obtain ⟨item', written', rest⟩ := Raising.bind_eq_ok.mp two
      obtain ⟨more', writtens', rest⟩ := Raising.bind_eq_ok.mp rest
      cases rest
      rw [jsonOf_injective written written', ih writtens writtens']

theorem digestOf_text {sha256 : List UInt8 → PyStr} {values : List Column} {digest : Column}
    (sealed : digestOf sha256 values = .ok digest) :
    ∃ bytes, payload values = .ok bytes ∧ digest = .text (sha256 bytes) := by
  obtain ⟨bytes, written, rest⟩ := Raising.bind_eq_ok.mp sealed
  exact ⟨bytes, written, (Except.ok.inj rest).symm⟩

/-- What is sealed of one row of values is sealed of no other. -/
theorem payload_injective {first second : List Column} {bytes : List UInt8}
    (plain : ∀ column ∈ first, column.plain = true)
    (plain' : ∀ column ∈ second, column.plain = true) (one : payload first = .ok bytes)
    (two : payload second = .ok bytes) : first = second := by
  obtain ⟨items, written, fine⟩ := mapM_jsonOf_plain plain
  obtain ⟨items', written', fine'⟩ := mapM_jsonOf_plain plain'
  unfold payload at one two
  rw [written] at one
  rw [written'] at two
  have same := Except.ok.inj (one.trans two.symm)
  have loaded := @JsonText.load_write true _ fine [] fun c mem => nomatch mem
  have loaded' := @JsonText.load_write true _ fine' [] fun c mem => nomatch mem
  rw [List.append_nil] at loaded loaded'
  rw [same, loaded'] at loaded
  cases loaded
  exact mapM_jsonOf_injective written written'

/-- **The seal tells a record apart** from all that are written in ASCII. -/
theorem digest_injective {sha256 : List UInt8 → PyStr} {first second : List Column} {digest : Column}
    (unmatched : Unmatched sha256 (.ok first)) (plain : ∀ column ∈ first, column.plain = true)
    (plain' : ∀ column ∈ second, column.plain = true) (one : digestOf sha256 first = .ok digest)
    (two : digestOf sha256 second = .ok digest) : second = first := by
  obtain ⟨bytes, sealed, rest⟩ := Raising.bind_eq_ok.mp one
  obtain ⟨bytes', sealed', rest'⟩ := Raising.bind_eq_ok.mp two
  have same := Column.text.inj (Except.ok.inj (rest'.trans rest.symm))
  cases unmatched first bytes rfl sealed bytes' same
  exact payload_injective plain' plain sealed' sealed

/-! ## Columns read back -/

section

variable {fromisoformat : PyStr → Option DateTime} (reads : WorkRows.ReadsBack fromisoformat)
  (invalid : String)

theorem optional_text (value : Option PyStr) :
    optional (textOf invalid) (optionalText value) = .ok value := by
  cases value <;> rfl

include reads

theorem timeOf_timeColumn {time : DateTime} {column : Column} (written : timeColumn time = .ok column) :
    timeOf fromisoformat invalid column = .ok time := by
  obtain ⟨t, within, rfl, rfl⟩ := timeColumn_text written
  show (match fromisoformat (Calendar.isoformat t) with
    | some time => pure time
    | none => throw invalid) = _
  rw [reads t within]
  rfl

theorem optional_time {time : Option DateTime} {column : Column}
    (written : optionalTime time = .ok column) :
    optional (timeOf fromisoformat invalid) column = .ok time := by
  cases time with
  | none => cases written; rfl
  | some time =>
    have read := timeOf_timeColumn reads invalid written
    obtain ⟨t, -, rfl, rfl⟩ := timeColumn_text written
    show (timeOf fromisoformat invalid _).map some = _
    rw [read]
    rfl

end

end Records

end SyncApp
