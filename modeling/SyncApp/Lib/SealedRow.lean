import SyncApp.Lib.Machine
import SyncApp.Lib.Raising

/-!
# Rows that carry their own seal

A record is kept as a row of columns: its values, and last a seal over them. `decode` reads the
columns of a row into a record and takes it only where the record, written again, is that row. So a
row that is accepted is the one its record is written as (`decode_eq_ok`), and where no other record
has its seal, no accepted row differs from it in one column (`decode_set`). A codec whose columns
read back what was written is `Exact`.

A journal is one such row, and what is written to it. Where each write leaves the row of a valid
record, the row of a journal is accepted after every run of writes (`run_legible`).
-/

set_option autoImplicit false

namespace Lib

/-- How records are read, checked and written. `values` are the columns before the seal, `under` is
a record under another seal. -/
structure SealedRow (C R ε : Type) where
  read : List C → Except ε R
  validate : R → Except ε Unit
  values : R → Except ε (List C)
  digest : List C → Except ε C
  under : C → R → R
  mismatch : ε

open Raising

namespace SealedRow

variable {C R ε : Type} (codec : SealedRow C R ε)

def encode (record : R) : Except ε (List C) := do
  codec.validate record
  let values ← codec.values record
  let digest ← codec.digest values
  return values ++ [digest]

def decode [DecidableEq C] (row : List C) : Except ε R := do
  let record ← codec.read row
  codec.validate record
  let again ← codec.encode record
  if again = row then return record else throw codec.mismatch

/-- A record under the seal of its own values, checked. -/
def sealing (record : R) : Except ε R := do
  let values ← codec.values record
  let digest ← codec.digest values
  codec.validate (codec.under digest record)
  return codec.under digest record

/-! ## Laws -/

/-- The seal is no part of the values, and a record has one. -/
structure Lawful : Prop where
  values_under : ∀ digest record, codec.values (codec.under digest record) = codec.values record
  under_under : ∀ digest record,
    codec.under digest (codec.under digest record) = codec.under digest record

/-- What is written of a record is read as that record, under the seal written with it. -/
def Rereads : Prop :=
  ∀ record values digest, codec.values record = .ok values → codec.digest values = .ok digest →
    codec.read (values ++ [digest]) = .ok (codec.under digest record)

/-- No valid record has other values under the seal of this one. -/
def SealsApart (record : R) : Prop :=
  ∀ other values values' digest, codec.values record = .ok values →
    codec.validate other = .ok () → codec.values other = .ok values' →
      codec.digest values = .ok digest → codec.digest values' = .ok digest → values' = values

/-- A record that passes its check and is under the seal of its own values. -/
def Valid (record : R) : Prop :=
  codec.validate record = .ok () ∧ ∃ values digest, codec.values record = .ok values ∧
    codec.digest values = .ok digest ∧ codec.under digest record = record

/-- The rows that are accepted are those of the valid records. None that is `apart` from the others
can be changed in one column. -/
structure Exact [DecidableEq C] (apart : R → Prop) : Prop where
  decodes : ∀ record, codec.Valid record →
    ∃ row, codec.encode record = .ok row ∧ codec.decode row = .ok record
  encodes : ∀ row record, codec.decode row = .ok record →
    codec.encode record = .ok row ∧ codec.Valid record
  refuses : ∀ row record i column, codec.decode row = .ok record → apart record →
    i < row.length → row[i]? ≠ some column →
      ∃ failure, codec.decode (row.set i column) = .error failure

variable {codec} {record : R} {row : List C}

theorem encode_eq_ok : codec.encode record = .ok row ↔
    codec.validate record = .ok () ∧ ∃ values digest, codec.values record = .ok values ∧
      codec.digest values = .ok digest ∧ row = values ++ [digest] := by
  unfold encode
  rw [bind_eq_ok]
  constructor
  · rintro ⟨⟨⟩, valid, rest⟩
    obtain ⟨values, written, rest⟩ := bind_eq_ok.mp rest
    obtain ⟨digest, sealed, rest⟩ := bind_eq_ok.mp rest
    cases rest
    exact ⟨valid, values, digest, written, sealed, rfl⟩
  · rintro ⟨valid, values, digest, written, sealed, rfl⟩
    refine ⟨(), valid, ?_⟩
    rw [written]
    show (codec.digest values >>= fun digest => _) = _
    rw [sealed]
    rfl

theorem Valid.encode_eq (valid : codec.Valid record) : ∃ values digest,
    codec.values record = .ok values ∧ codec.digest values = .ok digest ∧
      codec.under digest record = record ∧ codec.encode record = .ok (values ++ [digest]) := by
  obtain ⟨passes, values, digest, written, sealed, own⟩ := valid
  exact ⟨values, digest, written, sealed, own,
    encode_eq_ok.mpr ⟨passes, values, digest, written, sealed, rfl⟩⟩

/-- **A row is accepted exactly where it is read, and is what its record is written as.** -/
theorem decode_eq_ok [DecidableEq C] : codec.decode row = .ok record ↔
    codec.read row = .ok record ∧ codec.encode record = .ok row := by
  unfold decode
  rw [bind_eq_ok]
  constructor
  · rintro ⟨found, read, rest⟩
    obtain ⟨⟨⟩, -, rest⟩ := bind_eq_ok.mp rest
    obtain ⟨again, written, rest⟩ := bind_eq_ok.mp rest
    split at rest
    next same =>
      cases rest
      exact ⟨read, same ▸ written⟩
    next => cases rest
  · rintro ⟨read, written⟩
    refine ⟨record, read, ?_⟩
    rw [(encode_eq_ok.mp written).1]
    show (codec.encode record >>= fun again => _) = _
    rw [written]
    exact if_pos rfl

/-- **No column of an accepted row can be changed alone.** -/
theorem decode_set [DecidableEq C] (apart : codec.SealsApart record)
    (accepted : codec.decode row = .ok record) {i : Nat} {column : C} (inside : i < row.length)
    (changed : row[i]? ≠ some column) :
    ∃ failure, codec.decode (row.set i column) = .error failure := by
  cases decoded : codec.decode (row.set i column) with
  | error failure => exact ⟨failure, rfl⟩
  | ok other =>
    exfalso
    obtain ⟨-, values, digest, written, sealed, rfl⟩ :=
      encode_eq_ok.mp (decode_eq_ok.mp accepted).2
    obtain ⟨valid', values', digest', written', sealed', same⟩ :=
      encode_eq_ok.mp (decode_eq_ok.mp decoded).2
    have lengths := congrArg List.length same
    rw [List.length_set, List.length_append, List.length_append, List.length_singleton,
      List.length_singleton] at lengths
    rw [List.length_append, List.length_singleton] at inside
    rcases Nat.lt_or_ge i values.length with body | last
    · -- the seal stands, so the values do
      rw [List.set_append_left _ _ body] at same
      obtain ⟨front, digests⟩ := List.append_inj same (by rw [List.length_set]; omega)
      cases digests
      have equal := apart other values values' digest written valid' written' sealed sealed'
      rw [equal] at front
      rw [List.getElem?_append_left body] at changed
      refine changed ?_
      have there : (values.set i column)[i]? = some column := List.getElem?_set_self body
      rwa [front] at there
    · obtain rfl : i = values.length := by omega
      rw [List.set_append_right _ _ (Nat.le_refl _), Nat.sub_self] at same
      obtain ⟨front, digests⟩ := List.append_inj same (by omega)
      cases front
      cases digests
      rw [sealed] at sealed'
      cases sealed'
      exact changed (by rw [List.getElem?_append_right (Nat.le_refl _), Nat.sub_self]; rfl)

theorem exact [DecidableEq C] {apart : R → Prop} (rereads : codec.Rereads)
    (tells : ∀ record, apart record → codec.validate record = .ok () → codec.SealsApart record) :
    codec.Exact apart where
  decodes record valid := by
    obtain ⟨values, digest, written, sealed, own, encoded⟩ := valid.encode_eq
    refine ⟨values ++ [digest], encoded, decode_eq_ok.mpr ⟨?_, encoded⟩⟩
    rw [rereads record values digest written sealed, own]
  encodes row record accepted := by
    obtain ⟨read, encoded⟩ := decode_eq_ok.mp accepted
    obtain ⟨passes, values, digest, written, sealed, rfl⟩ := encode_eq_ok.mp encoded
    have again := rereads record values digest written sealed
    rw [read] at again
    exact ⟨encoded, passes, values, digest, written, sealed, (Except.ok.inj again).symm⟩
  refuses row record i column accepted separate inside changed :=
    decode_set (tells record separate (encode_eq_ok.mp (decode_eq_ok.mp accepted).2).1) accepted
      inside changed

/-- What is sealed is the record itself, under the seal of its values. -/
theorem sealing_eq_ok {result : R} : codec.sealing record = .ok result ↔
    ∃ values digest, codec.values record = .ok values ∧ codec.digest values = .ok digest ∧
      codec.validate result = .ok () ∧ result = codec.under digest record := by
  unfold sealing
  rw [bind_eq_ok]
  constructor
  · rintro ⟨values, written, rest⟩
    obtain ⟨digest, sealed, rest⟩ := bind_eq_ok.mp rest
    obtain ⟨⟨⟩, passes, rest⟩ := bind_eq_ok.mp rest
    cases rest
    exact ⟨values, digest, written, sealed, passes, rfl⟩
  · rintro ⟨values, digest, written, sealed, passes, rfl⟩
    refine ⟨values, written, ?_⟩
    rw [sealed]
    show (codec.validate (codec.under digest record) >>= fun _ => _) = _
    rw [passes]
    rfl

theorem valid_sealing (lawful : codec.Lawful) {result : R}
    (sealed : codec.sealing record = .ok result) : codec.Valid result := by
  obtain ⟨values, digest, written, digested, passes, rfl⟩ := sealing_eq_ok.mp sealed
  exact ⟨passes, values, digest, by rw [lawful.values_under, written], digested,
    lawful.under_under digest record⟩

/-! ## Runs of writes -/

/-- A write is refused, leaves the row or replaces it. -/
def perform {κ : Type} (write : κ → Option (List C) → Except ε (Option (List C))) (call : κ)
    (row : Option (List C)) : Except ε Unit × Option (List C) :=
  match write call row with
  | .ok (some replacement) => (.ok (), some replacement)
  | .ok none => (.ok (), row)
  | .error failure => (.error failure, row)

/-- There is no row, or it is accepted, as a valid record. -/
def Legible [DecidableEq C] (codec : SealedRow C R ε) (row : Option (List C)) : Prop :=
  ∀ columns ∈ row, ∃ record, codec.Valid record ∧ codec.decode columns = .ok record

/-- Each write that replaces the row leaves that of a valid record. -/
def WritesValid {κ : Type} (codec : SealedRow C R ε)
    (write : κ → Option (List C) → Except ε (Option (List C))) : Prop :=
  ∀ call row replacement, write call row = .ok (some replacement) →
    ∃ record, codec.Valid record ∧ codec.encode record = .ok replacement

/-- A codec and the writes of its journal: the rows accepted are those of the valid records, and
every run of writes leaves one. -/
structure Durable [DecidableEq C] {κ : Type} (codec : SealedRow C R ε) (apart : R → Prop)
    (write : κ → Option (List C) → Except ε (Option (List C))) : Prop where
  exactly : codec.Exact apart
  legible : ∀ calls, codec.Legible (Machine.after (perform write) none calls)

/-- **After every run of writes the row is accepted.** -/
theorem run_legible [DecidableEq C] {κ : Type} {apart : R → Prop}
    {write : κ → Option (List C) → Except ε (Option (List C))} (exactly : codec.Exact apart)
    (writes : codec.WritesValid write) (calls : List κ) :
    codec.Legible (Machine.after (perform write) none calls) := by
  refine Machine.after_keeps codec.Legible (fun row call legible => ?_) calls
    fun columns there => nomatch there
  unfold perform
  split
  next replacement written =>
    intro columns there
    cases there
    obtain ⟨record, valid, encoded⟩ := writes call row replacement written
    obtain ⟨row', encoded', decoded⟩ := exactly.decodes record valid
    rw [encoded] at encoded'
    cases encoded'
    exact ⟨record, valid, decoded⟩
  next => exact legible
  next => exact legible

theorem durable [DecidableEq C] {κ : Type} {apart : R → Prop}
    {write : κ → Option (List C) → Except ε (Option (List C))} (exactly : codec.Exact apart)
    (writes : codec.WritesValid write) : codec.Durable apart write :=
  ⟨exactly, run_legible exactly writes⟩

end SealedRow

end Lib
