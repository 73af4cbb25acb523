import SyncApp.Logs.Artifact
import Mathlib.Algebra.Order.BigOperators.Group.List
import Mathlib.Algebra.Order.Group.Nat
import SyncApp.Lib.Raising
import SyncApp.LiveApply.WriteAhead
import Mathlib.Algebra.BigOperators.Group.List.Basic

/-!
# A log artifact is what its records say

The records are normalized to one list whatever their order (`retainedRecords_perm`), each payload
is read back as the records of its category (`decodePayload_payloadOf`), and what is staged passes
verification (`verifyLogArtifact_staged`). So building, precomputing the id, and loading agree:
`artifact_round_trip`.
-/

set_option autoImplicit false

namespace SyncApp

open Lib
open Lib.Raising (bind_eq_ok)

variable {hashing : Hashing}

namespace LogArtifacts

theorem ok_bind {α β : Type} (a : α) (f : α → Except ArtifactError β) :
    (Except.ok a >>= f) = f a := rfl

theorem error_bind {α β : Type} (error : ArtifactError) (f : α → Except ArtifactError β) :
    (Except.error error >>= f) = .error error := rfl

theorem reject_bind {α β : Type} (message : String) (f : α → Except ArtifactError β) :
    (reject message >>= f) = reject message := rfl

/-! ## Records -/

/-- The identity of a record. -/
def identity (item : Normalized) : PyStr × PyStr := (item.record.category, item.record.recordId)

/-- A normalized record has passed the checks of its own fields. -/
structure Fine (reference : Nat) (item : Normalized) : Prop where
  utc : ∃ offset, item.record.timestamp.offset = some offset ∧
    astimezone item.record.timestamp.clock offset = .ok item.timestamp
  category : item.record.category ∈ categories
  recordId : isRecordId item.record.recordId = true
  past : item.timestamp ≤ reference
  scalar : ∀ c ∈ item.record.message, Utf8.Scalar c
  short : (Utf8.encode item.record.message).length ≤ maxRecordBytes

theorem encodeMessage_eq_ok {message : PyStr} {encoded : List UInt8} :
    encodeMessage message = .ok encoded ↔
      (∀ c ∈ message, Utf8.Scalar c) ∧ encoded = Utf8.encode message := by
  unfold encodeMessage
  constructor
  · intro done
    split at done
    next scalars =>
      cases done
      exact ⟨fun c mem => of_decide_eq_true (List.all_eq_true.mp scalars c mem), rfl⟩
    next => cases done
  · rintro ⟨scalars, rfl⟩
    rw [if_pos (List.all_eq_true.mpr fun c mem => decide_eq_true (scalars c mem))]

theorem normalizeRecord_eq_ok {reference : Nat} {identities : List (PyStr × PyStr)}
    {record : LogRecord} {item : Normalized} :
    normalizeRecord reference identities record = .ok item ↔
      item.record = record ∧ Fine reference item ∧ identity item ∉ identities := by
  unfold normalizeRecord
  constructor
  · intro done
    split at done
    · cases done
    next offset zone =>
      split at done
      · cases done
      next shaped =>
        rw [not_or, not_not, Bool.not_eq_true', Bool.not_eq_false] at shaped
        obtain ⟨timestamp, utc, done⟩ := bind_eq_ok.mp done
        split at done
        · cases done
        next past =>
          split at done
          · cases done
          next fresh =>
            obtain ⟨encoded, spelled, done⟩ := bind_eq_ok.mp done
            obtain ⟨scalars, rfl⟩ := encodeMessage_eq_ok.mp spelled
            split at done
            · cases done
            next short =>
              cases done
              exact ⟨rfl, ⟨⟨offset, zone, utc⟩, shaped.1, shaped.2, Nat.not_lt.mp past, scalars,
                Nat.not_lt.mp short⟩, fresh⟩
  · rintro ⟨rfl, ⟨⟨offset, zone, utc⟩, category, recordId, past, scalars, short⟩, fresh⟩
    have shaped : ¬(item.record.category ∉ categories ∨ !isRecordId item.record.recordId) := by
      simp [category, recordId]
    have unseen : (item.record.category, item.record.recordId) ∉ identities := fresh
    rw [zone]
    dsimp only
    rw [if_neg shaped, utc, ok_bind, if_neg (Nat.not_lt.mpr past), if_neg unseen,
      encodeMessage_eq_ok.mpr ⟨scalars, rfl⟩, ok_bind, if_neg (Nat.not_lt.mpr short)]

theorem normalizeEach_eq_ok {reference : Nat} {identities : List (PyStr × PyStr)}
    {records : List LogRecord} {items : List Normalized} :
    normalizeEach reference identities records = .ok items ↔
      items.map (·.record) = records ∧ (∀ item ∈ items, Fine reference item) ∧
        (items.map identity).Nodup ∧ ∀ item ∈ items, identity item ∉ identities := by
  induction records generalizing identities items with
  | nil =>
    constructor
    · intro done
      cases done
      exact ⟨rfl, fun _ mem => (nomatch mem), List.nodup_nil, fun _ mem => (nomatch mem)⟩
    · rintro ⟨none, -⟩
      rw [List.map_eq_nil_iff.mp none]
      rfl
  | cons record records ih =>
    constructor
    · intro done
      obtain ⟨item, first, done⟩ := bind_eq_ok.mp done
      obtain ⟨later, rest, done⟩ := bind_eq_ok.mp done
      cases done
      obtain ⟨rfl, fine, fresh⟩ := normalizeRecord_eq_ok.mp first
      obtain ⟨rfl, fines, distinct, unseen⟩ := ih.mp rest
      refine ⟨rfl, List.forall_mem_cons.mpr ⟨fine, fines⟩, List.nodup_cons.mpr ⟨?_, distinct⟩,
        List.forall_mem_cons.mpr ⟨fresh, fun other mem held =>
          unseen other mem (List.mem_cons_of_mem _ held)⟩⟩
      intro mem
      obtain ⟨other, held, same⟩ := List.mem_map.mp mem
      exact unseen other held (same ▸ List.mem_cons_self)
    · rintro ⟨same, fines, distinct, unseen⟩
      cases items with
      | nil => cases same
      | cons item items =>
        obtain ⟨rfl, rfl⟩ := List.cons.inj same
        obtain ⟨fine, fines⟩ := List.forall_mem_cons.mp fines
        obtain ⟨fresh, unseen⟩ := List.forall_mem_cons.mp unseen
        obtain ⟨first, distinct⟩ := List.nodup_cons.mp distinct
        refine bind_eq_ok.mpr ⟨item, normalizeRecord_eq_ok.mpr ⟨rfl, fine, fresh⟩,
          bind_eq_ok.mpr ⟨items, ih.mpr ⟨rfl, fines, distinct, fun other mem held => ?_⟩, rfl⟩⟩
        rcases List.mem_cons.mp held with same | held
        · exact first (List.mem_map.mpr ⟨other, mem, same⟩)
        · exact unseen other mem held

/-! ## The order of the records -/

/-- The time of a record in UTC, in microseconds. -/
def utcOf (record : LogRecord) : Int := record.timestamp.clock - record.timestamp.offset.getD 0

/-- What a record is normalized to. -/
def normal (record : LogRecord) : Normalized := ⟨record, (utcOf record).toNat⟩

theorem Fine.utcOf {reference : Nat} {item : Normalized} (fine : Fine reference item) :
    utcOf item.record = item.timestamp := by
  obtain ⟨offset, zone, utc⟩ := fine.utc
  unfold astimezone at utc
  dsimp only at utc
  split at utc
  next within =>
    unfold LogArtifacts.utcOf
    rw [zone, Option.getD_some, ← Except.ok.inj utc]
    exact (Int.toNat_of_nonneg within.1).symm
  next => cases utc

theorem Fine.normal {reference : Nat} {item : Normalized} (fine : Fine reference item) :
    item = normal item.record := by
  obtain ⟨record, timestamp⟩ := item
  show _ = (⟨record, (LogArtifacts.utcOf record).toNat⟩ : Normalized)
  rw [fine.utcOf]
  rfl

theorem normalizeEach_eq_normal {reference : Nat} {records : List LogRecord}
    {items : List Normalized} (done : normalizeEach reference [] records = .ok items) :
    items = records.map normal := by
  obtain ⟨rfl, fines, -⟩ := normalizeEach_eq_ok.mp done
  rw [List.map_map]
  conv_lhs => rw [← List.map_id items]
  exact List.map_congr_left fun item mem => (fines item mem).normal

theorem normalizeEach_perm {reference : Nat} {records records' : List LogRecord}
    {items : List Normalized} (perm : records.Perm records')
    (done : normalizeEach reference [] records = .ok items) :
    ∃ items', normalizeEach reference [] records' = .ok items' ∧ items.Perm items' := by
  have same := normalizeEach_eq_normal done
  subst same
  obtain ⟨-, fines, distinct, -⟩ := normalizeEach_eq_ok.mp done
  have moved := perm.map normal
  refine ⟨records'.map normal, normalizeEach_eq_ok.mpr ⟨?_, fun item mem =>
    fines item (moved.mem_iff.mpr mem), (moved.map identity).nodup_iff.mp distinct,
    fun _ _ => List.not_mem_nil⟩, moved⟩
  rw [List.map_map]
  exact List.map_id records'

theorem sortKey_injective {first second : Normalized} (same : sortKey first = sortKey second) :
    identity first = identity second := by
  obtain ⟨category, rest⟩ := Prod.mk.inj (toLex.injective same)
  obtain ⟨-, rest⟩ := Prod.mk.inj (toLex.injective rest)
  obtain ⟨recordId, -⟩ := Prod.mk.inj (toLex.injective rest)
  exact Prod.ext category recordId

/-- Records of different identities have one sorted list. -/
theorem insertionSort_perm {items items' : List Normalized} (perm : items.Perm items')
    (distinct : (items.map identity).Nodup) :
    items.insertionSort (fun first second => sortKey first ≤ sortKey second) =
      items'.insertionSort (fun first second => sortKey first ≤ sortKey second) := by
  have both := (List.perm_insertionSort (fun first second : Normalized =>
    sortKey first ≤ sortKey second) items).trans
      (perm.trans (List.perm_insertionSort (fun first second : Normalized =>
        sortKey first ≤ sortKey second) items').symm)
  refine List.Perm.eq_of_pairwise (fun first second mem held less more => ?_)
    (List.pairwise_insertionSort _ items) (List.pairwise_insertionSort _ items') both
  have here := (List.perm_insertionSort _ items).mem_iff.mp mem
  have there := perm.mem_iff.mpr ((List.perm_insertionSort _ items').mem_iff.mp held)
  exact List.inj_on_of_nodup_map distinct here there
    (sortKey_injective (le_antisymm less more))

theorem normalizeRecords_perm {reference : Nat} {records records' : List LogRecord}
    {items : List Normalized} (perm : records.Perm records')
    (done : normalizeRecords records reference = .ok items) :
    normalizeRecords records' reference = .ok items := by
  unfold normalizeRecords at done ⊢
  split at done
  · cases done
  next few =>
    obtain ⟨before, each, done⟩ := bind_eq_ok.mp done
    cases done
    obtain ⟨after, moved, same⟩ := normalizeEach_perm perm each
    rw [if_neg (by rwa [← perm.length_eq]), moved, ok_bind]
    show Except.ok _ = Except.ok _
    rw [insertionSort_perm same (normalizeEach_eq_ok.mp each).2.2.1]

/-- **The order of the records does not matter.** -/
theorem retainedRecords_perm {reference : Nat} {records records' : List LogRecord}
    {retained : List Normalized} (perm : records.Perm records')
    (done : retainedRecords records reference = .ok retained) :
    retainedRecords records' reference = .ok retained := by
  unfold retainedRecords at done ⊢
  obtain ⟨items, normalized, done⟩ := bind_eq_ok.mp done
  rw [normalizeRecords_perm perm normalized, ok_bind]
  exact done

/-! ## The records of the window -/

/-- What is retained: records that passed the checks, each identity once, in order, and none
before the window. -/
structure Retained (reference cutoff : Nat) (retained : List Normalized) : Prop where
  fine : ∀ item ∈ retained, Fine reference item
  distinct : (retained.map identity).Nodup
  sorted : retained.Pairwise fun first second => sortKey first ≤ sortKey second
  recent : ∀ item ∈ retained, cutoff ≤ item.timestamp
  few : retained.length ≤ maxRecords

/-- The record is of the thirty days before the reference. -/
def InWindow (reference : Nat) (record : LogRecord) : Prop :=
  (reference : Int) - retention ≤ utcOf record

instance (reference : Nat) (record : LogRecord) : Decidable (InWindow reference record) :=
  inferInstanceAs (Decidable (_ ≤ _))

theorem retainedRecords_eq_ok {reference : Nat} {records : List LogRecord}
    {retained : List Normalized} (done : retainedRecords records reference = .ok retained) :
    cutoffOf reference = .ok (reference - retention) ∧
      Retained reference (reference - retention) retained ∧
      (retained.map (·.record)).Perm (records.filter (InWindow reference ·)) := by
  unfold retainedRecords at done
  obtain ⟨items, normalized, done⟩ := bind_eq_ok.mp done
  obtain ⟨cutoff, window, done⟩ := bind_eq_ok.mp done
  cases done
  have bound : ¬reference < retention ∧ cutoff = reference - retention := by
    unfold cutoffOf at window
    split at window
    · cases window
    next enough => exact ⟨enough, (Except.ok.inj window).symm⟩
  obtain ⟨enough, same⟩ := bound
  rw [← same]
  unfold normalizeRecords at normalized
  split at normalized
  · cases normalized
  next few =>
    obtain ⟨before, each, normalized⟩ := bind_eq_ok.mp normalized
    cases normalized
    obtain ⟨rfl, fines, distinct, -⟩ := normalizeEach_eq_ok.mp each
    have perm := List.perm_insertionSort (fun first second : Normalized =>
      sortKey first ≤ sortKey second) before
    have kept := perm.filter fun item => decide (cutoff ≤ item.timestamp)
    have fine : ∀ item ∈ before.filter fun item => decide (cutoff ≤ item.timestamp),
        Fine reference item := fun item mem => fines item (List.mem_of_mem_filter mem)
    refine ⟨window, ⟨fun item mem => fine item (kept.mem_iff.mp mem), ?_, ?_,
      fun item mem => of_decide_eq_true (List.mem_filter.mp mem).2, ?_⟩, ?_⟩
    · exact (kept.map identity).nodup_iff.mpr
        (distinct.sublist (List.filter_sublist.map identity))
    · exact (List.pairwise_insertionSort _ before).filter _
    · rw [kept.length_eq]
      rw [List.length_map] at few
      exact (List.length_filter_le _ _).trans (Nat.not_lt.mp few)
    · refine (kept.map _).trans (List.Perm.of_eq ?_)
      rw [List.filter_map]
      congr 1
      refine List.filter_congr fun item mem => ?_
      have utc := (fines item mem).utcOf
      refine decide_eq_decide.mpr ?_
      show cutoff ≤ item.timestamp ↔ (reference : Int) - retention ≤ utcOf item.record
      rw [utc]
      omega

/-! ## Payloads are read back -/

theorem isAlphanumeric_ascii {c : Nat} (alphanumeric : isAlphanumeric c = true) : c < 128 := by
  simp only [isAlphanumeric, Bool.or_eq_true, Bool.and_eq_true, decide_eq_true_eq] at alphanumeric
  omega

theorem isRecordId_scalar {recordId : PyStr} (shaped : isRecordId recordId = true) :
    ∀ c ∈ recordId, Utf8.Scalar c := by
  cases recordId with
  | nil => cases shaped
  | cons first rest =>
    simp only [isRecordId, Bool.and_eq_true, List.all_eq_true, Bool.or_eq_true,
      decide_eq_true_eq] at shaped
    refine List.forall_mem_cons.mpr
      ⟨Utf8.scalar_of_ascii (isAlphanumeric_ascii shaped.1.1), fun c mem => ?_⟩
    refine Utf8.scalar_of_ascii ?_
    rcases shaped.2 c mem with (((letter | rfl) | rfl) | rfl) | rfl
    · exact isAlphanumeric_ascii letter
    all_goals decide

theorem render_scalar (t : Nat) : ∀ c ∈ Calendar.render t, Utf8.Scalar c := fun c mem =>
  Utf8.scalar_of_ascii (Calendar.render_ascii t c mem).2

theorem recordValue_plain {reference : Nat} {item : Normalized} (fine : Fine reference item) :
    JsonText.Plain (recordValue item) :=
  ⟨text_scalar (by decide), fine.scalar, text_scalar (by decide), isRecordId_scalar fine.recordId,
    text_scalar (by decide), render_scalar _, trivial⟩

/-- A line is what stands before its end. -/
theorem splitLines_append {line : List UInt8} (visible : ∀ byte ∈ line, 32 ≤ byte.toNat)
    (rest : List UInt8) : splitLines (line ++ 10 :: rest) = line :: splitLines rest := by
  induction line with
  | nil =>
    show splitLines (10 :: rest) = _
    conv_lhs => unfold splitLines
    rw [if_pos rfl]
  | cons byte line ih =>
    obtain ⟨here, later⟩ := List.forall_mem_cons.mp visible
    have noFeed : byte ≠ 10 := by
      rintro rfl
      exact absurd here (by decide)
    have noReturn : byte ≠ 13 := by
      rintro rfl
      exact absurd here (by decide)
    rw [List.cons_append]
    conv_lhs => unfold splitLines
    rw [if_neg noFeed, if_neg noReturn, ih later]

/-- The line of a record. -/
def lineOf (item : Normalized) : List UInt8 := Utf8.encode (JsonText.write false (recordValue item))

theorem canonicalJson_eq (item : Normalized) :
    canonicalJson (recordValue item) = lineOf item ++ [10] := Utf8.encode_append _ _

theorem splitLines_payload {reference : Nat} {items : List Normalized}
    (fine : ∀ item ∈ items, Fine reference item) :
    splitLines (items.flatMap fun item => canonicalJson (recordValue item)) =
      items.map lineOf := by
  induction items with
  | nil => rfl
  | cons item items ih =>
    obtain ⟨here, later⟩ := List.forall_mem_cons.mp fine
    have plain := recordValue_plain here
    have visible : ∀ byte ∈ lineOf item, 32 ≤ byte.toNat :=
      Utf8.encode_visible (JsonText.write_scalar plain) (JsonText.write_visible plain)
    rw [List.flatMap_cons, canonicalJson_eq, List.append_assoc, List.singleton_append,
      splitLines_append visible, ih later, List.map_cons]

theorem lineTexts_lineOf {reference : Nat} {item : Normalized} (fine : Fine reference item) :
    lineTexts (lineOf item) = some (item.record.message, item.record.recordId,
      Calendar.render item.timestamp) := by
  have loaded : JsonText.load (lineOf item) = some (recordValue item) := by
    have whole : JsonText.load (Utf8.encode (JsonText.write false (recordValue item) ++ [])) =
        some (recordValue item) :=
      JsonText.load_write (recordValue_plain fine) fun c mem => nomatch mem
    rwa [List.append_nil] at whole
  unfold lineTexts
  rw [loaded]
  rfl

/-- What the line of a record says. -/
def rowOf (item : Normalized) : LogRow :=
  toLex (item.timestamp, toLex (item.record.recordId, item.record.message))

theorem parseCanonical_render {t : Nat} (within : t < Calendar.limit) :
    parseCanonicalUtcTimestamp (Calendar.render t) = .ok t := by
  unfold parseCanonicalUtcTimestamp
  rw [if_neg (not_not.mpr (Calendar.render_getLast t)), Calendar.parse_render within]
  exact if_neg (not_not.mpr rfl)

theorem Fine.limit {reference : Nat} {item : Normalized} (fine : Fine reference item) :
    item.timestamp < Calendar.limit := by
  obtain ⟨offset, -, utc⟩ := fine.utc
  unfold astimezone at utc
  dsimp only at utc
  split at utc
  next within =>
    rw [← Except.ok.inj utc]
    omega
  next => cases utc

theorem verifyLine_lineOf {reference cutoff : Nat} {identities : List PyStr} {item : Normalized}
    (fine : Fine reference item) (recent : cutoff ≤ item.timestamp)
    (fresh : item.record.recordId ∉ identities) :
    verifyLine reference cutoff identities (lineOf item) = .ok (rowOf item) := by
  have shaped : ¬((Utf8.encode item.record.message).length > maxRecordBytes ∨
      !isRecordId item.record.recordId) := by
    simp [fine.recordId, fine.short]
  have window : ¬(item.timestamp < cutoff ∨ item.timestamp > reference) := by
    have := fine.past
    omega
  unfold verifyLine
  rw [lineTexts_lineOf fine]
  dsimp only
  rw [encodeMessage_eq_ok.mpr ⟨fine.scalar, rfl⟩, ok_bind, if_neg shaped,
    parseCanonical_render fine.limit, ok_bind, if_neg window, if_neg fresh]
  rfl

theorem verifyLines_map {reference cutoff : Nat} (total : Nat) (identities : List PyStr)
    {items : List Normalized} (fine : ∀ item ∈ items, Fine reference item)
    (recent : ∀ item ∈ items, cutoff ≤ item.timestamp)
    (distinct : (items.map (·.record.recordId)).Nodup)
    (fresh : ∀ item ∈ items, item.record.recordId ∉ identities)
    (few : total + items.length ≤ maxRecords) :
    verifyLines reference cutoff total identities (items.map lineOf) = .ok (items.map rowOf) := by
  induction items generalizing total identities with
  | nil => rfl
  | cons item items ih =>
    obtain ⟨fine, fines⟩ := List.forall_mem_cons.mp fine
    obtain ⟨recent, recents⟩ := List.forall_mem_cons.mp recent
    obtain ⟨first, distinct⟩ := List.nodup_cons.mp distinct
    obtain ⟨fresh, freshes⟩ := List.forall_mem_cons.mp fresh
    rw [List.length_cons] at few
    have later := ih (total + 1) (item.record.recordId :: identities) fines recents
      distinct (fun other mem held => by
        rcases List.mem_cons.mp held with same | held
        · exact first (List.mem_map.mpr ⟨other, mem, same⟩)
        · exact freshes other mem held) (by omega)
    rw [List.map_cons]
    unfold verifyLines
    rw [if_neg (by omega), verifyLine_lineOf fine recent fresh, ok_bind]
    show (verifyLines reference cutoff (total + 1) (item.record.recordId :: identities) _ >>= _) = _
    rw [later, ok_bind]
    rfl

/-- The records of one category. -/
def inCategory (retained : List Normalized) (category : PyStr) : List Normalized :=
  retained.filter (·.record.category = category)

theorem inCategory_distinct {retained : List Normalized} (distinct : (retained.map identity).Nodup)
    (category : PyStr) : ((inCategory retained category).map (·.record.recordId)).Nodup := by
  have sub : ((inCategory retained category).map identity).Nodup :=
    distinct.sublist (List.filter_sublist.map identity)
  refine List.Nodup.map_on (fun first mem second held same => ?_) (List.Nodup.of_map _ sub)
  have one := of_decide_eq_true (List.mem_filter.mp mem).2
  have other := of_decide_eq_true (List.mem_filter.mp held).2
  exact List.inj_on_of_nodup_map sub mem held (Prod.ext (one.trans other.symm) same)

/-- In one category the rows are ordered as the records are. -/
theorem rowOf_sorted {retained : List Normalized}
    (sorted : retained.Pairwise fun first second => sortKey first ≤ sortKey second)
    (category : PyStr) : ((inCategory retained category).map rowOf).Pairwise (· ≤ ·) := by
  refine List.pairwise_map.mpr ((sorted.filter _).imp_of_mem fun {first second} mem held le => ?_)
  have one := of_decide_eq_true (List.mem_filter.mp mem).2
  have other := of_decide_eq_true (List.mem_filter.mp held).2
  rcases Prod.Lex.le_iff.mp le with less | ⟨-, rest⟩
  · exact absurd (one.trans other.symm) (ne_of_lt less)
  · exact rest

/-- **A payload is read back** as the records of its category, in order. -/
theorem decodePayload_payloadOf {reference cutoff total : Nat} {retained : List Normalized}
    (kept : Retained reference cutoff retained) (category : PyStr)
    (few : total + (inCategory retained category).length ≤ maxRecords) :
    decodePayload reference cutoff total (payloadOf retained category) =
      .ok ((inCategory retained category).map rowOf) := by
  have fine : ∀ item ∈ inCategory retained category, Fine reference item :=
    fun item mem => kept.fine item (List.mem_of_mem_filter mem)
  unfold decodePayload payloadOf
  show (verifyLines reference cutoff total [] (splitLines
    ((inCategory retained category).flatMap fun item => canonicalJson (recordValue item))) >>= _) = _
  rw [splitLines_payload fine, verifyLines_map total [] fine
    (fun item mem => kept.recent item (List.mem_of_mem_filter mem))
    (inCategory_distinct kept.distinct category) (fun _ _ => List.not_mem_nil) few, ok_bind,
    (rowOf_sorted kept.sorted category).insertionSort_eq]
  exact if_neg (not_not.mpr rfl)

/-! ## The manifest is read back -/

theorem verifyRecordPayloads_eq (total : Nat) {retained : List Normalized} {files : List (PyStr × List UInt8)}
    (held : ∀ category ∈ categories, files.lookup (payloadPath category) =
      some (payloadOf retained category)) {reference cutoff : Nat}
    (kept : Retained reference cutoff retained) {rest : List PyStr} (within : ∀ c ∈ rest, c ∈ categories)
    (few : total + (rest.map (countOf retained)).sum ≤ maxRecords) :
    verifyRecordPayloads reference cutoff files total rest =
      .ok (rest.map fun category => (category, countOf retained category)) := by
  induction rest generalizing total with
  | nil => rfl
  | cons category rest ih =>
    obtain ⟨here, later⟩ := List.forall_mem_cons.mp within
    rw [List.map_cons, List.sum_cons] at few
    have count : ((inCategory retained category).map rowOf).length = countOf retained category :=
      List.length_map _
    have here_few : total + (inCategory retained category).length ≤ maxRecords := by
      show total + countOf retained category ≤ maxRecords
      omega
    have decoded := decodePayload_payloadOf kept category here_few
    unfold verifyRecordPayloads
    rw [held category here]
    dsimp only
    rw [decoded, ok_bind, count, ih (total + countOf retained category) later (by omega), ok_bind]
    rfl

/-- Every record is counted once. -/
theorem countOf_sum {retained : List Normalized}
    (known : ∀ item ∈ retained, item.record.category ∈ categories) :
    (categories.map (countOf retained)).sum = retained.length := by
  induction retained with
  | nil => rfl
  | cons item retained ih =>
    obtain ⟨here, later⟩ := List.forall_mem_cons.mp known
    have counts (category : PyStr) : countOf (item :: retained) category =
        (if item.record.category = category then 1 else 0) + countOf retained category := by
      unfold countOf
      rw [List.filter_cons]
      by_cases same : item.record.category = category
      · rw [if_pos (decide_eq_true same), if_pos same, List.length_cons, Nat.add_comm]
      · rw [if_neg (by simp [same]), if_neg same, Nat.zero_add]
    have one : (categories.map fun category =>
        if item.record.category = category then 1 else 0).sum = 1 := by
      generalize item.record.category = category at here
      simp only [categories, List.mem_cons, List.not_mem_nil, or_false] at here
      rcases here with rfl | rfl | rfl | rfl <;> decide
    have split : (categories.map (countOf (item :: retained))).sum =
        (categories.map fun category => if item.record.category = category then 1 else 0).sum +
          (categories.map (countOf retained)).sum := by
      rw [← List.sum_map_add]
      congr 1
      exact List.map_congr_left fun category _ => counts category
    rw [split, one, ih later, List.length_cons, Nat.add_comm]

theorem fileValue_plain {file : LogArtifactFile} (scalars : ∀ c ∈ file.path, Utf8.Scalar c) :
    JsonText.Plain (fileValue file) :=
  ⟨text_scalar (by decide), scalars, text_scalar (by decide),
    text_scalar (hex_ascii file.sha256.shape.2), text_scalar (by decide), trivial, trivial⟩

theorem manifestValue_plain {reference : Nat} {files : List LogArtifactFile}
    {retained : List Normalized} (scalars : ∀ file ∈ files, ∀ c ∈ file.path, Utf8.Scalar c) :
    JsonText.Plain (manifestValue reference files retained) := by
  refine ⟨text_scalar (by decide), JsonText.plainItems_iff.mpr ?_, text_scalar (by decide),
    JsonText.plainItems_iff.mpr ?_, text_scalar (by decide), ?_, text_scalar (by decide),
    render_scalar reference, text_scalar (by decide), trivial, text_scalar (by decide), trivial,
    trivial⟩
  · intro value mem
    obtain ⟨category, held, rfl⟩ := List.mem_map.mp mem
    have each : ∀ category ∈ categories, ∀ c ∈ category, Utf8.Scalar c := by decide
    exact each category held
  · intro value mem
    obtain ⟨file, held, rfl⟩ := List.mem_map.mp mem
    exact fileValue_plain (scalars file held)
  · exact ⟨text_scalar (by decide), trivial, text_scalar (by decide), trivial,
      text_scalar (by decide), trivial, text_scalar (by decide), trivial, trivial⟩

theorem fileOf_fileValue (file : LogArtifactFile) : fileOf (fileValue file) = some file := by
  have digest : digestOf (String.ofList ((text file.sha256.hex).map Char.ofNat)) =
      some file.sha256 := by
    rw [ofList_text, digestOf, dif_pos file.sha256.shape]
  show (if (file.size : Int) < 0 then none
    else (digestOf (String.ofList ((text file.sha256.hex).map Char.ofNat))).map
      fun digest => (⟨file.path, digest, (file.size : Int).toNat⟩ : LogArtifactFile)) = some file
  rw [if_neg (by omega), digest]
  rfl

/-- The members of the counts of a manifest. -/
def countMembers (retained : List Normalized) : List (PyStr × JsonText.Value) :=
  categories.map fun category => (category, .int (countOf retained category))

theorem countsOf_categories (retained : List Normalized) :
    countsOf (some (.obj (countMembers retained))) =
      some (categories.map fun category => (category, countOf retained category)) := by
  have keys : JsonText.hasKeys (countMembers retained) categories = true := by rfl
  have each : ∀ category ∈ categories, countIn (countMembers retained) (id category) =
      some (category, countOf retained category) := by
    intro category mem
    have found : JsonText.get? (countMembers retained) category =
        some (.int (countOf retained category)) := by
      simp only [categories, List.mem_cons, List.not_mem_nil, or_false] at mem
      rcases mem with rfl | rfl | rfl | rfl <;> rfl
    unfold countIn
    rw [id, found]
    dsimp only
    rw [if_neg (by omega), Int.toNat_natCast]
  have read := JsonText.mapM_map each
  rw [List.map_id] at read
  unfold countsOf
  dsimp only
  rw [if_pos keys]
  exact read

/-- What verification has of an artifact: its data files, and each payload under its path. -/
structure Bound (hashing : Hashing) (retained : List Normalized) (data : List LogArtifactFile) : Prop where
  evidence : data = (renderPayloads retained).map fun (path, payload) =>
    fileEvidence hashing path payload

theorem Bound.paths {retained : List Normalized} {data : List LogArtifactFile}
    (bound : Bound hashing retained data) : data.map (·.path) = categories.map payloadPath := by
  rw [bound.evidence, renderPayloads, List.map_map, List.map_map]
  rfl

theorem Bound.scalars {retained : List Normalized} {data : List LogArtifactFile}
    (bound : Bound hashing retained data) : ∀ file ∈ data, ∀ c ∈ file.path, Utf8.Scalar c := by
  intro file mem
  have held : file.path ∈ categories.map payloadPath := by
    rw [← bound.paths]
    exact List.mem_map.mpr ⟨file, mem, rfl⟩
  have each : ∀ path ∈ categories.map payloadPath, ∀ c ∈ path, Utf8.Scalar c := by decide
  exact each file.path held

theorem Bound.data_only {retained : List Normalized} {data : List LogArtifactFile}
    (bound : Bound hashing retained data) (manifest : LogArtifactFile)
    (path : manifest.path = manifestPath) :
    (data ++ [manifest]).filter (·.path ≠ manifestPath) = data := by
  have others : ∀ file ∈ data, decide (file.path ≠ manifestPath) = true := by
    intro file mem
    have held : file.path ∈ categories.map payloadPath := by
      rw [← bound.paths]
      exact List.mem_map.mpr ⟨file, mem, rfl⟩
    have each : ∀ path ∈ categories.map payloadPath, decide (path ≠ manifestPath) = true := by decide
    exact each file.path held
  rw [List.filter_append, List.filter_eq_self.mpr others]
  simp [path]

/-- The members of the manifest. -/
def manifestMembers (reference : Nat) (data : List LogArtifactFile) (retained : List Normalized) :
    List (PyStr × JsonText.Value) :=
  [(text "categories", .arr (categories.map .str)), (text "files", .arr (data.map fileValue)),
    (text "record_counts", .obj (countMembers retained)),
    (text "reference_time", .str (Calendar.render reference)), (text "retention_days", .int 30),
    (text "schema", .int 1)]

theorem load_manifestBytes {reference : Nat} {data : List LogArtifactFile}
    {retained : List Normalized} (bound : Bound hashing retained data) :
    JsonText.load (manifestBytes reference data retained) =
      some (.obj (manifestMembers reference data retained)) :=
  JsonText.load_write (manifestValue_plain bound.scalars) (by decide)

/-- **The manifest of what was staged passes.** -/
theorem verifyManifest_manifestBytes {reference : Nat} {retained : List Normalized}
    {data : List LogArtifactFile} {fileBytes : List (PyStr × List UInt8)}
    (within : reference < Calendar.limit) (window : cutoffOf reference = .ok (reference - retention))
    (kept : Retained reference (reference - retention) retained) (bound : Bound hashing retained data)
    (held : ∀ category ∈ categories, fileBytes.lookup (payloadPath category) =
      some (payloadOf retained category)) (manifest : LogArtifactFile)
    (path : manifest.path = manifestPath) :
    verifyManifest (manifestBytes reference data retained) (data ++ [manifest]) fileBytes =
      .ok () := by
  have files : filesOf (some (.arr (data.map fileValue))) = some data := by
    have read : (data.map fileValue).mapM fileOf = some (data.map id) :=
      JsonText.mapM_map fun file _ => fileOf_fileValue file
    rwa [List.map_id] at read
  have few : 0 + (categories.map (countOf retained)).sum ≤ maxRecords := by
    rw [Nat.zero_add, countOf_sum fun item mem => (kept.fine item mem).category]
    exact kept.few
  have payloads := verifyRecordPayloads_eq 0 held kept (fun c mem => mem) few
  have schema : JsonText.get? (manifestMembers reference data retained) (text "schema") =
    some (.int 1) := by rfl
  have days : JsonText.get? (manifestMembers reference data retained) (text "retention_days") =
    some (.int 30) := by rfl
  have names : JsonText.get? (manifestMembers reference data retained) (text "categories") =
    some (.arr (categories.map .str)) := by rfl
  have evidence : JsonText.get? (manifestMembers reference data retained) (text "files") =
    some (.arr (data.map fileValue)) := by rfl
  have counts : JsonText.get? (manifestMembers reference data retained) (text "record_counts") =
    some (.obj (countMembers retained)) := by rfl
  have time : JsonText.get? (manifestMembers reference data retained) (text "reference_time") =
    some (.str (Calendar.render reference)) := by rfl
  have stated : isNumber 1 (some (.int 1)) = true ∧ isNumber 30 (some (.int 30)) = true ∧
      isCategories (some (.arr (categories.map .str))) = true := by decide
  unfold verifyManifest
  rw [load_manifestBytes bound]
  dsimp only
  rw [schema, days, names, evidence, counts, time, files, bound.data_only manifest path, stated.1,
    stated.2.1, stated.2.2, if_neg (by simp), countsOf_categories]
  dsimp only
  rw [parseCanonical_render within, ok_bind, window, ok_bind, payloads, ok_bind]
  exact if_neg (not_not.mpr rfl)

/-! ## The directory is what was staged -/

def contentOf : ArtifactNode → Option (PyStr × List UInt8)
  | .directory _ _ => none
  | .file path content => content.map fun data => (path, data)

/-- A node that verification accepts. -/
def Expected (hashing : Hashing) (files : List LogArtifactFile) : ArtifactNode → Prop
  | .directory path isPrivate => path ∈ expectedDirectories files ∧ isPrivate = true
  | .file path content => ∃ data, content = some data ∧ data.length ≤ maxArtifactBytes ∧
      files.find? (·.path = path) = some (fileEvidence hashing path data)

theorem foldlM_observe {files : List LogArtifactFile} {nodes : List ArtifactNode}
    (observed : Observed) (expected : ∀ node ∈ nodes, Expected hashing files node)
    (distinct : ((nodes.filterMap contentOf).map (·.1)).Nodup)
    (fresh : ∀ file ∈ nodes.filterMap contentOf, file.1 ∉ observed.files.map (·.1)) :
    ∃ met, nodes.foldlM (observe hashing files) observed = .ok met ∧
      (∀ path, path ∈ met.directories ↔
        path ∈ observed.directories ∨ .directory path true ∈ nodes) ∧
      met.files.Perm (nodes.filterMap contentOf ++ observed.files) := by
  induction nodes generalizing observed with
  | nil => exact ⟨observed, rfl, fun path => (or_iff_left List.not_mem_nil).symm, List.Perm.refl _⟩
  | cons node nodes ih =>
    obtain ⟨here, later⟩ := List.forall_mem_cons.mp expected
    cases node with
    | directory path isPrivate =>
      obtain ⟨known, rfl⟩ := here
      obtain ⟨met, walked, directories, contents⟩ :=
        ih { observed with directories := path :: observed.directories } later
          distinct fresh
      refine ⟨met, ?_, fun other => ?_, contents⟩
      · rw [List.foldlM_cons]
        show ((if path ∉ expectedDirectories files ∨ !true then _ else _) >>= _) = _
        rw [if_neg (by simp [known]), ok_bind, walked]
      · rw [directories other]
        simp only [List.mem_cons, ArtifactNode.directory.injEq, and_true, or_assoc]
        constructor
        · rintro (rfl | before | after)
          · exact .inr (.inl rfl)
          · exact .inl before
          · exact .inr (.inr after)
        · rintro (before | rfl | after)
          · exact .inr (.inl before)
          · exact .inl rfl
          · exact .inr (.inr after)
    | file path content =>
      obtain ⟨data, rfl, short, evidence⟩ := here
      have files_cons : (ArtifactNode.file path (some data) :: nodes).filterMap contentOf =
          (path, data) :: nodes.filterMap contentOf := rfl
      rw [files_cons] at distinct fresh
      obtain ⟨first, distinct⟩ := List.nodup_cons.mp distinct
      obtain ⟨unseen, fresh⟩ := List.forall_mem_cons.mp fresh
      obtain ⟨met, walked, directories, contents⟩ :=
        ih { observed with files := (path, data) :: observed.files } later distinct
          fun file mem held => by
            rcases List.mem_cons.mp held with same | held
            · exact first (List.mem_map.mpr ⟨file, mem, same⟩)
            · exact fresh file mem held
      refine ⟨met, ?_, fun other => ?_, ?_⟩
      · have read : observe hashing files observed (.file path (some data)) =
            .ok { observed with files := (path, data) :: observed.files } := by
          unfold observe
          dsimp only
          rw [evidence]
          dsimp only
          rw [if_neg unseen, readPrivateRegularFile, if_neg (Nat.not_lt.mpr short), ok_bind]
          exact if_neg (by simp [fileEvidence])
        rw [List.foldlM_cons, read, ok_bind, walked]
      · rw [directories other]
        simp
      · rw [files_cons]
        exact contents.trans List.perm_middle

/-- What is found among entries of different keys. -/
theorem lookup_of_mem {files : List (PyStr × List UInt8)} (distinct : (files.map (·.1)).Nodup)
    {path : PyStr} {data : List UInt8} (mem : (path, data) ∈ files) :
    files.lookup path = some data := by
  obtain ⟨front, back, rfl⟩ := List.append_of_mem mem
  refine List.lookup_eq_some_iff.mpr ⟨front, back, rfl, fun other held => ?_⟩
  rw [List.map_append, List.nodup_append] at distinct
  have apart := distinct.2.2 other.1 (List.mem_map.mpr ⟨other, held, rfl⟩) path List.mem_cons_self
  simpa using fun same => apart same.symm

/-- The directory of the payloads, and that of one. -/
def logsPath : PyStr := text "logs"

def categoryPath (category : PyStr) : PyStr := text "logs/" ++ category

def payloadNodes (retained : List Normalized) (category : PyStr) : List ArtifactNode :=
  [.directory (categoryPath category) true,
    .file (payloadPath category) (some (payloadOf retained category))]

/-- What is written for these categories, in the order it is made. -/
def dataNodes (retained : List Normalized) (done : List PyStr) : List ArtifactNode :=
  .directory logsPath true :: done.flatMap (payloadNodes retained)

/-- The evidence of the data files. -/
def dataEvidence (hashing : Hashing) (retained : List Normalized) : List LogArtifactFile :=
  (renderPayloads retained).map fun (path, payload) => fileEvidence hashing path payload

theorem dataEvidence_bound (retained : List Normalized) :
    Bound hashing retained (dataEvidence hashing retained) := ⟨rfl⟩

/-- The bytes of the data files. -/
def dataSize (retained : List Normalized) : Nat :=
  ((renderPayloads retained).map fun payload => payload.2.length).sum

/-- Where every payload can be written, they are staged as far as they keep within the limit
together. -/
theorem stagePayloads_eq {payloads : List (PyStr × List UInt8)} {nodes nodes' : List ArtifactNode}
    (total : Nat) (within : total ≤ maxArtifactBytes)
    (written : payloads.foldlM (fun nodes payload =>
      writePrivateFile (ensureParents nodes payload.1) payload.1 payload.2) nodes = .ok nodes') :
    stagePayloads hashing nodes total payloads =
      if total + (payloads.map fun payload => payload.2.length).sum > maxArtifactBytes then
        reject "log artifact exceeds encoded byte limit"
      else .ok (nodes', total + (payloads.map fun payload => payload.2.length).sum,
        payloads.map fun payload => fileEvidence hashing payload.1 payload.2) := by
  induction payloads generalizing nodes total with
  | nil =>
    cases written
    exact (if_neg (Nat.not_lt.mpr within)).symm
  | cons payload payloads ih =>
    obtain ⟨path, data⟩ := payload
    rw [List.foldlM_cons] at written
    obtain ⟨between, first, rest⟩ := bind_eq_ok.mp written
    unfold stagePayloads
    simp only [List.map_cons, List.sum_cons, ← Nat.add_assoc]
    by_cases excess : total + data.length > maxArtifactBytes
    · rw [if_pos excess, if_pos (by omega)]
    · dsimp only at first
      rw [if_neg excess, first, ok_bind, ih (total + data.length) (Nat.not_lt.mp excess) rest]
      split
      · rfl
      · rfl

theorem parentsOf_payloadPath {category : PyStr} (known : category ∈ categories) :
    parentsOf (payloadPath category) = [logsPath, categoryPath category] := by
  have each : ∀ category ∈ categories,
    parentsOf (payloadPath category) = [logsPath, categoryPath category] := by decide
  exact each category known

/-- The paths of different categories differ, whatever they are paths of. -/
theorem paths_apart : ∀ first ∈ categories, logsPath ≠ categoryPath first ∧
    logsPath ≠ payloadPath first ∧ manifestPath ≠ payloadPath first ∧
    manifestPath ≠ categoryPath first ∧ ∀ second ∈ categories,
      categoryPath first ≠ payloadPath second ∧
      (categoryPath first = categoryPath second → first = second) ∧
      (payloadPath first = payloadPath second → first = second) := by
  decide

theorem any_dataNodes {retained : List Normalized} {done : List PyStr} {path : PyStr} :
    (dataNodes retained done).any (·.path = path) = true ↔ logsPath = path ∨
      ∃ category ∈ done, categoryPath category = path ∨ payloadPath category = path := by
  simp only [dataNodes, payloadNodes, List.any_cons, List.any_flatMap, List.any_nil, Bool.or_false,
    Bool.or_eq_true, decide_eq_true_eq, List.any_eq_true]
  simp only [ArtifactNode.path]

theorem writePayload_next {retained : List Normalized} {done : List PyStr} {category : PyStr}
    (known : category ∈ categories) (all : ∀ other ∈ done, other ∈ categories)
    (fresh : category ∉ done) :
    writePrivateFile (ensureParents (dataNodes retained done) (payloadPath category))
      (payloadPath category) (payloadOf retained category) =
        .ok (dataNodes retained (done ++ [category])) := by
  obtain ⟨apart, clear, -, -, others⟩ := paths_apart category known
  have noDirectory : ¬(dataNodes retained done).any (·.path = categoryPath category) = true := by
    rw [any_dataNodes]
    rintro (same | ⟨other, mem, same | same⟩)
    · exact apart same
    · exact fresh ((others other (all other mem)).2.1 same.symm ▸ mem)
    · exact (others other (all other mem)).1 same.symm
  have noFile : ¬(dataNodes retained done ++
      [ArtifactNode.directory (categoryPath category) true]).any
      (·.path = payloadPath category) = true := by
    rw [List.any_append, Bool.or_eq_true, any_dataNodes]
    rintro ((same | ⟨other, mem, same | same⟩) | same)
    · exact clear same
    · exact ((paths_apart other (all other mem)).2.2.2.2 category known).1 same
    · exact fresh ((others other (all other mem)).2.2 same.symm ▸ mem)
    · simp only [List.any_cons, List.any_nil, Bool.or_false, decide_eq_true_eq] at same
      exact (others category known).1 same
  have parents : ensureParents (dataNodes retained done) (payloadPath category) =
      dataNodes retained done ++ [.directory (categoryPath category) true] := by
    have logs : (dataNodes retained done).any (·.path = logsPath) = true :=
      any_dataNodes.mpr (.inl rfl)
    unfold ensureParents
    rw [parentsOf_payloadPath known, List.foldl_cons, List.foldl_cons, List.foldl_nil, if_pos logs,
      if_neg noDirectory]
  unfold writePrivateFile
  rw [parents, if_neg noFile]
  simp [dataNodes, payloadNodes, List.flatMap_append]

theorem writePayload_first {retained : List Normalized} {category : PyStr}
    (known : category ∈ categories) :
    writePrivateFile (ensureParents [] (payloadPath category)) (payloadPath category)
      (payloadOf retained category) = .ok (dataNodes retained [category]) := by
  obtain ⟨apart, clear, -, -, others⟩ := paths_apart category known
  unfold writePrivateFile ensureParents
  rw [parentsOf_payloadPath known]
  simp [ArtifactNode.path, apart, clear, (others category known).1, dataNodes, payloadNodes]

theorem writePayloads {retained : List Normalized} (done : List PyStr) {rest : List PyStr}
    (all : ∀ other ∈ done ++ rest, other ∈ categories) (distinct : (done ++ rest).Nodup) :
    (rest.map fun category => (payloadPath category, payloadOf retained category)).foldlM
      (fun nodes payload => writePrivateFile (ensureParents nodes payload.1) payload.1 payload.2)
        (dataNodes retained done) = .ok (dataNodes retained (done ++ rest)) := by
  induction rest generalizing done with
  | nil => rw [List.append_nil]; rfl
  | cons category rest ih =>
    have known := all category (List.mem_append_right _ List.mem_cons_self)
    have fresh : category ∉ done := fun mem =>
      (List.nodup_append.mp distinct).2.2 category mem category List.mem_cons_self rfl
    have split : done ++ category :: rest = (done ++ [category]) ++ rest := by simp
    rw [List.map_cons, List.foldlM_cons, writePayload_next known
      (fun other mem => all other (List.mem_append_left _ mem)) fresh, ok_bind]
    rw [split] at all distinct ⊢
    exact ih _ all distinct

/-- The payloads are staged where they keep within the limit together. -/
theorem stagePayloads_renderPayloads (retained : List Normalized) :
    stagePayloads hashing [] 0 (renderPayloads retained) =
      if dataSize retained > maxArtifactBytes then
        reject "log artifact exceeds encoded byte limit"
      else .ok (dataNodes retained categories, dataSize retained,
        dataEvidence hashing retained) := by
  have written : (renderPayloads retained).foldlM (fun nodes payload =>
      writePrivateFile (ensureParents nodes payload.1) payload.1 payload.2) [] =
        .ok (dataNodes retained categories) := by
    have first : text "deployments" ∈ categories := List.mem_cons_self
    show (writePrivateFile (ensureParents [] (payloadPath (text "deployments"))) _ _ >>= _) = _
    rw [writePayload_first first, ok_bind]
    exact writePayloads [text "deployments"] (fun _ mem => mem) (by decide)
  rw [stagePayloads_eq 0 (Nat.zero_le _) written, Nat.zero_add, dataSize, dataEvidence]

/-! ## What is staged is verified -/

/-- The manifest of what is staged. -/
def manifestOf (hashing : Hashing) (reference : Nat) (retained : List Normalized) : List UInt8 :=
  manifestBytes reference (dataEvidence hashing retained) retained

/-- The files that are staged, with their bytes. -/
def stagedFiles (hashing : Hashing) (reference : Nat) (retained : List Normalized) :
    List (PyStr × List UInt8) :=
  renderPayloads retained ++ [(manifestPath, manifestOf hashing reference retained)]

/-- What is staged, in the order it is made. -/
def stagedNodes (hashing : Hashing) (reference : Nat) (retained : List Normalized) :
    List ArtifactNode :=
  dataNodes retained categories ++
    [.file manifestPath (some (manifestOf hashing reference retained))]

/-- The evidence of it. -/
def stagedEvidence (hashing : Hashing) (reference : Nat) (retained : List Normalized) :
    List LogArtifactFile :=
  (stagedFiles hashing reference retained).map fun file => fileEvidence hashing file.1 file.2

theorem stagedEvidence_eq (reference : Nat) (retained : List Normalized) :
    stagedEvidence hashing reference retained = dataEvidence hashing retained ++
      [fileEvidence hashing manifestPath (manifestOf hashing reference retained)] := by
  rw [stagedEvidence, stagedFiles, List.map_append]
  rfl

variable (hashing) in
theorem stagedFiles_paths (reference : Nat) (retained : List Normalized) :
    (stagedFiles hashing reference retained).map (·.1) = expectedOrder := by
  rw [stagedFiles, renderPayloads, List.map_append, List.map_map]
  rfl

theorem expectedOrder_nodup : expectedOrder.Nodup := by decide

theorem contents_dataNodes (retained : List Normalized) (done : List PyStr) :
    (dataNodes retained done).filterMap contentOf =
      done.map fun category => (payloadPath category, payloadOf retained category) := by
  show (done.flatMap (payloadNodes retained)).filterMap contentOf = _
  induction done with
  | nil => rfl
  | cons category done ih =>
    rw [List.flatMap_cons, List.filterMap_append, ih]
    rfl

theorem contents_stagedNodes (reference : Nat) (retained : List Normalized) :
    (stagedNodes hashing reference retained).filterMap contentOf =
      stagedFiles hashing reference retained := by
  rw [stagedNodes, List.filterMap_append, contents_dataNodes]
  rfl

/-- All that is staged is within the limit together. -/
def Within (hashing : Hashing) (reference : Nat) (retained : List Normalized) : Prop :=
  dataSize retained + (manifestOf hashing reference retained).length ≤ maxArtifactBytes

theorem Within.short {reference : Nat} {retained : List Normalized}
    (within : Within hashing reference retained) {file : PyStr × List UInt8}
    (mem : file ∈ stagedFiles hashing reference retained) : file.2.length ≤ maxArtifactBytes := by
  unfold Within at within
  rcases List.mem_append.mp mem with data | manifest
  · have part : file.2.length ≤ dataSize retained :=
      List.le_sum_of_mem (List.mem_map.mpr ⟨file, data, rfl⟩)
    omega
  · rw [List.mem_singleton.mp manifest]
    exact (Nat.le_add_left _ _).trans within

theorem find_evidence {files : List (PyStr × List UInt8)} (distinct : (files.map (·.1)).Nodup)
    {path : PyStr} {data : List UInt8} (mem : (path, data) ∈ files) :
    (files.map fun file => fileEvidence hashing file.1 file.2).find? (·.path = path) =
      some (fileEvidence hashing path data) := by
  induction files with
  | nil => cases mem
  | cons file files ih =>
    obtain ⟨first, distinct⟩ := List.nodup_cons.mp distinct
    rw [List.map_cons]
    rcases List.mem_cons.mp mem with rfl | later
    · exact List.find?_cons_of_pos (decide_eq_true rfl)
    · rw [List.find?_cons_of_neg, ih distinct later]
      intro same
      exact first (List.mem_map.mpr ⟨(path, data), later, (of_decide_eq_true same).symm⟩)

theorem stagedEvidence_directories (reference : Nat) (retained : List Normalized) :
    expectedDirectories (stagedEvidence hashing reference retained) =
      expectedOrder.flatMap parentsOf := by
  rw [← stagedFiles_paths hashing reference retained, expectedDirectories,
    stagedEvidence, List.flatMap_map, List.flatMap_map]
  rfl

/-- Every node that is staged is one that verification accepts. -/
theorem stagedNodes_expected {reference : Nat} {retained : List Normalized}
    (within : Within hashing reference retained) :
    ∀ node ∈ stagedNodes hashing reference retained,
      Expected hashing (stagedEvidence hashing reference retained) node := by
  intro node mem
  have distinct : ((stagedFiles hashing reference retained).map (·.1)).Nodup := by
    rw [stagedFiles_paths]
    exact expectedOrder_nodup
  have known : logsPath ∈ expectedOrder.flatMap parentsOf ∧
    ∀ category ∈ categories, categoryPath category ∈ expectedOrder.flatMap parentsOf := by decide
  cases node with
  | directory path isPrivate =>
    show path ∈ expectedDirectories _ ∧ isPrivate = true
    rw [stagedEvidence_directories]
    rcases List.mem_append.mp mem with data | manifest
    · rcases List.mem_cons.mp data with same | inside
      · cases same
        exact ⟨known.1, rfl⟩
      · obtain ⟨category, listed, node⟩ := List.mem_flatMap.mp inside
        rcases List.mem_cons.mp node with same | other
        · cases same
          exact ⟨known.2 category listed, rfl⟩
        · cases List.mem_singleton.mp other
    · cases List.mem_singleton.mp manifest
  | file path content =>
    have held : ∃ data, content = some data ∧
        (path, data) ∈ stagedFiles hashing reference retained := by
      rw [← contents_stagedNodes]
      rcases List.mem_append.mp mem with data | manifest
      · rcases List.mem_cons.mp data with same | inside
        · cases same
        · obtain ⟨category, listed, node⟩ := List.mem_flatMap.mp inside
          rcases List.mem_cons.mp node with same | other
          · cases same
          · cases List.mem_singleton.mp other
            exact ⟨_, rfl, List.mem_filterMap.mpr ⟨_, mem, rfl⟩⟩
      · cases List.mem_singleton.mp manifest
        exact ⟨_, rfl, List.mem_filterMap.mpr ⟨_, mem, rfl⟩⟩
    obtain ⟨data, rfl, listed⟩ := held
    exact ⟨data, rfl, within.short listed, find_evidence distinct listed⟩

theorem validateEach_ok {observed : List PyStr} {files : List LogArtifactFile}
    (plain : ∀ file ∈ files, plainPath file.path = true)
    (short : ∀ file ∈ files, file.size ≤ maxArtifactBytes)
    (distinct : (files.map (·.path)).Nodup) (fresh : ∀ file ∈ files, file.path ∉ observed) :
    validateEach observed files = .ok () := by
  induction files generalizing observed with
  | nil => rfl
  | cons file files ih =>
    obtain ⟨plain, plains⟩ := List.forall_mem_cons.mp plain
    obtain ⟨short, shorts⟩ := List.forall_mem_cons.mp short
    obtain ⟨fresh, freshes⟩ := List.forall_mem_cons.mp fresh
    obtain ⟨first, distinct⟩ := List.nodup_cons.mp distinct
    unfold validateEach
    rw [if_neg (by simp [plain, fresh, Nat.not_lt.mpr short])]
    refine ih plains shorts distinct fun other mem held => ?_
    rcases List.mem_cons.mp held with same | held
    · exact first (List.mem_map.mpr ⟨other, mem, same⟩)
    · exact freshes other mem held

variable (hashing) in
theorem stagedEvidence_paths (reference : Nat) (retained : List Normalized) :
    (stagedEvidence hashing reference retained).map (·.path) = expectedOrder := by
  rw [← stagedFiles_paths hashing reference retained, stagedEvidence, List.map_map]
  rfl

theorem validateFileEvidence_staged {reference : Nat} {retained : List Normalized}
    (within : Within hashing reference retained) :
    validateFileEvidence (stagedEvidence hashing reference retained) = .ok () := by
  have paths := stagedEvidence_paths hashing reference retained
  have plain : ∀ path ∈ expectedOrder, plainPath path = true := by decide
  have some : stagedEvidence hashing reference retained ≠ [] := by
    intro none
    rw [none] at paths
    cases paths
  have each : validateEach [] (stagedEvidence hashing reference retained) = .ok () := by
    refine validateEach_ok (fun file mem => plain _ ?_) (fun file mem => ?_) ?_
      fun _ _ => List.not_mem_nil
    · rw [← paths]
      exact List.mem_map.mpr ⟨file, mem, rfl⟩
    · obtain ⟨staged, held, rfl⟩ := List.mem_map.mp mem
      exact within.short held
    · rw [paths]
      exact expectedOrder_nodup
  unfold validateFileEvidence
  rw [if_neg some, each, ok_bind, paths]
  exact if_neg (not_not.mpr rfl)

/-- The evidence of what is staged of these records. -/
def artifactOf (hashing : Hashing) (staging : StagingRoot) (reference : Nat)
    (retained : List Normalized) : LogArtifact :=
  ⟨staging.path, text (hashing.sha256 (manifestOf hashing reference retained)).hex,
    hashing.sha256 (manifestOf hashing reference retained),
    stagedEvidence hashing reference retained⟩

/-- What a reference time and the records of its window have in common once they are accepted. -/
structure Accepted (reference : Nat) (retained : List Normalized) : Prop where
  limit : reference < Calendar.limit
  window : cutoffOf reference = .ok (reference - retention)
  kept : Retained reference (reference - retention) retained

/-- Every directory that the evidence expects is staged. -/
theorem stagedNodes_directory {reference : Nat} {retained : List Normalized} {path : PyStr}
    (expected : path ∈ expectedDirectories (stagedEvidence hashing reference retained)) :
    .directory path true ∈ stagedNodes hashing reference retained := by
  rw [stagedEvidence_directories] at expected
  have only : ∀ path ∈ expectedOrder.flatMap parentsOf,
    path = logsPath ∨ ∃ category ∈ categories, path = categoryPath category := by decide
  refine List.mem_append_left _ ?_
  rcases only path expected with rfl | ⟨category, known, rfl⟩
  · exact List.mem_cons_self
  · exact List.mem_cons_of_mem _ (List.mem_flatMap.mpr ⟨category, known, List.mem_cons_self⟩)

/-- **What was staged is verified**, in whatever order it is met. -/
theorem verifyLogArtifact_staged {reference : Nat} {retained : List Normalized}
    (accepted : Accepted reference retained) (within : Within hashing reference retained)
    (staging : StagingRoot) {walk : List ArtifactNode}
    (perm : walk.Perm (stagedNodes hashing reference retained)) :
    verifyLogArtifact hashing ⟨true, walk⟩ (artifactOf hashing staging reference retained) =
      .ok () := by
  have contents : (walk.filterMap contentOf).Perm (stagedFiles hashing reference retained) := by
    rw [← contents_stagedNodes]
    exact perm.filterMap contentOf
  have distinct : ((stagedFiles hashing reference retained).map (·.1)).Nodup := by
    rw [stagedFiles_paths]
    exact expectedOrder_nodup
  obtain ⟨met, walked, directories, files⟩ := foldlM_observe ⟨[], []⟩
    (fun node mem => stagedNodes_expected within node (perm.mem_iff.mp mem))
    ((contents.map (·.1)).nodup_iff.mpr distinct) (fun _ _ => List.not_mem_nil)
  rw [List.append_nil] at files
  replace files := files.trans contents
  have apart : (met.files.map (·.1)).Nodup := (files.map (·.1)).nodup_iff.mpr distinct
  have held : ∀ file ∈ stagedFiles hashing reference retained,
      met.files.lookup file.1 = some file.2 :=
    fun file mem => lookup_of_mem apart (files.mem_iff.mpr mem)
  have everyFile : ((stagedEvidence hashing reference retained).all fun file =>
      met.files.any (·.1 = file.path)) = true := by
    refine List.all_eq_true.mpr fun file mem => ?_
    obtain ⟨staged, listed, rfl⟩ := List.mem_map.mp mem
    exact List.any_eq_true.mpr ⟨staged, files.mem_iff.mpr listed, decide_eq_true rfl⟩
  have everyDirectory : (expectedDirectories (stagedEvidence hashing reference retained)).all
      (met.directories.contains ·) = true := by
    refine List.all_eq_true.mpr fun path mem => List.contains_iff_mem.mpr ?_
    exact (directories path).mpr (.inr (perm.mem_iff.mpr (stagedNodes_directory mem)))
  have payloads : ∀ category ∈ categories, met.files.lookup (payloadPath category) =
      some (payloadOf retained category) := fun category mem =>
    held (payloadPath category, payloadOf retained category)
      (List.mem_append_left _ (List.mem_map.mpr ⟨category, mem, rfl⟩))
  have manifest : met.files.lookup manifestPath = some (manifestOf hashing reference retained) :=
    held (manifestPath, manifestOf hashing reference retained)
      (List.mem_append_right _ (List.mem_singleton.mpr rfl))
  have named : (artifactOf hashing staging reference retained).name =
    text (artifactOf hashing staging reference retained).artifactId.hex := rfl
  have identified : hashing.sha256 (manifestOf hashing reference retained) =
    (artifactOf hashing staging reference retained).artifactId := rfl
  have listed : (artifactOf hashing staging reference retained).files =
    stagedEvidence hashing reference retained := rfl
  unfold verifyLogArtifact
  rw [if_neg (not_not.mpr named), listed, validateFileEvidence_staged within, ok_bind,
    if_neg (by simp)]
  show (walk.foldlM (observe hashing (stagedEvidence hashing reference retained)) ⟨[], []⟩ >>= _) =
    _
  rw [walked, ok_bind, everyFile, everyDirectory, if_neg (by decide), manifest]
  dsimp only
  rw [if_neg (not_not.mpr identified), stagedEvidence_eq]
  exact verifyManifest_manifestBytes accepted.limit accepted.window accepted.kept
    (dataEvidence_bound retained) payloads _ rfl

/-! ## Building, expecting and loading -/

theorem normalizeReferenceTime_limit {value : DateTime} {reference : Nat}
    (done : normalizeReferenceTime value = .ok reference) : reference < Calendar.limit := by
  unfold normalizeReferenceTime astimezone at done
  split at done
  · cases done
  dsimp only at done
  split at done
  next within =>
    rw [← Except.ok.inj done]
    omega
  next => cases done

/-- The records and the reference time are accepted. -/
def Admits (records : List LogRecord) (referenceTime : DateTime) (reference : Nat)
    (retained : List Normalized) : Prop :=
  normalizeReferenceTime referenceTime = .ok reference ∧
    retainedRecords records reference = .ok retained

theorem Admits.accepted {records : List LogRecord} {referenceTime : DateTime} {reference : Nat}
    {retained : List Normalized} (admits : Admits records referenceTime reference retained) :
    Accepted reference retained :=
  have ⟨window, kept, _⟩ := retainedRecords_eq_ok admits.2
  ⟨normalizeReferenceTime_limit admits.1, window, kept⟩

variable (hashing) in
theorem dataEvidence_size (retained : List Normalized) :
    ((dataEvidence hashing retained).map (·.size)).sum = dataSize retained := by
  rw [dataEvidence, List.map_map]
  rfl

theorem expectedLogArtifactId_eq {records : List LogRecord} {referenceTime : DateTime}
    {reference : Nat} {retained : List Normalized}
    (admits : Admits records referenceTime reference retained) :
    expectedLogArtifactId hashing records referenceTime =
      if dataSize retained + (manifestOf hashing reference retained).length > maxArtifactBytes then
        reject "log artifact exceeds encoded byte limit"
      else .ok (hashing.sha256 (manifestOf hashing reference retained)) := by
  unfold expectedLogArtifactId
  rw [admits.1, ok_bind, admits.2, ok_bind, ← dataEvidence_size hashing]
  rfl

theorem not_mem_dataNodes {retained : List Normalized} :
    ¬(dataNodes retained categories).any (·.path = manifestPath) = true := by
  rw [any_dataNodes]
  rintro (same | ⟨category, known, same | same⟩)
  · exact absurd same (by decide)
  · exact (paths_apart category known).2.2.2.1 same.symm
  · exact (paths_apart category known).2.2.1 same.symm

theorem artifactOf_eq (staging : StagingRoot) (reference : Nat) (retained : List Normalized) :
    (⟨staging.path, text (hashing.sha256 (manifestOf hashing reference retained)).hex,
      hashing.sha256 (manifestOf hashing reference retained), dataEvidence hashing retained ++
        [fileEvidence hashing manifestPath (manifestOf hashing reference retained)]⟩ :
      LogArtifact) = artifactOf hashing staging reference retained := by
  rw [artifactOf, stagedEvidence_eq]

theorem stageArtifact_eq (staging : StagingRoot) {reference : Nat} {retained : List Normalized}
    (accepted : Accepted reference retained) :
    stageArtifact hashing staging reference retained =
      if dataSize retained + (manifestOf hashing reference retained).length > maxArtifactBytes then
        reject "log artifact exceeds encoded byte limit"
      else if staging.holds (artifactOf hashing staging reference retained).name then
        reject "log artifact destination already exists"
      else .ok (artifactOf hashing staging reference retained,
        ⟨true, staging.report (stagedNodes hashing reference retained)⟩) := by
  unfold stageArtifact
  rw [stagePayloads_renderPayloads]
  by_cases excess : dataSize retained > maxArtifactBytes
  · rw [if_pos excess, if_pos (by omega), reject_bind]
  rw [if_neg excess, ok_bind]
  dsimp only
  show (if dataSize retained + (manifestOf hashing reference retained).length > _ then _ else _) = _
  split
  · rfl
  next within =>
    rw [writePrivateFile, if_neg not_mem_dataNodes, ok_bind]
    show (if staging.holds (artifactOf hashing staging reference retained).name = true then _
      else _) = _
    split
    · rfl
    · have verified := verifyLogArtifact_staged accepted (Nat.not_lt.mp within) staging
        (staging.complete (stagedNodes hashing reference retained))
      rw [← artifactOf_eq] at verified ⊢
      exact congrArg (fun done => done >>= fun _ => Except.ok (_, _)) verified

/-- **What building makes**, exactly. -/
theorem buildLogArtifact_eq_ok {staging : StagingRoot} {records : List LogRecord}
    {referenceTime : DateTime} {artifact : LogArtifact} {root : ArtifactRoot} :
    buildLogArtifact hashing staging records referenceTime = .ok (artifact, root) ↔
      staging.isPrivate = true ∧ ∃ reference retained,
        Admits records referenceTime reference retained ∧ Within hashing reference retained ∧
        staging.holds (artifactOf hashing staging reference retained).name = false ∧
        artifact = artifactOf hashing staging reference retained ∧
        root = ⟨true, staging.report (stagedNodes hashing reference retained)⟩ := by
  unfold buildLogArtifact validateStagingRoot
  constructor
  · intro built
    split at built
    next isPrivate =>
      rw [ok_bind] at built
      obtain ⟨reference, time, built⟩ := bind_eq_ok.mp built
      obtain ⟨retained, kept, built⟩ := bind_eq_ok.mp built
      have admits : Admits records referenceTime reference retained := ⟨time, kept⟩
      rw [stageArtifact_eq staging admits.accepted] at built
      split at built
      · cases built
      next within =>
        split at built
        · cases built
        next free =>
          cases built
          exact ⟨isPrivate, reference, retained, admits, Nat.not_lt.mp within,
            Bool.not_eq_true _ ▸ free, rfl, rfl⟩
    next => cases built
  · rintro ⟨isPrivate, reference, retained, admits, within, free, rfl, rfl⟩
    rw [if_pos isPrivate, ok_bind, admits.1, ok_bind, admits.2, ok_bind,
      stageArtifact_eq staging admits.accepted, if_neg (Nat.not_lt.mpr within), free]
    rfl

theorem expectedLogArtifactId_eq_ok {records : List LogRecord} {referenceTime : DateTime}
    {artifactId : Digest} :
    expectedLogArtifactId hashing records referenceTime = .ok artifactId ↔
      ∃ reference retained, Admits records referenceTime reference retained ∧
        Within hashing reference retained ∧
        artifactId = hashing.sha256 (manifestOf hashing reference retained) := by
  constructor
  · intro expected
    have done := expected
    unfold expectedLogArtifactId at done
    obtain ⟨reference, time, done⟩ := bind_eq_ok.mp done
    obtain ⟨retained, kept, -⟩ := bind_eq_ok.mp done
    have admits : Admits records referenceTime reference retained := ⟨time, kept⟩
    rw [expectedLogArtifactId_eq admits] at expected
    split at expected
    · cases expected
    next within =>
      cases expected
      exact ⟨reference, retained, admits, Nat.not_lt.mp within, rfl⟩
  · rintro ⟨reference, retained, admits, within, rfl⟩
    rw [expectedLogArtifactId_eq admits, if_neg (Nat.not_lt.mpr within)]

/-- The manifest is the one node of its path. -/
theorem find_manifest {reference : Nat} {retained : List Normalized} {walk : List ArtifactNode}
    (perm : walk.Perm (stagedNodes hashing reference retained)) :
    walk.find? (·.path = manifestPath) =
      some (.file manifestPath (some (manifestOf hashing reference retained))) := by
  have only : ∀ node ∈ walk, node.path = manifestPath →
      node = .file manifestPath (some (manifestOf hashing reference retained)) := by
    intro node mem named
    rcases List.mem_append.mp (perm.mem_iff.mp mem) with data | manifest
    · have met : (dataNodes retained categories).any (·.path = manifestPath) = true :=
        List.any_eq_true.mpr ⟨node, data, by simpa using named⟩
      exact absurd met not_mem_dataNodes
    · exact List.mem_singleton.mp manifest
  have held : .file manifestPath (some (manifestOf hashing reference retained)) ∈ walk :=
    perm.mem_iff.mpr (List.mem_append_right _ List.mem_cons_self)
  cases found : walk.find? (·.path = manifestPath) with
  | none => exact absurd (decide_eq_true rfl) (List.find?_eq_none.mp found _ held)
  | some node =>
    have named := List.find?_some found
    rw [only node (List.mem_of_find?_eq_some found) (of_decide_eq_true named)]

theorem manifestFileEvidence_staged {reference : Nat} {retained : List Normalized}
    (within : Within hashing reference retained) :
    manifestFileEvidence (manifestOf hashing reference retained) =
      .ok (dataEvidence hashing retained) := by
  have evidence : JsonText.get? (manifestMembers reference (dataEvidence hashing retained) retained)
    (text "files") = some (.arr ((dataEvidence hashing retained).map fileValue)) := by rfl
  have read : ((dataEvidence hashing retained).map fileValue).mapM fileOf =
      some (dataEvidence hashing retained) := by
    have each := @JsonText.mapM_map _ _ _ fileValue fileOf id (dataEvidence hashing retained)
      fun file _ => fileOf_fileValue file
    rwa [List.map_id] at each
  have short : ¬(dataEvidence hashing retained).any (·.size > maxArtifactBytes) = true := by
    intro long
    obtain ⟨file, mem, excess⟩ := List.any_eq_true.mp long
    obtain ⟨staged, held, rfl⟩ := List.mem_map.mp mem
    exact absurd (within.short (List.mem_append_left _ held))
      (Nat.not_le.mpr (of_decide_eq_true excess))
  unfold manifestFileEvidence manifestOf
  rw [load_manifestBytes (dataEvidence_bound retained)]
  dsimp only
  rw [evidence]
  dsimp only
  rw [read]
  exact if_neg short

/-- **What was staged is loaded**, as it was staged. -/
theorem loadLogArtifact_staged {staging : StagingRoot} (isPrivate : staging.isPrivate = true)
    {reference : Nat} {retained : List Normalized} (accepted : Accepted reference retained)
    (within : Within hashing reference retained) {walk : List ArtifactNode}
    (perm : walk.Perm (stagedNodes hashing reference retained)) :
    loadLogArtifact hashing staging ⟨true, walk⟩
      (hashing.sha256 (manifestOf hashing reference retained)) =
        .ok (artifactOf hashing staging reference retained) := by
  have manifest : readPrivateManifest ⟨true, walk⟩ = .ok (manifestOf hashing reference retained) := by
    unfold readPrivateManifest
    rw [if_neg (by simp), find_manifest perm]
    exact if_neg (Nat.not_lt.mpr ((Nat.le_add_left _ _).trans within))
  unfold loadLogArtifact
  rw [if_neg (by simp [isPrivate]), manifest, ok_bind, if_neg (not_not.mpr rfl),
    manifestFileEvidence_staged within, ok_bind]
  have verified := verifyLogArtifact_staged accepted within staging perm
  rw [← artifactOf_eq] at verified ⊢
  exact congrArg (fun done => loadClosed done >>= fun _ => Except.ok _) verified

/-! ## The round trip -/

/-- What a payload says of a record. -/
def recordRow (record : LogRecord) : LogRow :=
  toLex ((utcOf record).toNat, toLex (record.recordId, record.message))

/-- The payload files decode to the records of the window, each category to its own, in order. -/
def DecodesTo (reference : Nat) (records : List LogRecord) (root : ArtifactRoot) : Prop :=
  (∀ record ∈ records, InWindow reference record → record.category ∈ categories) ∧
    ∀ category ∈ categories, ∃ data rows,
      .file (payloadPath category) (some data) ∈ root.walk ∧
      decodePayload reference (reference - retention) 0 data = .ok rows ∧
      rows.Pairwise (· ≤ ·) ∧
      rows.Perm ((records.filter fun record =>
        record.category = category ∧ InWindow reference record).map recordRow)

theorem stagedNodes_decode {records : List LogRecord} {referenceTime : DateTime} {reference : Nat}
    {retained : List Normalized} (admits : Admits records referenceTime reference retained)
    (staging : StagingRoot) :
    DecodesTo reference records
      ⟨true, staging.report (stagedNodes hashing reference retained)⟩ := by
  obtain ⟨-, kept, perm⟩ := retainedRecords_eq_ok admits.2
  constructor
  · intro record mem recent
    obtain ⟨item, held, rfl⟩ := List.mem_map.mp
      (perm.mem_iff.mpr (List.mem_filter.mpr ⟨mem, decide_eq_true recent⟩))
    exact (kept.fine item held).category
  · intro category known
    have few : 0 + (inCategory retained category).length ≤ maxRecords := by
      rw [Nat.zero_add]
      exact (List.length_filter_le _ _).trans kept.few
    refine ⟨payloadOf retained category, (inCategory retained category).map rowOf, ?_,
      decodePayload_payloadOf kept category few, rowOf_sorted kept.sorted category, ?_⟩
    · refine (staging.complete _).mem_iff.mpr (List.mem_append_left _ (List.mem_cons_of_mem _ ?_))
      exact List.mem_flatMap.mpr ⟨category, known, List.mem_cons_of_mem _ List.mem_cons_self⟩
    · have rows : (inCategory retained category).map rowOf =
          ((retained.map (·.record)).filter (·.category = category)).map recordRow := by
        rw [List.filter_map, List.map_map]
        refine List.map_congr_left fun item mem => ?_
        have normal := (kept.fine item (List.mem_of_mem_filter mem)).utcOf
        show rowOf item = recordRow item.record
        rw [rowOf, recordRow, normal]
        rfl
      rw [rows]
      refine ((perm.filter (·.category = category)).map recordRow).trans (List.Perm.of_eq ?_)
      rw [List.filter_filter]
      congr 2
      ext record
      rw [Bool.decide_and]

theorem failures_eq {staging : StagingRoot} (isPrivate : staging.isPrivate = true)
    (free : ∀ name, staging.holds name = false) (records : List LogRecord)
    (referenceTime : DateTime) (error : ArtifactError) :
    expectedLogArtifactId hashing records referenceTime = .error error ↔
      buildLogArtifact hashing staging records referenceTime = .error error := by
  cases time : normalizeReferenceTime referenceTime with
  | error raised =>
    unfold expectedLogArtifactId buildLogArtifact validateStagingRoot
    rw [if_pos isPrivate, time, error_bind, ok_bind, error_bind, Except.error.injEq,
      Except.error.injEq]
  | ok reference =>
    cases kept : retainedRecords records reference with
    | error raised =>
      unfold expectedLogArtifactId buildLogArtifact validateStagingRoot
      rw [if_pos isPrivate, time, ok_bind, ok_bind, ok_bind, kept, error_bind, error_bind,
        Except.error.injEq, Except.error.injEq]
    | ok retained =>
      have admits : Admits records referenceTime reference retained := ⟨time, kept⟩
      unfold buildLogArtifact validateStagingRoot
      rw [expectedLogArtifactId_eq admits, if_pos isPrivate, ok_bind, time, ok_bind, kept, ok_bind,
        stageArtifact_eq staging admits.accepted, free, if_neg Bool.false_ne_true]
      split
      · show Except.error _ = _ ↔ Except.error _ = _
        rw [Except.error.injEq, Except.error.injEq]
      · constructor
        · intro wrong
          cases wrong
        · intro wrong
          cases wrong

/-- **A log artifact is what its records say.** Where building succeeds, the records in any order
make the same artifact, in this directory or in another; its payload files decode to the records of
the window in order; whatever order its directory is walked in, it is loaded as it was built; and
its id is the expected one. And where nothing stands in the staging directory, expecting fails
where building does, with the same exception. -/
theorem artifact_round_trip (hashing : Hashing) (staging : StagingRoot) (records : List LogRecord)
    (referenceTime : DateTime) :
    (∀ artifact root, buildLogArtifact hashing staging records referenceTime = .ok (artifact, root) →
      (∀ records', records.Perm records' →
        buildLogArtifact hashing staging records' referenceTime = .ok (artifact, root) ∧
        ∀ staging' artifact' root',
          buildLogArtifact hashing staging' records' referenceTime = .ok (artifact', root') →
            artifact'.artifactId = artifact.artifactId ∧ artifact'.files = artifact.files) ∧
      (∃ reference, normalizeReferenceTime referenceTime = .ok reference ∧
        DecodesTo reference records root) ∧
      (∀ walk, walk.Perm root.walk →
        loadLogArtifact hashing staging ⟨root.isPrivate, walk⟩ artifact.artifactId =
          .ok artifact) ∧
      expectedLogArtifactId hashing records referenceTime = .ok artifact.artifactId) ∧
    (staging.isPrivate = true → (∀ name, staging.holds name = false) → ∀ error,
      expectedLogArtifactId hashing records referenceTime = .error error ↔
        buildLogArtifact hashing staging records referenceTime = .error error) := by
  constructor
  · intro artifact root built
    obtain ⟨isPrivate, reference, retained, admits, within, free, rfl, rfl⟩ :=
      buildLogArtifact_eq_ok.mp built
    refine ⟨fun records' perm => ?_, ⟨reference, admits.1, stagedNodes_decode admits staging⟩,
      fun walk order => ?_, ?_⟩
    · have moved : Admits records' referenceTime reference retained :=
        ⟨admits.1, retainedRecords_perm perm admits.2⟩
      refine ⟨buildLogArtifact_eq_ok.mpr
        ⟨isPrivate, reference, retained, moved, within, free, rfl, rfl⟩, ?_⟩
      intro staging' artifact' root' other
      obtain ⟨-, reference', retained', admits', -, -, rfl, -⟩ := buildLogArtifact_eq_ok.mp other
      cases admits'.1.symm.trans moved.1
      cases admits'.2.symm.trans moved.2
      exact ⟨rfl, rfl⟩
    · exact loadLogArtifact_staged isPrivate admits.accepted within
        (order.trans (staging.complete _))
    · exact expectedLogArtifactId_eq_ok.mpr ⟨reference, retained, admits, within, rfl⟩
  · intro isPrivate free error
    exact failures_eq isPrivate free records referenceTime error

/-- A private directory in which nothing stands. -/
def emptyStaging : StagingRoot :=
  ⟨text "/data", true, fun _ => false, id, fun _ => List.Perm.refl _⟩

def startRecord : LogRecord :=
  ⟨text "syncapp", text "r1", ⟨63113904000000000, some 0⟩, text "started"⟩

theorem start_round_trip : ∃ artifact root,
    buildLogArtifact zeroHashing emptyStaging [startRecord] ⟨63113904000000001, some 0⟩ =
      .ok (artifact, root) ∧
    loadLogArtifact zeroHashing emptyStaging root artifact.artifactId = .ok artifact := by
  have admits : Admits [startRecord] ⟨63113904000000001, some 0⟩ 63113904000000001
      [⟨startRecord, 63113904000000000⟩] := by
    unfold Admits
    decide +kernel
  have within : Within zeroHashing 63113904000000001 [⟨startRecord, 63113904000000000⟩] := by
    unfold Within
    decide +kernel
  have built := buildLogArtifact_eq_ok.mpr
    ⟨show emptyStaging.isPrivate = true from rfl, _, _, admits, within, rfl, rfl, rfl⟩
  exact ⟨_, _, built, ((artifact_round_trip zeroHashing emptyStaging [startRecord]
    ⟨63113904000000001, some 0⟩).1 _ _ built).2.2.1 _ (List.Perm.refl _)⟩

end LogArtifacts

end SyncApp
