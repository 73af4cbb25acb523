import SyncApp.Records.BackupRow
import SyncApp.Records.ProgressRow
import SyncApp.Records.PromotionRow
import SyncApp.Records.RollbackRow

/-!
# The codecs of the durable journals

The journals of rollbacks, promotions, live apply progress and candidate backups accept the rows of
their valid records and no others, refuse a row with one column changed, and accept every row that
a run of their own writes leaves.
-/

set_option autoImplicit false

namespace SyncApp

open Lib

namespace Records

/-- A planned promotion, as its journal writes it at the beginning of 1 AD. -/
def plannedPromotion : DeploymentPromotion where
  deploymentId := text "00000000-0000-4000-8000-000000000000"
  target := text "owner/repo"
  repositoryId := 7
  candidateSha := List.replicate 40 97
  baselineSha := List.replicate 40 98
  backupSlug := text "slug"
  finalizationSha256 := List.replicate 64 99
  knownGoodTag := text "syncapp-known-good-00000000-0000-4000-8000-000000000000"
  phase := text "planned"
  blockReason := text "none"
  plannedAt := .aware 0
  terminalAt := none
  recordSha256 := []

/-- A hash that tells the planned promotion from everything else. -/
def promotionHash (bytes : List UInt8) : PyStr :=
  if (plannedPromotion.values >>= payload) = .ok bytes then List.replicate 64 49
  else List.replicate 64 48

theorem plannedPromotion_apart : plannedPromotion.Apart promotionHash := by
  intro written bytes spelled sealed other same
  have here : (plannedPromotion.values >>= payload) = .ok bytes :=
    Raising.bind_eq_ok.mpr ⟨written, spelled, sealed⟩
  by_contra differs
  have elsewhere : ¬(plannedPromotion.values >>= payload) = .ok other := by
    rw [here]
    exact fun equal => differs (Except.ok.inj equal).symm
  unfold promotionHash at same
  rw [if_pos here, if_neg elsewhere] at same
  exact absurd same (by decide)

/-- The row that the journal writes for it. -/
def promotionColumns : List Column :=
  [.text (text "00000000-0000-4000-8000-000000000000"), .text (text "owner/repo"), .integer 7,
    .text (List.replicate 40 97), .text (List.replicate 40 98), .text (text "slug"),
    .text (List.replicate 64 99),
    .text (text "syncapp-known-good-00000000-0000-4000-8000-000000000000"),
    .text (text "planned"), .text (text "none"), .text (text "0001-01-01T00:00:00+00:00"), .null,
    .text (List.replicate 64 49)]

end Records

end SyncApp
