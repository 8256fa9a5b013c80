import PayBridge.Codec.Exposition
import PayBridge.Metrics
import PayBridge.Overview

namespace PayBridge
open Store Codec Numeric

structure CountLabels where
  gateway : GatewayProvider
  status : PaymentStatus
  currency : String
  deriving DecidableEq

structure VolumeLabels where
  gateway : GatewayProvider
  currency : String
  deriving DecidableEq

structure CountSample where
  labels : CountLabels
  count : Nat
  deriving DecidableEq

structure VolumeSample where
  labels : VolumeLabels
  value : ℚ
  deriving DecidableEq

def SelectedIntent.countLabels (intent : SelectedIntent) : CountLabels := ⟨intent.gateway, intent.status, intent.currency⟩

def SelectedIntent.volumeLabels (intent : SelectedIntent) : VolumeLabels := ⟨intent.gateway, intent.currency⟩

/-- The number of the intents by gateway, status and currency. -/
def countSamples (intents : List SelectedIntent) : Table CountSample.labels :=
  Table.groupInto SelectedIntent.countLabels (fun labels => ⟨labels, 0⟩)
    (fun _ sample => { sample with count := sample.count + 1 }) (fun _ _ => rfl) Table.empty intents

/-- The captured and refunded amounts by gateway and currency. -/
def volumeSamples (A : Arithmetic) (intents : List SelectedIntent) : Table VolumeSample.labels :=
  Table.groupInto SelectedIntent.volumeLabels (fun labels => ⟨labels, 0⟩)
    (fun intent sample => { sample with value := A.add sample.value intent.amount.toNumber }) (fun _ _ => rfl) Table.empty
    (intents.filter fun intent => intent.status.isSuccess)

def CountLabels.text (labels : CountLabels) : String := countKey labels.gateway labels.status labels.currency

def VolumeLabels.text (labels : VolumeLabels) : String := volKey labels.gateway labels.currency

def CountSample.line (sample : CountSample) : String := CountEntry.line ⟨sample.labels.text, sample.count⟩

def VolumeSample.line (A : Arithmetic) (sample : VolumeSample) : String := VolumeEntry.line A ⟨sample.labels.text, sample.value⟩

/-- The lines of samples under their headers. -/
def sampleLines (A : Arithmetic) (counts : Table CountSample.labels) (volumes : Table VolumeSample.labels) : List String :=
  countHeader ++ counts.rows.map CountSample.line ++ (volumeHeader ++ volumes.rows.map (VolumeSample.line A))

theorem GatewayProvider.text_plain (gateway : GatewayProvider) : Exposition.Plain gateway.text.toList := by
  cases gateway <;> simp [Exposition.Plain, GatewayProvider.text]

theorem PaymentStatus.text_plain (status : PaymentStatus) : Exposition.Plain status.text.toList := by
  cases status <;> simp [Exposition.Plain, PaymentStatus.text]

theorem GatewayProvider.text_inj {left right : GatewayProvider} (same : left.text = right.text) : left = right := by
  cases left <;> cases right <;> first | rfl | exact absurd same (by decide)

theorem PaymentStatus.text_inj {left right : PaymentStatus} (same : left.text = right.text) : left = right := by
  cases left <;> cases right <;> first | rfl | exact absurd same (by decide)

theorem CountLabels.text_inj : Function.Injective CountLabels.text := by
  rintro ⟨gateway, status, currency⟩ ⟨gateway', status', currency'⟩ same
  have chars := congrArg String.toList same
  simp only [CountLabels.text, countKey, String.toList_append, List.append_assoc] at chars
  obtain ⟨gateways, others⟩ :=
    Exposition.quoted_inj gateway.text_plain.unquoted gateway'.text_plain.unquoted (List.append_cancel_left chars)
  obtain ⟨statuses, currencies⟩ :=
    Exposition.quoted_inj status.text_plain.unquoted status'.text_plain.unquoted (List.append_cancel_left others)
  have currencies := List.append_cancel_right (List.append_cancel_left currencies)
  rw [GatewayProvider.text_inj (String.toList_inj.mp gateways), PaymentStatus.text_inj (String.toList_inj.mp statuses),
    String.toList_inj.mp currencies]

theorem VolumeLabels.text_inj : Function.Injective VolumeLabels.text := by
  rintro ⟨gateway, currency⟩ ⟨gateway', currency'⟩ same
  have chars := congrArg String.toList same
  simp only [VolumeLabels.text, volKey, String.toList_append, List.append_assoc] at chars
  obtain ⟨gateways, others⟩ :=
    Exposition.quoted_inj gateway.text_plain.unquoted gateway'.text_plain.unquoted (List.append_cancel_left chars)
  have currencies := List.append_cancel_right (List.append_cancel_left others)
  rw [GatewayProvider.text_inj (String.toList_inj.mp gateways), String.toList_inj.mp currencies]

/-- The loop, map by map. -/
theorem tally_run (A : Arithmetic) (intents : List SelectedIntent) (tally : MetricsTally) :
    intents.foldl (MetricsTally.count A) tally =
      { countsMap := Table.groupInto (fun intent => intent.countLabels.text) (fun labels => ⟨labels, 0⟩)
          (fun _ => CountEntry.add) (fun _ _ => rfl) tally.countsMap intents
        volumeMap := Table.groupInto (fun intent => intent.volumeLabels.text) (fun labels => ⟨labels, 0⟩)
          (fun intent => VolumeEntry.add A intent.amount.toNumber) (fun _ _ => rfl) tally.volumeMap
          (intents.filter fun intent => intent.status.isSuccess) } := by
  induction intents generalizing tally with
  | nil => rfl
  | cons intent intents ih =>
    have taken : (intent :: intents).filter (fun intent => intent.status.isSuccess) =
        if intent.status.isSuccess then intent :: intents.filter (fun intent => intent.status.isSuccess)
        else intents.filter (fun intent => intent.status.isSuccess) := List.filter_cons
    have test : (intent.status = .captured ∨ intent.status = .refunded) ↔ intent.status.isSuccess = true := by
      simp [PaymentStatus.isSuccess]
    rw [List.foldl_cons, ih, MetricsTally.count, taken]
    by_cases success : intent.status.isSuccess = true
    · rw [if_pos success, if_pos (test.mpr success)]
      rfl
    · rw [if_neg success, if_neg fun other => success (test.mp other)]
      rfl

/-- The maps with the composed keys are the samples. -/
theorem intentLines_samples (A : Arithmetic) (intents : List SelectedIntent) :
    intentLines A intents = sampleLines A (countSamples intents) (volumeSamples A intents) := by
  have counts : (intents.foldl (MetricsTally.count A) ⟨Table.empty, Table.empty⟩).countsMap.rows =
      (countSamples intents).rows.map fun sample => ⟨sample.labels.text, sample.count⟩ := by
    rw [tally_run]
    refine Table.groupInto_rekey CountLabels.text_inj (fun _ => ?_) (fun _ => ?_) (fun _ => ?_) (fun _ _ => ?_) ?_ intents <;>
      rfl
  have volumes : (intents.foldl (MetricsTally.count A) ⟨Table.empty, Table.empty⟩).volumeMap.rows =
      (volumeSamples A intents).rows.map fun sample => ⟨sample.labels.text, sample.value⟩ := by
    rw [tally_run]
    refine Table.groupInto_rekey VolumeLabels.text_inj (fun _ => ?_) (fun _ => ?_) (fun _ => ?_) (fun _ _ => ?_) ?_ _ <;> rfl
  rw [intentLines, counts, volumes, List.map_map, List.map_map]
  rfl

/-- The counts of the samples that a test of the labels passes, add up to the intents it passes. -/
theorem sum_countSamples (p : CountLabels → Bool) (intents : List SelectedIntent) :
    (((countSamples intents).rows.filter fun sample => p sample.labels).map CountSample.count).sum =
      intents.countP fun intent => p intent.countLabels := by
  have ones : ((intents.filter fun intent => p intent.countLabels).map fun _ => 1).sum =
      intents.countP fun intent => p intent.countLabels := by
    rw [List.countP_eq_length_filter]
    simp
  rw [← ones]
  exact Table.sum_filter_groupInto (fun _ => rfl) CountSample.count (fun _ => 1) (fun _ _ _ => rfl) (fun _ => rfl) p intents

/-- The sample of a gateway and a currency: there if a captured or refunded intent has them, with its amounts added up. -/
theorem find_volumeSamples (A : Arithmetic) (intents : List SelectedIntent) (labels : VolumeLabels) :
    (volumeSamples A intents).find labels =
      let own := intents.filter fun intent => intent.status.isSuccess && intent.volumeLabels = labels
      if own = [] then none else some ⟨labels, A.sum (own.map fun intent => intent.amount.toNumber)⟩ := by
  have added : ∀ (own : List SelectedIntent) (sample : VolumeSample),
      own.foldl (fun sample intent => ({ sample with value := A.add sample.value intent.amount.toNumber } : VolumeSample)) sample =
        ⟨sample.labels, (own.map fun intent => intent.amount.toNumber).foldl A.add sample.value⟩ := by
    intro own
    induction own with
    | nil => exact fun sample => rfl
    | cons intent own ih => exact fun sample => by rw [List.foldl_cons, ih, List.map_cons, List.foldl_cons]
  have both : (intents.filter fun intent => intent.status.isSuccess).filter (fun intent => intent.volumeLabels = labels) =
      intents.filter fun intent => intent.status.isSuccess && intent.volumeLabels = labels := by
    rw [List.filter_filter]
    exact List.filter_congr fun intent _ => Bool.and_comm _ _
  refine (Table.find_groupInto_empty (fun _ => rfl) _ labels).trans ?_
  rw [both, added]
  rfl

/-- The value of a sample is a sum of stored amounts. -/
theorem volumeSamples_sum (A : Arithmetic) (intents : List SelectedIntent) :
    ∀ sample ∈ (volumeSamples A intents).rows, ∃ own : List SelectedIntent,
      sample.value = A.sum (own.map fun intent => intent.amount.toNumber) := by
  intro sample member
  have found := Table.find_mem member
  rw [find_volumeSamples] at found
  dsimp only at found
  split at found
  · cases found
  · exact ⟨_, (congrArg VolumeSample.value (Option.some.inj found)).symm⟩

theorem volumeSamples_decimal (A : Arithmetic) (intents : List SelectedIntent) :
    ∀ sample ∈ (volumeSamples A intents).rows, DecimalNumber sample.value := by
  intro sample member
  obtain ⟨own, same⟩ := volumeSamples_sum A intents sample member
  rw [same]
  refine A.sum_decimal fun x held => ?_
  obtain ⟨intent, _, rfl⟩ := List.mem_map.mp held
  exact intent.amount.toNumber_wholeCents.decimal

theorem volumeSamples_wholeCents (intents : List SelectedIntent) :
    ∀ sample ∈ (volumeSamples .exact intents).rows, WholeCents sample.value := by
  intro sample member
  obtain ⟨own, same⟩ := volumeSamples_sum .exact intents sample member
  rw [same, Arithmetic.exact_sum]
  refine WholeCents.sum fun x held => ?_
  obtain ⟨intent, _, rfl⟩ := List.mem_map.mp held
  exact intent.amount.toNumber_wholeCents

end PayBridge
