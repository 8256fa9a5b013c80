import PayBridge.MetricsSamples
import PayBridge.Numeric.Binary64
import PayBridge.System

namespace PayBridge
open Store Await Codec Exposition Numeric

def countName : List Char := "paybridge_payment_intents_total".toList

def volumeName : List Char := "paybridge_payment_volume_total".toList

def refundName : List Char := "paybridge_refunds_total".toList

def gatewayLabel : List Char := "gateway".toList

def statusLabel : List Char := "status".toList

def currencyLabel : List Char := "currency".toList

def CountSample.innerLabels (sample : CountSample) : List (List Char × List Char) :=
  [(gatewayLabel, sample.labels.gateway.text.toList), (statusLabel, sample.labels.status.text.toList)]

def VolumeSample.innerLabels (sample : VolumeSample) : List (List Char × List Char) :=
  [(gatewayLabel, sample.labels.gateway.text.toList)]

def CountSample.sample (sample : CountSample) : Sample Number :=
  ⟨countName, sample.innerLabels ++ [(currencyLabel, sample.labels.currency.toList)], .finite sample.count⟩

def VolumeSample.sample (sample : VolumeSample) : Sample Number :=
  ⟨volumeName, sample.innerLabels ++ [(currencyLabel, sample.labels.currency.toList)], .finite sample.value⟩

/-- The sample that the line of a volume is read as. -/
def VolumeSample.printed (A : Arithmetic) (sample : VolumeSample) : Sample Number :=
  ⟨volumeName, sample.innerLabels ++ [(currencyLabel, sample.labels.currency.toList)], .finite (fixed2 A sample.value)⟩

def RefundGroup.sample (group : RefundGroup) : Sample Number :=
  ⟨refundName, [(statusLabel, group.status.text.toList)], .finite group.count⟩

/-- The samples that the queries are aggregated to. -/
def Database.aggregated (db : Database) (A : Arithmetic) : List (Sample Number) :=
  (countSamples (db.intents.rows.map PaymentIntent.selected)).rows.map CountSample.sample ++
    ((volumeSamples A (db.intents.rows.map PaymentIntent.selected)).rows.map VolumeSample.sample ++
      db.groupRefunds.map RefundGroup.sample)

/-- The lines of a scrape that are about transactions. -/
def Database.transactionSection (db : Database) (A : Arithmetic) : List String :=
  intentLines A (db.intents.rows.map PaymentIntent.selected) ++ refundLines db.groupRefunds

def textOf (lines : List String) : List Char := linesText (lines.map String.toList)

/-- A sample with its value as the number that a decimal denotes. -/
def denoted (A : Arithmetic) (sample : Sample Number) : Sample Number :=
  match sample.value with
  | .finite x => { sample with value := .finite (A.nearest x) }
  | _ => sample

/-- The transaction section is read back as what was aggregated, in any order. -/
def Database.SectionRecovered (db : Database) (A : Arithmetic) : Prop :=
  ∃ samples, parse readNumber (textOf (db.transactionSection A)) = some samples ∧
    (samples.map (denoted A)).Perm ((db.aggregated A).map (denoted A))

/-- The amounts captured or refunded at a gateway in a currency, one row after the other. -/
def Database.capturedAmounts (db : Database) (gateway : GatewayProvider) (currency : String) : List ℚ :=
  (db.intents.rows.filter fun intent =>
    intent.status.isSuccess && (intent.gateway = gateway && intent.currency = currency)).map fun intent => intent.amount.toNumber

/-- The captured amounts of each gateway and currency, added up, come to the
number that the text of their sum with two places denotes. -/
def Database.VolumesInCents (db : Database) (A : Arithmetic) : Prop :=
  ∀ intent ∈ db.intents.rows, intent.status.isSuccess = true →
    let volume := A.sum (db.capturedAmounts intent.gateway intent.currency)
    A.nearest (fixed2 A volume) = A.nearest volume

theorem CountSample.line_text (sample : CountSample) :
    sample.line.toList = sampleText countName sample.innerLabels (currencyLabel, sample.labels.currency.toList)
      (numberText sample.count).toList := by
  unfold CountSample.line CountEntry.line CountLabels.text countKey sampleText sampleOpen labelsOpen labelOpen countName
    CountSample.innerLabels gatewayLabel statusLabel currencyLabel
  simp

theorem VolumeSample.line_text (A : Arithmetic) (sample : VolumeSample) :
    (sample.line A).toList = sampleText volumeName sample.innerLabels (currencyLabel, sample.labels.currency.toList)
      (toFixed2 A sample.value).toList := by
  unfold VolumeSample.line VolumeEntry.line VolumeLabels.text volKey sampleText sampleOpen labelsOpen labelOpen volumeName
    VolumeSample.innerLabels gatewayLabel currencyLabel
  simp

theorem RefundGroup.line_text (group : RefundGroup) :
    group.line.toList = sampleText refundName [] (statusLabel, group.status.text.toList)
      (numberText group.count).toList := by
  unfold RefundGroup.line sampleText sampleOpen labelsOpen labelOpen refundName statusLabel
  simp

theorem numeric_visible {c : Char} (numeric : isNumeric c = true) : isBlank c = false ∧ c ≠ '\n' ∧ c ≠ '"' := by
  refine ⟨Bool.eq_false_iff.mpr fun blank => ?_, ?_, ?_⟩
  · rcases blank_cases blank with rfl | rfl <;> cases numeric
  · rintro rfl
    cases numeric
  · rintro rfl
    cases numeric

theorem RefundStatus.text_plain (status : RefundStatus) : Plain status.text.toList := by
  cases status <;> simp [Plain, RefundStatus.text]

theorem names_valid : isName true countName = true ∧ isName true volumeName = true ∧ isName true refundName = true := by
  decide

theorem labels_valid :
    isName false gatewayLabel = true ∧ isName false statusLabel = true ∧ isName false currencyLabel = true := by decide

theorem CountSample.innerLabels_plain (sample : CountSample) : ∀ label ∈ sample.innerLabels, PlainLabel label := by
  obtain ⟨gateway, status, _⟩ := labels_valid
  refine List.forall_mem_cons.mpr ⟨⟨gateway, sample.labels.gateway.text_plain⟩, List.forall_mem_cons.mpr ⟨?_, ?_⟩⟩
  · exact ⟨status, sample.labels.status.text_plain⟩
  · exact fun _ none => absurd none List.not_mem_nil

theorem VolumeSample.innerLabels_plain (sample : VolumeSample) : ∀ label ∈ sample.innerLabels, PlainLabel label := by
  refine List.forall_mem_cons.mpr ⟨⟨labels_valid.1, sample.labels.gateway.text_plain⟩, ?_⟩
  exact fun _ none => absurd none List.not_mem_nil

/-- A sample whose value is printed as a number is one line, and is read back if its labels are plain. -/
theorem readLine_number {name last value : List Char} {labels : List (List Char × List Char)} {text : String} {x : ℚ}
    (named : isName true name = true) (plain : ∀ label ∈ labels, PlainLabel label) (lastNamed : isName false last = true)
    (valuePlain : Plain value) (read : readDecimal text.toList = some x) :
    '\n' ∉ sampleText name labels (last, value) text.toList ∧
      readLine readNumber (sampleText name labels (last, value) text.toList) =
        some [⟨name, labels ++ [(last, value)], .finite x⟩] := by
  have numeric := (readDecimal_numeric read).2
  exact readLine_text named plain lastNamed valuePlain (readNumber_decimal read)
    (fun c member => (numeric_visible (numeric c member)).1) fun feed => (numeric_visible (numeric _ feed)).2.1 rfl

theorem CountSample.line_read {sample : CountSample} (plain : Plain sample.labels.currency.toList) :
    '\n' ∉ sample.line.toList ∧ readLine readNumber sample.line.toList = some [sample.sample] := by
  rw [sample.line_text]
  exact readLine_number names_valid.1 sample.innerLabels_plain labels_valid.2.2 plain (numberText_read (.natCast sample.count))

theorem VolumeSample.line_read (A : Arithmetic) {sample : VolumeSample} (plain : Plain sample.labels.currency.toList)
    (decimal : DecimalNumber sample.value) :
    '\n' ∉ (sample.line A).toList ∧ readLine readNumber (sample.line A).toList = some [sample.printed A] := by
  rw [sample.line_text]
  exact readLine_number names_valid.2.1 sample.innerLabels_plain labels_valid.2.2 plain (toFixed2_read A decimal)

theorem RefundGroup.line_read (group : RefundGroup) :
    '\n' ∉ group.line.toList ∧ readLine readNumber group.line.toList = some [group.sample] := by
  rw [group.line_text]
  exact readLine_number names_valid.2.2 (fun _ none => absurd none List.not_mem_nil) labels_valid.2.1 group.status.text_plain
    (numberText_read (.natCast group.count))

/-- The lines of a text that are one sample each are read as these. -/
theorem read_lines {α : Type} {line : α → String} {sample : α → Sample Number} {l : List α}
    (read : ∀ x ∈ l, '\n' ∉ (line x).toList ∧ readLine readNumber (line x).toList = some [sample x]) :
    parse readNumber (textOf (l.map line)) = some (l.map sample) := by
  rw [textOf, parse_linesText, List.map_map]
  exact readLines_samples (fun x member => (read x member).1) fun x member => (read x member).2

/-- Parts of a text that are read, are read one after the other. -/
theorem read_append {lines more : List String} {samples others : List (Sample Number)}
    (first : parse readNumber (textOf lines) = some samples) (second : parse readNumber (textOf more) = some others) :
    parse readNumber (textOf (lines ++ more)) = some (samples ++ others) := by
  rw [textOf, parse_linesText] at first second ⊢
  rw [List.map_append, List.flatMap_append, readLines_append, first, second]
  rfl

theorem countHeader_read : parse readNumber (textOf countHeader) = some [] := by decide +kernel

theorem volumeHeader_read : parse readNumber (textOf volumeHeader) = some [] := by decide +kernel

theorem refundHeader_read : parse readNumber (textOf refundHeader) = some [] := by decide +kernel

theorem mem_countSamples (intents : List SelectedIntent) (labels : CountLabels) :
    (∃ sample ∈ (countSamples intents).rows, sample.labels = labels) ↔ ∃ intent ∈ intents, intent.countLabels = labels :=
  Table.mem_groupInto_empty (fun _ => rfl) intents labels

theorem mem_volumeSamples (A : Arithmetic) (intents : List SelectedIntent) (labels : VolumeLabels) :
    (∃ sample ∈ (volumeSamples A intents).rows, sample.labels = labels) ↔
      ∃ intent ∈ intents.filter fun intent => intent.status.isSuccess, intent.volumeLabels = labels :=
  Table.mem_groupInto_empty (fun _ => rfl) _ labels

/-- What holds of the currencies of all intents, holds of those of the samples. -/
theorem counted_currency {db : Database} {p : String → Prop} (all : ∀ intent ∈ db.intents.rows, p intent.currency)
    {sample : CountSample} (member : sample ∈ (countSamples (db.intents.rows.map PaymentIntent.selected)).rows) :
    p sample.labels.currency := by
  obtain ⟨selected, held, same⟩ := (mem_countSamples _ sample.labels).mp ⟨sample, member, rfl⟩
  obtain ⟨intent, stored, rfl⟩ := List.mem_map.mp held
  exact same ▸ all intent stored

theorem summed_currency {A : Arithmetic} {db : Database} {p : String → Prop} (all : ∀ intent ∈ db.intents.rows, p intent.currency)
    {sample : VolumeSample} (member : sample ∈ (volumeSamples A (db.intents.rows.map PaymentIntent.selected)).rows) :
    p sample.labels.currency := by
  obtain ⟨selected, held, same⟩ := (mem_volumeSamples A _ sample.labels).mp ⟨sample, member, rfl⟩
  obtain ⟨intent, stored, rfl⟩ := List.mem_map.mp (List.mem_filter.mp held).1
  exact same ▸ all intent stored

/-- Plain currencies are read back with what was counted for them, and with their volumes as they were printed. -/
theorem section_read (A : Arithmetic) {db : Database} (plain : ∀ intent ∈ db.intents.rows, Plain intent.currency.toList) :
    parse readNumber (textOf (db.transactionSection A)) =
      some ((countSamples (db.intents.rows.map PaymentIntent.selected)).rows.map CountSample.sample ++
        ((volumeSamples A (db.intents.rows.map PaymentIntent.selected)).rows.map (VolumeSample.printed A) ++
          db.groupRefunds.map RefundGroup.sample)) := by
  have counts := read_append countHeader_read (read_lines fun sample member =>
    CountSample.line_read (counted_currency (p := fun currency => Plain currency.toList) plain member))
  have volumes := read_append volumeHeader_read (read_lines fun sample member =>
    VolumeSample.line_read A (summed_currency (p := fun currency => Plain currency.toList) plain member)
      (volumeSamples_decimal A _ sample member))
  have refunds := read_append refundHeader_read (read_lines fun group (_ : group ∈ db.groupRefunds) => group.line_read)
  have whole := read_append (read_append counts volumes) refunds
  rw [Database.transactionSection, intentLines_samples, sampleLines, refundLines]
  simp only [List.nil_append, List.append_assoc] at whole ⊢
  exact whole

theorem denoted_labels (A : Arithmetic) (sample : Sample Number) :
    (denoted A sample).name = sample.name ∧ (denoted A sample).labels = sample.labels := by
  unfold denoted
  split <;> exact ⟨rfl, rfl⟩

theorem names_differ : countName ≠ volumeName ∧ countName ≠ refundName := by decide

/-- The count samples are the aggregated ones of their name. -/
theorem aggregated_count {A : Arithmetic} {db : Database} {sample : Sample Number}
    (member : denoted A sample ∈ (db.aggregated A).map (denoted A)) (named : sample.name = countName) :
    ∃ own ∈ (countSamples (db.intents.rows.map PaymentIntent.selected)).rows, own.sample.labels = sample.labels := by
  obtain ⟨other, inside, same⟩ := List.mem_map.mp member
  have name : other.name = countName :=
    (denoted_labels A other).1.symm.trans ((congrArg Sample.name same).trans ((denoted_labels A sample).1.trans named))
  have labels : other.labels = sample.labels :=
    (denoted_labels A other).2.symm.trans ((congrArg Sample.labels same).trans (denoted_labels A sample).2)
  rcases List.mem_append.mp inside with count | rest
  · obtain ⟨own, held, rfl⟩ := List.mem_map.mp count
    exact ⟨own, held, labels⟩
  · rcases List.mem_append.mp rest with volume | refund
    · obtain ⟨own, _, rfl⟩ := List.mem_map.mp volume
      exact absurd name.symm names_differ.1
    · obtain ⟨own, _, rfl⟩ := List.mem_map.mp refund
      exact absurd name.symm names_differ.2

/-- Two volumes under the same labels of their lines are one. -/
theorem volume_unique {A : Arithmetic} {intents : List SelectedIntent} {left right : VolumeSample}
    (inLeft : left ∈ (volumeSamples A intents).rows) (inRight : right ∈ (volumeSamples A intents).rows)
    (same : left.sample.labels = right.sample.labels) : left = right := by
  refine (volumeSamples A intents).row_unique inLeft inRight ?_
  obtain ⟨gateways, currencies⟩ := List.append_inj same rfl
  have gateway := GatewayProvider.text_inj (String.toList_inj.mp (Prod.mk.inj (List.cons.inj gateways).1).2)
  have currency := String.toList_inj.mp (Prod.mk.inj (List.cons.inj currencies).1).2
  show (⟨_, _⟩ : VolumeLabels) = ⟨_, _⟩
  rw [gateway, currency]

/-- A sample has the sum of the captured amounts of its labels. -/
theorem volume_captured {A : Arithmetic} {db : Database} {sample : VolumeSample}
    (member : sample ∈ (volumeSamples A (db.intents.rows.map PaymentIntent.selected)).rows) :
    sample.value = A.sum (db.capturedAmounts sample.labels.gateway sample.labels.currency) := by
  have found := Table.find_mem member
  rw [find_volumeSamples] at found
  obtain ⟨⟨gateway, currency⟩, value⟩ := sample
  dsimp only at found
  split at found
  · cases found
  · rw [← congrArg VolumeSample.value (Option.some.inj found), Database.capturedAmounts, List.filter_map, List.map_map]
    refine congrArg A.sum (congrArg _ (List.filter_congr fun intent _ => ?_))
    simp only [SelectedIntent.volumeLabels, PaymentIntent.selected, VolumeLabels.mk.injEq, Function.comp_apply, Bool.decide_and]
    rfl

theorem volumesInCents_iff {A : Arithmetic} {db : Database} : db.VolumesInCents A ↔
    ∀ sample ∈ (volumeSamples A (db.intents.rows.map PaymentIntent.selected)).rows,
      A.nearest (fixed2 A sample.value) = A.nearest sample.value := by
  constructor
  · intro cents sample member
    obtain ⟨selected, held, same⟩ := (mem_volumeSamples A _ sample.labels).mp ⟨sample, member, rfl⟩
    obtain ⟨inside, success⟩ := List.mem_filter.mp held
    obtain ⟨intent, stored, rfl⟩ := List.mem_map.mp inside
    rw [volume_captured member, ← same]
    exact cents intent stored success
  · intro cents intent stored success
    obtain ⟨sample, member, same⟩ := (mem_volumeSamples A _ intent.selected.volumeLabels).mpr
      ⟨intent.selected, List.mem_filter.mpr ⟨List.mem_map_of_mem stored, success⟩, rfl⟩
    have held := cents sample member
    rw [volume_captured member, same] at held
    exact held

/-- What is read of plain currencies is what was aggregated, if and only if the volumes are in whole cents. -/
theorem volumes_recovered (A : Arithmetic) {db : Database} (plain : ∀ intent ∈ db.intents.rows, Plain intent.currency.toList) :
    db.SectionRecovered A ↔ db.VolumesInCents A := by
  have reads := section_read A plain
  rw [volumesInCents_iff]
  constructor
  · rintro ⟨samples, read, perm⟩ sample member
    cases reads.symm.trans read
    simp only [Database.aggregated, List.map_append] at perm
    have volumes := (List.perm_append_right_iff _).mp ((List.perm_append_left_iff _).mp perm)
    have printed : denoted A (sample.printed A) ∈
        ((volumeSamples A (db.intents.rows.map PaymentIntent.selected)).rows.map (VolumeSample.printed A)).map (denoted A) :=
      List.mem_map_of_mem (List.mem_map_of_mem member)
    obtain ⟨_, inside, same⟩ := List.mem_map.mp (volumes.mem_iff.mp printed)
    obtain ⟨other, held, rfl⟩ := List.mem_map.mp inside
    obtain rfl := volume_unique member held (congrArg Sample.labels same).symm
    exact (Number.finite.inj (congrArg Sample.value same)).symm
  · intro cents
    refine ⟨_, reads, ?_⟩
    simp only [Database.aggregated, List.map_append, List.map_map]
    have same : (volumeSamples A (db.intents.rows.map PaymentIntent.selected)).rows.map (denoted A ∘ VolumeSample.printed A) =
        (volumeSamples A (db.intents.rows.map PaymentIntent.selected)).rows.map (denoted A ∘ VolumeSample.sample) := by
      refine List.map_congr_left fun sample member => ?_
      simp only [Function.comp_apply, denoted, VolumeSample.printed, VolumeSample.sample, cents sample member]
    rw [same]

/-- A currency of three characters that is read back from its line is plain. -/
theorem plain_of_recovered {A : Arithmetic} {db : Database} (three : ∀ intent ∈ db.intents.rows, intent.currency.length = 3)
    (recovered : db.SectionRecovered A) : ∀ intent ∈ db.intents.rows, Plain intent.currency.toList := by
  intro intent stored
  obtain ⟨samples, read, perm⟩ := recovered
  obtain ⟨own, counted, labelled⟩ := (mem_countSamples (db.intents.rows.map PaymentIntent.selected) intent.selected.countLabels).mpr
    ⟨intent.selected, List.mem_map_of_mem stored, rfl⟩
  -- The first piece of the line of this currency, as far as it goes.
  obtain ⟨first, after, piece, cut⟩ := sampleText_first names_valid.1 own.innerLabels_plain labels_valid.2.2
    own.labels.currency.toList (numberText own.count).toList
  rw [← own.line_text] at piece
  have line : own.line.toList ∈ (db.transactionSection A).map String.toList := by
    refine List.mem_map_of_mem (List.mem_append_left _ ?_)
    rw [intentLines_samples]
    exact List.mem_append_left _ (List.mem_append_right _ (List.mem_map_of_mem counted))
  rw [textOf, parse_linesText] at read
  obtain ⟨now, held, among⟩ := readLines_mem read (List.mem_flatMap.mpr ⟨_, line, piece⟩)
  obtain ⟨sample, alone, value, rest, more, quoted, named, labels⟩ :=
    readLine_last names_valid.1 own.innerLabels_plain labels_valid.2.2 held
  -- What is read from it is one of the aggregated counts, so it has three characters for a currency.
  obtain ⟨other, there, same⟩ := aggregated_count (perm.mem_iff.mp (List.mem_map_of_mem (among sample alone))) named
  have read_currency : value = other.labels.currency.toList := by
    have both := labels.symm.trans same.symm
    exact (Prod.mk.inj (List.cons.inj (List.append_inj both rfl).2).1).2
  have size := counted_currency (p := fun currency => currency.length = 3) three there
  have own_size := counted_currency (p := fun currency => currency.length = 3) three counted
  rw [← String.length_toList] at size own_size
  have unquoted : '"' ∉ '}' :: ' ' :: (numberText own.count).toList := by
    have numeric := (readDecimal_numeric (numberText_read (.natCast own.count))).2
    intro quote
    simp only [List.mem_cons, Char.reduceEq, false_or] at quote
    exact (numeric_visible (numeric _ quote)).2.2 rfl
  have plain := plain_of_readQuoted unquoted cut quoted (by rw [read_currency, size, own_size])
  rw [labelled] at plain
  exact plain

/-- A text of lines with line feeds between and at the end. -/
theorem intercalate_text {lines : List String} (some_line : lines ≠ []) :
    ("\n".intercalate lines ++ "\n").toList = textOf lines := by
  obtain ⟨line, lines, rfl⟩ := List.exists_cons_of_ne_nil some_line
  clear some_line
  induction lines generalizing line with
  | nil => simp [textOf, linesText]
  | cons next lines ih =>
    have rest := ih next
    have first : textOf (line :: next :: lines) = line.toList ++ '\n' :: textOf (next :: lines) := by simp [textOf, linesText]
    rw [first, ← rest, String.intercalate_cons_cons, String.append_assoc, String.toList_append]
    simp

theorem textOf_append (lines more : List String) : textOf (lines ++ more) = textOf lines ++ textOf more := by
  simp only [textOf, linesText, List.map_append, List.flatMap_append]

/-- One line that is not read spoils the text. -/
theorem unread_line {lines : List String} {line : String} (member : line ∈ lines) (single : '\n' ∉ line.toList)
    (unread : readLine readNumber line.toList = none) : parse readNumber (textOf lines) = none := by
  have alone : line.toList ∈ line.toList.splitOn '\n' := by
    rw [List.splitOn_eq_singleton single]
    exact List.mem_singleton_self _
  rw [textOf, parse_linesText]
  refine Option.eq_none_iff_forall_ne_some.mpr fun samples read => ?_
  obtain ⟨now, held, _⟩ := readLines_mem read (List.mem_flatMap.mpr ⟨_, List.mem_map_of_mem member, alone⟩)
  rw [unread] at held
  cases held

section
variable (A : Arithmetic) (O : Opossum) (circuitBreaker : CircuitBreakerService) (now : Timestamp) (uptime : ℚ) (heapUsed : Nat)

/-- A scrape ends with its transaction section. -/
theorem scrape_text {env : Nat → MetricsOp → MetricsEnv} (calm : ∀ n op, (env n op).fails = false) (db : Database) :
    ∃ text, scrape A O circuitBreaker now uptime heapUsed env db = .ok text ∧
      text.toList = textOf (processLines A uptime heapUsed (circuitBreaker.getAllBreakersStatus O now)) ++
        textOf (db.transactionSection A) := by
  have some_line : processLines A uptime heapUsed (circuitBreaker.getAllBreakersStatus O now) ≠ [] := List.cons_ne_nil _ _
  refine ⟨_, scrape_answered A O circuitBreaker now uptime heapUsed (calm 0 _) db, ?_⟩
  rw [if_neg (by rw [calm]; exact Bool.false_ne_true), intercalate_text (List.append_ne_nil_of_left_ne_nil some_line _),
    textOf_append]
  rfl

/-- The transaction section of a scrape is read back as what was aggregated, if
and only if no currency needs an escape and the volumes are in whole cents. -/
theorem section_recovered_iff {env : Nat → MetricsOp → MetricsEnv} (calm : ∀ n op, (env n op).fails = false) (db : Database)
    (three : ∀ intent ∈ db.intents.rows, intent.currency.length = 3) :
    ∃ text, scrape A O circuitBreaker now uptime heapUsed env db = .ok text ∧
      text.toList = textOf (processLines A uptime heapUsed (circuitBreaker.getAllBreakersStatus O now)) ++
        textOf (db.transactionSection A) ∧
      (db.SectionRecovered A ↔ (∀ intent ∈ db.intents.rows, Plain intent.currency.toList) ∧ db.VolumesInCents A) := by
  obtain ⟨text, scraped, chars⟩ := scrape_text A O circuitBreaker now uptime heapUsed calm db
  refine ⟨text, scraped, chars, fun recovered => ?_, fun ⟨plain, cents⟩ => (volumes_recovered A plain).mpr cents⟩
  have plain := plain_of_recovered three recovered
  exact ⟨plain, (volumes_recovered A plain).mp recovered⟩

end

/-- The breakers of a process that has just started. -/
def freshBreakers : Opossum := ⟨fun _ _ _ => true, fun _ _ _ => false, fun _ _ _ => false⟩

/-- With 100.00 captured at one gateway, added up in doubles. -/
theorem section_recovered_sample : (sampleDatabase .captured).SectionRecovered binary64 := by
  obtain ⟨_, _, _, recovered⟩ := section_recovered_iff binary64 freshBreakers .new 0 (217 / 20) 52428800
    (fun (_ : Nat) (_ : MetricsOp) => (rfl : (MetricsEnv.mk false "").fails = false)) (sampleDatabase .captured) fun intent member => by
      rw [List.mem_singleton.mp member]
      rfl
  refine recovered.mpr ⟨fun intent member => ?_, fun intent member _ => ?_⟩
  · rw [List.mem_singleton.mp member]
    simp [Plain, sampleIntent]
  · rw [List.mem_singleton.mp member]
    decide +kernel

/-- An intent in a currency with a quote in it. -/
def quotedDatabase : Database := singleIntent { sampleIntent .captured with currency := "U\"D" } rfl

/-- With it a scrape is not read at all. -/
theorem quoted_currency_unread :
    (∀ intent ∈ quotedDatabase.intents.rows, intent.currency.length = 3) ∧ ¬ quotedDatabase.SectionRecovered binary64 ∧
      ∃ text, scrape binary64 freshBreakers .new 0 (217 / 20) 52428800 (fun _ _ => ⟨false, ""⟩) quotedDatabase = .ok text ∧
        parse readNumber text.toList = none := by
  let sample : CountSample := ⟨⟨.stripe, .captured, "U\"D"⟩, 1⟩
  have single : '\n' ∉ sample.line.toList := by decide +kernel
  have unread : readLine readNumber sample.line.toList = none := by decide +kernel
  have printed : sample.line ∈ quotedDatabase.transactionSection binary64 := by
    refine List.mem_append_left _ ?_
    rw [intentLines_samples]
    exact List.mem_append_left _ (List.mem_append_right _ (List.mem_map_of_mem (List.mem_singleton_self sample)))
  obtain ⟨text, scraped, chars⟩ := scrape_text binary64 freshBreakers .new 0 (217 / 20) 52428800
    (fun (_ : Nat) (_ : MetricsOp) => (rfl : (MetricsEnv.mk false "").fails = false)) quotedDatabase
  refine ⟨by decide, fun ⟨samples, read, _⟩ => ?_, text, scraped, ?_⟩
  · rw [unread_line printed single unread] at read
    cases read
  · rw [chars, ← textOf_append]
    exact unread_line (List.mem_append_right _ printed) single unread

end PayBridge
