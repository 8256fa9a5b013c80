import PayBridge.System

namespace PayBridge
open Store Await

/-- Whether an intent has a payment at its gateway. -/
def PaymentIntent.known (intent : PaymentIntent) : Bool := (intent.gatewayPaymentId.filter (· ≠ "")).isSome

/-- An intent whose outcome has been decided: paid, or failed at its gateway.
One that was only given up for want of a payment is still undecided. -/
def Decided (intent : PaymentIntent) : Prop :=
  intent.status = .captured ∨ intent.status = .refunded ∨ intent.status = .failed ∧ intent.known = true

instance (intent : PaymentIntent) : Decidable (Decided intent) := by
  unfold Decided
  infer_instance

/-- The payment an intent has at its gateway, as the table holds it. -/
def Database.gatewayPaymentOf (db : Database) (id : Uuid) : Option (Option String) :=
  (db.intents.find id).map fun intent => intent.gatewayPaymentId

theorem gatewayPaymentOf_eq (db : Database) (id : Uuid) :
    db.gatewayPaymentOf id = (db.paymentOf id).map PaymentIntent.gatewayPaymentId := by
  rw [Database.gatewayPaymentOf, Database.paymentOf, Option.map_map]
  rfl

/-- No operation of the service changes an intent's payment at its gateway. -/
theorem performed_gatewayPaymentOf {P : Platform} {env : Env} {op : Op} {answer : op.Answer} {before after : World}
    (did : Performed P env before op answer after) (id : Uuid) :
    after.db.gatewayPaymentOf id = before.db.gatewayPaymentOf id := by
  rw [gatewayPaymentOf_eq, gatewayPaymentOf_eq, performed_paymentOf did]

/-- The rows a request is shown agree with the table it started from on the
payment at the gateway, and an update shows the row it was asked for. -/
def Shown (db : Database) : (op : Op) × op.Answer → Prop
  | ⟨.query (.findStaleIntents _), .ok rows⟩ =>
    ∀ row ∈ rows, db.gatewayPaymentOf row.id = some row.gatewayPaymentId
  | ⟨.query (.updateIntent id _), .ok row⟩ => row.id = id ∧ db.gatewayPaymentOf id = some row.gatewayPaymentId
  | _ => True

theorem performed_shown {P : Platform} {env : Env} {op : Op} {answer : op.Answer} {before after : World}
    (did : Performed P env before op answer after) : Shown before.db ⟨op, answer⟩ := by
  cases did with
  | readStale =>
    intro row member
    have stored := List.mem_of_mem_filter member
    simp only [Database.gatewayPaymentOf, Table.find_mem stored, Option.map_some]
  | @updated id status intent spared found =>
    have key : intent.id = id := Table.find_key found
    refine ⟨key, ?_⟩
    simp only [Database.gatewayPaymentOf, found, Option.map_some]
  | @refused q cause why => cases q <;> trivial
  | _ => trivial

theorem Shown.of_same {db db' : Database} (same : ∀ id, db'.gatewayPaymentOf id = db.gatewayPaymentOf id)
    {entry : (op : Op) × op.Answer} (shown : Shown db' entry) : Shown db entry := by
  unfold Shown at shown ⊢
  split
  · next cutoff rows =>
    intro row member
    rw [← same]
    exact shown row member
  · next id status row =>
    refine ⟨shown.1, ?_⟩
    rw [← same]
    exact shown.2
  · trivial

theorem shown_run {P : Platform} {meets : Service → Step → Prop} {world : World} {s : Service}
    (reach : Reach (payments P) meets world s) :
    (∀ id, s.world.db.gatewayPaymentOf id = world.db.gatewayPaymentOf id) ∧
      ∀ i entry, (i, entry) ∈ s.log → Shown world.db entry := by
  induction reach using service_steps with
  | initial => exact ⟨fun _ => rfl, fun _ _ impossible => by cases impossible⟩
  | spawn s request _ _ ih _ => exact ih
  | advance s i env request op next answer w _ _ _ _ did ih _ =>
    refine ⟨fun id => (performed_gatewayPaymentOf did id).trans (ih.1 id), ?_⟩
    intro j entry member
    rcases List.mem_cons.mp member with same | old
    · cases same
      exact (performed_shown did).of_same ih.1
    · exact ih.2 j entry old

/-- Whether a notification tells the outcome of an intent. -/
def tellsOutcome (id : Uuid) (event : OutboundEventType) (data : PaymentIntentData) : Bool :=
  (event = .paymentSucceeded || event = .paymentFailed) && data.id = id

theorem tellsOutcome_iff {id : Uuid} {event : OutboundEventType} {data : PaymentIntentData} :
    tellsOutcome id event data = true ↔ (event = .paymentSucceeded ∨ event = .paymentFailed) ∧ data.id = id := by
  simp [tellsOutcome]

/-- Whether an entry of the log is a write that decides an intent. -/
def decides (id : Uuid) : (op : Op) × op.Answer → Bool
  | ⟨.query (.recordEvent _ _ _), .ok row⟩ => row.id = id
  | ⟨.query (.updateIntent _ _), .ok row⟩ => row.id = id && row.known
  | _ => false

theorem decides_iff {id : Uuid} {entry : (op : Op) × op.Answer} : decides id entry = true ↔
    (∃ paymentIntentId providerEventId payload row,
      entry = ⟨.query (.recordEvent paymentIntentId providerEventId payload), .ok row⟩ ∧ row.id = id) ∨
    ∃ asked status row, entry = ⟨.query (.updateIntent asked status), .ok row⟩ ∧ row.id = id ∧ row.known = true := by
  constructor
  · intro yes
    unfold decides at yes
    split at yes
    · next paymentIntentId providerEventId payload row =>
      exact Or.inl ⟨paymentIntentId, providerEventId, payload, row, rfl, by simpa using yes⟩
    · next asked status row =>
      have both : row.id = id ∧ row.known = true := by simpa using yes
      exact Or.inr ⟨asked, status, row, rfl, both.1, both.2⟩
    · cases yes
  · rintro (⟨paymentIntentId, providerEventId, payload, row, rfl, same⟩ | ⟨asked, status, row, rfl, same, known⟩)
    · simp [decides, same]
    · simp [decides, same, known]

/-- What a status write leaves of an intent that was undecided before. -/
theorem decided_set {db db' : Database} {id j : Uuid} {status : PaymentStatus} {intent : PaymentIntent}
    (found : db.intents.find id = some intent) (set : db'.intents = (db.setStatus id status).intents)
    (undecided : ¬ Decided intent) (before : ∃ old, db.intents.find j = some old ∧ Decided old) :
    ∃ row, db'.intents.find j = some row ∧ Decided row := by
  obtain ⟨old, stood, decided⟩ := before
  have other : j ≠ id := by
    rintro rfl
    cases found.symm.trans stood
    exact undecided decided
  refine ⟨old, ?_, decided⟩
  rw [set, Database.setStatus_find, if_neg other]
  exact stood

/-- An operation that passes the condition and decides an intent finds it
undecided and leaves it decided; any other leaves a decided intent decided. -/
theorem performed_decides {P : Platform} {env : Env} {request : Request} {seen : History Op.Answer} {op : Op}
    {answer : op.Answer} {before after : World} (course : Course P request seen op)
    (did : Performed P env before op answer after)
    (only : ∀ q intent status, op = .query q → env.fails = false → Writes P before.db q intent status → ¬ Decided intent)
    (id : Uuid) :
    (decides id ⟨op, answer⟩ = true → (∀ old, before.db.intents.find id = some old → ¬ Decided old) ∧
      ∃ row, after.db.intents.find id = some row ∧ Decided row) ∧
    ((∃ old, before.db.intents.find id = some old ∧ Decided old) →
      ∃ row, after.db.intents.find id = some row ∧ Decided row) := by
  cases did with
  | @updated asked status intent spared found =>
    have undecided := only _ intent status rfl spared (.update found)
    refine ⟨?_, fun held => decided_set found rfl undecided held⟩
    intro yes
    have key : intent.id = asked := Table.find_key found
    have both : intent.id = id ∧ intent.known = true := by simpa [decides, PaymentIntent.known] using yes
    have same : asked = id := key.symm.trans both.1
    subst same
    refine ⟨fun old stood => ?_, { intent with status }, ?_, ?_⟩
    · cases found.symm.trans stood
      exact undecided
    · rw [Database.setStatus_find, if_pos rfl, found]
      rfl
    · rcases course.sets with rfl | rfl
      · exact Or.inl rfl
      · exact Or.inr (Or.inr ⟨rfl, both.2⟩)
  | @recorded idText text payload asked intent db spared named found fresh intents rows refunds =>
    have undecided := only _ intent .captured rfl spared (.event named found fresh)
    refine ⟨?_, fun held => decided_set found intents undecided held⟩
    intro yes
    have key : intent.id = asked := Table.find_key found
    have mine : intent.id = id := by simpa [decides] using yes
    have same : asked = id := key.symm.trans mine
    subst same
    refine ⟨fun old stood => ?_, { intent with status := .captured }, ?_, Or.inl rfl⟩
    · cases found.symm.trans stood
      exact undecided
    · simp only [intents, Database.setStatus_find, if_pos, found, Option.map_some]
  | @refunded data markRefunded amount intent row db spared stored rowIs found rows events intents =>
    refine ⟨(fun impossible => by cases impossible), ?_⟩
    rintro ⟨old, stood, decided⟩
    cases markRefunded with
    | false => exact ⟨old, by rw [show db.intents = before.db.intents from intents]; exact stood, decided⟩
    | true =>
      by_cases same : id = data.paymentIntentId
      · subst same
        refine ⟨{ old with status := .refunded }, ?_, Or.inr (Or.inl rfl)⟩
        simp only [intents, if_true, Database.setStatus_find, stood, Option.map_some]
      · refine ⟨old, ?_, decided⟩
        simp only [intents, if_true, Database.setStatus_find, if_neg same]
        exact stood
  | @refused q cause why => exact ⟨(fun impossible => by cases q <;> cases impossible), fun held => held⟩
  | _ => exact ⟨(fun impossible => by cases impossible), fun held => held⟩

/-- Under the condition an intent is decided at most once. -/
theorem decide_once {P : Platform} {world : World} {s : Service}
    (reach : Reach (payments P) (WritesOnly P fun intent _ => ¬ Decided intent) world s) (id : Uuid) :
    (s.log.countP fun entry => decides id entry.2) ≤ 1 ∧
      ((s.log.countP fun entry => decides id entry.2) = 1 →
        ∃ row, s.world.db.intents.find id = some row ∧ Decided row) := by
  induction reach using service_steps with
  | initial => exact ⟨Nat.zero_le _, fun impossible => by cases impossible⟩
  | spawn s request _ _ ih _ => exact ih
  | advance s i env request op next answer w _ met stands course did ih _ =>
    obtain ⟨once, decided⟩ := ih
    have only : ∀ q intent status, op = .query q → env.fails = false → Writes P s.world.db q intent status →
        ¬ Decided intent := by
      rintro q intent status rfl spared writes
      exact met _ q intent status stands rfl spared writes
    obtain ⟨deciding, keeping⟩ := performed_decides course did only id
    by_cases yes : decides id ⟨op, answer⟩ = true
    · obtain ⟨undecided, after⟩ := deciding yes
      have none : (s.log.countP fun entry => decides id entry.2) ≠ 1 := by
        intro one
        obtain ⟨row, found, held⟩ := decided one
        exact undecided row found held
      simp only [List.countP_cons, yes, if_true]
      exact ⟨by omega, fun _ => after⟩
    · simp only [List.countP_cons, yes, Bool.false_eq_true, if_false]
      exact ⟨once, fun one => keeping (decided one)⟩

/-- Whether an entry of the log tells the outcome of an intent. -/
def tells (id : Uuid) : (op : Op) × op.Answer → Bool := sentAs (tellsOutcome id)

/-- After a deciding write there is room for one notice more. -/
theorem told_after_write {id : Uuid} {write : (op : Op) × op.Answer} {older earlier : History Op.Answer}
    (looked : LookedUp (write :: older) earlier) (decided : decides id write = true) (quiet : tells id write = false)
    (before : older.countP (tells id) ≤ older.countP (decides id)) :
    earlier.countP (tells id) + 1 ≤ earlier.countP (decides id) := by
  have told : earlier.countP (tells id) = older.countP (tells id) := by
    rw [looked.countP_eq fun _ _ => rfl, List.countP_cons_of_neg (by simp [quiet])]
  have written : earlier.countP (decides id) = older.countP (decides id) + 1 := by
    rw [looked.countP_eq fun _ _ => rfl, List.countP_cons_of_pos decided]
  omega

theorem LookedUp.older {write : (op : Op) × op.Answer} {older earlier : History Op.Answer}
    (looked : LookedUp (write :: older) earlier) : older <:+ earlier ∧ write ∈ earlier := by
  rcases looked with rfl | ⟨id, answer, rfl⟩
  · exact ⟨List.suffix_cons write older, List.mem_cons_self ..⟩
  · exact ⟨(List.suffix_cons write older).trans (List.suffix_cons _ _), List.mem_cons_of_mem _ (List.mem_cons_self ..)⟩

/-- A request that is about to tell an outcome has decided it just before. -/
theorem Course.told {P : Platform} {request : Request} {db : Database} {id : Uuid} {event : OutboundEventType}
    {data : PaymentIntentData} {url secret : String} {earlier : History Op.Answer}
    (course : Course P request earlier (.enqueue event data url secret)) (tell : tellsOutcome id event data = true)
    (shown : ∀ entry ∈ earlier, Shown db entry) :
    ∃ write older, LookedUp (write :: older) earlier ∧ decides id write = true ∧ tells id write = false := by
  cases request with
  | webhook d =>
    cases course with
    | @notify inbound row _ _ _ passed looked =>
      have mine : row.id = id := (tellsOutcome_iff.mp tell).2
      exact ⟨_, [], looked, decides_iff.mpr (Or.inl ⟨_, _, _, row, rfl, mine⟩), rfl⟩
  | reconcile =>
    cases course with
    | @notify older _ intent row status _ _ scanned known settles looked =>
      have mine : row.id = id := (tellsOutcome_iff.mp tell).2
      obtain ⟨inside, wrote⟩ := looked.older
      obtain ⟨cutoff, staleIntents, scan, listed⟩ := scanned
      have rowShown : row.id = intent.id ∧ db.gatewayPaymentOf intent.id = some row.gatewayPaymentId := shown _ wrote
      have scanShown : db.gatewayPaymentOf intent.id = some intent.gatewayPaymentId :=
        shown _ (inside.subset scan) intent listed
      have same : row.gatewayPaymentId = intent.gatewayPaymentId :=
        Option.some.inj (rowShown.2.symm.trans scanShown)
      have rowKnown : row.known = true := by
        unfold PaymentIntent.known
        rw [same]
        exact known
      exact ⟨_, older, looked, decides_iff.mpr (Or.inr ⟨_, _, row, rfl, mine, rowKnown⟩), rfl⟩
  | refund paymentIntentId dto merchantId =>
    cases course with
    | report _ shape =>
      rcases shape with ⟨_, impossible⟩ | ⟨_, _, same⟩
      · cases impossible
      · cases same
        rcases (tellsOutcome_iff.mp tell).1 with impossible | impossible <;> cases impossible

/-- A request tells no more outcomes of an intent than it has decided. -/
theorem told_le_decided {P : Platform} {request : Request} {db : Database} {seen : History Op.Answer} (id : Uuid)
    (follows : Follows (Course P request) seen) (shown : ∀ entry ∈ seen, Shown db entry) :
    seen.countP (tells id) ≤ seen.countP (decides id) := by
  refine follows.count_le fun entry earlier inside asked _ shorter => ?_
  have before := shorter earlier (List.suffix_refl earlier)
  have grows : earlier.countP (decides id) ≤ List.countP (decides id) (entry :: earlier) := by
    rw [List.countP_cons]
    omega
  by_cases tell : tells id entry = true
  · obtain ⟨op, answer⟩ := entry
    have below : ∀ e ∈ earlier, Shown db e := fun e member => shown e (inside.subset (List.mem_cons_of_mem _ member))
    cases op with
    | enqueue event data url secret =>
      have outcome : tellsOutcome id event data = true := by
        cases answer with
        | error err => cases tell
        | ok sent => exact tell
      obtain ⟨write, older, looked, decided, quiet⟩ := asked.told outcome below
      have room := told_after_write looked decided quiet (shorter older looked.older.1)
      rw [List.countP_cons_of_pos tell]
      omega
    | _ => cases tell
  · rw [List.countP_cons_of_neg tell]
    omega

/-- The notices of one kind about an intent in the queue. -/
def notices (w : World) (id : Uuid) (event : OutboundEventType) : Nat :=
  w.queue.countP fun job => job.payload.event = event && job.payload.data.id = id

theorem notices_sum (w : World) (id : Uuid) : notices w id .paymentSucceeded + notices w id .paymentFailed =
    w.queue.countP fun job => tellsOutcome id job.payload.event job.payload.data := by
  unfold notices
  induction w.queue with
  | nil => rfl
  | cons job rest ih =>
    have one : (if (job.payload.event = .paymentSucceeded && job.payload.data.id = id) = true then 1 else 0) +
        (if (job.payload.event = .paymentFailed && job.payload.data.id = id) = true then 1 else 0) =
          if tellsOutcome id job.payload.event job.payload.data = true then 1 else 0 := by
      by_cases mine : job.payload.data.id = id
      · cases kind : job.payload.event <;> simp [tellsOutcome, mine]
      · simp [tellsOutcome, mine]
    simp only [List.countP_cons]
    omega

/-- While every write of a webhook or of reconciliation finds its intent
undecided, one outcome at most is told of every intent. -/
theorem notice_once {P : Platform} {db : Database} {s : Service}
    (reach : Reach (payments P) (WritesOnly P fun intent _ => ¬ Decided intent) ⟨db, []⟩ s) (id : Uuid) :
    notices s.world id .paymentSucceeded ≤ 1 ∧
      ¬ (0 < notices s.world id .paymentSucceeded ∧ 0 < notices s.world id .paymentFailed) := by
  have shown := (shown_run reach).2
  have each : ∀ i, (own i s.log).countP (tells id) ≤ (own i s.log).countP (decides id) := by
    intro i
    cases atI : s.threads[i]? with
    | none =>
      have empty : own i s.log = [] := by
        refine List.eq_nil_iff_forall_not_mem.mpr fun entry member => ?_
        have inside := reach.log_thread (mem_own.mp member)
        have outside := List.getElem?_eq_none_iff.mp atI
        omega
      rw [empty]
      simp
    | some t =>
      exact told_le_decided id (reach.follows (payments_course P) atI) fun entry member =>
        shown i entry (mem_own.mp member)
  have total := countP_log_le (fun _ => tells id) (fun _ => decides id) s.log each
  have counted := queue_count (tellsOutcome id) reach
  have once := (decide_once reach id).1
  have sum := notices_sum s.world id
  simp only [List.countP_nil, tells] at counted total
  omega

/-- A webhook, the same one delivered again, and a reconciliation between them and the end. -/
def toldAgain : List Step :=
  [.spawn (.webhook (sampleDelivery "evt_1" (sampleIntent .pending).id.text)), .spawn .reconcile] ++
    List.replicate 3 (.advance 0 calmEnv) ++
    .spawn (.webhook (sampleDelivery "evt_1" (sampleIntent .pending).id.text)) :: List.replicate 3 (.advance 2 calmEnv) ++
    List.replicate 6 (.advance 1 calmEnv)

/-- A webhook that is delivered twice, with a reconciliation beside it, tells its outcome once. -/
theorem notice_once_sample :
    let s : Service := (Pool.initial ⟨sampleDatabase .pending, []⟩).run (payments plainPlatform) toldAgain
    s.threads.length = 3 ∧ (∀ t ∈ s.threads, t.prog.result.isSome) ∧
      notices s.world (sampleIntent .pending).id .paymentSucceeded = 1 ∧
      ¬ (0 < notices s.world (sampleIntent .pending).id .paymentSucceeded ∧
        0 < notices s.world (sampleIntent .pending).id .paymentFailed) := by
  intro s
  have reach : Reach (payments plainPlatform) (WritesOnly plainPlatform fun intent _ => ¬ Decided intent)
      ⟨sampleDatabase .pending, []⟩ s := .run .start (by decide +kernel)
  have each : s.threads.all (fun t => t.prog.result.isSome) = true := by decide +kernel
  exact ⟨by decide +kernel, List.all_eq_true.mp each, by decide +kernel, (notice_once reach (sampleIntent .pending).id).2⟩

/-- Two events of one payment are told as two payments. -/
theorem two_events_two_notices :
    ¬ ∀ (P : Platform) (db : Database) (s : Service), Reach (payments P) (fun _ _ => True) ⟨db, []⟩ s →
      ∀ id, notices s.world id .paymentSucceeded ≤ 1 ∧
        ¬ (0 < notices s.world id .paymentSucceeded ∧ 0 < notices s.world id .paymentFailed) := by
  intro always
  let s : Service := (Pool.initial ⟨sampleDatabase .pending, []⟩).run (payments plainPlatform)
    [.spawn (.webhook (sampleDelivery "evt_1" (sampleIntent .pending).id.text)),
      .advance 0 calmEnv, .advance 0 calmEnv, .advance 0 calmEnv,
      .spawn (.webhook (sampleDelivery "evt_2" (sampleIntent .pending).id.text)),
      .advance 1 calmEnv, .advance 1 calmEnv, .advance 1 calmEnv]
  have reach : Reach (payments plainPlatform) (fun _ _ => True) ⟨sampleDatabase .pending, []⟩ s :=
    Reach.run_free _ .start
  have twice : notices s.world (sampleIntent .pending).id .paymentSucceeded = 2 := by decide +kernel
  have once := (always plainPlatform (sampleDatabase .pending) s reach (sampleIntent .pending).id).1
  omega

end PayBridge
