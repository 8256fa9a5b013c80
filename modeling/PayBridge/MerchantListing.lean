import Mathlib.Data.Rat.Floor
import PayBridge.Arrange.Pages
import PayBridge.Await.Played
import PayBridge.System

namespace PayBridge
open Store Await Arrange

/-- How a query orders merchants by `createdAt`, the newest first. Those of one
time come in any order. -/
structure NewestFirst where
  arrange : List Merchant → List Merchant
  arranged : ∀ rows, Arrangement Merchant.createdAt rows (arrange rows)

/-- The selected columns of a merchant, with the number of its intents. -/
structure MerchantEntry where
  id : Uuid
  name : String
  email : String
  isActive : Bool
  createdAt : Timestamp
  paymentIntents : Nat
  deriving DecidableEq

def Database.merchantEntry (db : Database) (merchant : Merchant) : MerchantEntry :=
  ⟨merchant.id, merchant.name, merchant.email, merchant.isActive, merchant.createdAt,
    db.intents.rows.countP fun intent => intent.merchantId = merchant.id⟩

/-- `merchant.findMany` by `createdAt`, the newest first. It takes no negative
`skip` and no `NaN`; a negative `take` counts from the other end. -/
def Database.findMerchants (db : Database) (order : NewestFirst) (skip take : Option Int) :
    Except DbError (List MerchantEntry) :=
  match skip, take with
  | some skip, some take =>
    if skip < 0 then .error .invalidArgument
    else
      let rows := order.arrange db.merchants.rows
      let window :=
        if take < 0 then ((rows.reverse.drop skip.toNat).take take.natAbs).reverse
        else (rows.drop skip.toNat).take take.toNat
      .ok (window.map db.merchantEntry)
  | _, _ => .error .invalidArgument

inductive MerchantListOp
  | findMany (skip take : Option Int)
  | count

abbrev MerchantListOp.Answer : MerchantListOp → Type
  | .findMany _ _ => Except JsError (List MerchantEntry)
  | .count => Except JsError Nat

/-- What a query of a listing meets. -/
structure MerchantListEnv where
  fails : Bool
  message : String
  order : NewestFirst

def performListing (env : MerchantListEnv) : (op : MerchantListOp) → Database → op.Answer × Database
  | .findMany skip take, db =>
    if env.fails then (.error (DbError.unavailable.thrown env.message), db)
    else match db.findMerchants env.order skip take with
      | .ok merchants => (.ok merchants, db)
      | .error err => (.error (err.thrown env.message), db)
  | .count, db =>
    if env.fails then (.error (DbError.unavailable.thrown env.message), db) else (.ok db.merchants.rows.length, db)

/-- The numbers beside a page; none is one that is not finite. -/
structure ListMeta where
  total : Nat
  page : Option Int
  limit : Option Int
  totalPages : Option Int
  deriving DecidableEq

structure MerchantList where
  data : List MerchantEntry
  metadata : ListMeta
  deriving DecidableEq

/-- `page` and `limit` are whole numbers or `NaN`. -/
def listMerchants (page limit : Option Int) : Async MerchantListOp MerchantListOp.Answer JsError MerchantList := do
  let skip := page.bind fun page => limit.map fun limit => (page - 1) * limit
  let merchants ← Async.request (.findMany skip limit) fun answer => answer
  let total ← Async.request .count fun answer => answer
  let totalPages := limit.bind fun limit => if limit = 0 then none else some ⌈(total : ℚ) / limit⌉
  return ⟨merchants, total, page, limit, totalPages⟩

/-- The controller: a number of the query string, with a default for a missing or an empty one. -/
def queryNumber (text : Option String) (missing : Int) : Option Int :=
  match text.filter (· ≠ "") with
  | some text => parseInt text
  | none => some missing

def listMerchantsRequest (page limit : Option String) : Async MerchantListOp MerchantListOp.Answer JsError MerchantList :=
  listMerchants (queryNumber page 1) (queryNumber limit 20)

/-- The `n`-th page, from zero on, asked for alone. -/
def listed (db : Database) (env : Nat → Nat → MerchantListOp → MerchantListEnv) (limit n : Nat) :
    Except JsError MerchantList :=
  (Async.play performListing (env n) (listMerchants (some (n + 1)) (some limit)) [] db).value

theorem queryNumber_toString (n missing : Int) : queryNumber (some (toString n)) missing = some n := by
  have printed : toString n ≠ "" := by
    intro empty
    have read := parseInt_toString n
    rw [empty] at read
    cases read
  have kept : (some (toString n)).filter (· ≠ "") = some (toString n) := by simpa using printed
  unfold queryNumber
  rw [kept]
  exact parseInt_toString n

/-- The query string of a page is answered with it, and an empty one with the first page of twenty. -/
theorem listMerchantsRequest_listed (db : Database) (env : Nat → Nat → MerchantListOp → MerchantListEnv) (limit n : Nat) :
    (Async.play performListing (env n) (listMerchantsRequest (some (toString (n + 1 : Int))) (some (toString (limit : Int)))) []
        db).value = listed db env limit n ∧
      (Async.play performListing (env 0) (listMerchantsRequest none none) [] db).value = listed db env 20 0 := by
  rw [listMerchantsRequest, queryNumber_toString, queryNumber_toString]
  exact ⟨rfl, rfl⟩

/-- The responses for page one to the last page that they all name. -/
structure AllPages (db : Database) (env : Nat → Nat → MerchantListOp → MerchantListEnv) (limit : Nat)
    (responses : List MerchantList) : Prop where
  each : ∀ n response, responses[n]? = some response → listed db env limit n = .ok response
  totalPages : ∀ n, ∃ response, listed db env limit n = .ok response ∧
    response.metadata.totalPages = some (responses.length : Int)

/-- Every merchant is on one page, the newest first, and the pages are full. -/
structure TiledBy (db : Database) (limit : Nat) (responses : List MerchantList) : Prop where
  perm : (responses.flatMap MerchantList.data).Perm (db.merchants.rows.map db.merchantEntry)
  newest : (responses.flatMap MerchantList.data).Pairwise fun newer older => older.createdAt ≤ newer.createdAt
  full : ∀ n response, responses[n]? = some response → n + 1 < responses.length → response.data.length = limit
  last : ∀ response, responses.getLast? = some response → 1 ≤ response.data.length

/-- A listing lists all merchants, in whatever order its queries bring those of one time. -/
def ListsAll (db : Database) (limit : Nat) : Prop :=
  ∀ env : Nat → Nat → MerchantListOp → MerchantListEnv, (∀ n i op, (env n i op).fails = false) →
    ∃ responses, AllPages db env limit responses ∧ TiledBy db limit responses

/-- The number of pages. -/
def pageCount (db : Database) (limit : Nat) : Nat := ⌈(db.merchants.rows.length : ℚ) / limit⌉.toNat

theorem lt_pageCount {db : Database} {limit : Nat} (atLeast : 1 ≤ limit) {n : Nat} :
    n < pageCount db limit ↔ n * limit < db.merchants.rows.length := by
  have positive : (0 : ℚ) < limit := by exact_mod_cast atLeast
  rw [pageCount, Int.lt_toNat, Int.lt_ceil, lt_div_iff₀ positive]
  exact_mod_cast Iff.rfl

/-- The rows of a page's query, in the order in which it found them. -/
def rowsOf (db : Database) (env : Nat → Nat → MerchantListOp → MerchantListEnv) (limit n : Nat) : List Merchant :=
  (env n 0 (.findMany (some ((n * limit : Nat) : Int)) (some (limit : Int)))).order.arrange db.merchants.rows

/-- What a listing answers with a page. -/
def pageResponse (db : Database) (env : Nat → Nat → MerchantListOp → MerchantListEnv) (limit n : Nat) : MerchantList where
  data := (page limit n (rowsOf db env limit n)).map db.merchantEntry
  metadata := ⟨db.merchants.rows.length, some (n + 1), some limit, some (pageCount db limit)⟩

theorem listed_page {db : Database} {env : Nat → Nat → MerchantListOp → MerchantListEnv}
    (calm : ∀ n i op, (env n i op).fails = false) {limit : Nat} (atLeast : 1 ≤ limit) (n : Nat) :
    listed db env limit n = .ok (pageResponse db env limit n) := by
  have skip : ((n : Int) + 1 - 1) * limit = ((n * limit : Nat) : Int) := by
    push_cast
    ring
  have pages : ⌈(db.merchants.rows.length : ℚ) / (limit : Int)⌉ = (pageCount db limit : Int) := by
    have nonneg : 0 ≤ ⌈(db.merchants.rows.length : ℚ) / limit⌉ := Int.ceil_nonneg (by positivity)
    rw [pageCount, Int.toNat_of_nonneg nonneg, Int.cast_natCast]
  have positive : ¬ (limit : Int) = 0 := by omega
  have found : ∀ order : NewestFirst, db.findMerchants order (some ((n * limit : Nat) : Int)) (some (limit : Int)) =
      .ok ((page limit n (order.arrange db.merchants.rows)).map db.merchantEntry) := by
    intro order
    have first : ¬ ((n * limit : Nat) : Int) < 0 := by omega
    have second : ¬ (limit : Int) < 0 := by omega
    simp only [Database.findMerchants, if_neg first, if_neg second, Int.toNat_natCast, page]
  unfold listed listMerchants
  simp only [Option.bind_some, Option.map_some, skip, Async.play_bind, Async.play_request, Async.play_pure, performListing,
    calm, Bool.false_eq_true, if_false, found, if_neg positive, pages, List.length_nil]
  rfl

/-- The responses are those of all pages, and no others are. -/
theorem allPages_iff {db : Database} {env : Nat → Nat → MerchantListOp → MerchantListEnv}
    (calm : ∀ n i op, (env n i op).fails = false) {limit : Nat} (atLeast : 1 ≤ limit) {responses : List MerchantList} :
    AllPages db env limit responses ↔ responses = (List.range (pageCount db limit)).map (pageResponse db env limit) := by
  constructor
  · intro all
    obtain ⟨response, answered, total⟩ := all.totalPages 0
    rw [listed_page calm atLeast, Except.ok.injEq] at answered
    have length : responses.length = pageCount db limit := by
      subst answered
      simp only [pageResponse, Option.some.injEq] at total
      omega
    refine List.ext_getElem (by rw [List.length_map, List.length_range, length]) fun n first second => ?_
    have answer := all.each n _ (List.getElem?_eq_getElem first)
    rw [listed_page calm atLeast, Except.ok.injEq] at answer
    rw [← answer, List.getElem_map, List.getElem_range]
  · rintro rfl
    refine ⟨fun n response found => ?_, fun n => ⟨_, listed_page calm atLeast n, ?_⟩⟩
    · rw [List.getElem?_map, Option.map_eq_some_iff] at found
      obtain ⟨at_n, member, rfl⟩ := found
      obtain ⟨_, rfl⟩ := List.getElem?_eq_some_iff.mp member
      rw [listed_page calm atLeast, List.getElem_range]
    · rw [List.length_map, List.length_range]
      rfl

theorem rowsOf_arranged (db : Database) (env : Nat → Nat → MerchantListOp → MerchantListEnv) (limit n : Nat) :
    Arrangement Merchant.createdAt db.merchants.rows (rowsOf db env limit n) :=
  (env n 0 (.findMany (some ((n * limit : Nat) : Int)) (some (limit : Int)))).order.arranged db.merchants.rows

theorem responses_data (db : Database) (env : Nat → Nat → MerchantListOp → MerchantListEnv) (limit count : Nat) :
    ((List.range count).map (pageResponse db env limit)).flatMap MerchantList.data =
      (pages limit count (rowsOf db env limit)).map db.merchantEntry := by
  rw [List.flatMap_map, pages, List.map_flatMap]
  rfl

/-- All but the merchants' coming once is so with any orders. -/
theorem tiledBy_iff {db : Database} (env : Nat → Nat → MerchantListOp → MerchantListEnv) {limit : Nat} (atLeast : 1 ≤ limit) :
    TiledBy db limit ((List.range (pageCount db limit)).map (pageResponse db env limit)) ↔
      ((pages limit (pageCount db limit) (rowsOf db env limit)).map db.merchantEntry).Perm
        (db.merchants.rows.map db.merchantEntry) := by
  have filled : ∀ n response, ((List.range (pageCount db limit)).map (pageResponse db env limit))[n]? = some response →
      n < pageCount db limit ∧ response.data.length = min limit (db.merchants.rows.length - n * limit) := by
    intro n response found
    obtain ⟨inside, rfl⟩ := List.getElem?_eq_some_iff.mp found
    rw [List.length_map, List.length_range] at inside
    rw [List.getElem_map, List.getElem_range, pageResponse, List.length_map, page_length,
      (rowsOf_arranged db env limit n).perm.length_eq]
    exact ⟨inside, rfl⟩
  constructor
  · intro tiled
    rw [← responses_data]
    exact tiled.perm
  · intro perm
    refine ⟨responses_data db env limit _ ▸ perm, ?_, fun n response found more => ?_, fun response found => ?_⟩
    · rw [responses_data, List.pairwise_map]
      exact pages_descending (rowsOf_arranged db env limit) limit _
    · rw [List.length_map, List.length_range, lt_pageCount atLeast, Nat.add_one_mul] at more
      rw [(filled n response found).2]
      omega
    · rw [List.getLast?_eq_getElem?] at found
      obtain ⟨inside, length⟩ := filled _ response found
      rw [lt_pageCount atLeast] at inside
      omega

/-- Rows in the order of the table, as far as their times allow. -/
def NewestFirst.stable : NewestFirst where
  arrange rows := rows.insertionSort fun newer older => older.createdAt ≤ newer.createdAt
  arranged rows := ⟨List.perm_insertionSort _ rows, List.pairwise_insertionSort _ rows⟩

/-- Rows of one time in the opposite order. -/
def NewestFirst.reversed : NewestFirst where
  arrange rows := NewestFirst.stable.arrange rows.reverse
  arranged rows :=
    ⟨(NewestFirst.stable.arranged rows.reverse).perm.trans rows.reverse_perm, (NewestFirst.stable.arranged rows.reverse).descending⟩

/-- An order that arranges certain rows in a given way. -/
def NewestFirst.given {rows : List Merchant} {moved : List Merchant} (arranged : Arrangement Merchant.createdAt rows moved) :
    NewestFirst where
  arrange other := if other = rows then moved else NewestFirst.stable.arrange other
  arranged other := by
    by_cases same : other = rows
    · rw [if_pos same, same]
      exact arranged
    · rw [if_neg same]
      exact NewestFirst.stable.arranged other

theorem merchantEntry_nodup (db : Database) : (db.merchants.rows.map db.merchantEntry).Nodup := by
  refine List.Nodup.of_map MerchantEntry.id ?_
  rw [List.map_map]
  exact db.merchants.distinct

/-- A listing lists all merchants, if and only if no page ends between two of one time. -/
theorem listsAll_iff (db : Database) (limit : Nat) (atLeast : 1 ≤ limit) :
    ListsAll db limit ↔ ∀ n, ¬ Splits Merchant.createdAt db.merchants.rows (n * limit) := by
  have first := NewestFirst.stable.arranged db.merchants.rows
  constructor
  · intro lists n splits
    obtain ⟨k, above, below⟩ := splits
    have inside : n * limit < db.merchants.rows.length := lt_of_lt_of_le below List.countP_le_length
    cases n with
    | zero => omega
    | succ n =>
      obtain ⟨arranged, each, repeats⟩ := pages_repeat atLeast first ⟨k, above, below⟩
      obtain ⟨responses, all, tiled⟩ := lists (fun n _ _ => ⟨false, "", .given (each n)⟩) fun _ _ _ => rfl
      rw [allPages_iff (fun _ _ _ => rfl) atLeast] at all
      rw [all, tiledBy_iff _ atLeast] at tiled
      have rows : rowsOf db (fun n _ _ => ⟨false, "", .given (each n)⟩) limit = arranged := funext fun i => if_pos rfl
      have distinct := tiled.nodup_iff.mpr (merchantEntry_nodup db)
      rw [rows] at distinct
      exact repeats _ ((lt_pageCount atLeast).mpr inside) (List.Nodup.of_map _ distinct)
  · intro whole env calm
    refine ⟨_, (allPages_iff calm atLeast).mpr rfl, (tiledBy_iff env atLeast).mpr (List.Perm.map _ ?_)⟩
    have cut := pages_perm (rowsOf_arranged db env limit) limit (pageCount db limit) first fun n _ => whole n
    have enough : db.merchants.rows.length ≤ pageCount db limit * limit :=
      Nat.le_of_not_lt fun more => Nat.lt_irrefl _ ((lt_pageCount atLeast).mpr more)
    rw [List.take_of_length_le (first.perm.length_eq ▸ enough)] at cut
    exact cut.trans first.perm

/-- Two merchants of one time. -/
def twinMerchants : Table Merchant.id where
  rows := [sampleMerchant, { sampleMerchant with id := ⟨"0b6d1c9e-3f58-4a27-8e40-92d7c5a1f3b6"⟩, email := "kiosk@example.com" }]
  distinct := by decide

def twins : Database := .withoutEvents twinMerchants Table.empty (by intro intent member; cases member)

/-- The first page's query finds the one first, the others' the other. -/
def twinOrders (n _ : Nat) (_ : MerchantListOp) : MerchantListEnv :=
  ⟨false, "", if n = 0 then .stable else .reversed⟩

/-- Both pages hold the same merchant, and the other is on none. -/
theorem twins_repeated :
    listed twins twinOrders 1 0 = .ok ⟨[twins.merchantEntry sampleMerchant], 2, some 1, some 1, some 2⟩ ∧
      listed twins twinOrders 1 1 = .ok ⟨[twins.merchantEntry sampleMerchant], 2, some 2, some 1, some 2⟩ ∧
      ¬ ListsAll twins 1 := by
  have first : listed twins twinOrders 1 0 = .ok ⟨[twins.merchantEntry sampleMerchant], 2, some 1, some 1, some 2⟩ := by
    decide +kernel
  have second : listed twins twinOrders 1 1 = .ok ⟨[twins.merchantEntry sampleMerchant], 2, some 2, some 1, some 2⟩ := by
    decide +kernel
  refine ⟨first, second, fun lists => ?_⟩
  obtain ⟨responses, all, tiled⟩ := lists twinOrders fun _ _ _ => rfl
  rw [allPages_iff (fun _ _ _ => rfl) le_rfl] at all
  subst all
  have distinct := tiled.perm.nodup_iff.mpr (merchantEntry_nodup twins)
  revert distinct
  decide +kernel

/-- Two merchants of one time, and one that has come before them. -/
def threeMerchants : Database :=
  .withoutEvents ⟨⟨⟨"5d2e7f91-04ab-4c63-8b1f-e6a90c3d7b25"⟩, "Archive", "archive@example.com", none, none, true, -1⟩ ::
    twinMerchants.rows, by decide⟩ Table.empty (by intro intent member; cases member)

/-- Two pages list them, the two of one time on the first, in either order. -/
theorem twins_together : ListsAll threeMerchants 2 ∧ pageCount threeMerchants 2 = 2 := by
  refine ⟨(listsAll_iff threeMerchants 2 (by decide)).mpr ?_, by decide +kernel⟩
  have counts : ∀ k : Int,
      ((threeMerchants.merchants.rows.countP fun merchant => k < merchant.createdAt) =
        (if k < 0 then 2 else 0) + if k < -1 then 1 else 0) ∧
      (threeMerchants.merchants.rows.countP fun merchant => k ≤ merchant.createdAt) =
        (if k ≤ 0 then 2 else 0) + if k ≤ -1 then 1 else 0 := by
    intro k
    simp only [threeMerchants, Database.withoutEvents, twinMerchants, sampleMerchant, List.countP_cons, List.countP_nil]
    constructor <;> split_ifs <;> simp_all
  rintro n ⟨k, above, below⟩
  obtain ⟨later, upTo⟩ := counts k
  rw [later] at above
  rw [upTo] at below
  split_ifs at above below <;> omega

end PayBridge
