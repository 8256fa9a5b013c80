import PayBridge.Codec.Decimal
import PayBridge.Codec.Hex

namespace Codec.JsonText

/-- Takes what it reads off the front of a text. -/
abbrev Reader (α : Type) := List Char → Option (α × List Char)

/-- What the values of JSON texts are built with; a number comes as it is written. -/
structure Builder (V : Type) where
  null : V
  bool : Bool → V
  num : List Char → V
  str : List Char → V
  arr : List V → V
  obj : List (List Char × V) → V

def isSpace (c : Char) : Bool := [' ', '\t', '\n', '\r'].contains c

def skipSpace (s : List Char) : List Char := s.dropWhile isSpace

/-- What a backslash and a mark stand for. -/
def unescape (mark : Char) : Option Char :=
  match mark with
  | '"' => some '"'
  | '\\' => some '\\'
  | '/' => some '/'
  | 'b' => some '\x08'
  | 'f' => some '\x0c'
  | 'n' => some '\n'
  | 'r' => some '\r'
  | 't' => some '\t'
  | _ => none

/-- The code unit with four hexadecimal digits. -/
def hexUnit (a b c d : Char) : Option Nat := do
  return (((← hexValue a) * 16 + (← hexValue b)) * 16 + (← hexValue c)) * 16 + (← hexValue d)

/-- The code units of a string, up to its closing quote. A character that is not
escaped stands as a whole. -/
def readUnits : Reader (List Nat)
  | [] => none
  | c :: rest =>
    if c = '"' then some ([], rest)
    else if c = '\\' then
      match rest with
      | 'u' :: x :: y :: z :: w :: rest =>
        (hexUnit x y z w).bind fun unit => (readUnits rest).map fun (units, left) => (unit :: units, left)
      | mark :: rest => (unescape mark).bind fun d => (readUnits rest).map fun (units, left) => (d.toNat :: units, left)
      | [] => none
    else if c.toNat < 0x20 then none
    else (readUnits rest).map fun (units, left) => (c.toNat :: units, left)

/-- The characters of code units; a pair of surrogates is one, and a single surrogate is none. -/
def joinUnits : List Nat → Option (List Char)
  | [] => some []
  | unit :: rest =>
    if unit.isValidChar then (joinUnits rest).map (Char.ofNat unit :: ·)
    else match rest with
      | low :: rest =>
        if 0xD800 ≤ unit ∧ unit < 0xDC00 ∧ 0xDC00 ≤ low ∧ low < 0xE000 then
          (joinUnits rest).map (Char.ofNat (0x10000 + (unit - 0xD800) * 0x400 + (low - 0xDC00)) :: ·)
        else none
      | [] => none

def readString (s : List Char) : Option (List Char × List Char) :=
  (readUnits s).bind fun (units, left) => (joinUnits units).map fun chars => (chars, left)

/-- A minus or not, digits with no zero in front, a fraction or not, an exponent or not. -/
def isNumber (token : List Char) : Bool :=
  let unsigned := match token with
    | '-' :: rest => rest
    | rest => rest
  let whole := unsigned.takeWhile Char.isDigit
  let point := unsigned.dropWhile Char.isDigit
  (whole = ['0'] || !whole.isEmpty && whole.head? ≠ some '0') &&
    (point.head? ≠ some '.' || (readFraction point).1 ≠ []) && (readExponent (readFraction point).2).isSome

/-- A number that is written in such parts is one. -/
theorem isNumber_parts (negative : Bool) {whole fraction point rest : List Char} {exponent : ℤ} (some_digit : whole ≠ [])
    (digits : ∀ c ∈ whole, c.isDigit = true) (lead : whole = ['0'] ∨ whole.head? ≠ some '0')
    (stops : point.takeWhile Char.isDigit = []) (pointed : readFraction point = (fraction, rest))
    (dotted : point.head? = some '.' → fraction ≠ []) (scaled : readExponent rest = some exponent) :
    isNumber (withSign negative (whole ++ point)) = true := by
  obtain ⟨c, later, rfl⟩ := List.exists_cons_of_ne_nil some_digit
  have minus : c ≠ '-' := by
    rintro rfl
    cases digits _ List.mem_cons_self
  have unsigned : (match withSign negative (c :: later ++ point) with
      | '-' :: rest => rest
      | rest => rest) = c :: later ++ point := by
    cases negative with
    | true => rfl
    | false => simp [withSign, minus]
  obtain ⟨taken, left⟩ := digits_taken digits stops
  unfold isNumber
  simp only [unsigned, taken, left, pointed, scaled, Option.isSome_some, Bool.and_true, Bool.and_eq_true, Bool.or_eq_true,
    decide_eq_true_eq]
  refine ⟨lead.imp_right fun other => ⟨rfl, other⟩, ?_⟩
  by_cases dot : point.head? = some '.'
  · exact Or.inr (dotted dot)
  · exact Or.inl dot

/-- Items behind the first one, each after a comma, up to the closing mark. -/
def readMore {α : Type} (item : Reader α) (close : Char) : Nat → Reader (List α)
  | 0, _ => none
  | fuel + 1, s =>
    match skipSpace s with
    | [] => none
    | c :: rest =>
      if c = close then some ([], rest)
      else if c = ',' then
        (item rest).bind fun (first, rest) => (readMore item close fuel rest).map fun (more, rest) => (first :: more, rest)
      else none

/-- Items with commas between them, up to the closing mark. -/
def readItems {α : Type} (item : Reader α) (close : Char) (s : List Char) : Option (List α × List Char) :=
  match skipSpace s with
  | [] => none
  | c :: rest =>
    if c = close then some ([], rest)
    else (item (c :: rest)).bind fun (first, rest) =>
      (readMore item close (rest.length + 1) rest).map fun (more, rest) => (first :: more, rest)

def expect (token s : List Char) : Option (List Char) := if token.isPrefixOf s then some (s.drop token.length) else none

/-- A field of an object. -/
def readField {V : Type} (value : Reader V) (s : List Char) : Option ((List Char × V) × List Char) := do
  let rest ← expect ['"'] (skipSpace s)
  let (name, rest) ← readString rest
  let rest ← expect [':'] (skipSpace rest)
  let (value, rest) ← value rest
  return ((name, value), rest)

section
variable {V : Type} (build : Builder V)

/-- A value, with as many levels inside each other as there is fuel. -/
def readValue : Nat → Reader V
  | 0, _ => none
  | fuel + 1, s =>
    match skipSpace s with
    | [] => none
    | c :: rest =>
      if c = '"' then (readString rest).map fun (chars, left) => (build.str chars, left)
      else if c = '[' then (readItems (readValue fuel) ']' rest).map fun (items, left) => (build.arr items, left)
      else if c = '{' then (readItems (readField (readValue fuel)) '}' rest).map fun (fields, left) => (build.obj fields, left)
      else if c = 'n' then (expect ['u', 'l', 'l'] rest).map fun left => (build.null, left)
      else if c = 't' then (expect ['r', 'u', 'e'] rest).map fun left => (build.bool true, left)
      else if c = 'f' then (expect ['a', 'l', 's', 'e'] rest).map fun left => (build.bool false, left)
      else if isNumber ((c :: rest).takeWhile isNumeric) then
        some (build.num ((c :: rest).takeWhile isNumeric), (c :: rest).dropWhile isNumeric)
      else none

/-- The value of a whole text. -/
def parse (text : List Char) : Option V :=
  (readValue build (text.length + 1) text).bind fun (value, rest) => if (skipSpace rest).isEmpty then some value else none

end

/-- How a string is spelled between its quotes. -/
inductive Spells : List Char → List Char → Prop
  | nil : Spells [] []
  | plain {c : Char} {spelled chars : List Char} : 0x20 ≤ c.toNat → c ≠ '"' → c ≠ '\\' → Spells spelled chars →
      Spells (c :: spelled) (c :: chars)
  | mark {mark c : Char} {spelled chars : List Char} : unescape mark = some c → Spells spelled chars →
      Spells ('\\' :: mark :: spelled) (c :: chars)
  | unit {x y z w c : Char} {spelled chars : List Char} : hexUnit x y z w = some c.toNat → Spells spelled chars →
      Spells ('\\' :: 'u' :: x :: y :: z :: w :: spelled) (c :: chars)

/-- A field of an object, with the text it has. -/
structure Member (V : Type) where
  spelled : List Char
  name : List Char
  text : List Char
  value : V

def Member.written {V : Type} (member : Member V) : List Char := '"' :: member.spelled ++ '"' :: ':' :: member.text

/-- The texts of a value with no space between the tokens. -/
inductive Compact {V : Type} (build : Builder V) : List Char → V → Prop
  | null : Compact build ['n', 'u', 'l', 'l'] build.null
  | bool (value : Bool) : Compact build (if value then ['t', 'r', 'u', 'e'] else ['f', 'a', 'l', 's', 'e']) (build.bool value)
  | num {token : List Char} : (∀ c ∈ token, isNumeric c = true) → isNumber token = true → Compact build token (build.num token)
  | str {spelled chars : List Char} : Spells spelled chars → Compact build ('"' :: spelled ++ ['"']) (build.str chars)
  | arr {items : List (List Char × V)} : (∀ item ∈ items, Compact build item.1 item.2) →
      Compact build ('[' :: [','].intercalate (items.map Prod.fst) ++ [']']) (build.arr (items.map Prod.snd))
  | obj {members : List (Member V)} : (∀ member ∈ members, Spells member.spelled member.name) →
      (∀ member ∈ members, Compact build member.text member.value) →
      Compact build ('{' :: [','].intercalate (members.map Member.written) ++ ['}'])
        (build.obj (members.map fun member => (member.name, member.value)))

theorem readUnits_plain {c : Char} (printed : 0x20 ≤ c.toNat) (quote : c ≠ '"') (backslash : c ≠ '\\') (rest : List Char) :
    readUnits (c :: rest) = (readUnits rest).map fun (units, left) => (c.toNat :: units, left) := by
  rw [readUnits.eq_def]
  exact (if_neg quote).trans ((if_neg backslash).trans (if_neg (by omega)))

theorem readUnits_spelled {spelled chars : List Char} (spells : Spells spelled chars) (rest : List Char) :
    readUnits (spelled ++ '"' :: rest) = some (chars.map Char.toNat, rest) := by
  induction spells with
  | nil =>
    rw [List.nil_append, readUnits.eq_def]
    exact if_pos rfl
  | plain printed quote backslash _ ih =>
    rw [List.cons_append, readUnits_plain printed quote backslash, ih]
    rfl
  | @mark mark c spelled chars stands _ ih =>
    have other : mark ≠ 'u' := by rintro rfl; cases stands
    rw [List.cons_append, List.cons_append, readUnits.eq_def]
    simp [other, stands, ih]
  | unit value _ ih =>
    simp only [List.cons_append]
    rw [readUnits.eq_def]
    simp [value, ih]

theorem joinUnits_chars (chars : List Char) : joinUnits (chars.map Char.toNat) = some chars := by
  induction chars with
  | nil => rfl
  | cons c chars ih =>
    have valid : c.toNat.isValidChar := c.valid
    rw [List.map_cons, joinUnits.eq_def]
    simp only [if_pos valid, ih, Option.map_some, Char.ofNat_toNat]

theorem readString_spelled {spelled chars : List Char} (spells : Spells spelled chars) (rest : List Char) :
    readString (spelled ++ '"' :: rest) = some (chars, rest) := by
  simp only [readString, readUnits_spelled spells, Option.bind_some, joinUnits_chars, Option.map_some]

/-- What may follow a value: nothing that could belong to a number. -/
def Ends (rest : List Char) : Prop := ∀ c ∈ rest.head?, isNumeric c = false

/-- A text is read as a value, whatever follows it. -/
def Reads {α : Type} (item : Reader α) (text : List Char) (value : α) : Prop :=
  ∀ rest, Ends rest → item (text ++ rest) = some (value, rest)

theorem skipSpace_cons {c : Char} (visible : isSpace c = false) (s : List Char) : skipSpace (c :: s) = c :: s :=
  List.dropWhile_cons_of_neg (by rw [visible]; exact Bool.false_ne_true)

theorem intercalate_cons {α : Type} (separator : α) (first : List α) (others : List (List α)) :
    [separator].intercalate (first :: others) = first ++ others.flatMap fun item => separator :: item := by
  induction others generalizing first with
  | nil => simp [List.intercalate]
  | cons next others ih =>
    have more := ih next
    simp only [List.intercalate, List.intersperse_cons_cons, List.flatten_cons, List.flatMap_cons] at more ⊢
    rw [more]
    simp

/-- A mark that closes a list of items. -/
structure Closes (close : Char) : Prop where
  visible : isSpace close = false
  apart : close ≠ ','
  ends : isNumeric close = false

theorem more_ends {close : Char} (closes : Closes close) (texts : List (List Char)) (rest : List Char) :
    Ends (texts.flatMap (',' :: ·) ++ close :: rest) := by
  intro c member
  cases texts with
  | nil => exact Option.mem_some_iff.mp member ▸ closes.ends
  | cons text texts => exact Option.mem_some_iff.mp member ▸ rfl

theorem readMore_items {α : Type} {item : Reader α} {close : Char} (closes : Closes close) {items : List (List Char × α)}
    (reads : ∀ entry ∈ items, Reads item entry.1 entry.2) {fuel : Nat} (room : items.length < fuel) (rest : List Char) :
    readMore item close fuel ((items.map Prod.fst).flatMap (',' :: ·) ++ close :: rest) = some (items.map Prod.snd, rest) := by
  induction items generalizing fuel with
  | nil =>
    obtain ⟨fuel, rfl⟩ := Nat.exists_eq_succ_of_ne_zero (Nat.ne_of_gt room)
    rw [readMore]
    simp [skipSpace_cons closes.visible]
  | cons first items ih =>
    obtain ⟨fuel, rfl⟩ := Nat.exists_eq_succ_of_ne_zero (by omega : fuel ≠ 0)
    obtain ⟨now, later⟩ := List.forall_mem_cons.mp reads
    have comma : isSpace ',' = false := rfl
    rw [readMore]
    simp only [List.map_cons, List.flatMap_cons, List.cons_append, List.append_assoc, skipSpace_cons comma,
      if_neg closes.apart.symm, if_pos]
    rw [now _ (more_ends closes _ rest), Option.bind_some, ih later (by simpa using room)]
    rfl

/-- How a text starts that is no white space and closes nothing. -/
def Starts (text : List Char) : Prop := ∃ c rest, text = c :: rest ∧ isSpace c = false ∧ c ≠ ']' ∧ c ≠ '}'

theorem Starts.apart {text : List Char} (starts : Starts text) {close : Char} (closing : close = ']' ∨ close = '}') :
    ∃ c rest, text = c :: rest ∧ isSpace c = false ∧ c ≠ close := by
  obtain ⟨c, rest, rfl, visible, bracket, brace⟩ := starts
  rcases closing with rfl | rfl
  · exact ⟨c, rest, rfl, visible, bracket⟩
  · exact ⟨c, rest, rfl, visible, brace⟩

theorem closes_of {close : Char} (closing : close = ']' ∨ close = '}') : Closes close := by
  rcases closing with rfl | rfl
  · exact ⟨rfl, by decide, rfl⟩
  · exact ⟨rfl, by decide, rfl⟩

theorem readItems_items {α : Type} {item : Reader α} {close : Char} (closing : close = ']' ∨ close = '}')
    {items : List (List Char × α)} (reads : ∀ entry ∈ items, Reads item entry.1 entry.2)
    (starts : ∀ entry ∈ items, Starts entry.1) (rest : List Char) :
    readItems item close ([','].intercalate (items.map Prod.fst) ++ close :: rest) = some (items.map Prod.snd, rest) := by
  have closes := closes_of closing
  cases items with
  | nil => simp [readItems, List.intercalate, skipSpace_cons closes.visible]
  | cons first items =>
    obtain ⟨now, later⟩ := List.forall_mem_cons.mp reads
    obtain ⟨c, text, start, visible, other⟩ := (starts first List.mem_cons_self).apart closing
    have room : items.length < ((items.map Prod.fst).flatMap (',' :: ·) ++ close :: rest).length + 1 := by
      have commas : ∀ texts : List (List Char), texts.length ≤ (texts.flatMap (',' :: ·)).length := by
        intro texts
        induction texts with
        | nil => exact Nat.zero_le _
        | cons text texts ih =>
          simp only [List.flatMap_cons, List.length_append, List.length_cons]
          omega
      have bound := commas (items.map Prod.fst)
      rw [List.length_map] at bound
      rw [List.length_append]
      omega
    have read := now _ (more_ends closes (items.map Prod.fst) rest)
    rw [List.map_cons, intercalate_cons, List.append_assoc]
    rw [start, List.cons_append] at read ⊢
    simp only [readItems, skipSpace_cons visible, if_neg other]
    rw [read, Option.bind_some, readMore_items closes later room]
    rfl

theorem readField_member {V : Type} {value : Reader V} {member : Member V} (spells : Spells member.spelled member.name)
    (reads : Reads value member.text member.value) : Reads (readField value) member.written (member.name, member.value) := by
  intro rest ends
  have quote : isSpace '"' = false := rfl
  have colon : isSpace ':' = false := rfl
  have opened : ∀ token s : List Char, expect token (token ++ s) = some s := by
    intro token s
    rw [expect, if_pos (by simp), List.drop_left]
  have first := opened ['"']
  have second := opened [':']
  simp only [List.cons_append, List.nil_append] at first second
  simp only [readField, Member.written, List.cons_append, List.append_assoc, skipSpace_cons quote, first, Option.bind_eq_bind,
    Option.bind_some, readString_spelled spells, skipSpace_cons colon, second, reads rest ends]
  rfl

section
variable {V : Type} {build : Builder V}

theorem numeric_apart {c d : Char} (numeric : isNumeric c = true) (other : isNumeric d = false) : c ≠ d := by
  rintro rfl
  rw [numeric] at other
  cases other

theorem numeric_visible {c : Char} (numeric : isNumeric c = true) : isSpace c = false := by
  rw [← Bool.not_eq_true, isSpace, List.contains_iff_mem]
  intro space
  have apart : [' ', '\t', '\n', '\r'].all (fun d => !isNumeric d) = true := rfl
  exact numeric_apart numeric (by simpa using List.all_eq_true.mp apart c space) rfl

theorem number_starts {token : List Char} (numeric : ∀ c ∈ token, isNumeric c = true) (number : isNumber token = true) :
    ∃ c rest, token = c :: rest ∧ isNumeric c = true := by
  cases token with
  | nil => cases number
  | cons c rest => exact ⟨c, rest, rfl, numeric c List.mem_cons_self⟩

theorem Compact.starts {text : List Char} {value : V} (compact : Compact build text value) : Starts text := by
  cases compact with
  | null => exact ⟨_, _, rfl, rfl, by decide, by decide⟩
  | bool value => cases value <;> exact ⟨_, _, rfl, rfl, by decide, by decide⟩
  | num numeric number =>
    obtain ⟨c, rest, rfl, first⟩ := number_starts numeric number
    exact ⟨c, rest, rfl, numeric_visible first, numeric_apart first rfl, numeric_apart first rfl⟩
  | str spells => exact ⟨_, _, rfl, rfl, by decide, by decide⟩
  | arr items => exact ⟨_, _, rfl, rfl, by decide, by decide⟩
  | obj spells members => exact ⟨_, _, rfl, rfl, by decide, by decide⟩

theorem token_taken {token rest : List Char} (numeric : ∀ c ∈ token, isNumeric c = true) (ends : Ends rest) :
    (token ++ rest).takeWhile isNumeric = token ∧ (token ++ rest).dropWhile isNumeric = rest := by
  rw [List.takeWhile_append_of_pos numeric, List.dropWhile_append_of_pos numeric]
  cases rest with
  | nil => simp
  | cons c rest =>
    have stops : ¬ isNumeric c = true := by rw [ends c rfl]; exact Bool.false_ne_true
    rw [List.takeWhile_cons_of_neg stops, List.dropWhile_cons_of_neg stops, List.append_nil]
    exact ⟨rfl, rfl⟩

theorem item_shorter {texts : List (List Char)} {text : List Char} (member : text ∈ texts) :
    text.length ≤ ([','].intercalate texts).length := by
  obtain ⟨before, after, rfl⟩ := List.append_of_mem member
  cases before with
  | nil =>
    rw [List.nil_append, intercalate_cons, List.length_append]
    exact Nat.le_add_right _ _
  | cons first before =>
    rw [List.cons_append, intercalate_cons, List.flatMap_append, List.flatMap_cons]
    simp only [List.length_append, List.length_cons]
    omega

/-- A compact text is read as its value, with more fuel than the text is long. -/
theorem Compact.reads {text : List Char} {value : V} (compact : Compact build text value) {fuel : Nat}
    (room : text.length < fuel) : Reads (readValue build fuel) text value := by
  induction compact generalizing fuel with
  | null =>
    intro rest _
    obtain ⟨fuel, rfl⟩ := Nat.exists_eq_succ_of_ne_zero (Nat.ne_zero_of_lt room)
    rfl
  | bool value =>
    intro rest _
    obtain ⟨fuel, rfl⟩ := Nat.exists_eq_succ_of_ne_zero (Nat.ne_zero_of_lt room)
    cases value <;> rfl
  | @num token numeric number =>
    intro rest ends
    obtain ⟨c, later, rfl, first⟩ := number_starts numeric number
    obtain ⟨fuel, rfl⟩ := Nat.exists_eq_succ_of_ne_zero (Nat.ne_zero_of_lt room)
    obtain ⟨taken, left⟩ := token_taken numeric ends
    rw [List.cons_append] at taken left ⊢
    simp only [readValue, skipSpace_cons (numeric_visible first), if_neg (numeric_apart first (rfl : isNumeric '"' = false)),
      if_neg (numeric_apart first (rfl : isNumeric '[' = false)), if_neg (numeric_apart first (rfl : isNumeric '{' = false)),
      if_neg (numeric_apart first (rfl : isNumeric 'n' = false)), if_neg (numeric_apart first (rfl : isNumeric 't' = false)),
      if_neg (numeric_apart first (rfl : isNumeric 'f' = false)), taken, left, if_pos number]
  | @str spelled chars spells =>
    intro rest _
    obtain ⟨fuel, rfl⟩ := Nat.exists_eq_succ_of_ne_zero (Nat.ne_zero_of_lt room)
    have quote : isSpace '"' = false := rfl
    simp only [readValue, List.cons_append, List.append_assoc, List.nil_append, skipSpace_cons quote, if_pos,
      readString_spelled spells, Option.map_some]
  | @arr items compact ih =>
    intro rest _
    obtain ⟨fuel, rfl⟩ := Nat.exists_eq_succ_of_ne_zero (Nat.ne_zero_of_lt room)
    simp only [List.length_append, List.length_cons, List.length_nil] at room
    have opening : isSpace '[' = false := rfl
    have each : ∀ item ∈ items, Reads (readValue build fuel) item.1 item.2 := fun item member => by
      have shorter := item_shorter (List.mem_map_of_mem (f := Prod.fst) member)
      exact ih item member (by omega)
    have read := readItems_items (Or.inl rfl) each (fun item member => (compact item member).starts) rest
    simp only [readValue, List.cons_append, List.append_assoc, List.nil_append, skipSpace_cons opening]
    rw [if_neg (by decide), if_pos trivial, read, Option.map_some]
  | @obj members spells compact ih =>
    intro rest _
    obtain ⟨fuel, rfl⟩ := Nat.exists_eq_succ_of_ne_zero (Nat.ne_zero_of_lt room)
    simp only [List.length_append, List.length_cons, List.length_nil] at room
    have opening : isSpace '{' = false := rfl
    let items := members.map fun member => (member.written, (member.name, member.value))
    have each : ∀ item ∈ items, Reads (readField (readValue build fuel)) item.1 item.2 := by
      intro item listed
      obtain ⟨member, inside, rfl⟩ := List.mem_map.mp listed
      have shorter := item_shorter (List.mem_map_of_mem (f := Member.written) inside)
      simp only [Member.written, List.length_append, List.length_cons] at shorter
      exact readField_member (spells member inside) (ih member inside (by omega))
    have starts : ∀ item ∈ items, Starts item.1 := by
      intro item listed
      obtain ⟨member, _, rfl⟩ := List.mem_map.mp listed
      exact ⟨_, _, rfl, rfl, by decide, by decide⟩
    have read := readItems_items (Or.inr rfl) each starts rest
    simp only [items, List.map_map, Function.comp_def] at read
    simp only [readValue, List.cons_append, List.append_assoc, List.nil_append, skipSpace_cons opening]
    rw [if_neg (by decide), if_neg (by decide), if_pos trivial, read, Option.map_some]

/-- What is written compactly is read back. -/
theorem parse_compact {text : List Char} {value : V} (compact : Compact build text value) :
    parse build text = some value := by
  have read := compact.reads (Nat.lt_succ_self _) [] (fun _ none => by cases none)
  rw [List.append_nil] at read
  rw [parse, read]
  rfl

end

end Codec.JsonText
