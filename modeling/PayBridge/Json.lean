import Mathlib.Data.List.TakeWhile
import Mathlib.Logic.Basic

namespace PayBridge

inductive ErrorKind
  | http (status : Nat)
  | typeError
  | syntaxError
  | rangeError
  | prisma (code : Option String)
  | other
  deriving DecidableEq

/-- A thrown JavaScript error: its class and its text. -/
structure JsError where
  kind : ErrorKind
  message : String
  deriving DecidableEq

/-- `error?.code`. -/
def JsError.code (err : JsError) : Option String :=
  match err.kind with
  | .prisma code => code
  | _ => none

/-- A JSON value as `JSON.parse` returns it. A number is kept as the text
JavaScript prints for it; nothing here computes with one. -/
inductive Json
  | null
  | bool (value : Bool)
  | num (text : String)
  | str (value : String)
  | arr (items : List Json)
  | obj (fields : List (String × Json))

/-- A value read out of a payload; none is `undefined`. -/
abbrev JsValue := Option Json

/-- `value.name`. No value but an object has a property of the names read here. -/
def JsValue.get (value : JsValue) (name : String) : Except JsError JsValue :=
  match value with
  | none => .error ⟨.typeError, s!"Cannot read properties of undefined (reading {name})"⟩
  | some .null => .error ⟨.typeError, s!"Cannot read properties of null (reading {name})"⟩
  | some (.obj fields) => .ok (fields.lookup name)
  | some _ => .ok none

mutual
/-- `String(value)`, which calls the value's own `toString`; a payload's own
field of that name is not a function. -/
def Json.text : Json → Except JsError String
  | .null => .ok "null"
  | .bool value => .ok (if value then "true" else "false")
  | .num text => .ok text
  | .str value => .ok value
  | .arr items => (Json.texts items).map (String.intercalate ",")
  | .obj fields =>
    if (fields.lookup "toString").isSome then .error ⟨.typeError, "Cannot convert object to primitive value"⟩
    else .ok "[object Object]"

/-- The texts `Array.prototype.join` puts together; null counts as empty. -/
def Json.texts : List Json → Except JsError (List String)
  | [] => .ok []
  | .null :: rest => (Json.texts rest).map ("" :: ·)
  | item :: rest => do
    let first ← Json.text item
    let others ← Json.texts rest
    return first :: others
end

/-- `value.toString()`. -/
def JsValue.toString (value : JsValue) : Except JsError String :=
  match value with
  | none => .error ⟨.typeError, "Cannot read properties of undefined (reading toString)"⟩
  | some .null => .error ⟨.typeError, "Cannot read properties of null (reading toString)"⟩
  | some v => v.text

example : (JsValue.toString (some (.arr [.str "a", .null, .num "7"]))).toOption = some "a,,7" := by decide +kernel

/-- What `JSON.stringify` writes for a character of a string. -/
def escapeChar (c : Char) : List Char :=
  match c.toNat with
  | 0x08 => ['\\', 'b']
  | 0x09 => ['\\', 't']
  | 0x0A => ['\\', 'n']
  | 0x0C => ['\\', 'f']
  | 0x0D => ['\\', 'r']
  | 0x22 => ['\\', '\x22']
  | 0x5C => ['\\', '\\']
  | code =>
    if code < 0x20 then ['\\', 'u', '0', '0', Nat.digitChar (code / 16), Nat.digitChar (code % 16)] else [c]

def quoted (text : String) : String := String.ofList ('\x22' :: text.toList.flatMap escapeChar ++ ['\x22'])

mutual
/-- `JSON.stringify(value)`. -/
def Json.stringify : Json → String
  | .null => "null"
  | .bool value => if value then "true" else "false"
  | .num text => text
  | .str value => quoted value
  | .arr items => "[" ++ String.intercalate "," (Json.stringifyItems items) ++ "]"
  | .obj fields => "\x7b" ++ String.intercalate "," (Json.stringifyFields fields) ++ "\x7d"

def Json.stringifyItems : List Json → List String
  | [] => []
  | item :: rest => item.stringify :: Json.stringifyItems rest

def Json.stringifyFields : List (String × Json) → List String
  | [] => []
  | (name, value) :: rest => (quoted name ++ ":" ++ value.stringify) :: Json.stringifyFields rest
end

example : (Json.obj [("a", .arr [.num "1", .null]), ("b", .str "x\ny")]).stringify =
    "\x7b\x22a\x22:[1,null],\x22b\x22:\x22x\\ny\x22\x7d" := by decide +kernel

/-- An optional field of a request body; validation passes `null` as it
passes an absent field. -/
inductive JsOptional (α : Type)
  | undefined
  | null
  | value (a : α)
  deriving DecidableEq

/-- `field ?? null`. -/
def JsOptional.toOption {α : Type} : JsOptional α → Option α
  | .value a => some a
  | _ => none

/-- Whether JavaScript takes an optional string for true. -/
def truthy (value : Option String) : Bool :=
  match value with
  | none => false
  | some text => text ≠ ""

/-- The white space and line ends of JavaScript. -/
def isJsSpace (c : Char) : Bool :=
  c.toNat ∈ [0x9, 0xA, 0xB, 0xC, 0xD, 0x20, 0xA0, 0x1680, 0x2028, 0x2029, 0x202F, 0x205F, 0x3000, 0xFEFF] ||
    (0x2000 ≤ c.toNat && c.toNat ≤ 0x200A)

/-- `text.trim()`. -/
def jsTrim (text : String) : String :=
  String.ofList ((text.toList.dropWhile isJsSpace).reverse.dropWhile isJsSpace).reverse

example : jsTrim "  a key\t" = "a key" := by decide +kernel

/-- `parseInt(text, 10)`; none is `NaN`. -/
def parseInt (text : String) : Option Int :=
  let body := text.toList.dropWhile isJsSpace
  let (sign, digits) : Int × List Char := match body with
    | '-' :: rest => (-1, rest)
    | '+' :: rest => (1, rest)
    | rest => (1, rest)
  match digits.takeWhile Char.isDigit with
  | [] => none
  | first :: rest => some (sign * (first :: rest).foldl (fun n c => 10 * n + (c.toNat - '0'.toNat : Nat)) 0)

example : parseInt " -15min" = some (-15) := by decide +kernel

/-- A printed number is digits, behind a sign if it is negative. -/
theorem toString_toList (n : Int) : (toString n).toList =
    if 0 ≤ n then Nat.toDigits 10 n.toNat else '-' :: Nat.toDigits 10 (-n).toNat := by
  rw [Int.toString_eq_repr, Int.repr_eq_if]
  split
  · exact Nat.toList_repr
  · rw [String.toList_append, Nat.toList_repr]
    rfl

theorem toString_chars {n : Int} {c : Char} (member : c ∈ (toString n).toList) : c.isDigit ∨ c = '-' := by
  rw [toString_toList] at member
  split at member
  · exact Or.inl (Nat.isDigit_of_mem_toDigits (by decide) (by decide) member)
  · rcases List.mem_cons.mp member with sign | digit
    · exact Or.inr sign
    · exact Or.inl (Nat.isDigit_of_mem_toDigits (by decide) (by decide) digit)

theorem isDigit_bounds {c : Char} (digit : c.isDigit = true) : 48 ≤ c.toNat ∧ c.toNat ≤ 57 := by
  simp only [Char.isDigit, Bool.and_eq_true, decide_eq_true_eq] at digit
  exact ⟨UInt32.le_iff_toNat_le.mp digit.1, UInt32.le_iff_toNat_le.mp digit.2⟩

/-- `parseInt` on digits, behind a sign or not. -/
theorem parseInt_digits {c : Char} {cs : List Char} (digits : ∀ d ∈ c :: cs, d.isDigit = true) :
    parseInt (String.ofList (c :: cs)) = some (Nat.ofDigitChars 10 (c :: cs) 0 : Int) ∧
      parseInt (String.ofList ('-' :: c :: cs)) = some (-(Nat.ofDigitChars 10 (c :: cs) 0 : Int)) := by
  have whole : (c :: cs).takeWhile Char.isDigit = c :: cs := List.takeWhile_eq_self_iff.mpr digits
  obtain ⟨lower, upper⟩ := isDigit_bounds (digits c (List.mem_cons_self ..))
  simp only [parseInt, String.toList_ofList]
  constructor
  · have visible : isJsSpace c = false := by
      simp only [isJsSpace, List.mem_cons, List.not_mem_nil, or_false, Bool.or_eq_false_iff, decide_eq_false_iff_not,
        Bool.and_eq_false_iff]
      omega
    have unsigned : (match c :: cs with
        | '-' :: rest => (-1, rest)
        | '+' :: rest => (1, rest)
        | rest => (1, rest)) = ((1, c :: cs) : Int × List Char) := by
      split
      · next same =>
        rw [(List.cons.inj same).1] at lower
        exact absurd lower (by decide)
      · next same =>
        rw [(List.cons.inj same).1] at lower
        exact absurd lower (by decide)
      · rfl
    rw [List.dropWhile_cons_of_neg (show ¬ isJsSpace c = true by simp [visible])]
    simp only [unsigned, whole, Int.one_mul, Nat.ofDigitChars_eq_foldl]
  · have visible : List.dropWhile isJsSpace ('-' :: c :: cs) = '-' :: c :: cs :=
      List.dropWhile_cons_of_neg (by decide)
    simp only [visible, whole, Int.neg_one_mul, Nat.ofDigitChars_eq_foldl]

/-- `parseInt` reads back what is printed of a number. -/
theorem parseInt_toString (n : Int) : parseInt (toString n) = some n := by
  have shape : ∀ m : Nat, ∃ c cs, Nat.toDigits 10 m = c :: cs ∧ (∀ d ∈ c :: cs, d.isDigit = true) ∧
      Nat.ofDigitChars 10 (c :: cs) 0 = m := by
    intro m
    obtain ⟨c, cs, same⟩ := List.exists_cons_of_ne_nil (Nat.toDigits_ne_nil : Nat.toDigits 10 m ≠ [])
    refine ⟨c, cs, same, fun d member => ?_, by rw [← same, Nat.ofDigitChars_ten_toDigits]⟩
    exact Nat.isDigit_of_mem_toDigits (by decide) (by decide) (same ▸ member)
  have text : toString n = String.ofList (toString n).toList := (String.ofList_toList).symm
  rw [text, toString_toList]
  split
  · next nonneg =>
    obtain ⟨c, cs, same, digits, value⟩ := shape n.toNat
    rw [same, (parseInt_digits digits).1, value]
    exact congrArg some (Int.toNat_of_nonneg nonneg)
  · next negative =>
    obtain ⟨c, cs, same, digits, value⟩ := shape (-n).toNat
    rw [same, (parseInt_digits digits).2, value]
    congr 1
    omega

/-- The time value of `new Date(ms)`; none is an invalid date. -/
def timeClip (ms : Int) : Option Int := if ms.natAbs ≤ 8640000000000000 then some ms else none

end PayBridge
