import Mathlib.Data.List.Basic
import Mathlib.Tactic.Common

namespace Codec

/-- The digits that lower-case hexadecimal text is made of. -/
def lowerHex : List Char := ['0', '1', '2', '3', '4', '5', '6', '7', '8', '9', 'a', 'b', 'c', 'd', 'e', 'f']

/-- The value of a hexadecimal digit in either case. -/
def hexValue (c : Char) : Option Nat :=
  if c.isDigit then some (c.toNat - '0'.toNat)
  else if 'a'.toNat ≤ c.toNat ∧ c.toNat ≤ 'f'.toNat then some (c.toNat - 'a'.toNat + 10)
  else if 'A'.toNat ≤ c.toNat ∧ c.toNat ≤ 'F'.toNat then some (c.toNat - 'A'.toNat + 10)
  else none

/-- The bytes of hexadecimal text, up to the first pair that is none. -/
def hexBytes : List Char → List Nat
  | high :: low :: rest =>
    match hexValue high, hexValue low with
    | some h, some l => (16 * h + l) :: hexBytes rest
    | _, _ => []
  | _ => []

theorem hexValue_lower {c : Char} (lower : c ∈ lowerHex) : ∃ v, hexValue c = some v ∧ v < 16 := by
  have all : lowerHex.all (fun c => (hexValue c).any (· < 16)) = true := by decide
  have bounded := List.all_eq_true.mp all c lower
  cases value : hexValue c with
  | none => simp [value] at bounded
  | some v => exact ⟨v, rfl, by simpa [value] using bounded⟩

theorem hexValue_inj {c d : Char} (left : c ∈ lowerHex) (right : d ∈ lowerHex) (same : hexValue c = hexValue d) : c = d := by
  have all : lowerHex.all (fun c => lowerHex.all fun d => !(hexValue c == hexValue d) || c == d) = true := by decide +kernel
  have pair := List.all_eq_true.mp (List.all_eq_true.mp all c left) d right
  simpa [same] using pair

theorem hexBytes_lower {high low : Char} (rest : List Char) (left : high ∈ lowerHex) (right : low ∈ lowerHex) :
    ∃ h l, hexValue high = some h ∧ hexValue low = some l ∧ l < 16 ∧
      hexBytes (high :: low :: rest) = (16 * h + l) :: hexBytes rest := by
  obtain ⟨h, valueHigh, _⟩ := hexValue_lower left
  obtain ⟨l, valueLow, bound⟩ := hexValue_lower right
  refine ⟨h, l, valueHigh, valueLow, bound, ?_⟩
  simp only [hexBytes, valueHigh, valueLow]

/-- Lower-case hexadecimal text of so many bytes. -/
structure HexText (bytes : Nat) where
  chars : List Char
  lower : ∀ c ∈ chars, c ∈ lowerHex
  length : chars.length = 2 * bytes
  deriving DecidableEq

@[ext] theorem HexText.ext {bytes : Nat} {s t : HexText bytes} (same : s.chars = t.chars) : s = t := by
  cases s
  cases t
  cases same
  rfl

theorem lower_of_all {s : List Char} (all : s.all lowerHex.contains = true) : ∀ c ∈ s, c ∈ lowerHex := fun c member =>
  List.contains_iff_mem.mp (List.all_eq_true.mp all c member)

/-- Text of one byte more starts with a pair of digits. -/
theorem pair_first {bytes : Nat} {s : List Char} (length : s.length = 2 * (bytes + 1)) :
    ∃ high low rest, s = high :: low :: rest ∧ rest.length = 2 * bytes := by
  match s, length with
  | high :: low :: rest, length =>
    simp only [List.length_cons] at length
    exact ⟨high, low, rest, rfl, by omega⟩

theorem hexBytes_length {bytes : Nat} {s : List Char} (lower : ∀ c ∈ s, c ∈ lowerHex) (length : s.length = 2 * bytes) :
    (hexBytes s).length = bytes := by
  induction bytes generalizing s with
  | zero =>
    rw [List.length_eq_zero_iff.mp length]
    rfl
  | succ n ih =>
    obtain ⟨high, low, rest, rfl, shorter⟩ := pair_first length
    simp only [List.forall_mem_cons] at lower
    obtain ⟨h, l, _, _, _, decoded⟩ := hexBytes_lower rest lower.1 lower.2.1
    rw [decoded, List.length_cons, ih lower.2.2 shorter]

/-- Lower-case text of one length can be told from its bytes. -/
theorem hexBytes_inj {bytes : Nat} {s t : List Char} (lowerLeft : ∀ c ∈ s, c ∈ lowerHex) (lowerRight : ∀ c ∈ t, c ∈ lowerHex)
    (left : s.length = 2 * bytes) (right : t.length = 2 * bytes) (same : hexBytes s = hexBytes t) : s = t := by
  induction bytes generalizing s t with
  | zero => rw [List.length_eq_zero_iff.mp left, List.length_eq_zero_iff.mp right]
  | succ n ih =>
    obtain ⟨high, low, rest, rfl, shorter⟩ := pair_first left
    obtain ⟨high', low', rest', rfl, shorter'⟩ := pair_first right
    simp only [List.forall_mem_cons] at lowerLeft lowerRight
    obtain ⟨h, l, valueHigh, valueLow, bound, decoded⟩ := hexBytes_lower rest lowerLeft.1 lowerLeft.2.1
    obtain ⟨h', l', valueHigh', valueLow', bound', decoded'⟩ :=
      hexBytes_lower rest' lowerRight.1 lowerRight.2.1
    rw [decoded, decoded', List.cons.injEq] at same
    have highs : h = h' := by omega
    have lows : l = l' := by omega
    have first : high = high' := hexValue_inj lowerLeft.1 lowerRight.1 (by rw [valueHigh, valueHigh', highs])
    have second : low = low' := hexValue_inj lowerLeft.2.1 lowerRight.2.1 (by rw [valueLow, valueLow', lows])
    rw [first, second, ih lowerLeft.2.2 lowerRight.2.2 shorter shorter' same.2]

namespace HexText
variable {bytes : Nat}

def toBytes (s : HexText bytes) : List Nat := hexBytes s.chars

@[simp] theorem toBytes_length (s : HexText bytes) : s.toBytes.length = bytes := hexBytes_length s.lower s.length

@[simp] theorem toBytes_inj {s t : HexText bytes} : s.toBytes = t.toBytes ↔ s = t :=
  ⟨fun same => HexText.ext (hexBytes_inj s.lower t.lower s.length t.length same), congrArg toBytes⟩

end HexText

end Codec
