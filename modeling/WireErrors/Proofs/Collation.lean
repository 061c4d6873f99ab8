import Mathlib.Data.List.Chain
import WireErrors.Model

/-!
# Collation of texts

Texts are compared character by character. The encoding of a smaller character comes before that of a
greater one whatever stands behind them (`octets_lt`), so that the order of texts is that of their
bytes (`bytes_lt_iff`) as well as that of their code points (`codePoints_lt_iff`).
-/

namespace WireErrors.Text

/-! ## Codes of characters -/

/-- Whether the codes of two characters decide how texts compare that start with them. -/
structure Increasing {α : Type} [LT α] (code : Char → List α) : Prop where
  ne_nil : ∀ c, code c ≠ []
  append_lt : ∀ {c d}, c < d → ∀ first second, code c ++ first < code d ++ second

section

variable {α : Type} [LT α] {code : Char → List α}

theorem Increasing.flatMap_lt (h : Increasing code) {first second : List Char}
    (hlt : first < second) : first.flatMap code < second.flatMap code := by
  induction hlt with
  | nil =>
    rename_i c rest
    obtain ⟨head, tail, hcode⟩ := List.exists_cons_of_ne_nil (h.ne_nil c)
    rw [List.flatMap_nil, List.flatMap_cons, hcode]
    exact List.nil_lt_cons _ _
  | cons _ ih =>
    rw [List.flatMap_cons, List.flatMap_cons]
    exact List.append_left_lt ih
  | rel hchar =>
    rw [List.flatMap_cons, List.flatMap_cons]
    exact h.append_lt hchar _ _

theorem Increasing.flatMap_lt_iff [Std.Asymm (α := α) (· < ·)] (h : Increasing code)
    {first second : List Char} :
    first.flatMap code < second.flatMap code ↔ first < second := by
  refine ⟨fun hlt => ?_, h.flatMap_lt⟩
  by_contra hnot
  rcases List.le_iff_lt_or_eq.mp (List.not_lt.mp hnot) with hgt | rfl
  · exact List.lt_asymm hlt (h.flatMap_lt hgt)
  · exact List.lt_irrefl _ hlt

end

/-! ## Bytes -/

/-- The bytes of a code point. -/
def octets (value : Nat) : List Nat :=
  if value ≤ 0x7f then [value]
  else if value ≤ 0x7ff then [value / 64 % 32 + 0xc0, value % 64 + 0x80]
  else if value ≤ 0xffff then [value / 4096 % 16 + 0xe0, value / 64 % 64 + 0x80, value % 64 + 0x80]
  else [value / 262144 % 8 + 0xf0, value / 4096 % 64 + 0x80, value / 64 % 64 + 0x80,
    value % 64 + 0x80]

theorem map_toNat_utf8EncodeChar (c : Char) :
    (String.utf8EncodeChar c).map UInt8.toNat = octets c.toNat := by
  unfold String.utf8EncodeChar octets
  dsimp only
  have hval : c.val.toNat = c.toNat := rfl
  rw [hval]
  split_ifs <;> simp <;> omega

theorem digits_lt {a b c d a' b' c' d' : Nat} (hb : b < 64) (hc : c < 64) (hd : d < 64)
    (hb' : b' < 64) (hc' : c' < 64) (hd' : d' < 64)
    (h : 262144 * a + 4096 * b + 64 * c + d < 262144 * a' + 4096 * b' + 64 * c' + d') :
    a < a' ∨ a = a' ∧ (b < b' ∨ b = b' ∧ (c < c' ∨ c = c' ∧ d < d')) := by
  omega

theorem eq_digits (value : Nat) : value = 262144 * (value / 262144) + 4096 * (value / 4096 % 64) +
    64 * (value / 64 % 64) + value % 64 := by
  omega

/-- The bytes of a smaller code point come first: an encoding that is longer starts with a greater
byte, and two of one length differ first where the code points do. -/
theorem octets_lt {value other : Nat} (h : value < other) (hother : other < 0x110000)
    (first second : List Nat) : octets value ++ first < octets other ++ second := by
  have hlead : value / 262144 % 8 = value / 262144 := by omega
  have hotherLead : other / 262144 % 8 = other / 262144 := by omega
  rw [eq_digits value, eq_digits other] at h
  have hdigits := digits_lt (Nat.mod_lt _ (by decide)) (Nat.mod_lt _ (by decide))
    (Nat.mod_lt _ (by decide)) (Nat.mod_lt _ (by decide)) (Nat.mod_lt _ (by decide))
    (Nat.mod_lt _ (by decide)) h
  unfold octets
  split_ifs <;> simp only [List.cons_append, List.nil_append, List.cons_lt_cons_iff] <;> omega

theorem toNat_lt (c : Char) : c.toNat < 0x110000 := by
  have hvalid := c.valid
  simp only [UInt32.isValidChar, Nat.isValidChar] at hvalid
  show c.val.toNat < _
  omega

theorem increasing_octets : Increasing fun c => octets c.toNat where
  ne_nil c := by
    unfold octets
    split_ifs <;> exact List.cons_ne_nil _ _
  append_lt {_ d} h := octets_lt (UInt32.lt_iff_toNat_lt.mp h) (toNat_lt d)

/-! ## Texts -/

/-- The bytes of a text in UTF-8. -/
def bytes (text : String) : List UInt8 := text.toUTF8.data.toList

def codePoints (text : String) : List Nat := text.toList.map Char.toNat

theorem map_toNat_bytes (text : String) :
    (bytes text).map UInt8.toNat = text.toList.flatMap fun c => octets c.toNat := by
  rw [bytes, String.toUTF8_eq_toByteArray, ← String.utf8Encode_toList, List.utf8Encode,
    List.toList_data_toByteArray, List.map_flatMap]
  simp only [map_toNat_utf8EncodeChar]

theorem map_toNat_lt_iff {first second : List UInt8} :
    first.map UInt8.toNat < second.map UInt8.toNat ↔ first < second := by
  induction first generalizing second with
  | nil => cases second <;> simp
  | cons byte first ih =>
    cases second with
    | nil => simp
    | cons other second =>
      rw [List.map_cons, List.map_cons, List.cons_lt_cons_iff, List.cons_lt_cons_iff, ih,
        UInt8.lt_iff_toNat_lt, UInt8.toNat_inj]

/-- **The order of texts is the one of their bytes.** -/
theorem bytes_lt_iff {first second : String} : bytes first < bytes second ↔ first < second := by
  rw [← map_toNat_lt_iff, map_toNat_bytes, map_toNat_bytes, increasing_octets.flatMap_lt_iff,
    String.lt_iff]

theorem codePoints_lt_iff {first second : String} :
    codePoints first < codePoints second ↔ first < second := by
  have hincreasing : Increasing fun c => [c.toNat] :=
    ⟨fun c => List.cons_ne_nil _ _, fun h _ _ =>
      List.cons_lt_cons_iff.mpr (.inl (UInt32.lt_iff_toNat_lt.mp h))⟩
  rw [codePoints, codePoints, List.map_eq_flatMap, List.map_eq_flatMap,
    hincreasing.flatMap_lt_iff, String.lt_iff]

theorem bytes_le_iff {first second : String} : bytes first ≤ bytes second ↔ first ≤ second := by
  rw [← List.not_lt, ← String.not_lt, bytes_lt_iff]

end WireErrors.Text
