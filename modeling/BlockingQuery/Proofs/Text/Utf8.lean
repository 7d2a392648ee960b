import BlockingQuery.Text.Encoding
import Mathlib.Tactic.IntervalCases

/-!
# Reading UTF-8 back

The bytes that `String.utf8EncodeChar` writes for a character are read as that character
(`Encoding.scanUtf8_encodeChar`), whatever comes after them. So a text that is written in UTF-8 and
read again is the same text (`Encoding.decodeLossy_utf8`).
-/

namespace BlockingQuery.Text.Encoding

section
variable (surrogates : Bool)

/-! ## Single bytes -/

/-- A byte below 128 is a character by itself. -/
theorem isAscii_iff {n : Nat} (h : n < 256) : UInt8.ofNat n < 0x80 ↔ n < 128 := by
  have hbound : (0x80 : UInt8).toNat = 128 := rfl
  rw [UInt8.lt_iff_toNat_lt, UInt8.toNat_ofNat', hbound]
  omega

/-- The first byte of a sequence of two announces one more. -/
theorem leading?_two {n : Nat} (hmin : 2 ≤ n) (hmax : n < 32) :
    leading? surrogates (UInt8.ofNat (n + 192)) = some ⟨1, UInt32.ofNat n, 0x80, 0xBF⟩ := by
  interval_cases n <;> rfl

/-- The first byte of a sequence of three announces two more. -/
theorem leading?_three {n : Nat} (hmax : n < 16) :
    leading? surrogates (UInt8.ofNat (n + 224)) =
      some ⟨2, UInt32.ofNat n, if n = 0 then 0xA0 else 0x80,
        if n = 13 ∧ surrogates = false then 0x9F else 0xBF⟩ := by
  cases surrogates <;> interval_cases n <;> rfl

/-- The first byte of a sequence of four announces three more. -/
theorem leading?_four {n : Nat} (hmax : n < 5) :
    leading? surrogates (UInt8.ofNat (n + 240)) =
      some ⟨3, UInt32.ofNat n, if n = 0 then 0x90 else 0x80, if n = 4 then 0x8F else 0xBF⟩ := by
  interval_cases n <;> rfl

/-- The bits of a byte that goes on with a sequence. -/
theorem bits_of_tail {k : Nat} (hk : k < 64) :
    (UInt8.ofNat (k + 128) &&& 0x3F).toUInt32 = UInt32.ofNat k := by
  interval_cases k <;> rfl

variable {surrogates} {bs : List UInt8}

/-- A byte that opens a sequence leaves the bytes to come that it announces. -/
theorem scanUtf8_leading {b : UInt8} {p : Pending} (hb : ¬b < 0x80)
    (h : leading? surrogates b = some p) :
    scanUtf8 surrogates none (b :: bs) = scanUtf8 surrogates (some p) bs := by
  rw [scanUtf8, accept, first, if_neg hb, h]
  rfl

/-- A byte that is within the bounds of the open sequence. -/
theorem accept_tail {left bits k : Nat} {least greatest : UInt8} (hk : k < 64)
    (hleast : least.toNat ≤ k + 128) (hgreatest : k + 128 ≤ greatest.toNat) :
    accept surrogates (UInt8.ofNat (k + 128)) (some ⟨left, UInt32.ofNat bits, least, greatest⟩) =
      if left ≤ 1 then ([some (UInt32.ofNat (bits * 64 + k))], none)
      else ([], some ⟨left - 1, UInt32.ofNat (bits * 64 + k), 0x80, 0xBF⟩) := by
  have hbyte : (UInt8.ofNat (k + 128)).toNat = k + 128 := by
    rw [UInt8.toNat_ofNat']
    omega
  have hwithin : (least ≤ UInt8.ofNat (k + 128) && UInt8.ofNat (k + 128) ≤ greatest) = true := by
    simp only [UInt8.le_iff_toNat_le, hbyte, Bool.and_eq_true, decide_eq_true_eq]
    exact ⟨hleast, hgreatest⟩
  have hbits : UInt32.ofNat bits * 64 + (UInt8.ofNat (k + 128) &&& 0x3F).toUInt32 =
      UInt32.ofNat (bits * 64 + k) := by
    rw [bits_of_tail hk, UInt32.ofNat_add, UInt32.ofNat_mul]
    rfl
  rw [accept, if_pos hwithin, hbits]

/-- The last byte of a sequence completes the character. -/
theorem scanUtf8_last {bits k : Nat} {least greatest : UInt8} (hk : k < 64)
    (hleast : least.toNat ≤ k + 128) (hgreatest : k + 128 ≤ greatest.toNat) :
    scanUtf8 surrogates (some ⟨1, UInt32.ofNat bits, least, greatest⟩)
        (UInt8.ofNat (k + 128) :: bs) =
      some (UInt32.ofNat (bits * 64 + k)) :: scanUtf8 surrogates none bs := by
  rw [scanUtf8, accept_tail hk hleast hgreatest]
  rfl

/-- A byte in the middle of a sequence leaves one byte less to come. -/
theorem scanUtf8_middle {left bits k : Nat} {least greatest : UInt8} (hk : k < 64)
    (hleast : least.toNat ≤ k + 128) (hgreatest : k + 128 ≤ greatest.toNat) :
    scanUtf8 surrogates (some ⟨left + 2, UInt32.ofNat bits, least, greatest⟩)
        (UInt8.ofNat (k + 128) :: bs) =
      scanUtf8 surrogates (some ⟨left + 1, UInt32.ofNat (bits * 64 + k), 0x80, 0xBF⟩) bs := by
  rw [scanUtf8, accept_tail hk hleast hgreatest, if_neg (by omega)]
  rfl

/-! ## Texts -/

/-- The bytes of a character are read as that character. -/
@[simp] theorem scanUtf8_encodeChar (c : Char) (bs : List UInt8) :
    scanUtf8 surrogates none (String.utf8EncodeChar c ++ bs) =
      some c.val :: scanUtf8 surrogates none bs := by
  have hval : UInt32.ofNat c.val.toNat = c.val := UInt32.ofNat_toNat
  have hvalid : c.val.toNat < 0xD800 ∨ 0xDFFF < c.val.toNat ∧ c.val.toNat < 0x110000 := c.valid
  rw [String.utf8EncodeChar]
  generalize c.val.toNat = v at hval hvalid
  have hlarge (n m : Nat) (hm : 128 ≤ m) (hn : n + m < 256) : ¬UInt8.ofNat (n + m) < 0x80 := by
    rw [isAscii_iff hn]
    omega
  split
  next hone =>
    have hsmall : UInt8.ofNat v < 0x80 := (isAscii_iff (by omega)).2 (by omega)
    have hbyte : (UInt8.ofNat v).toUInt32 = c.val := by
      rw [← hval, ← UInt32.toNat_inj, UInt8.toNat_toUInt32, UInt8.toNat_ofNat', UInt32.toNat_ofNat']
      omega
    rw [List.singleton_append, scanUtf8, accept, first, if_pos hsmall, hbyte]
    rfl
  split
  next _ htwo =>
    have hbits : v / 64 % 32 * 64 + v % 64 = v := by omega
    simp only [List.cons_append, List.nil_append]
    rw [scanUtf8_leading (hlarge _ _ (by omega) (by omega))
        (leading?_two surrogates (by omega) (by omega)),
      scanUtf8_last (by omega) (by simp) (by simp; omega), hbits, hval]
  split
  next _ _ hthree =>
    have hbits : (v / 4096 % 16 * 64 + v / 64 % 64) * 64 + v % 64 = v := by omega
    simp only [List.cons_append, List.nil_append]
    rw [scanUtf8_leading (hlarge _ _ (by omega) (by omega))
        (leading?_three surrogates (by omega)),
      scanUtf8_middle (by omega) (by split <;> simp; omega) (by split <;> simp <;> omega),
      scanUtf8_last (by omega) (by simp) (by simp; omega), hbits, hval]
  next _ _ hfour =>
    have hbits : ((v / 262144 % 8 * 64 + v / 4096 % 64) * 64 + v / 64 % 64) * 64 + v % 64 = v := by
      omega
    simp only [List.cons_append, List.nil_append]
    rw [scanUtf8_leading (hlarge _ _ (by omega) (by omega)) (leading?_four surrogates (by omega)),
      scanUtf8_middle (by omega) (by split <;> simp; omega) (by split <;> simp <;> omega),
      scanUtf8_middle (by omega) (by simp) (by simp; omega),
      scanUtf8_last (by omega) (by simp) (by simp; omega), hbits, hval]

/-- The bytes of a text are read as that text. -/
@[simp] theorem scanUtf8_flatMap (cs : List Char) :
    scanUtf8 surrogates none (cs.flatMap String.utf8EncodeChar) = cs.map fun c => some c.val := by
  induction cs with
  | nil => rfl
  | cons c cs ih => rw [List.flatMap_cons, scanUtf8_encodeChar, ih, List.map_cons]

end

/-- A text that is written in UTF-8 and read again is the same text. -/
@[simp] theorem decodeLossy_utf8 (cs : List Char) :
    utf8.decodeLossy (cs.flatMap String.utf8EncodeChar) = String.ofList cs := by
  have hfill : utf8.fill (cs.flatMap String.utf8EncodeChar) =
      CodePoints.ofString (String.ofList cs) := by
    rw [fill, scan, scanUtf8_flatMap, List.map_map, CodePoints.ofString, String.toList_ofList]
    rfl
  rw [decodeLossy, hfill, CodePoints.toString_ofString]

end BlockingQuery.Text.Encoding
