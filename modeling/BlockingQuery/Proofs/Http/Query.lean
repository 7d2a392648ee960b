import BlockingQuery.Http.Query
import BlockingQuery.Proofs.Http.NormalForm
import BlockingQuery.Proofs.Text.Utf8

/-!
# Reading form data back

The fields of a query that `Query.encode` wrote are the fields that it was given
(`Query.fields_encode`), whatever characters their names and values have. A plus sign in a name or a
value is escaped, so reading plus signs as spaces first takes none away. What `Query.encode` writes
may stand in a URL as it is (`Query.all_encode`), and normalising the URL leaves it alone.
-/

namespace BlockingQuery

/-! ## Escapes -/

namespace Percent

/-- The two digits of an escape have the value of the byte. -/
theorem value_of_digits :
    ∀ b : UInt8, hexValue? (hexDigit (b / 16)) = some (b / 16) ∧
      hexValue? (hexDigit (b % 16)) = some (b % 16) ∧ b / 16 * 16 + b % 16 = b := by
  decide +kernel

/-- The characters of escapes are no separators of form data, and no spaces. -/
theorem separators_of_escape :
    ∀ b : UInt8, '+' ∉ escape b ∧ '&' ∉ escape b ∧ '=' ∉ escape b := by
  unfold escape
  decide +kernel

/-- An escape is read as its byte. -/
@[simp] theorem bytes_escape (b : UInt8) (cs : List Char) :
    bytes (escape b ++ cs) = b :: bytes cs := by
  obtain ⟨hhigh, hlow, hsum⟩ := value_of_digits b
  simp only [escape, List.cons_append, List.nil_append]
  rw [bytes, hhigh, hlow]
  dsimp only
  rw [hsum]

/-- Escapes are read as their bytes. -/
@[simp] theorem bytes_escapes (bs : List UInt8) (cs : List Char) :
    bytes (bs.flatMap escape ++ cs) = bs ++ bytes cs := by
  induction bs with
  | nil => rfl
  | cons b bs ih => rw [List.flatMap_cons, List.append_assoc, bytes_escape, ih, List.cons_append]

/-- A character that begins no escape is read as its bytes. -/
theorem bytes_cons {c : Char} (hc : c ≠ '%') (cs : List Char) :
    bytes (c :: cs) = String.utf8EncodeChar c ++ bytes cs := by
  conv_lhs => unfold bytes
  split
  next h => cases h
  next h =>
    cases h
    exact absurd rfl hc
  next h =>
    cases h
    rfl

/-! ## Characters that need no escape -/

/-- What holds of all ASCII characters one by one holds of any of them. -/
theorem of_isAscii {P : Char → Prop} (h : ∀ n : Fin 128, P (Char.ofNat n)) {c : Char}
    (hc : c.toNat < 128) : P c := by
  have hsame := h ⟨c.toNat, hc⟩
  rwa [Char.ofNat_toNat] at hsame

/-- Characters that never need an escape are ASCII. -/
theorem isAscii_of_isUnreserved {c : Char} (h : isUnreserved c = true) : c.toNat < 128 := by
  have below {d : Char} (h : c.val ≤ d.val) (hd : d.toNat < 128) : c.toNat < 128 :=
    lt_of_le_of_lt (UInt32.le_iff_toNat_le.1 h) hd
  simp only [isUnreserved, Bool.or_eq_true, beq_iff_eq] at h
  rcases h with (((h | rfl) | rfl) | rfl) | rfl
  · rcases Bool.or_eq_true_iff.1 h with hletter | hdigit
    · rcases Bool.or_eq_true_iff.1 hletter with hupper | hlower
      · exact below (d := 'Z') (of_decide_eq_true hupper).2 (by decide)
      · exact below (d := 'z') (of_decide_eq_true (Bool.and_eq_true_iff.1 hlower).2) (by decide)
    · exact below (d := '9') (of_decide_eq_true (Bool.and_eq_true_iff.1 hdigit).2) (by decide)
  all_goals decide

/-- Unreserved characters separate nothing, and may stand in a query. -/
theorem plain_of_isUnreserved {c : Char} (h : isUnreserved c = true) :
    c ≠ '+' ∧ c ≠ '%' ∧ c ≠ '&' ∧ c ≠ '=' ∧ Url.isQuerySafe c = true := by
  refine of_isAscii (P := fun c => isUnreserved c = true →
    c ≠ '+' ∧ c ≠ '%' ∧ c ≠ '&' ∧ c ≠ '=' ∧ Url.isQuerySafe c = true) ?_
    (isAscii_of_isUnreserved h) h
  decide +kernel

/-! ## Names and values -/

/-- The characters of a name or a value of form data. -/
theorem mem_encodeForm {c : Char} {cs : List Char} (h : c ∈ encodeForm cs) :
    c = '+' ∨ isUnreserved c = true ∨ ∃ b, c ∈ escape b := by
  obtain ⟨d, -, hd⟩ := List.mem_flatMap.1 h
  split at hd
  next => exact .inl (List.mem_singleton.1 hd)
  next =>
    rw [encode, List.flatMap_cons, List.flatMap_nil, List.append_nil] at hd
    split at hd
    next hsafe => exact .inr (.inl (List.mem_singleton.1 hd ▸ hsafe))
    next =>
      obtain ⟨b, -, hb⟩ := List.mem_flatMap.1 hd
      exact .inr (.inr ⟨b, hb⟩)

/-- A name or a value of form data holds no separator, and may stand in a query. -/
theorem plain_of_mem_encodeForm {c : Char} {cs : List Char} (h : c ∈ encodeForm cs) :
    c ≠ '&' ∧ c ≠ '=' ∧ Url.isQuerySafe c = true := by
  rcases mem_encodeForm h with rfl | hplain | ⟨b, hb⟩
  · decide
  · exact (plain_of_isUnreserved hplain).2.2
  · obtain ⟨-, hamp, heq⟩ := separators_of_escape b
    exact ⟨fun hc => hamp (hc ▸ hb), fun hc => heq (hc ▸ hb),
      List.all_eq_true.1 (Url.keepsEscapes.2.1 b) c hb⟩

/-- A character as form data is read as its bytes. -/
theorem bytes_encodeForm_char (c : Char) (cs : List Char) :
    bytes ((encodeForm [c]).map (fun d => if d == '+' then ' ' else d) ++ cs) =
      String.utf8EncodeChar c ++ bytes cs := by
  rw [encodeForm, List.flatMap_cons, List.flatMap_nil, List.append_nil]
  split
  next hspace =>
    rw [beq_iff_eq.1 hspace]
    exact bytes_cons (by decide) cs
  next =>
    rw [encode, List.flatMap_cons, List.flatMap_nil, List.append_nil]
    split
    next hsafe =>
      obtain ⟨hplus, hpercent, -⟩ := plain_of_isUnreserved hsafe
      have hkept : (if c == '+' then ' ' else c) = c := if_neg (by simpa using hplus)
      rw [List.map_cons, List.map_nil, hkept]
      exact bytes_cons hpercent cs
    next =>
      have hkept : ((String.utf8EncodeChar c).flatMap escape).map
          (fun d => if d == '+' then ' ' else d) = (String.utf8EncodeChar c).flatMap escape := by
        refine (List.map_congr_left fun d hd => ?_).trans (List.map_id _)
        obtain ⟨b, -, hb⟩ := List.mem_flatMap.1 hd
        have hplus : d ≠ '+' := fun heq => (separators_of_escape b).1 (heq ▸ hb)
        exact if_neg (by simpa using hplus)
      rw [hkept, bytes_escapes]

/-- A name or a value of form data is read as it was. -/
@[simp] theorem decodeForm_encodeForm (cs : List Char) :
    decodeForm (encodeForm cs) = String.ofList cs := by
  have hbytes : bytes ((encodeForm cs).map fun d => if d == '+' then ' ' else d) =
      cs.flatMap String.utf8EncodeChar := by
    induction cs with
    | nil => rfl
    | cons c cs ih =>
      have hcons : encodeForm (c :: cs) = encodeForm [c] ++ encodeForm cs := by
        simp [encodeForm]
      rw [hcons, List.map_append, bytes_encodeForm_char, ih, List.flatMap_cons]
  rw [decodeForm, decode, hbytes, Text.Encoding.decodeLossy_utf8]

end Percent

/-! ## Queries -/

namespace Query

/-- A field as form data. -/
def piece (field : String × String) : List Char :=
  Percent.encodeForm field.1.toList ++ '=' :: Percent.encodeForm field.2.toList

theorem encode_eq (fields : List (String × String)) :
    encode fields = ['&'].intercalate (fields.map piece) := rfl

/-- A field that was written is read as it was. -/
@[simp] theorem field_piece (e : String × String) : field (piece e) = e := by
  have hname : ∀ c ∈ Percent.encodeForm e.1.toList, (c != '=') = true := fun c hc => by
    simpa using (Percent.plain_of_mem_encodeForm hc).2.1
  rw [field, piece, List.takeWhile_append_of_pos hname, List.dropWhile_append_of_pos hname,
    List.takeWhile_cons_of_neg (by simp), List.dropWhile_cons_of_neg (by simp), List.append_nil,
    List.drop_one, List.tail_cons, Percent.decodeForm_encodeForm, Percent.decodeForm_encodeForm,
    String.ofList_toList, String.ofList_toList]

/-- No field holds the separator of fields. -/
theorem not_mem_piece (e : String × String) : '&' ∉ piece e := by
  intro h
  rcases List.mem_append.1 h with h | h
  · exact (Percent.plain_of_mem_encodeForm h).1 rfl
  · rcases List.mem_cons.1 h with h | h
    · exact absurd h (by decide)
    · exact (Percent.plain_of_mem_encodeForm h).1 rfl

/-- Fields that were written are read as they were. -/
@[simp] theorem fields_encode (es : List (String × String)) : fields (encode es) = es := by
  rcases es with _ | ⟨e, es⟩
  · rfl
  · have hsplit : (encode (e :: es)).splitOn '&' = (e :: es).map piece := by
      refine List.splitOn_intercalate '&' (fun cs hcs => ?_) (by simp)
      obtain ⟨e', -, rfl⟩ := List.mem_map.1 hcs
      exact not_mem_piece e'
    have hkept : ((e :: es).map piece).filter (fun cs => !cs.isEmpty) = (e :: es).map piece := by
      refine List.filter_eq_self.2 fun cs hcs => ?_
      obtain ⟨e', -, rfl⟩ := List.mem_map.1 hcs
      simp [piece]
    rw [fields, hsplit, hkept, List.map_map]
    exact (List.map_congr_left fun e' _ => field_piece e').trans (List.map_id _)

/-- What is written for fields may stand in a URL as it is. -/
theorem all_encode (es : List (String × String)) : (encode es).all Url.isQuerySafe = true := by
  have hpiece (e : String × String) : ∀ c ∈ piece e, Url.isQuerySafe c = true := by
    intro c hc
    rcases List.mem_append.1 hc with hc | hc
    · exact (Percent.plain_of_mem_encodeForm hc).2.2
    · rcases List.mem_cons.1 hc with rfl | hc
      · decide
      · exact (Percent.plain_of_mem_encodeForm hc).2.2
  rw [List.all_eq_true, encode_eq]
  induction es with
  | nil => simp
  | cons e es ih =>
    rcases es with _ | ⟨e', es⟩
    · simpa using hpiece e
    · intro c hc
      rw [List.map_cons, List.map_cons, List.intercalate_cons_cons, List.append_assoc] at hc
      rcases List.mem_append.1 hc with hc | hc
      · exact hpiece e c hc
      · rcases List.mem_append.1 hc with hc | hc
        · rw [List.mem_singleton.1 hc]
          decide
        · exact ih c hc

end Query

end BlockingQuery
