import DatagramTls.Digest

/-!
The text of a fingerprint has one reading. What is read from it are the bytes
it was written for, and no other text is read as these bytes.
-/

namespace DatagramTls.Digest.Fingerprint

/-! Digits -/

theorem hexDigit_mem :
    ∀ value < 16, hexDigit value ∈ "0123456789ABCDEF".toList := by
  decide

theorem hexValue?_hexDigit :
    ∀ value < 16, hexValue? (hexDigit value) = some value := by
  decide

theorem toNat_le_of_hexValue? {digit : Char} {value : Nat}
    (read : hexValue? digit = some value) : digit.toNat ≤ 'F'.toNat := by
  unfold hexValue? at read
  split at read
  case isTrue decimal =>
      have last : digit.toNat ≤ '9'.toNat := decimal.right
      exact Nat.le_trans last (by decide)
  case isFalse =>
      split at read
      case isTrue letter => exact letter.right
      case isFalse => cases read

theorem hexValue?_eq_some_iff {digit : Char} {value : Nat} :
    hexValue? digit = some value ↔ value < 16 ∧ hexDigit value = digit := by
  constructor
  · intro read
    -- No digit comes after 'F', so there are few codes to go through.
    have table : ∀ code ≤ 'F'.toNat,
        ∀ value ∈ hexValue? (Char.ofNat code),
          value < 16 ∧ hexDigit value = Char.ofNat code := by
      decide
    have entry := table digit.toNat (toNat_le_of_hexValue? read)
    rw [Char.ofNat_toNat] at entry
    exact entry value read
  · rintro ⟨small, rfl⟩
    exact hexValue?_hexDigit value small

/-! Bytes -/

theorem ofNat_digits_eq_iff {byte : UInt8} {high low : Nat}
    (high_lt : high < 16) (low_lt : low < 16) :
    UInt8.ofNat (16 * high + low) = byte ↔
      high = byte.toNat / 16 ∧ low = byte.toNat % 16 := by
  rw [← UInt8.toNat_inj, UInt8.toNat_ofNat']
  omega

theorem byteOfPiece?_eq_some_iff {piece : List Char} {byte : UInt8} :
    byteOfPiece? piece = some byte ↔ piece = pair byte := by
  constructor
  · intro read
    unfold byteOfPiece? at read
    split at read
    case h_1 first second =>
        obtain ⟨high, readHigh, rest⟩ := Option.bind_eq_some_iff.mp read
        obtain ⟨low, readLow, value⟩ := Option.bind_eq_some_iff.mp rest
        obtain ⟨high_lt, rfl⟩ := hexValue?_eq_some_iff.mp readHigh
        obtain ⟨low_lt, rfl⟩ := hexValue?_eq_some_iff.mp readLow
        obtain ⟨rfl, rfl⟩ :=
          (ofNat_digits_eq_iff high_lt low_lt).mp (Option.some.inj value)
        rfl
    case h_2 => cases read
  · rintro rfl
    have bounded := byte.toNat_lt
    have high_lt : byte.toNat / 16 < 16 := by omega
    have low_lt : byte.toNat % 16 < 16 := by omega
    simp only [pair, byteOfPiece?, hexValue?_hexDigit _ high_lt,
      hexValue?_hexDigit _ low_lt, Option.bind_eq_bind, Option.bind_some,
      (ofNat_digits_eq_iff high_lt low_lt).mpr ⟨rfl, rfl⟩]

theorem mapM_byteOfPiece?_eq_some_iff {pieces : List (List Char)}
    {bytes : List UInt8} :
    pieces.mapM byteOfPiece? = some bytes ↔ pieces = bytes.map pair := by
  induction pieces generalizing bytes with
  | nil => cases bytes <;> simp
  | cons piece rest induction =>
      cases bytes with
      | nil => simp [List.mapM_cons, Option.bind_eq_some_iff]
      | cons byte bytes =>
          simp [List.mapM_cons, Option.bind_eq_some_iff,
            byteOfPiece?_eq_some_iff, induction]

theorem pair_subset (byte : UInt8) :
    pair byte ⊆ "0123456789ABCDEF".toList := by
  have bounded := byte.toNat_lt
  rw [pair, List.cons_subset, List.cons_subset]
  refine ⟨hexDigit_mem _ ?_, hexDigit_mem _ ?_, List.nil_subset _⟩
  · omega
  · omega

theorem colon_not_mem_pair (byte : UInt8) : ':' ∉ pair byte := by
  intro member
  exact absurd (pair_subset byte member) (by decide)

/-! Texts -/

theorem characters_eq_intercalate (bytes : List UInt8) :
    characters bytes = [':'].intercalate (bytes.map pair) := by
  fun_induction characters bytes with
  | case1 => rfl
  | case2 byte => exact List.intercalate_singleton.symm
  | case3 byte rest several induction =>
      obtain ⟨next, others, rfl⟩ := List.exists_cons_of_ne_nil several
      rw [List.map_cons, List.map_cons, List.intercalate_cons_cons,
        List.append_assoc, List.singleton_append, induction, List.map_cons]

theorem characters_eq_nil_iff {bytes : List UInt8} :
    characters bytes = [] ↔ bytes = [] := by
  fun_cases characters bytes <;> simp [pair]

theorem splitOn_eq_map_pair_iff {written : List Char} {bytes : List UInt8}
    (nonempty : written ≠ []) :
    written.splitOn ':' = bytes.map pair ↔ written = characters bytes := by
  constructor
  · intro split
    rw [characters_eq_intercalate, ← split, List.intercalate_splitOn]
  · rintro rfl
    rw [characters_eq_intercalate, List.splitOn_intercalate]
    · intro piece member
      obtain ⟨byte, _, rfl⟩ := List.mem_map.mp member
      exact colon_not_mem_pair byte
    · rwa [ne_eq, List.map_eq_nil_iff, ← characters_eq_nil_iff]

/-- A text is read as some bytes only if it is written for them. -/
theorem ofText?_eq_some_iff {written : String} {bytes : List UInt8} :
    ofText? written = some bytes ↔ written = text bytes := by
  rw [text, ← String.toList_inj, String.toList_ofList, ofText?]
  split
  case h_1 empty =>
      rw [empty, Option.some.injEq, eq_comm, eq_comm (a := []),
        characters_eq_nil_iff]
  case h_2 nonempty =>
      rw [mapM_byteOfPiece?_eq_some_iff, splitOn_eq_map_pair_iff nonempty]

theorem length_characters (bytes : List UInt8) :
    (characters bytes).length = 3 * bytes.length - 1 := by
  fun_induction characters bytes with
  | case1 => rfl
  | case2 byte => rfl
  | case3 byte rest several induction =>
      have counted := List.length_pos_iff.mpr several
      rw [List.length_append, List.length_cons, induction, List.length_cons]
      simp only [pair, List.length_cons, List.length_nil]
      omega

theorem characters_subset (bytes : List UInt8) :
    characters bytes ⊆ ':' :: "0123456789ABCDEF".toList := by
  have digits (byte : UInt8) := List.subset_cons_of_subset ':' (pair_subset byte)
  fun_induction characters bytes with
  | case1 => exact List.nil_subset _
  | case2 byte => exact digits byte
  | case3 byte rest several induction =>
      rw [List.append_subset, List.cons_subset]
      exact ⟨digits byte, List.mem_cons_self, induction⟩

/-- A text is read as the bytes it is written for and as no others, and these
bytes are read from no other text. It has two capital digits for each byte and a
colon between the bytes. -/
theorem text_identifies (bytes : List UInt8) :
    (∀ written, ofText? written = some bytes ↔ written = text bytes) ∧
      (text bytes).length = 3 * bytes.length - 1 ∧
      (text bytes).toList ⊆ ':' :: "0123456789ABCDEF".toList ∧
      ∀ other, text other = text bytes ↔ other = bytes := by
  refine ⟨fun written => ofText?_eq_some_iff, ?_, ?_, fun other => ?_⟩
  · rw [text, String.length_ofList, length_characters]
  · rw [text, String.toList_ofList]
    exact characters_subset bytes
  · calc text other = text bytes
        ↔ ofText? (text other) = some bytes := ofText?_eq_some_iff.symm
      _ ↔ some other = some bytes := by rw [ofText?_eq_some_iff.mpr rfl]
      _ ↔ other = bytes := Option.some_inj

example : text [0xAF, 0x02, 0xF0] = "AF:02:F0" := by decide

end DatagramTls.Digest.Fingerprint
