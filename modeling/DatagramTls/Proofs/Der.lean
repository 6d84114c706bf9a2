import DatagramTls.Der
import Mathlib.Data.Nat.Digits.Defs

/-!
Elements have one encoding each. Reading finds exactly what writing produces,
for lengths, for single elements and for the elements inside an element.
-/

namespace DatagramTls.Der

/-! Lengths -/

theorem bigEndian_eq_ofDigits (bytes : List UInt8) :
    bigEndian bytes = Nat.ofDigits 256 (bytes.map UInt8.toNat).reverse := by
  rw [bigEndian, List.foldl_eq_foldr_reverse, ← List.map_reverse,
    Nat.ofDigits_eq_foldr, List.foldr_map]
  simp only [Nat.cast_id, Nat.add_comm]

theorem digits_bigEndian {bytes : List UInt8} (leading : bytes.head? ≠ some 0) :
    Nat.digits 256 (bigEndian bytes) = (bytes.map UInt8.toNat).reverse := by
  rw [bigEndian_eq_ofDigits]
  apply Nat.digits_ofDigits 256 (by decide)
  · intro digit member
    rw [List.mem_reverse, List.mem_map] at member
    obtain ⟨byte, _, rfl⟩ := member
    exact byte.toNat_lt
  · intro nonempty
    cases bytes with
    | nil => exact absurd rfl nonempty
    | cons first rest =>
        have nonzero : first ≠ 0 := by simpa using leading
        simpa [← UInt8.toNat_inj] using nonzero

theorem eq_of_bigEndian_eq {left right : List UInt8}
    (leading : left.head? ≠ some 0) (leading' : right.head? ≠ some 0)
    (same : bigEndian left = bigEndian right) : left = right := by
  have digits := digits_bigEndian leading
  rw [same, digits_bigEndian leading'] at digits
  rw [List.reverse_inj, List.map_inj_right fun _ _ => UInt8.toNat_inj.mp]
    at digits
  exact digits.symm

theorem bigEndian_dropWhile_zero (bytes : List UInt8) :
    bigEndian (bytes.dropWhile (· = 0)) = bigEndian bytes := by
  induction bytes with
  | nil => rfl
  | cons first rest induction =>
      rw [List.dropWhile_cons]
      split
      case isTrue zero =>
          obtain rfl := of_decide_eq_true zero
          rw [induction]
          rfl
      case isFalse => rfl

theorem bigEndian_fewestBytes {value : Nat} (bounded : value ≤ maxLength) :
    bigEndian (fewestBytes value) = value := by
  rw [fewestBytes, bigEndian_dropWhile_zero]
  unfold maxLength at bounded
  simp only [bigEndian, List.map_cons, List.map_nil, List.foldl_cons,
    List.foldl_nil, UInt8.toNat_ofNat']
  omega

theorem head?_fewestBytes (value : Nat) :
    (fewestBytes value).head? ≠ some 0 := by
  intro leading
  have nonzero := List.head?_dropWhile_not (fun byte : UInt8 => byte = 0)
    ([value / 0x1000000, value / 0x10000, value / 0x100, value].map UInt8.ofNat)
  unfold fewestBytes at leading
  rw [leading] at nonzero
  cases nonzero

theorem length_fewestBytes_le (value : Nat) :
    (fewestBytes value).length ≤ 4 :=
  (List.dropWhile_suffix _).length_le

theorem fewestBytes_ne_nil {value : Nat} (bounded : value ≤ maxLength)
    (positive : 0 < value) : fewestBytes value ≠ [] := by
  intro empty
  have zero := bigEndian_fewestBytes bounded
  rw [empty] at zero
  exact absurd zero positive.ne

theorem readLength?_encodeLength {length : Nat} (bounded : length ≤ maxLength)
    (rest : List UInt8) :
    readLength? (encodeLength length ++ rest) = some (length, rest) := by
  unfold encodeLength
  split
  case isTrue short =>
      have value : (UInt8.ofNat length).toNat = length :=
        UInt8.toNat_ofNat_of_lt (short.trans (by decide))
      have single : UInt8.ofNat length < 0x80 := by
        rw [UInt8.lt_iff_toNat_lt, value]
        exact short
      simp only [List.singleton_append, readLength?, if_pos single, value]
  case isFalse long =>
      have few := length_fewestBytes_le length
      have nonempty := fewestBytes_ne_nil bounded (by omega)
      have some := List.length_pos_iff.mpr nonempty
      have value : (UInt8.ofNat (0x80 + (fewestBytes length).length)).toNat =
          0x80 + (fewestBytes length).length :=
        UInt8.toNat_ofNat_of_lt (show _ < 256 by omega)
      have several :
          ¬ UInt8.ofNat (0x80 + (fewestBytes length).length) < 0x80 := by
        rw [UInt8.lt_iff_toNat_lt, value]
        show ¬ _ < 128
        omega
      have leading : (fewestBytes length ++ rest).head? ≠ Option.some 0 := by
        rw [List.head?_append, List.head?_eq_some_head nonempty, Option.some_or,
          ← List.head?_eq_some_head nonempty]
        exact head?_fewestBytes length
      simp only [List.cons_append, readLength?, if_neg several, value,
        Nat.add_sub_cancel_left, List.take_left, List.drop_left,
        bigEndian_fewestBytes bounded]
      rw [if_pos ⟨some, few, by simp, leading, Nat.not_lt.mp long, bounded⟩]

theorem eq_encodeLength_of_readLength? {bytes rest : List UInt8} {length : Nat}
    (read : readLength? bytes = some (length, rest)) :
    bytes = encodeLength length ++ rest ∧ length ≤ maxLength := by
  cases bytes with
  | nil => cases read
  | cons first tail =>
      simp only [readLength?] at read
      split at read
      case isTrue short =>
          cases read
          have small : first.toNat < 0x80 := UInt8.lt_iff_toNat_lt.mp short
          refine ⟨?_, small.le.trans (by decide)⟩
          rw [encodeLength, if_pos small, UInt8.ofNat_toNat,
            List.singleton_append]
      case isFalse long =>
          split at read
          case isTrue formed =>
              obtain ⟨positive, _, available, leading, least, bounded⟩ := formed
              rw [Option.some.injEq, Prod.mk.injEq] at read
              obtain ⟨rfl, rfl⟩ := read
              refine ⟨?_, bounded⟩
              -- What was read are the digits: there is one way to write them.
              have digits :
                  fewestBytes (bigEndian (tail.take (first.toNat - 0x80))) =
                    tail.take (first.toNat - 0x80) := by
                apply eq_of_bigEndian_eq (head?_fewestBytes _)
                · rwa [List.head?_take, if_neg (by omega)]
                · exact bigEndian_fewestBytes bounded
              have large : 0x80 ≤ first.toNat := by
                rw [UInt8.lt_iff_toNat_lt] at long
                exact Nat.not_lt.mp long
              rw [encodeLength, if_neg (Nat.not_lt.mpr least)]
              simp only [digits, List.length_take, Nat.min_eq_left available,
                Nat.add_sub_cancel' large, UInt8.ofNat_toNat, List.cons_append,
                List.take_append_drop]
          case isFalse => cases read

/-! Elements -/

namespace Element

/-- The elements that can be written. -/
structure Valid (element : Element) : Prop where
  tag : Tag.isValid element.tag = true
  length : element.content.length ≤ maxLength

theorem read?_encode {element : Element} (valid : element.Valid)
    (rest : List UInt8) :
    read? (element.encode ++ rest) = some (element, rest) := by
  simp only [encode, List.cons_append, List.append_assoc, read?,
    if_pos valid.tag, readLength?_encodeLength valid.length]
  rw [if_pos (by simp), List.take_left, List.drop_left]

theorem eq_encode_of_read? {bytes rest : List UInt8} {element : Element}
    (read : read? bytes = some (element, rest)) :
    element.Valid ∧ bytes = element.encode ++ rest := by
  cases bytes with
  | nil => cases read
  | cons tag tail =>
      simp only [read?] at read
      split at read
      case isTrue allowed =>
          split at read
          · cases read
          next length afterLength found =>
            split at read
            case isTrue available =>
                obtain ⟨rfl, bounded⟩ := eq_encodeLength_of_readLength? found
                cases read
                have full : (afterLength.take length).length = length := by
                  rw [List.length_take, Nat.min_eq_left available]
                refine ⟨⟨allowed, by rwa [full]⟩, ?_⟩
                simp only [encode, full, List.cons_append, List.append_assoc,
                  List.take_append_drop]
            case isFalse => cases read
      case isFalse => cases read

/-- Reading an element finds what writing it produced, and nothing else. -/
theorem read?_eq_some_iff {bytes rest : List UInt8} {element : Element} :
    read? bytes = some (element, rest) ↔
      element.Valid ∧ bytes = element.encode ++ rest := by
  constructor
  · exact eq_encode_of_read?
  · rintro ⟨valid, rfl⟩
    exact read?_encode valid rest

theorem ofBytes?_eq_some_iff {bytes : List UInt8} {element : Element} :
    ofBytes? bytes = some element ↔ element.Valid ∧ bytes = element.encode := by
  constructor
  · intro read
    unfold ofBytes? at read
    split at read
    next found =>
      cases read
      simpa using eq_encode_of_read? found
    next => cases read
  · rintro ⟨valid, rfl⟩
    have read := read?_encode valid []
    rw [List.append_nil] at read
    rw [ofBytes?, read]

theorem readAll?_eq_some_iff {bytes : List UInt8} {elements : List Element} :
    readAll? bytes = some elements ↔
      (∀ element ∈ elements, element.Valid) ∧
        bytes = elements.flatMap encode := by
  fun_induction readAll? bytes generalizing elements with
  | case1 =>
      constructor
      · intro none
        cases none
        exact ⟨by simp, rfl⟩
      · rintro ⟨_, empty⟩
        cases elements with
        | nil => rfl
        | cons element others => cases empty
  | case2 first others failed =>
      constructor
      · intro read
        cases read
      · rintro ⟨valid, whole⟩
        cases elements with
        | nil => cases whole
        | cons element rest =>
            rw [whole, List.flatMap_cons,
              read?_encode (valid element List.mem_cons_self)] at failed
            cases failed
  | case3 first others element rest found induction =>
      obtain ⟨valid, whole⟩ := read?_eq_some_iff.mp found
      constructor
      · intro read
        obtain ⟨inner, readRest, rfl⟩ := Option.map_eq_some_iff.mp read
        obtain ⟨validRest, rfl⟩ := induction.mp readRest
        exact ⟨List.forall_mem_cons.mpr ⟨valid, validRest⟩, whole⟩
      · rintro ⟨validAll, same⟩
        cases elements with
        | nil => cases same
        | cons element' inner =>
            obtain ⟨valid', validRest⟩ := List.forall_mem_cons.mp validAll
            rw [same, List.flatMap_cons, read?_encode valid'] at found
            cases found
            rw [induction.mpr ⟨validRest, rfl⟩]
            rfl

def ofElements (tag : UInt8) (elements : List Element) : Element :=
  ⟨tag, elements.flatMap encode⟩

theorem elements?_eq_some_iff {element : Element} {tag : UInt8}
    {elements : List Element} :
    element.elements? tag = some elements ↔
      (∀ inner ∈ elements, inner.Valid) ∧
        element = ofElements tag elements := by
  obtain ⟨elementTag, content⟩ := element
  rw [elements?, content?, Option.bind_eq_some_iff]
  simp only [Option.ite_none_right_eq_some, Option.some.injEq,
    readAll?_eq_some_iff, ofElements, Element.mk.injEq]
  constructor
  · rintro ⟨_, ⟨tagged, rfl⟩, valid, consists⟩
    exact ⟨valid, tagged, consists⟩
  · rintro ⟨valid, tagged, consists⟩
    exact ⟨_, ⟨tagged, rfl⟩, valid, consists⟩

end Element

end DatagramTls.Der
