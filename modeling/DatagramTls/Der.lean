/-!
The distinguished encoding rules. An element is a tag byte, a length and as many content bytes.
Lengths have one form each, so an element has one encoding: `Element.read?` finds exactly the
elements that `Element.encode` writes. The readers of values refuse any second way to write one.
-/

namespace DatagramTls.Der

structure Element where
  tag : UInt8
  content : List UInt8
  deriving DecidableEq

/-! Tags -/

namespace Tag

def boolean : UInt8 := 0x01

def integer : UInt8 := 0x02

def bitString : UInt8 := 0x03

def octetString : UInt8 := 0x04

def objectIdentifier : UInt8 := 0x06

def utcTime : UInt8 := 0x17

def generalizedTime : UInt8 := 0x18

def sequence : UInt8 := 0x30

def set : UInt8 := 0x31

def universal : List UInt8 :=
  [0x01, 0x02, 0x03, 0x04, 0x05, 0x06, 0x09, 0x0A, 0x0C, 0x12, 0x13, 0x14, 0x15, 0x16, 0x17, 0x18,
    0x1A, 0x1E, 0x30, 0x31]

/-- A tag is one byte: a universal one in use, or of another class with its number in the byte. -/
def isValid (tag : UInt8) : Bool :=
  universal.contains tag || (0x40 ≤ tag && tag &&& 0x1F != 0x1F)

def contextNumber? (tag : UInt8) : Option UInt8 :=
  if tag &&& 0xC0 = 0x80 then some (tag &&& 0x1F) else none

def context (number : UInt8) (constructed : Bool) : UInt8 :=
  (if constructed then 0xA0 else 0x80) ||| number

end Tag

/-! Lengths -/

def maxLength : Nat := 0x0FFFFFFF

def bigEndian (bytes : List UInt8) : Nat :=
  bytes.foldl (fun value byte => 256 * value + byte.toNat) 0

/-- Read a length: one byte below 128, or the number of length bytes plus 128 and then the fewest
bytes that hold it, which are at most four and do not start with zero. -/
def readLength? : List UInt8 → Option (Nat × List UInt8)
  | [] => none
  | first :: rest =>
      if first < 0x80 then some (first.toNat, rest)
      else
        let count := first.toNat - 0x80
        let length := bigEndian (rest.take count)
        if 1 ≤ count ∧ count ≤ 4 ∧ count ≤ rest.length ∧ rest.head? ≠ some 0 ∧ 0x80 ≤ length ∧
            length ≤ maxLength then
          some (length, rest.drop count)
        else none

theorem length_lt_of_readLength? {bytes rest : List UInt8} {length : Nat}
    (read : readLength? bytes = some (length, rest)) : rest.length < bytes.length := by
  cases bytes with
  | nil => simp [readLength?] at read
  | cons first tail =>
      simp only [readLength?] at read
      split at read
      · simp only [Option.some.injEq, Prod.mk.injEq] at read
        simp [read.2]
      · split at read
        · simp only [Option.some.injEq, Prod.mk.injEq] at read
          simp only [← read.2, List.length_drop, List.length_cons]
          omega
        · simp at read

def fewestBytes (value : Nat) : List UInt8 :=
  ([value / 0x1000000, value / 0x10000, value / 0x100, value].map UInt8.ofNat).dropWhile (· = 0)

def encodeLength (length : Nat) : List UInt8 :=
  if length < 0x80 then [UInt8.ofNat length]
  else
    let bytes := fewestBytes length
    UInt8.ofNat (0x80 + bytes.length) :: bytes

/-! Reading and writing -/

namespace Element

def encode (element : Element) : List UInt8 :=
  element.tag :: encodeLength element.content.length ++ element.content

def read? : List UInt8 → Option (Element × List UInt8)
  | [] => none
  | tag :: bytes =>
      if Tag.isValid tag then
        match readLength? bytes with
        | none => none
        | some (length, rest) =>
            if length ≤ rest.length then some (⟨tag, rest.take length⟩, rest.drop length) else none
      else none

theorem length_lt_of_read? {bytes rest : List UInt8} {element : Element}
    (read : read? bytes = some (element, rest)) : rest.length < bytes.length := by
  cases bytes with
  | nil => simp [read?] at read
  | cons tag tail =>
      simp only [read?] at read
      split at read
      · split at read
        · simp at read
        next length afterLength found =>
          split at read
          · have shorter := length_lt_of_readLength? found
            simp only [Option.some.injEq, Prod.mk.injEq] at read
            simp only [← read.2, List.length_drop, List.length_cons]
            omega
          · simp at read
      · simp at read

def readAll? (bytes : List UInt8) : Option (List Element) :=
  match bytes with
  | [] => some []
  | first :: others =>
      match _found : read? (first :: others) with
      | none => none
      | some (element, rest) => (readAll? rest).map (element :: ·)
termination_by bytes.length
decreasing_by exact length_lt_of_read? _found

def ofBytes? (bytes : List UInt8) : Option Element :=
  match read? bytes with
  | some (element, []) => some element
  | _ => none

def content? (element : Element) (tag : UInt8) : Option (List UInt8) :=
  if element.tag = tag then some element.content else none

def elements? (element : Element) (tag : UInt8) : Option (List Element) :=
  (element.content? tag).bind readAll?

end Element

/-! Object identifiers -/

/-- An identifier is kept as its content bytes, which is what tells two apart. The first byte holds
two arcs; each further one is written in base 128 with the high bit set on every byte but its
last. -/
structure ObjectIdentifier where
  content : List UInt8
  deriving DecidableEq

namespace ObjectIdentifier

/-- Read the arcs after the first two, given the arc begun and the number of its bytes so far. A
fifth byte ends an arc and holds four bits. -/
def readArcs? : List UInt8 → UInt32 → Nat → Option (List UInt32)
  | [], _, begun => if begun = 0 then some [] else none
  | byte :: rest, value, begun =>
      if 4 ≤ begun ∧ 0x10 ≤ byte then none
      else
        let value := value <<< 7 ||| (byte &&& 0x7F).toUInt32
        if byte < 0x80 then (readArcs? rest 0 0).map (value :: ·)
        else readArcs? rest value (begun + 1)

def arcsOf? : List UInt8 → Option (List UInt32)
  | [] => none
  | first :: rest =>
      if first < 120 then
        (readArcs? rest 0 0).map fun arcs =>
          (first / 40).toUInt32 :: (first % 40).toUInt32 :: arcs
      else none

/-- An identifier has three to thirty-nine content bytes that consist of whole arcs. -/
def ofContent? (content : List UInt8) : Option ObjectIdentifier :=
  if 3 ≤ content.length ∧ content.length ≤ 39 ∧ (arcsOf? content).isSome then some ⟨content⟩
  else none

def ofElement? (element : Element) : Option ObjectIdentifier :=
  (element.content? Tag.objectIdentifier).bind ofContent?

def text (identifier : ObjectIdentifier) : String :=
  ".".intercalate (((arcsOf? identifier.content).getD []).map fun arc => toString arc.toNat)

def arcBytes (arc : Nat) : List UInt8 :=
  let leading := [arc / 0x10000000, arc / 0x200000, arc / 0x4000, arc / 0x80].dropWhile (· = 0)
  leading.map (fun digit => UInt8.ofNat (0x80 + digit % 128)) ++ [UInt8.ofNat (arc % 128)]

def ofArcs : List Nat → ObjectIdentifier
  | first :: second :: arcs => ⟨UInt8.ofNat (40 * first + second) :: arcs.flatMap arcBytes⟩
  | _ => ⟨[]⟩

end ObjectIdentifier

/-! Integers and booleans -/

def isInteger : List UInt8 → Bool
  | [] => false
  | [_] => true
  | first :: second :: _ =>
      !(first == 0x00 && second < 0x80) && !(first == 0xFF && 0x80 ≤ second)

def boolean? : List UInt8 → Option Bool
  | [0x00] => some false
  | [0xFF] => some true
  | _ => none

/-! Bit strings -/

structure BitString where
  unused : Nat
  bytes : List UInt8
  deriving DecidableEq

namespace BitString

def ofContent? : List UInt8 → Option BitString
  | [] => none
  | unused :: bytes =>
      if unused ≤ 7 ∧ (bytes = [] → unused = 0) then some ⟨unused.toNat, bytes⟩ else none

def ofElement? (element : Element) : Option BitString :=
  (element.content? Tag.bitString).bind ofContent?

def bitCount (bits : BitString) : Nat :=
  8 * bits.bytes.length - bits.unused

def firstBit (bits : BitString) : Bool :=
  match bits.bytes with
  | [] => false
  | byte :: _ => 0x80 ≤ byte

end BitString

/-! Times -/

def isLeapYear (year : Nat) : Bool :=
  year % 4 == 0 && (year % 100 != 0 || year % 400 == 0)

def daysOfMonth (year month : Nat) : Nat :=
  match month with
  | 1 | 3 | 5 | 7 | 8 | 10 | 12 => 31
  | 4 | 6 | 9 | 11 => 30
  | 2 => if isLeapYear year then 29 else 28
  | _ => 0

def isMoment (year month day hour minute second : Nat) : Bool :=
  1970 ≤ year && 1 ≤ day && day ≤ daysOfMonth year month && hour ≤ 23 && minute ≤ 59 &&
    second ≤ 59

def digitPairs? : List UInt8 → Option (List Nat)
  | [0x5A] => some []
  | tens :: ones :: rest =>
      if 0x30 ≤ tens ∧ tens ≤ 0x39 ∧ 0x30 ≤ ones ∧ ones ≤ 0x39 then
        (digitPairs? rest).map ((10 * (tens.toNat - 0x30) + (ones.toNat - 0x30)) :: ·)
      else none
  | _ => none

/-- A time with a year of two digits lies in the years 1950 to 2049, one with a year of four digits
says its century. -/
def isTime (element : Element) : Bool :=
  match digitPairs? element.content with
  | some [year, month, day, hour, minute, second] =>
      element.tag == Tag.utcTime &&
        isMoment (if 50 ≤ year then 1900 + year else 2000 + year) month day hour minute second
  | some [century, year, month, day, hour, minute, second] =>
      element.tag == Tag.generalizedTime &&
        isMoment (100 * century + year) month day hour minute second
  | _ => false

end DatagramTls.Der
