import DatagramTls.Options.Request
import Mathlib.Data.List.Forall2
import Mathlib.Data.List.Nodup
import Mathlib.Data.List.TakeWhile

/-!
Names of algorithms. Each of the lists can be set by names, which may have
blanks around them and, but for suites, letters in the other case. However an
entry is written, it is read as that entry, and the first text that is no name
is what the error is about.
-/

namespace DatagramTls

/-! Texts -/

namespace Text

structure Padded (core text : String) : Prop where
  around : ∃ before after : List Char,
    text.toList = before ++ core.toList ++ after ∧
      (∀ character ∈ before, isBlank character = true) ∧
      ∀ character ∈ after, isBlank character = true

def solid (text : String) : Bool :=
  text.toList.all (!isBlank ·)

theorem solid_iff {text : String} : solid text = true ↔
    ∀ character ∈ text.toList, isBlank character = false := by
  simp [solid]

theorem solid_ofList {characters : List Char}
    (none : characters.all (!isBlank ·) = true) :
    solid (String.ofList characters) = true := by
  rw [solid, String.toList_ofList, none]

private theorem dropWhile_cons_of_solid {first : Char} (rest : List Char)
    (solid : isBlank first = false) :
    (first :: rest).dropWhile isBlank = first :: rest :=
  List.dropWhile_cons_of_neg (by simp [solid])

private theorem dropWhile_of_solid {characters : List Char}
    (solid : ∀ character ∈ characters, isBlank character = false) :
    characters.dropWhile isBlank = characters := by
  cases characters with
  | nil => rfl
  | cons first rest =>
      exact dropWhile_cons_of_solid rest (solid first List.mem_cons_self)

theorem trimmed_around {before core after : List Char}
    (blankBefore : ∀ character ∈ before, isBlank character = true)
    (blankAfter : ∀ character ∈ after, isBlank character = true)
    (solid : ∀ character ∈ core, isBlank character = false) :
    trimmed (before ++ core ++ after) = core := by
  have blankReverse : ∀ character ∈ after.reverse,
      isBlank character = true := by
    intro character member
    exact blankAfter character (List.mem_reverse.mp member)
  have solidReverse : ∀ character ∈ core.reverse,
      isBlank character = false := by
    intro character member
    exact solid character (List.mem_reverse.mp member)
  unfold trimmed
  rw [List.append_assoc, List.dropWhile_append_of_pos blankBefore]
  cases core with
  | nil =>
      rw [List.nil_append, List.dropWhile_eq_nil_iff.mpr blankAfter]
      rfl
  | cons first rest =>
      rw [List.cons_append,
        dropWhile_cons_of_solid _ (solid first List.mem_cons_self),
        ← List.cons_append, List.reverse_append,
        List.dropWhile_append_of_pos blankReverse,
        dropWhile_of_solid solidReverse, List.reverse_reverse]

theorem trim_of_padded {core text : String} (padded : Padded core text)
    (unbroken : solid core = true) : trim text = core := by
  obtain ⟨before, after, split, blankBefore, blankAfter⟩ := padded.around
  rw [trim, split,
    trimmed_around blankBefore blankAfter (solid_iff.mp unbroken),
    String.ofList_toList]

theorem toNat_toLower (character : Char) :
    character.toLower.toNat =
      if 65 ≤ character.toNat ∧ character.toNat ≤ 90 then character.toNat + 32
      else character.toNat := by
  unfold Char.toLower
  simp only [ge_iff_le, UInt32.le_iff_toNat_le]
  split
  case isTrue upper =>
      change 65 ≤ character.toNat ∧ character.toNat ≤ 90 at upper
      rw [if_pos upper]
      change (character.toNat + 32) % 2 ^ 32 = _
      omega
  case isFalse other => exact (if_neg other).symm

theorem toNat_toUpper (character : Char) :
    character.toUpper.toNat =
      if 97 ≤ character.toNat ∧ character.toNat ≤ 122 then character.toNat - 32
      else character.toNat := by
  unfold Char.toUpper
  simp only [UInt32.le_iff_toNat_le]
  split
  case isTrue lower =>
      change 97 ≤ character.toNat ∧ character.toNat ≤ 122 at lower
      rw [if_pos lower]
      -- The step is taken back by going round the whole range.
      have back : ('A'.val - 'a'.val).toNat = 2 ^ 32 - 32 := by decide
      change (character.val + _).toNat = _
      rw [UInt32.toNat_add, back, Char.toNat_val]
      omega
  case isFalse other => exact (if_neg other).symm

theorem isBlank_toLower (character : Char) :
    isBlank character.toLower = isBlank character := by
  rw [Bool.eq_iff_iff]
  simp only [isBlank, toNat_toLower]
  split
  case isTrue upper =>
      simp [blankRanges]
      omega
  case isFalse => rfl

inductive Recased (character : Char) : Char → Prop
  | same : Recased character character
  | lower : Recased character character.toLower
  | upper : Recased character character.toUpper

theorem recased_iff {left right : Char} :
    Recased left right ↔ left.toLower = right.toLower := by
  constructor
  · intro recased
    apply Char.toNat_inj.mp
    cases recased with
    | same => rfl
    | lower =>
        simp only [toNat_toLower]
        grind
    | upper =>
        simp only [toNat_toLower, toNat_toUpper]
        grind
  · intro folded
    have codes := congrArg Char.toNat folded
    have cases : right.toNat = left.toNat ∨
        right.toNat = left.toLower.toNat ∨
        right.toNat = left.toUpper.toNat := by
      simp only [toNat_toLower, toNat_toUpper] at codes ⊢
      grind
    simp only [Char.toNat_inj] at cases
    rcases cases with rfl | rfl | rfl
    · exact .same
    · exact .lower
    · exact .upper

end Text

/-! Tables of names -/

/-- Entries with their names, and how a name may vary: two characters are taken
for each other when they fold to the same. Names have no blanks, and no two of
them are taken for each other. -/
structure NameTable (α : Type) where
  entries : List α
  name : α → String
  Varies : Char → Char → Prop
  fold : Char → Char
  varies_iff : ∀ {left right}, Varies left right ↔ fold left = fold right
  isBlank_fold : ∀ character,
    Text.isBlank (fold character) = Text.isBlank character
  solid : ∀ entry ∈ entries, Text.solid (name entry) = true
  distinct : (entries.map fun entry => (name entry).toList.map fold).Nodup

namespace NameTable

variable {α : Type} {table : NameTable α} {entry : α} {text : String}
  {texts : List String}

def caseless (entries : List α) (name : α → String)
    (solid : ∀ entry ∈ entries, Text.solid (name entry) = true)
    (distinct : (entries.map fun entry =>
      (name entry).toList.map Char.toLower).Nodup) :
    NameTable α where
  entries
  name
  Varies := Text.Recased
  fold := Char.toLower
  varies_iff := Text.recased_iff
  isBlank_fold := Text.isBlank_toLower
  solid
  distinct

structure Spells (table : NameTable α) (entry : α) (text : String) : Prop where
  listed : entry ∈ table.entries
  varied : List.Forall₂ table.Varies (table.name entry).toList text.toList

/-- The text spells the entry, with blanks around it. -/
def Writes (table : NameTable α) (entry : α) (text : String) : Prop :=
  ∃ core, table.Spells entry core ∧ Text.Padded core text

/-- Without the blanks around it the text spells no entry. -/
def Unknown (table : NameTable α) (text : String) : Prop :=
  ∀ entry, ¬table.Spells entry (Text.trim text)

inductive FirstUnknown (table : NameTable α) : List String → String → Prop
  | here {text : String} {rest : List String} (unknown : table.Unknown text) :
      FirstUnknown table (text :: rest) text
  | later {text unknown : String} {rest : List String}
      (known : ¬table.Unknown text) (found : FirstUnknown table rest unknown) :
      FirstUnknown table (text :: rest) unknown

/-! Looking up -/

def find? (table : NameTable α) (text : String) : Option α :=
  table.entries.find? fun entry =>
    (table.name entry).toList.map table.fold == text.toList.map table.fold

theorem forall₂_varies_iff {left right : List Char} :
    List.Forall₂ table.Varies left right ↔
      left.map table.fold = right.map table.fold := by
  have folded : table.Varies =
      fun left right => table.fold left = table.fold right := by
    funext left right
    exact propext table.varies_iff
  rw [folded, ← List.forall₂_eq_eq_eq, List.forall₂_map_left_iff,
    List.forall₂_map_right_iff]

theorem spells_iff : table.Spells entry text ↔
    entry ∈ table.entries ∧
      (table.name entry).toList.map table.fold =
        text.toList.map table.fold := by
  rw [← forall₂_varies_iff]
  exact ⟨fun ⟨listed, varied⟩ => ⟨listed, varied⟩,
    fun ⟨listed, varied⟩ => ⟨listed, varied⟩⟩

theorem Spells.unique {other : α} (spells : table.Spells entry text)
    (otherwise : table.Spells other text) : entry = other := by
  obtain ⟨listed, same⟩ := spells_iff.mp spells
  obtain ⟨otherListed, otherSame⟩ := spells_iff.mp otherwise
  exact List.inj_on_of_nodup_map table.distinct listed otherListed
    (same.trans otherSame.symm)

theorem Spells.of_find? (found : table.find? text = some entry) :
    table.Spells entry text := by
  have same := List.find?_some found
  exact spells_iff.mpr
    ⟨List.mem_of_find?_eq_some found, by simpa using same⟩

theorem find?_eq_some_iff :
    table.find? text = some entry ↔ table.Spells entry text := by
  constructor
  · exact Spells.of_find?
  · intro spells
    cases found : table.find? text with
    | none =>
        obtain ⟨listed, same⟩ := spells_iff.mp spells
        have differs := List.find?_eq_none.mp found entry listed
        exact absurd (beq_iff_eq.mpr same) differs
    | some other => rw [spells.unique (.of_find? found)]

theorem find?_trim_eq_none_iff :
    table.find? (Text.trim text) = none ↔ table.Unknown text := by
  rw [Option.eq_none_iff_forall_ne_some]
  exact forall_congr' fun entry => not_congr find?_eq_some_iff

theorem Spells.solid (spells : table.Spells entry text) :
    Text.solid text = true := by
  apply Text.solid_iff.mpr
  intro character member
  obtain ⟨listed, same⟩ := spells_iff.mp spells
  have folded : table.fold character ∈
      (table.name entry).toList.map table.fold := by
    rw [same]
    exact List.mem_map_of_mem member
  obtain ⟨original, named, equal⟩ := List.mem_map.mp folded
  rw [← table.isBlank_fold, ← equal, table.isBlank_fold]
  exact Text.solid_iff.mp (table.solid entry listed) original named

theorem Writes.find? (writes : table.Writes entry text) :
    table.find? (Text.trim text) = some entry := by
  obtain ⟨core, spells, padded⟩ := writes
  rw [Text.trim_of_padded padded spells.solid]
  exact find?_eq_some_iff.mpr spells

/-! Reading lists -/

open NamedSetting

theorem lookUpAll_cons_of_known (named : Named)
    (known : table.find? (Text.trim text) = some entry) (rest : List String) :
    lookUpAll named table.find? (text :: rest) =
      (lookUpAll named table.find? rest).map (entry :: ·) := by
  have first : lookUp named table.find? (Text.trim text) = .ok entry := by
    simp only [lookUp, known]
  unfold lookUpAll
  rw [List.mapM_cons, first]
  rfl

theorem lookUpAll_cons_of_unknown (named : Named)
    (unknown : table.Unknown text) (rest : List String) :
    lookUpAll named table.find? (text :: rest) =
      .error (.unknownName named (Text.trim text)) := by
  have first : lookUp named table.find? (Text.trim text) =
      .error (.unknownName named (Text.trim text)) := by
    simp only [lookUp, find?_trim_eq_none_iff.mpr unknown]
  unfold lookUpAll
  rw [List.mapM_cons, first]
  rfl

theorem lookUpAll_of_writes {entries : List α} (named : Named)
    (written : List.Forall₂ table.Writes entries texts) :
    lookUpAll named table.find? texts = .ok entries := by
  induction written with
  | nil => rfl
  | cons writes _ induction =>
      rw [lookUpAll_cons_of_known named writes.find?, induction]
      rfl

theorem lookUpAll_of_firstUnknown {unknown : String} (named : Named)
    (found : table.FirstUnknown texts unknown) :
    lookUpAll named table.find? texts =
      .error (.unknownName named (Text.trim unknown)) := by
  induction found with
  | here unknown => exact lookUpAll_cons_of_unknown named unknown _
  | later known _ induction =>
      obtain ⟨entry, known⟩ := Option.ne_none_iff_exists'.mp
        (mt find?_trim_eq_none_iff.mp known)
      rw [lookUpAll_cons_of_known named known, induction]
      rfl

theorem exists_firstUnknown (present : ∃ text ∈ texts, table.Unknown text) :
    ∃ unknown, table.FirstUnknown texts unknown := by
  obtain ⟨text, member, unknown⟩ := present
  induction texts with
  | nil => cases member
  | cons first rest induction =>
      by_cases leading : table.Unknown first
      · exact ⟨first, .here leading⟩
      · cases member with
        | head => exact absurd unknown leading
        | tail _ member =>
            obtain ⟨earliest, found⟩ := induction member
            exact ⟨earliest, .later leading found⟩

end NameTable

/-! The lists -/

theorem CipherSuite.solid_name (suite : CipherSuite) :
    Text.solid suite.name = true := by
  cases suite <;> exact Text.solid_ofList (by decide +kernel)

theorem CipherSuite.nodup_names : (all.map name).Nodup := by
  simp [all, name, entry]

def CipherSuite.nameTable : NameTable CipherSuite where
  entries := CipherSuite.all
  name := CipherSuite.name
  Varies := Eq
  fold := id
  varies_iff := Iff.rfl
  isBlank_fold := fun _ => rfl
  solid := fun suite _ => suite.solid_name
  distinct := by
    have distinct := CipherSuite.nodup_names.map fun left right =>
      String.toList_inj.mp
    simpa [Function.comp_def] using distinct

theorem CipherSuite.find?_nameTable :
    CipherSuite.nameTable.find? = CipherSuite.ofName? := by
  funext text
  unfold NameTable.find? CipherSuite.ofName?
  congr 1
  funext suite
  simp [CipherSuite.nameTable, Bool.beq_eq_decide_eq, String.toList_inj]

def Scheme.nameTable : NameTable Scheme :=
  .caseless Scheme.all Scheme.name (by decide +kernel) (by decide +kernel)

def Group.nameTable : NameTable Group :=
  .caseless Group.all Group.name (by decide +kernel) (by decide +kernel)

namespace Listing

def Entry : Listing → Type
  | .suites | .preselected => CipherSuite
  | .schemes => Scheme
  | .groups => Group

def nameTable : (listing : Listing) → NameTable listing.Entry
  | .suites | .preselected => CipherSuite.nameTable
  | .schemes => Scheme.nameTable
  | .groups => Group.nameTable

def named : Listing → Named
  | .suites | .preselected => .suite
  | .schemes => .scheme
  | .groups => .group

def byValue : (listing : Listing) → List listing.Entry → Request
  | .suites, entries => .byValue (.algorithms (.suites entries))
  | .preselected, entries => .byValue (.algorithms (.preselected entries))
  | .schemes, entries => .byValue (.algorithms (.schemes entries))
  | .groups, entries => .byValue (.algorithms (.groups entries))

def byName : Listing → List String → Request
  | .suites, texts => .byName (.suites texts)
  | .preselected, texts => .byName (.preselected texts)
  | .schemes, texts => .byName (.schemes texts)
  | .groups, texts => .byName (.groups texts)

theorem setting_byName (listing : Listing) (texts : List String) :
    (listing.byName texts).setting =
      NamedSetting.lookUpAll listing.named listing.nameTable.find? texts >>=
        fun entries => (listing.byValue entries).setting := by
  cases listing with
  | suites | preselected =>
      change Except.map _ (NamedSetting.lookUpAll _ CipherSuite.ofName? _) = _
      rw [← CipherSuite.find?_nameTable]
      rfl
  | schemes | groups => rfl

/-- However entries of a list are written, a request by names does to any
options what the request by the entries does; and where a text is no name, a
request by names fails with the first of those. -/
theorem request_byName (listing : Listing) (texts : List String) :
    (∀ entries, List.Forall₂ listing.nameTable.Writes entries texts →
      ∀ options : Options, options.request (listing.byName texts) =
        options.request (listing.byValue entries)) ∧
      ((∃ text ∈ texts, listing.nameTable.Unknown text) →
        ∃ unknown, listing.nameTable.FirstUnknown texts unknown ∧
          ∀ options : Options, options.request (listing.byName texts) =
            .error (.unknownName listing.named (Text.trim unknown))) := by
  constructor
  · intro entries written options
    unfold Options.request
    rw [setting_byName, NameTable.lookUpAll_of_writes _ written]
    rfl
  · intro present
    obtain ⟨unknown, found⟩ := NameTable.exists_firstUnknown present
    refine ⟨unknown, found, ?_⟩
    intro options
    unfold Options.request
    rw [setting_byName, NameTable.lookUpAll_of_firstUnknown _ found]
    rfl

/-- Groups with blanks of several kinds and letters in the other case, and a
list with two texts that are no groups. -/
theorem request_byName_groups :
    let texts := ["\u2003SECP256r1", "x25519 \t"]
    let others := ["x448", "\ncurve ", "?"]
    (∀ options : Options, options.request (groups.byName texts) =
        options.request (groups.byValue [.secp256r1, .x25519])) ∧
      ∀ options : Options, options.request (groups.byName others) =
        .error (.unknownName .group "curve") := by
  intro texts others
  constructor
  · apply (request_byName groups texts).1
    have capital : groups.nameTable.Spells .secp256r1 "SECP256r1" :=
      NameTable.spells_iff.mpr ⟨Group.mem_all _, by decide +kernel⟩
    have small : groups.nameTable.Spells .x25519 "x25519" :=
      NameTable.spells_iff.mpr ⟨Group.mem_all _, by decide +kernel⟩
    refine .cons ⟨_, capital, ⟨['\u2003'], [], by simp, ?_, nofun⟩⟩
      (.cons ⟨_, small, ⟨[], [' ', '\t'], by simp, nofun, ?_⟩⟩ .nil)
    · simp [Text.isBlank, Text.blankRanges]
    · simp [Text.isBlank, Text.blankRanges]
  · have known : ¬groups.nameTable.Unknown "x448" := by
      rw [← NameTable.find?_trim_eq_none_iff]
      decide +kernel
    have first : groups.nameTable.Unknown "\ncurve " := by
      rw [← NameTable.find?_trim_eq_none_iff]
      decide +kernel
    obtain ⟨unknown, found, fails⟩ := (request_byName groups others).2
      ⟨"\ncurve ", by simp [others], first⟩
    have found : groups.nameTable.FirstUnknown ["x448", "\ncurve ", "?"]
      unknown := found
    have last : Text.trim unknown = "curve" := by
      cases found with
      | here unknown => exact absurd unknown known
      | later _ found =>
          cases found with
          | here => decide +kernel
          | later known => exact absurd first known
    rw [last] at fails
    exact fails

end Listing

end DatagramTls
