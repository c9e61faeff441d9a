import Mathlib

/-!
# Text as code points

UTF-8, trimming by the Unicode `White_Space` property and unsigned decimal numbers, as the Rust
standard library reads and writes them.
-/

namespace Text

def toUtf8 (text : List Char) : List UInt8 := text.flatMap String.utf8EncodeChar

/-- `std::str::from_utf8`. -/
def fromUtf8 (bytes : List UInt8) : Option (List Char) :=
  bytes.toByteArray.utf8Decode?.map Array.toList

theorem fromUtf8_toUtf8 (text : List Char) : fromUtf8 (toUtf8 text) = some text := by
  have decoded := List.utf8Decode?_utf8Encode (l := text)
  unfold List.utf8Encode at decoded
  simp [fromUtf8, toUtf8, decoded]

theorem length_toUtf8_ascii {text : List Char} (ascii : ∀ c ∈ text, c.toNat < 128) :
    (toUtf8 text).length = text.length := by
  induction text with
  | nil => rfl
  | cons c rest ih =>
    have one : c.utf8Size = 1 := by
      have small := ascii c List.mem_cons_self
      rw [Char.utf8Size_eq_one_iff, UInt32.le_iff_toNat_le]
      exact Nat.le_of_lt_succ small
    have tail := ih fun d member => ascii d (List.mem_cons_of_mem _ member)
    rw [toUtf8, List.flatMap_cons, List.length_append, String.length_utf8EncodeChar, one,
      List.length_cons, Nat.add_comm]
    exact congrArg (· + 1) tail

/-! ### Trimming -/

def isWhitespace (c : Char) : Bool :=
  let n := c.toNat
  (9 ≤ n && n ≤ 13) || n == 0x20 || n == 0x85 || n == 0xA0 || n == 0x1680 ||
    (0x2000 ≤ n && n ≤ 0x200A) || n == 0x2028 || n == 0x2029 || n == 0x202F || n == 0x205F ||
    n == 0x3000

def trim (text : List Char) : List Char := (text.dropWhile isWhitespace).rdropWhile isWhitespace

theorem trim_eq_self {text : List Char} (visible : ∀ c ∈ text, isWhitespace c = false) :
    trim text = text := by
  have left : text.dropWhile isWhitespace = text := by
    rw [List.dropWhile_eq_self_iff]
    intro some
    simp [visible _ (List.getElem_mem some)]
  rw [trim, left, List.rdropWhile_eq_self_iff]
  intro some
  simp [visible _ (List.getLast_mem some)]

/-! ### Unsigned decimals -/

/-- `str::parse::<u64>`: an optional plus sign, then digits, within 64 bits. -/
def parseU64 (text : List Char) : Option UInt64 :=
  let digits := match text with
    | '+' :: rest => rest
    | _ => text
  if digits ≠ [] ∧ digits.all Char.isDigit ∧ Nat.ofDigitChars 10 digits 0 < 2 ^ 64 then
    some (UInt64.ofNat (Nat.ofDigitChars 10 digits 0))
  else none

def printU64 (n : UInt64) : List Char := Nat.toDigits 10 n.toNat

theorem printU64_digits {n : UInt64} {c : Char} (member : c ∈ printU64 n) : c.isDigit = true :=
  Nat.isDigit_of_mem_toDigits (by decide) (by decide) member

theorem isDigit_toNat {c : Char} (h : c.isDigit = true) : 48 ≤ c.toNat ∧ c.toNat ≤ 57 := by
  rw [Char.isDigit_iff_toNat] at h
  exact h

theorem isWhitespace_eq_false {c : Char} (low : 33 ≤ c.toNat) (high : c.toNat < 128) :
    isWhitespace c = false := by
  unfold isWhitespace
  simp only [Bool.or_eq_false_iff, Bool.and_eq_false_iff, decide_eq_false_iff_not,
    beq_eq_false_iff_ne]
  omega

theorem parseU64_printU64 (n : UInt64) : parseU64 (printU64 n) = some n := by
  have some_digit : printU64 n ≠ [] := Nat.toDigits_ne_nil
  have digits : ∀ c ∈ printU64 n, c.isDigit = true := fun c member => printU64_digits member
  have value : Nat.ofDigitChars 10 (printU64 n) 0 = n.toNat := Nat.ofDigitChars_ten_toDigits
  have unsigned : (match printU64 n with
      | '+' :: rest => rest
      | _ => printU64 n) = printU64 n := by
    split
    · rename_i rest same
      have plus := digits '+' (by rw [same]; exact List.mem_cons_self)
      cases plus
    · rfl
  unfold parseU64
  simp only [unsigned, value]
  rw [if_pos ⟨some_digit, List.all_eq_true.mpr digits, n.toNat_lt⟩, UInt64.ofNat_toNat]

def parseU32 (text : List Char) : Option UInt32 :=
  (parseU64 text).bind fun n => if n.toNat < 2 ^ 32 then some n.toUInt32 else none

def printU32 (n : UInt32) : List Char := printU64 n.toUInt64

theorem parseU32_printU32 (n : UInt32) : parseU32 (printU32 n) = some n := by
  have small : n.toUInt64.toNat < 2 ^ 32 := n.toNat_lt
  rw [parseU32, printU32, parseU64_printU64, Option.bind_some, if_pos small, UInt32.toUInt32_toUInt64]

/-- The width of a `usize`. -/
inductive PointerWidth where
  | w32 | w64

/-- `str::parse::<usize>`. -/
def parseUsize (width : PointerWidth) (text : List Char) : Option Nat :=
  match width with
  | .w32 => (parseU32 text).map UInt32.toNat
  | .w64 => (parseU64 text).map UInt64.toNat

/-- What an unsigned type reads from a text, if the value fits it. -/
structure Numeral (text : List Char) (n : Nat) : Prop where
  shape : ∃ digits, (text = digits ∨ text = '+' :: digits) ∧ digits ≠ [] ∧
    (∀ c ∈ digits, c.isDigit = true) ∧ Nat.ofDigitChars 10 digits 0 = n

theorem parseU64_eq_some {text : List Char} {n : UInt64} :
    parseU64 text = some n ↔ Numeral text n.toNat := by
  have plus : Char.isDigit '+' = false := by decide
  have read : ∀ digits : List Char,
      (if digits ≠ [] ∧ digits.all Char.isDigit ∧ Nat.ofDigitChars 10 digits 0 < 2 ^ 64 then
        some (UInt64.ofNat (Nat.ofDigitChars 10 digits 0)) else none) = some n ↔
      digits ≠ [] ∧ (∀ c ∈ digits, c.isDigit = true) ∧ Nat.ofDigitChars 10 digits 0 = n.toNat := by
    intro digits
    split
    · rename_i fits
      obtain ⟨some_digit, all, small⟩ := fits
      rw [Option.some.injEq, ← UInt64.toNat_inj, UInt64.toNat_ofNat', Nat.mod_eq_of_lt small]
      exact ⟨fun value => ⟨some_digit, List.all_eq_true.mp all, value⟩, fun h => h.2.2⟩
    · rename_i unfit
      refine iff_of_false (fun h => by cases h) ?_
      intro ⟨some_digit, all, value⟩
      exact unfit ⟨some_digit, List.all_eq_true.mpr all, value ▸ n.toNat_lt⟩
  unfold parseU64
  dsimp only
  split
  · rename_i rest
    rw [read]
    constructor
    · exact fun h => ⟨rest, Or.inr rfl, h⟩
    · rintro ⟨digits, same | same, h⟩
      · have bad := h.2.1 '+' (by rw [← same]; exact List.mem_cons_self)
        rw [plus] at bad
        cases bad
      · rw [List.tail_eq_of_cons_eq same]
        exact h
  · rename_i unsigned
    rw [read]
    constructor
    · exact fun h => ⟨text, Or.inl rfl, h⟩
    · rintro ⟨digits, same | same, h⟩
      · rw [same]
        exact h
      · exact (unsigned digits same).elim

theorem parseU32_eq_some {text : List Char} {n : UInt32} :
    parseU32 text = some n ↔ Numeral text n.toNat := by
  rw [parseU32, Option.bind_eq_some_iff]
  constructor
  · rintro ⟨wide, read, narrowed⟩
    split at narrowed
    · rename_i small
      obtain rfl := Option.some.inj narrowed
      rw [UInt64.toNat_toUInt32, Nat.mod_eq_of_lt small]
      exact parseU64_eq_some.mp read
    · cases narrowed
  · intro numeral
    refine ⟨n.toUInt64, parseU64_eq_some.mpr numeral, ?_⟩
    have small : n.toUInt64.toNat < 2 ^ 32 := n.toNat_lt
    rw [if_pos small, UInt32.toUInt32_toUInt64]

theorem parseUsize_eq_some {width : PointerWidth} {text : List Char} {n : Nat} (small : n < 2 ^ 32) :
    parseUsize width text = some n ↔ Numeral text n := by
  cases width with
  | w32 =>
    rw [parseUsize, Option.map_eq_some_iff]
    constructor
    · rintro ⟨m, read, rfl⟩
      exact parseU32_eq_some.mp read
    · intro numeral
      have value : (UInt32.ofNat n).toNat = n := UInt32.toNat_ofNat_of_lt' small
      exact ⟨UInt32.ofNat n, parseU32_eq_some.mpr (value.symm ▸ numeral), value⟩
  | w64 =>
    rw [parseUsize, Option.map_eq_some_iff]
    constructor
    · rintro ⟨m, read, rfl⟩
      exact parseU64_eq_some.mp read
    · intro numeral
      have value : (UInt64.ofNat n).toNat = n :=
        UInt64.toNat_ofNat_of_lt' (Nat.lt_trans small (by decide))
      exact ⟨UInt64.ofNat n, parseU64_eq_some.mpr (value.symm ▸ numeral), value⟩

/-! ### Words and lines -/

/-- `str::split_whitespace`. -/
def splitWhitespace (text : List Char) : List (List Char) :=
  (text.splitOnP isWhitespace).filter fun word => !word.isEmpty

theorem not_mem_intercalate {c separator : Char} {words : List (List Char)} (other : c ≠ separator)
    (each : ∀ word ∈ words, c ∉ word) : c ∉ [separator].intercalate words := by
  induction words with
  | nil => exact List.not_mem_nil
  | cons word rest ih =>
    obtain ⟨here, later⟩ := List.forall_mem_cons.mp each
    cases rest with
    | nil => rwa [List.intercalate_singleton]
    | cons next rest =>
      rw [List.intercalate_cons_cons, List.mem_append, List.mem_append, List.mem_singleton]
      exact fun member => member.elim (fun front => front.elim here other) (ih later)

/-- Lines that end in a line feed are found again, with nothing behind the last one. -/
theorem splitOn_lines {lines : List (List Char)} (single : ∀ line ∈ lines, '\n' ∉ line) :
    (lines.flatMap fun line => line ++ ['\n']).splitOn '\n' = lines ++ [[]] := by
  have joined : lines.flatMap (fun line => line ++ ['\n']) = ['\n'].intercalate (lines ++ [[]]) := by
    clear single
    induction lines with
    | nil => rfl
    | cons line rest ih =>
      rw [List.flatMap_cons, ih]
      cases rest <;> simp [List.intercalate, List.intersperse]
  rw [joined]
  refine List.splitOn_intercalate '\n' ?_ (by simp)
  intro line member
  rcases List.mem_append.mp member with line_ | last
  · exact single line line_
  · rw [List.mem_singleton.mp last]
    exact List.not_mem_nil

/-- `str::split_once`, at the first place of the separator. -/
def splitOnce (separator : List Char) : List Char → Option (List Char × List Char)
  | [] => if separator = [] then some ([], []) else none
  | c :: rest =>
    if separator.isPrefixOf (c :: rest) then some ([], (c :: rest).drop separator.length)
    else (splitOnce separator rest).map fun (before, after) => (c :: before, after)

theorem splitOnce_append {first : Char} {separator before : List Char} (fresh : first ∉ before)
    (after : List Char) :
    splitOnce (first :: separator) (before ++ (first :: separator ++ after)) =
      some (before, after) := by
  induction before with
  | nil =>
    have here : (first :: separator).isPrefixOf (first :: separator ++ after) = true :=
      List.isPrefixOf_iff_prefix.mpr (List.prefix_append _ _)
    have rest : (first :: separator ++ after).drop (first :: separator).length = after :=
      List.drop_left
    rw [List.nil_append, List.cons_append, splitOnce, ← List.cons_append, if_pos here, rest]
  | cons c before ih =>
    have other : first ≠ c := fun same => fresh (same ▸ List.mem_cons_self)
    have apart : (first :: separator).isPrefixOf (c :: (before ++ (first :: separator ++ after))) =
        false := by simp [List.isPrefixOf, other]
    rw [List.cons_append, splitOnce, apart, if_neg (by decide),
      ih fun member => fresh (List.mem_cons_of_mem _ member), Option.map_some]

/-! ### Sets of strings -/

/-- A set of strings in its order, as a `BTreeSet` or a sorted column gives it. -/
def sorted (texts : Finset String) : List String := texts.sort

@[simp] theorem mem_sorted {texts : Finset String} {text : String} :
    text ∈ sorted texts ↔ text ∈ texts := Finset.mem_sort _

@[simp] theorem sorted_empty : sorted ∅ = [] := Finset.sort_empty _

@[simp] theorem sorted_singleton (text : String) : sorted {text} = [text] :=
  Finset.sort_singleton _ text

theorem toFinset_sorted (texts : Finset String) : (sorted texts).toFinset = texts :=
  Finset.sort_toFinset _ _

/-! ### Texts of other types -/

/-- A type with a text for each value, which reads back as that value. -/
structure Codec (α : Type) where
  print : α → String
  parse : String → Except String α
  parse_print : ∀ a, parse (print a) = .ok a

theorem Codec.print_injective {α : Type} (codec : Codec α) : Function.Injective codec.print := by
  intro a b same
  have read := congrArg codec.parse same
  rw [codec.parse_print, codec.parse_print] at read
  exact Except.ok.inj read

def Codec.verbatim : Codec String := ⟨id, .ok, fun _ => rfl⟩

end Text
