import Mathlib.Algebra.Group.Nat.Defs
import Mathlib.Data.List.Basic
import Mathlib.Tactic.Common

/-
Numbers written out in a base of at most sixteen, and rows of such numbers with
a separator between them.

A number of known size is cut into chunks, lowest chunk first; the chunks are
written as numerals and joined.  Splitting at the separator, reading the
numerals and putting the chunks together again gives the number back.
-/

set_option autoImplicit false

namespace BabaIo.Numerals

/-! ### Digits -/

def isHexDigit (digit : Char) : Bool :=
  digit.isDigit || ('a' ≤ digit && digit ≤ 'f') || ('A' ≤ digit && digit ≤ 'F')

def digitValue (digit : Char) : Nat :=
  if digit.isDigit then digit.toNat - '0'.toNat else digit.toNat - 'a'.toNat + 10

theorem digitChar_hex {digit : Nat} (small : digit < 16) :
    isHexDigit digit.digitChar = true ∧ digitValue digit.digitChar = digit := by
  revert digit
  decide

def numeralValue (base : Nat) (text : List Char) : Nat :=
  text.foldl (fun value digit => base * value + digitValue digit) 0

theorem numeralValue_append_singleton (base : Nat) (text : List Char) (digit : Char) :
    numeralValue base (text ++ [digit]) =
      base * numeralValue base text + digitValue digit := by
  simp [numeralValue]

section Base

variable {base : Nat}

/-- Reading a numeral gives the number that was written. -/
theorem numeralValue_toDigits (two : 1 < base) (sixteen : base ≤ 16) (number : Nat) :
    numeralValue base (Nat.toDigits base number) = number := by
  induction number using Nat.base_induction base two with
  | single digit small =>
      rw [Nat.toDigits_of_lt_base small]
      simpa [numeralValue] using (digitChar_hex (Nat.lt_of_lt_of_le small sixteen)).2
  | digit last prior small positive ih =>
      rw [← Nat.toDigits_append_toDigits two positive small, Nat.toDigits_of_lt_base small,
        numeralValue_append_singleton, ih,
        (digitChar_hex (Nat.lt_of_lt_of_le small sixteen)).2]

theorem toDigits_inj (two : 1 < base) (sixteen : base ≤ 16) {first second : Nat} :
    Nat.toDigits base first = Nat.toDigits base second ↔ first = second := by
  constructor
  · intro same
    rw [← numeralValue_toDigits two sixteen first, same,
      numeralValue_toDigits two sixteen second]
  · intro same
    rw [same]

theorem isHexDigit_of_mem_toDigits (two : 1 < base) (sixteen : base ≤ 16) {number : Nat}
    {digit : Char} (written : digit ∈ Nat.toDigits base number) :
    isHexDigit digit = true := by
  induction number using Nat.base_induction base two with
  | single value small =>
      rw [Nat.toDigits_of_lt_base small, List.mem_singleton] at written
      rw [written]
      exact (digitChar_hex (Nat.lt_of_lt_of_le small sixteen)).1
  | digit last prior small positive ih =>
      rw [← Nat.toDigits_append_toDigits two positive small, Nat.toDigits_of_lt_base small,
        List.mem_append, List.mem_singleton] at written
      rcases written with earlier | atEnd
      · exact ih earlier
      · rw [atEnd]
        exact (digitChar_hex (Nat.lt_of_lt_of_le small sixteen)).1

end Base

/-! ### Chunks -/

/-- The lowest `count` digits of a number in the base, lowest first. -/
def chunks (base : Nat) : Nat → Nat → List Nat
  | 0, _ => []
  | count + 1, number => number % base :: chunks base count (number / base)

def ofChunks (base : Nat) (row : List Nat) : Nat :=
  row.foldr (fun chunk number => chunk + base * number) 0

@[simp] theorem length_chunks (base count number : Nat) :
    (chunks base count number).length = count := by
  induction count generalizing number with
  | zero => rfl
  | succ count ih => simp [chunks, ih]

theorem lt_of_mem_chunks {base : Nat} (positive : 0 < base) {count number chunk : Nat}
    (member : chunk ∈ chunks base count number) : chunk < base := by
  induction count generalizing number with
  | zero => simp [chunks] at member
  | succ count ih =>
      simp only [chunks, List.mem_cons] at member
      rcases member with lowest | higher
      · rw [lowest]
        exact Nat.mod_lt number positive
      · exact ih higher

/-- A number that fits into the chunks is the number they make up. -/
theorem ofChunks_chunks {base count number : Nat} (fits : number < base ^ count) :
    ofChunks base (chunks base count number) = number := by
  induction count generalizing number with
  | zero =>
      have zero : number = 0 := by simpa using fits
      rw [zero]
      rfl
  | succ count ih =>
      have higherFits : number / base < base ^ count := by
        rw [Nat.pow_succ] at fits
        exact Nat.div_lt_of_lt_mul (by rwa [Nat.mul_comm])
      change number % base + base * ofChunks base (chunks base count (number / base)) = number
      rw [ih higherFits, Nat.mod_add_div]

/-! ### Separators -/

section Separators

variable {Symbol : Type*}

/-- What stands before and after the last separator is determined. -/
theorem append_separator_inj {separator : Symbol} {first second firstEnd secondEnd : List Symbol}
    (absentFirst : separator ∉ firstEnd) (absentSecond : separator ∉ secondEnd) :
    first ++ separator :: firstEnd = second ++ separator :: secondEnd ↔
      first = second ∧ firstEnd = secondEnd := by
  constructor
  · intro same
    have reversed : firstEnd.reverse ++ separator :: first.reverse =
        secondEnd.reverse ++ separator :: second.reverse := by
      simpa using congrArg List.reverse same
    have parts := (List.append_eq_append_iff).mp reversed
    rcases parts with ⟨middle, longer, rest⟩ | ⟨middle, longer, rest⟩
    · cases middle with
      | nil => simp_all
      | cons symbol middle =>
          have inside : separator ∈ secondEnd.reverse := by
            rw [longer, (List.cons.inj rest).1]
            simp
          exact absurd (List.mem_reverse.mp inside) absentSecond
    · cases middle with
      | nil => simp_all
      | cons symbol middle =>
          have inside : separator ∈ firstEnd.reverse := by
            rw [longer, (List.cons.inj rest).1]
            simp
          exact absurd (List.mem_reverse.mp inside) absentFirst
  · rintro ⟨same, sameEnd⟩
    rw [same, sameEnd]

theorem mem_intercalate {separator symbol : Symbol} {parts : List (List Symbol)}
    (member : symbol ∈ [separator].intercalate parts) :
    symbol = separator ∨ ∃ part ∈ parts, symbol ∈ part := by
  induction parts with
  | nil => simp at member
  | cons part rest ih =>
      cases rest with
      | nil =>
          rw [List.intercalate_singleton] at member
          exact Or.inr ⟨part, List.mem_cons_self, member⟩
      | cons next rest =>
          simp only [List.intercalate_cons_cons, List.mem_append, List.mem_singleton] at member
          rcases member with (inPart | atSeparator) | later
          · exact Or.inr ⟨part, List.mem_cons_self, inPart⟩
          · exact Or.inl atSeparator
          · rcases ih later with atSeparator | ⟨other, member, inside⟩
            · exact Or.inl atSeparator
            · exact Or.inr ⟨other, List.mem_cons_of_mem part member, inside⟩

/-- One separator less than parts. -/
theorem count_intercalate [DecidableEq Symbol] {separator : Symbol}
    {parts : List (List Symbol)} (absent : ∀ part ∈ parts, separator ∉ part)
    (nonempty : parts ≠ []) :
    ([separator].intercalate parts).count separator + 1 = parts.length := by
  induction parts with
  | nil => exact absurd rfl nonempty
  | cons part rest ih =>
      have none : part.count separator = 0 :=
        List.count_eq_zero.mpr (absent part List.mem_cons_self)
      cases rest with
      | nil => simp [none]
      | cons next rest =>
          have later := ih (fun other member => absent other (List.mem_cons_of_mem part member))
            (List.cons_ne_nil next rest)
          simp only [List.intercalate_cons_cons, List.count_append, List.count_singleton_self,
            none, List.length_cons] at later ⊢
          omega

end Separators

/-! ### Rows of numerals -/

def joined (base : Nat) (separator : Char) (row : List Nat) : List Char :=
  [separator].intercalate (row.map (Nat.toDigits base))

def separated (base : Nat) (separator : Char) (text : List Char) : List Nat :=
  (text.splitOn separator).map (numeralValue base)

theorem mem_joined {base : Nat} {separator symbol : Char} {row : List Nat}
    (member : symbol ∈ joined base separator row) :
    symbol = separator ∨ ∃ number ∈ row, symbol ∈ Nat.toDigits base number := by
  rcases mem_intercalate member with atSeparator | ⟨part, ofRow, inside⟩
  · exact Or.inl atSeparator
  · obtain ⟨number, member, written⟩ := List.mem_map.mp ofRow
    rw [← written] at inside
    exact Or.inr ⟨number, member, inside⟩

section Rows

variable {base : Nat} (two : 1 < base) (sixteen : base ≤ 16) {separator : Char}
  (foreign : isHexDigit separator = false)

include two sixteen foreign

theorem separator_notMem (row : List Nat) :
    ∀ part ∈ row.map (Nat.toDigits base), separator ∉ part := by
  intro part member inside
  obtain ⟨number, _, written⟩ := List.mem_map.mp member
  rw [← written] at inside
  have digit := isHexDigit_of_mem_toDigits two sixteen inside
  rw [foreign] at digit
  exact Bool.false_ne_true digit

theorem separated_joined {row : List Nat} (nonempty : row ≠ []) :
    separated base separator (joined base separator row) = row := by
  unfold separated joined
  rw [List.splitOn_intercalate separator (separator_notMem two sixteen foreign row)
    (by simpa using nonempty), List.map_map]
  have read : numeralValue base ∘ Nat.toDigits base = id := by
    funext number
    exact numeralValue_toDigits two sixteen number
  rw [read, List.map_id]

theorem count_joined {row : List Nat} (nonempty : row ≠ []) :
    (joined base separator row).count separator + 1 = row.length := by
  unfold joined
  rw [count_intercalate (separator_notMem two sixteen foreign row) (by simpa using nonempty),
    List.length_map]

end Rows

end BabaIo.Numerals
