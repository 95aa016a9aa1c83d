/-
White space as the Unicode property `White_Space` lists it, and trimming.

`isBlank` is the table; `trim` drops blanks at both ends. The joiners
U+200B and U+FEFF and the former space U+180E are not in the table.
-/
namespace Parley.Text

/-- The characters with the property `White_Space`. -/
def isBlank (c : Char) : Bool :=
  let n := c.toNat
  (9 ≤ n && n ≤ 13) || n == 0x20 || n == 0x85 || n == 0xA0 || n == 0x1680
    || (0x2000 ≤ n && n ≤ 0x200A) || n == 0x2028 || n == 0x2029 || n == 0x202F
    || n == 0x205F || n == 0x3000

/-- The text without its leading blanks. -/
def trimStart (s : List Char) : List Char := s.dropWhile isBlank

/-- The text without its trailing blanks. -/
def trimEnd (s : List Char) : List Char := (s.reverse.dropWhile isBlank).reverse

/-- The text without the blanks at its ends. -/
def trim (s : List Char) : List Char := trimEnd (trimStart s)

/-- The text of a string without the blanks at its ends. -/
def trimmed (s : String) : String := String.ofList (trim s.toList)

/-- Whether a string holds blanks only. -/
def blank (s : String) : Bool := s.toList.all isBlank

/-! ## What trimming leaves -/

theorem trimStart_eq_nil_iff (s : List Char) : trimStart s = [] ↔ s.all isBlank = true := by
  induction s with
  | nil => simp [trimStart]
  | cons c s ih =>
    by_cases h : isBlank c = true
    · have hs : trimStart (c :: s) = trimStart s := by simp [trimStart, h]
      rw [hs, ih, List.all_cons, h, Bool.true_and]
    · simp [trimStart, h]

end Parley.Text
