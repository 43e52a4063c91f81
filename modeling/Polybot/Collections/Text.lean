import Mathlib.Data.List.DropRight

/-!
Text operations with Python's meaning.

`strip` removes the characters for which `str.isspace` holds. `upper` and `lower`
are `str.upper` and `str.lower` as far as a comparison with an ASCII text can tell:
the letters listed below are the only ones outside ASCII whose uppercase (lowercase)
is ASCII, and every other character keeps the result outside ASCII.
-/

namespace Text

/-- The white space of `str.strip`. -/
def isSpace (c : Char) : Bool :=
  let n := c.toNat
  (0x09 ≤ n && n ≤ 0x0d) || (0x1c ≤ n && n ≤ 0x20) || n = 0x85 || n = 0xa0 || n = 0x1680 ||
    (0x2000 ≤ n && n ≤ 0x200a) || n = 0x2028 || n = 0x2029 || n = 0x202f || n = 0x205f ||
    n = 0x3000

/-- Remove the characters of `drop` from both ends. -/
def trim (drop : Char → Bool) (text : String) : String :=
  String.ofList ((((text.toList.dropWhile drop).reverse).dropWhile drop).reverse)

/-- A list without a front to drop keeps none when its back is dropped. -/
theorem dropWhile_of_prefix {drop : Char → Bool} {front list : List Char}
    (kept : front <+: list.dropWhile drop) : front.dropWhile drop = front := by
  refine List.dropWhile_eq_self_iff.mpr fun nonempty => ?_
  obtain ⟨back, joined⟩ := kept
  cases front with
  | nil => simp at nonempty
  | cons first rest =>
      have inside : list.dropWhile drop ≠ [] := by simp [← joined]
      have refused := List.head_dropWhile_not drop inside
      simp only [← joined, List.cons_append, List.head_cons] at refused
      simp [refused]

theorem trim_trim (drop : Char → Bool) (text : String) :
    trim drop (trim drop text) = trim drop text := by
  unfold trim
  rw [String.toList_ofList]
  have front := dropWhile_of_prefix (List.rdropWhile_prefix drop (text.toList.dropWhile drop))
  exact congrArg String.ofList ((congrArg (List.rdropWhile drop) front).trans
    (List.rdropWhile_idempotent drop _))

/-- `str.strip`. -/
def strip (text : String) : String :=
  trim isSpace text

/-- `btrim`, which removes blanks only. -/
def btrim (text : String) : String :=
  trim (fun c => c = ' ') text

/-- The uppercase of one character. -/
def upperChar (c : Char) : List Char :=
  if 'a' ≤ c ∧ c ≤ 'z' then [c.toUpper]
  else if c.toNat = 0x131 then ['I']
  else if c.toNat = 0x17f then ['S']
  else if c.toNat = 0xdf then ['S', 'S']
  else if c.toNat = 0xfb00 then ['F', 'F']
  else if c.toNat = 0xfb01 then ['F', 'I']
  else if c.toNat = 0xfb02 then ['F', 'L']
  else if c.toNat = 0xfb03 then ['F', 'F', 'I']
  else if c.toNat = 0xfb04 then ['F', 'F', 'L']
  else if c.toNat = 0xfb05 then ['S', 'T']
  else if c.toNat = 0xfb06 then ['S', 'T']
  else [c]

/-- `str.upper`. -/
def upper (text : String) : String :=
  String.ofList (text.toList.flatMap upperChar)

/-- The lowercase of one character. -/
def lowerChar (c : Char) : Char :=
  if 'A' ≤ c ∧ c ≤ 'Z' then c.toLower
  else if c.toNat = 0x212a then 'k'
  else c

/-- `str.lower`. -/
def lower (text : String) : String :=
  String.ofList (text.toList.map lowerChar)

/-- `str.removeprefix`. -/
def removeprefix (text front : String) : String :=
  if front.toList.isPrefixOf text.toList then String.ofList (text.toList.drop front.toList.length)
  else text

end Text
