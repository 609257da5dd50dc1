import Mathlib.Algebra.Group.Nat.Defs
import Mathlib.Data.List.DropRight

/-!
# Text operations of the standard library

Strings are compared and taken apart as lists of characters. White space
is the Unicode property `White_Space`, which is what `trim` removes.
-/

namespace Text

/-- `char::is_whitespace`. -/
def isWhitespace (c : Char) : Bool :=
  let n := c.toNat
  (0x9 ≤ n && n ≤ 0xD) || n == 0x20 || n == 0x85 || n == 0xA0 || n == 0x1680 ||
    (0x2000 ≤ n && n ≤ 0x200A) || n == 0x2028 || n == 0x2029 || n == 0x202F ||
    n == 0x205F || n == 0x3000

/-- `char::is_ascii_alphanumeric`. -/
def isAsciiAlphanumeric (c : Char) : Bool :=
  ('0' ≤ c && c ≤ '9') || ('A' ≤ c && c ≤ 'Z') || ('a' ≤ c && c ≤ 'z')

/-- `char::to_ascii_lowercase`. -/
def toAsciiLowercase (c : Char) : Char :=
  if 'A' ≤ c ∧ c ≤ 'Z' then Char.ofNat (c.toNat + 32) else c

/-- `str::trim` on the characters of a string. -/
def trimChars (cs : List Char) : List Char :=
  (cs.dropWhile isWhitespace).rdropWhile isWhitespace

def trim (s : String) : String := String.ofList (trimChars s.toList)

/-- `s.trim().is_empty()`. -/
def isBlank (s : String) : Bool := (trimChars s.toList).isEmpty

/-- `haystack.contains(needle)`. -/
def contains (haystack needle : List Char) : Bool :=
  haystack.tails.any (needle.isPrefixOf ·)

def asciiLowercase (s : String) : List Char := s.toList.map toAsciiLowercase

/-- `str::parse::<u64>`. -/
def parseU64 (cs : List Char) : Option ℕ :=
  let digits := if cs.head? = some '+' then cs.tail else cs
  if digits ≠ [] ∧ digits.all Char.isDigit then
    let n := Nat.ofDigitChars 10 digits 0
    if n < 2 ^ 64 then some n else none
  else none

theorem trimChars_of_forall {cs : List Char} (h : ∀ c ∈ cs, isWhitespace c = false) :
    trimChars cs = cs := by
  have hleft : cs.dropWhile isWhitespace = cs := by
    cases cs with
    | nil => rfl
    | cons c cs => rw [List.dropWhile_cons_of_neg (by simp [h c List.mem_cons_self])]
  rw [trimChars, hleft]
  exact List.rdropWhile_eq_self_iff.mpr fun hne => by simp [h _ (List.getLast_mem hne)]

theorem trimChars_trimChars (cs : List Char) : trimChars (trimChars cs) = trimChars cs := by
  have hleft : (trimChars cs).dropWhile isWhitespace = trimChars cs := by
    rw [List.dropWhile_eq_self_iff]
    intro hlength
    have hprefix : trimChars cs <+: cs.dropWhile isWhitespace := List.rdropWhile_prefix _ _
    have hhead := List.dropWhile_get_zero_not isWhitespace cs (hlength.trans_le hprefix.length_le)
    rwa [List.get_eq_getElem, ← hprefix.getElem hlength] at hhead
  conv_lhs => rw [trimChars, hleft]
  exact List.rdropWhile_idempotent _ _

theorem trim_trim (s : String) : trim (trim s) = trim s := by
  rw [trim, trim, String.toList_ofList, trimChars_trimChars]

end Text
