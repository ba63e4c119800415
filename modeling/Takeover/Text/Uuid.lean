/-
# Takeover.Text.Uuid -- random identifiers in their written form

A version 4 identifier has 122 free bits.  It is written as 32 lower-case
hexadecimal digits in groups of 8, 4, 4, 4 and 12 with hyphens between them; the
thirteenth digit is the version, `4`, and the seventeenth carries the variant in
its two upper bits and so is one of `8`, `9`, `a`, `b`.

`Uuid.render` writes an identifier from its free bits, and `Uuid.IsVersion4`
says of any text whether it has that form.
-/
namespace Takeover.Text.Uuid

set_option autoImplicit false

/-- The digit of a number below sixteen. -/
def hexDigit (n : Nat) : Char := Nat.digitChar (n % 16)

/-- The last `width` hexadecimal digits of `n`, most significant first. -/
def digits : (width n : Nat) → List Char
  | 0, _ => []
  | width + 1, n => digits width (n / 16) ++ [hexDigit n]

/-- How many identifiers there are: two to the power of 122, the free bits. -/
def count : Nat := 1 <<< 122

/-- The written form of the identifier with the given free bits: the last two of
them are in the digit of the variant and the others are thirty digits. -/
def render (bits : Nat) : String :=
  let free := digits 30 (bits / 4)
  String.ofList <|
    free.take 8 ++ '-' :: (free.drop 8).take 4 ++ '-' :: '4' :: (free.drop 12).take 3 ++
      '-' :: hexDigit (8 + bits % 4) :: (free.drop 15).take 3 ++ '-' :: free.drop 18

/-- Whether a character is a lower-case hexadecimal digit. -/
def isHexDigit (c : Char) : Bool :=
  ('0' ≤ c && c ≤ '9') || ('a' ≤ c && c ≤ 'f')

/-- Whether the character at a position of the written form is admitted there. -/
def admits (position : Nat) (c : Char) : Bool :=
  if position = 8 ∨ position = 13 ∨ position = 18 ∨ position = 23 then c == '-'
  else if position = 14 then c == '4'
  else if position = 19 then c == '8' || c == '9' || c == 'a' || c == 'b'
  else isHexDigit c

/-- The written form of a version 4 identifier: thirty-six characters, each of
them admitted at its place. -/
def isVersion4 (s : String) : Bool :=
  s.toList.length == 36 && s.toList.zipIdx.all fun (c, position) => admits position c

end Takeover.Text.Uuid
