/-
# Takeover.Text.Quoted -- a text between double quotes

Identities are shown to operators between double quotes.  Inside the quotes the
quote and the backslash are preceded by a backslash; tab, line feed, carriage
return and the null character have one-letter names; every other control
character is written as its code point in hexadecimal between braces.  An
apostrophe stays as it is.

The rule is complete for ASCII.  Which characters beyond ASCII are printable is
a matter of tables that nothing here depends on, so `quoted?` declines them.
-/
namespace Takeover.Text

set_option autoImplicit false

/-- The digits of a number in lower-case hexadecimal, without leading zeros. -/
def hexDigits (n : Nat) : List Char := Nat.toDigits 16 n

/-- How one ASCII character is written between quotes. -/
def escaped (c : Char) : List Char :=
  if c = '"' then ['\\', '"']
  else if c = '\\' then ['\\', '\\']
  else if c = '\n' then ['\\', 'n']
  else if c = '\r' then ['\\', 'r']
  else if c = '\t' then ['\\', 't']
  else if c.toNat = 0 then ['\\', '0']
  else if c.toNat < 0x20 ∨ c.toNat = 0x7f then
    ['\\', 'u', '\x7b'] ++ hexDigits c.toNat ++ ['\x7d']
  else [c]

/-- The characters between double quotes, each escaped. -/
def quoted (s : String) : String :=
  String.ofList ('"' :: s.toList.flatMap escaped ++ ['"'])

/-- The quoted form of an ASCII text; other texts have none here. -/
def quoted? (s : String) : Option String :=
  if s.toList.all (fun c => c.toNat < 0x80) then some (quoted s) else none

end Takeover.Text
