import InstanceLifecycle.Text.Blank

/-!
# Quoted texts

A text between double quotes, with every character escaped that would not show as itself: quotes
and backslashes, line ends, controls, invisible and combining characters and all blanks but the
plain space.
-/

namespace InstanceLifecycle.Text

/-- Ranges of characters without a shape of their own: formatting marks, combining marks and
private use. -/
def shapelessRanges : List (Nat × Nat) :=
  [(0x00, 0x1F), (0x7F, 0x9F), (0xAD, 0xAD), (0x300, 0x36F), (0x600, 0x605), (0x61C, 0x61C),
    (0x6DD, 0x6DD), (0x70F, 0x70F), (0x180E, 0x180E), (0x200B, 0x200F), (0x202A, 0x202E),
    (0x2060, 0x206F), (0x20D0, 0x20F0), (0xE000, 0xF8FF), (0xFE00, 0xFE0F), (0xFEFF, 0xFEFF),
    (0xFFF9, 0xFFFB), (0xE0001, 0xE007F), (0xE0100, 0xE01EF), (0xF0000, 0x10FFFF)]

/-- Whether a character shows as itself. -/
def isShown (c : Char) : Bool :=
  c == ' ' || !(isBlank c || shapelessRanges.any fun (a, b) => a ≤ c.toNat && c.toNat ≤ b)

/-- How a character stands in a quoted text. -/
def quotedChar (c : Char) : String :=
  match c with
  | '"' => "\\\""
  | '\\' => "\\\\"
  | '\n' => "\\n"
  | '\r' => "\\r"
  | '\t' => "\\t"
  | '\x00' => "\\0"
  | c =>
    if isShown c then c.toString
    else "\\u\x7b" ++ String.ofList (Nat.toDigits 16 c.toNat) ++ "\x7d"

/-- The text between double quotes. -/
def quoted (s : String) : String :=
  "\"" ++ String.join (s.toList.map quotedChar) ++ "\""

end InstanceLifecycle.Text
