import EscapeTime.Text.Ranges

set_option autoImplicit false

namespace EscapeTime.Text

def blankRanges : List (Nat × Nat) :=
  [(0x09, 0x0d), (0x20, 0x20), (0x85, 0x85), (0xa0, 0xa0), (0x1680, 0x1680), (0x2000, 0x200a),
    (0x2028, 0x2029), (0x202f, 0x202f), (0x205f, 0x205f), (0x3000, 0x3000)]

def isBlank (c : Char) : Bool :=
  within blankRanges c

theorem is_blank_ascii (c : Char) (ascii : c.toNat < 0x80) :
    isBlank c = (decide (0x09 ≤ c.toNat ∧ c.toNat ≤ 0x0d) || decide (c.toNat = 0x20)) := by
  simp only [isBlank, within, blankRanges, List.any_cons, List.any_nil]
  grind

end EscapeTime.Text
