set_option autoImplicit false

namespace EscapeTime.Text

def within (ranges : List (Nat × Nat)) (c : Char) : Bool :=
  ranges.any fun range => range.1 ≤ c.toNat && c.toNat ≤ range.2

end EscapeTime.Text
