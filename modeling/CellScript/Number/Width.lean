/-! # Numbers of a given width

Which whole numbers have room in so many binary digits. -/

namespace CellScript

/-- Whether a number has room in `bits` binary digits. -/
def fitsNat (bits n : Nat) : Bool :=
  n < Nat.pow 2 bits

/-- Whether an integer has room in `bits` binary digits, the first of them its sign. -/
def fitsInt (bits : Nat) : Int → Bool
  | .ofNat n => fitsNat (bits - 1) n
  | .negSucc n => fitsNat (bits - 1) n

end CellScript
