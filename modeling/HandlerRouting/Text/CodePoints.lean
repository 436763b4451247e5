/-!
Properties of characters. A property is written as the code points at which it changes, in
increasing order and starting from "no", so that adjoining blocks need one number each.
-/

namespace HandlerRouting.Text

def insideFrom (inside : Bool) (code : Nat) : List Nat → Bool
  | [] => inside
  | bound :: rest => if code < bound then inside else insideFrom (!inside) code rest

def withinBounds (bounds : List Nat) (c : Char) : Bool := insideFrom false c.toNat bounds

theorem of_ascii {P : Char → Prop} (codes : ∀ code < 0x80, P (Char.ofNat code)) {c : Char}
    (ascii : c.toNat < 0x80) : P c := by
  have holds := codes c.toNat ascii
  rwa [Char.ofNat_toNat] at holds

end HandlerRouting.Text
