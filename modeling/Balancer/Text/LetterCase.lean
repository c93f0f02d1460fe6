/-!
Letter case, as far as it takes to recognise a word of ASCII letters in any spelling.

A character whose capital or folded form is not made of ASCII letters alone never takes part in
such a word, so its form is left as it is. The characters outside ASCII whose form is ASCII are
few and are listed.
-/

namespace Balancer.Text

/-- The capital form of a character. -/
def capital (c : Char) : List Char :=
  match c.toNat with
  | 0xDF => ['S', 'S']
  | 0x131 => ['I']
  | 0x17F => ['S']
  | 0xFB00 => ['F', 'F']
  | 0xFB01 => ['F', 'I']
  | 0xFB02 => ['F', 'L']
  | 0xFB03 => ['F', 'F', 'I']
  | 0xFB04 => ['F', 'F', 'L']
  | 0xFB05 => ['S', 'T']
  | 0xFB06 => ['S', 'T']
  | _ => [c.toUpper]

/-- The form of a character in which texts are compared without regard to case. -/
def folded (c : Char) : List Char :=
  match c.toNat with
  | 0xDF => ['s', 's']
  | 0x17F => ['s']
  | 0x1E9E => ['s', 's']
  | 0x212A => ['k']
  | 0xFB00 => ['f', 'f']
  | 0xFB01 => ['f', 'i']
  | 0xFB02 => ['f', 'l']
  | 0xFB03 => ['f', 'f', 'i']
  | 0xFB04 => ['f', 'f', 'l']
  | 0xFB05 => ['s', 't']
  | 0xFB06 => ['s', 't']
  | _ => [c.toLower]

def capitals (s : String) : String := .ofList (s.toList.flatMap capital)

def fold (s : String) : String := .ofList (s.toList.flatMap folded)

end Balancer.Text
