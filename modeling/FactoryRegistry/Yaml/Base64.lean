/-!
# Bytes written in base 64

Four characters of the alphabet stand for three bytes, and padding fills the last group up. Other
characters are passed over, and so is everything after the padding of a group.
-/

namespace FactoryRegistry.Yaml

/-- The value of a character of the alphabet. -/
def base64Digit? (c : Char) : Option Nat :=
  if 'A' ≤ c && c ≤ 'Z' then some (c.toNat - 65)
  else if 'a' ≤ c && c ≤ 'z' then some (c.toNat - 71)
  else if '0' ≤ c && c ≤ '9' then some (c.toNat + 4)
  else if c == '+' then some 62
  else if c == '/' then some 63
  else none

/-- The bytes of a text, given how many digits of the current group were read, the bits of them
that are left, and how many padding characters came after them. There are none when the text ends
inside a group. -/
def decodeBase64From (digits left padding : Nat) : List Char → Option (List UInt8)
  | [] => if digits = 0 then some [] else none
  | c :: cs =>
    if c == '=' then
      if digits < 2 then decodeBase64From digits left padding cs
      else if 4 ≤ digits + padding + 1 then some []
      else decodeBase64From digits left (padding + 1) cs
    else match base64Digit? c with
      | none => decodeBase64From digits left padding cs
      | some d =>
        let byte (n : Nat) (rest : Option (List UInt8)) := rest.map (UInt8.ofNat n :: ·)
        match digits with
        | 0 => decodeBase64From 1 d 0 cs
        | 1 => byte (4 * left + d / 16) (decodeBase64From 2 (d % 16) 0 cs)
        | 2 => byte (16 * left + d / 4) (decodeBase64From 3 (d % 4) 0 cs)
        | _ => byte (64 * left + d) (decodeBase64From 0 0 0 cs)

/-- The bytes that a text stands for. -/
def decodeBase64? (cs : List Char) : Option (List UInt8) := decodeBase64From 0 0 0 cs

end FactoryRegistry.Yaml
