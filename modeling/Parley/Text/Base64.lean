/-!
# Base64

Bytes in groups of three, written as four characters out of 64; a short last group is filled up
with equals signs.
-/

namespace Parley
namespace Text
namespace Base64

/-- The character for a number below 64. -/
def digit (n : Nat) : Char :=
  if n < 26 then Char.ofNat ('A'.toNat + n)
  else if n < 52 then Char.ofNat ('a'.toNat + (n - 26))
  else if n < 62 then Char.ofNat ('0'.toNat + (n - 52))
  else if n = 62 then '+'
  else '/'

/-- The first `count` of the four characters for three bytes. -/
def group (count : Nat) (a b c : UInt8) : List Char :=
  let n := a.toNat * 65536 + b.toNat * 256 + c.toNat
  [n / 262144, n / 4096 % 64, n / 64 % 64, n % 64].take count |>.map digit

def encode : List UInt8 → List Char
  | [] => []
  | [a] => group 2 a 0 0 ++ ['=', '=']
  | [a, b] => group 3 a b 0 ++ ['=']
  | a :: b :: c :: rest => group 4 a b c ++ encode rest

end Base64
end Text
end Parley
