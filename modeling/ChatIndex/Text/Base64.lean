/-! # Base64

Three bytes as four letters of the standard alphabet; an incomplete group is filled up with `=`.
-/

namespace ChatIndex.Text

/-- The letter of a number below 64. -/
def base64Letter (n : Nat) : Char :=
  if n < 26 then Char.ofNat ('A'.toNat + n)
  else if n < 52 then Char.ofNat ('a'.toNat + (n - 26))
  else if n < 62 then Char.ofNat ('0'.toNat + (n - 52))
  else if n = 62 then '+'
  else '/'

/-- The letters of a list of bytes. -/
def base64Letters : List UInt8 → List Char
  | [] => []
  | [a] =>
    let n := a.toNat * 0x10000
    [base64Letter (n / 0x40000), base64Letter (n / 0x1000 % 64), '=', '=']
  | [a, b] =>
    let n := a.toNat * 0x10000 + b.toNat * 0x100
    [base64Letter (n / 0x40000), base64Letter (n / 0x1000 % 64), base64Letter (n / 0x40 % 64), '=']
  | a :: b :: c :: rest =>
    let n := a.toNat * 0x10000 + b.toNat * 0x100 + c.toNat
    base64Letter (n / 0x40000) :: base64Letter (n / 0x1000 % 64) ::
      base64Letter (n / 0x40 % 64) :: base64Letter (n % 64) :: base64Letters rest

/-- A text, as UTF-8, in Base64. -/
def base64 (s : String) : String :=
  String.ofList (base64Letters s.toUTF8.toList)

end ChatIndex.Text
