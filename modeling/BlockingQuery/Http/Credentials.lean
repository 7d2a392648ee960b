import BlockingQuery.Http.Percent

/-!
# Credentials

User information in a URL becomes an `Authorization` field of the basic scheme: a name and a password with
a colon between them, in base 64.
-/

namespace BlockingQuery.Credentials

open Text

/-- The digits of base 64. -/
def alphabet : List Char :=
  "ABCDEFGHIJKLMNOPQRSTUVWXYZabcdefghijklmnopqrstuvwxyz0123456789+/".toList

/-- The digit of a number below 64. -/
def digit (n : Nat) : Char :=
  alphabet.getD n '='

/-- Bytes in base 64, three to four digits, padded at the end. -/
def base64 : List UInt8 → List Char
  | [] => []
  | [a] => [digit (a.toNat / 4), digit (a.toNat % 4 * 16), '=', '=']
  | [a, b] =>
    [digit (a.toNat / 4), digit (a.toNat % 4 * 16 + b.toNat / 16), digit (b.toNat % 16 * 4), '=']
  | a :: b :: c :: bs =>
    digit (a.toNat / 4) :: digit (a.toNat % 4 * 16 + b.toNat / 16) ::
      digit (b.toNat % 16 * 4 + c.toNat / 64) :: digit (c.toNat % 64) :: base64 bs

/-- The value of the field for user information, unless it holds neither a name nor a password. -/
def authorization? (userinfo : List Char) : Option String :=
  let name := Percent.decode (userinfo.takeWhile (· != ':'))
  let password := Percent.decode ((userinfo.dropWhile (· != ':')).drop 1)
  if name.isEmpty && password.isEmpty then none
  else some (String.ofList ("Basic ".toList ++ base64 (utf8 name ++ 0x3A :: utf8 password)))

end BlockingQuery.Credentials
