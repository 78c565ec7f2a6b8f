import RouletteStrategy.Text.Split
import RouletteStrategy.Text.Utf8

/-!
# Paths on their way to the service

Segments that mean "here" and "back" are resolved before a path is asked for. Escapes in it are
resolved once on the way out and once on arrival.
-/

namespace RouletteStrategy.Service

def hexValue? (b : UInt8) : Option UInt8 :=
  if 48 ≤ b ∧ b ≤ 57 then some (b - 48)
  else if 65 ≤ b ∧ b ≤ 70 then some (b - 55)
  else if 97 ≤ b ∧ b ≤ 102 then some (b - 87)
  else none

/-- Bytes with each percent sign and two hexadecimal digits replaced by the byte they denote. -/
def unescapeBytes : List UInt8 → List UInt8
  | [] => []
  | 37 :: a :: b :: rest =>
    match hexValue? a, hexValue? b with
    | some x, some y => (16 * x + y) :: unescapeBytes rest
    | _, _ => 37 :: unescapeBytes (a :: b :: rest)
  | b :: rest => b :: unescapeBytes rest

def unescape (s : String) : String :=
  Text.ofPlain (String.ofList (Text.Utf8.decode (unescapeBytes (Text.toPlain s).toUTF8.toList)))

/-- The segments that are left once `.` stays in place and `..` goes back. Nothing goes back beyond
the root. -/
def resolveDots (segments : List String) : List String :=
  segments.foldl
    (fun done segment =>
      if segment = "." then done
      else if segment = ".." then if done = [""] then done else done.dropLast
      else done ++ [segment])
    []

/-- A path with its segments `.` and `..` resolved. -/
def withoutDots (path : String) : String :=
  "/".intercalate (resolveDots (Text.splitAt '/' path))

/-- What arrives of a path that is asked for. -/
def arriving (path : String) : String :=
  let path := withoutDots path
  unescape (unescape (if path = "" then "/" else path))

/-- The number of bytes of a code point. -/
def byteCount (n : Nat) : Nat :=
  if n < 0x80 then 1 else if n < 0x800 then 2 else if n < 0x10000 then 3 else 4

def isHexCode (n : Nat) : Bool := n < 0x80 && (hexValue? (.ofNat n)).isSome

/-- Whether code points begin with two hexadecimal digits. -/
def startsWithByte : List Nat → Bool
  | a :: b :: _ => isHexCode a && isHexCode b
  | _ => false

/-- The number of characters once each byte of a code point that cannot stay is escaped. An escape
stays as it is. -/
def escapedSize (stays : Nat → Bool) : List Nat → Nat
  | [] => 0
  | n :: ns =>
    (if n = '%'.toNat && startsWithByte ns || n ≠ '%'.toNat && stays n then 1
      else 3 * byteCount n) + escapedSize stays ns

def isPrintable (n : Nat) : Bool := 0x20 < n && n < 0x7f

def isInPath (n : Nat) : Bool := isPrintable n && !"\"#<>?`\x7b\x7d".toList.contains (.ofNat n)

def isInQuery (n : Nat) : Bool := isPrintable n && !"\"#<>".toList.contains (.ofNat n)

/-- What stays in the path or the query of an address to which a client is sent on. -/
def isInLocation (n : Nat) : Bool :=
  isPrintable n && !"\"#<>?`\x7b\x7d|^\\".toList.contains (.ofNat n)

end RouletteStrategy.Service
