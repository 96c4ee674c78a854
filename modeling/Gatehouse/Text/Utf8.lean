/-!
UTF-8: characters to bytes, and bytes back to characters.

Bytes that are no UTF-8 are cut into pieces: each piece is a whole character, or a broken
piece, which is a longest start of some character that the next byte does not continue (one
byte where no character starts). Lossy decoding shows a broken piece as U+FFFD.
-/

namespace Gatehouse.Utf8

/-! ## Encoding -/

/-- The bytes of one character. -/
def encodeChar (c : Char) : List UInt8 :=
  let n := c.toNat
  if n < 0x80 then
    [UInt8.ofNat n]
  else if n < 0x800 then
    [UInt8.ofNat (0xC0 + n / 64), UInt8.ofNat (0x80 + n % 64)]
  else if n < 0x10000 then
    [UInt8.ofNat (0xE0 + n / 4096), UInt8.ofNat (0x80 + n / 64 % 64), UInt8.ofNat (0x80 + n % 64)]
  else
    [UInt8.ofNat (0xF0 + n / 262144), UInt8.ofNat (0x80 + n / 4096 % 64),
      UInt8.ofNat (0x80 + n / 64 % 64), UInt8.ofNat (0x80 + n % 64)]

/-- The bytes of a text. -/
def encode (s : String) : List UInt8 :=
  s.toList.flatMap encodeChar

/-! ## Pieces -/

/-- What stands at one place of a list of bytes, with the number of bytes it takes. -/
inductive Piece where
  | scalar (c : Char) (width : Nat)
  | broken (width : Nat)
  deriving Repr, DecidableEq

/-- The number of bytes of a piece. -/
def Piece.width : Piece → Nat
  | .scalar _ w => w
  | .broken w => w

/-- The character of a piece that is one. -/
def Piece.scalar? : Piece → Option Char
  | .scalar c _ => some c
  | .broken _ => none

/-- A byte that continues a character: `80` to `BF`. -/
def isTail (b : UInt8) : Bool :=
  0x80 ≤ b.toNat && b.toNat ≤ 0xBF

/-- A byte that may come second after the lead byte `n`. The narrower ranges shut out overlong
forms, surrogates and numbers above `10FFFF`. -/
def isSecond (n : Nat) (b : UInt8) : Bool :=
  isTail b &&
    (if n == 0xE0 then 0xA0 ≤ b.toNat
     else if n == 0xED then b.toNat ≤ 0x9F
     else if n == 0xF0 then 0x90 ≤ b.toNat
     else if n == 0xF4 then b.toNat ≤ 0x8F
     else true)

/-- The six bits that a continuing byte carries. -/
def tailBits (b : UInt8) : Nat :=
  b.toNat - 0x80

/-- The piece that starts with byte `b` when the bytes `rest` follow. -/
def piece (b : UInt8) (rest : List UInt8) : Piece :=
  let n := b.toNat
  if n < 0x80 then
    .scalar (Char.ofNat n) 1
  else if 0xC2 ≤ n && n ≤ 0xDF then
    match rest with
    | b₁ :: _ =>
      if isTail b₁ then .scalar (Char.ofNat ((n - 0xC0) * 64 + tailBits b₁)) 2 else .broken 1
    | [] => .broken 1
  else if 0xE0 ≤ n && n ≤ 0xEF then
    match rest with
    | b₁ :: b₂ :: _ =>
      if isSecond n b₁ then
        if isTail b₂ then
          .scalar (Char.ofNat ((n - 0xE0) * 4096 + tailBits b₁ * 64 + tailBits b₂)) 3
        else .broken 2
      else .broken 1
    | [b₁] => if isSecond n b₁ then .broken 2 else .broken 1
    | [] => .broken 1
  else if 0xF0 ≤ n && n ≤ 0xF4 then
    match rest with
    | b₁ :: b₂ :: b₃ :: _ =>
      if isSecond n b₁ then
        if isTail b₂ then
          if isTail b₃ then
            .scalar (Char.ofNat ((n - 0xF0) * 262144 + tailBits b₁ * 4096 + tailBits b₂ * 64 +
              tailBits b₃)) 4
          else .broken 3
        else .broken 2
      else .broken 1
    | [b₁, b₂] =>
      if isSecond n b₁ then if isTail b₂ then .broken 3 else .broken 2 else .broken 1
    | [b₁] => if isSecond n b₁ then .broken 2 else .broken 1
    | [] => .broken 1
  else
    .broken 1

/-- Cuts bytes into pieces behind the reversed pieces `acc`; the first `skip` bytes belong to
the last of those. -/
def scan (acc : List Piece) : (skip : Nat) → List UInt8 → List Piece
  | _, [] => acc.reverse
  | skip + 1, _ :: rest => scan acc skip rest
  | 0, b :: rest => scan (piece b rest :: acc) ((piece b rest).width - 1) rest

/-- The pieces of a list of bytes, in order. -/
def pieces (bytes : List UInt8) : List Piece :=
  scan [] 0 bytes

/-! ## Decoding -/

/-- The text of the bytes, each broken piece shown as U+FFFD. -/
def decodeLossy (bytes : List UInt8) : String :=
  String.ofList ((pieces bytes).map fun p => p.scalar?.getD '\uFFFD')

/-- The text of the bytes, if they are UTF-8. -/
def decode? (bytes : List UInt8) : Option String :=
  ((pieces bytes).mapM Piece.scalar?).map String.ofList

/-- How many bytes stand before the first broken piece. -/
def validLength (bytes : List UInt8) : Nat :=
  ((pieces bytes).takeWhile fun p => p.scalar?.isSome).foldl (fun n p => n + p.width) 0

theorem scan_acc (acc : List Piece) (skip : Nat) (bytes : List UInt8) :
    scan acc skip bytes = acc.reverse ++ scan [] skip bytes := by
  induction bytes generalizing acc skip with
  | nil => simp [scan]
  | cons b rest ih =>
    cases skip with
    | succ k => simp only [scan]; rw [ih acc k]
    | zero =>
      simp only [scan]
      rw [ih (piece b rest :: acc), ih [piece b rest]]
      simp

end Gatehouse.Utf8
