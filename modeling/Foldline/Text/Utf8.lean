import Foldline.Text.Quoted

/-! # UTF-8

Encoding and strict decoding. A byte sequence that is not well formed is reported with the place of
its first byte and the number of bytes that belong to the faulty sequence. -/

namespace Foldline.Text.Utf8

def encodeChar (c : Char) : List UInt8 :=
  let n := c.toNat
  if n < 0x80 then [n.toUInt8]
  else if n < 0x800 then [(0xC0 + n / 64).toUInt8, (0x80 + n % 64).toUInt8]
  else if n < 0x10000 then
    [(0xE0 + n / 4096).toUInt8, (0x80 + n / 64 % 64).toUInt8, (0x80 + n % 64).toUInt8]
  else
    [(0xF0 + n / 262144).toUInt8, (0x80 + n / 4096 % 64).toUInt8,
      (0x80 + n / 64 % 64).toUInt8, (0x80 + n % 64).toUInt8]

def encode (s : List Char) : List UInt8 := s.flatMap encodeChar

/-- Number of bytes of a text in UTF-8. -/
def size (s : List Char) : Nat := s.foldl (fun n c => n + (encodeChar c).length) 0

/-- Why a byte sequence is no character. -/
inductive Reason where
  | startByte
  | continuationByte
  | endOfData
  deriving DecidableEq, Repr

/-- A faulty sequence: its first byte, where it starts and how many bytes it has. -/
structure Fault where
  byte : UInt8
  position : Nat
  length : Nat
  reason : Reason
  deriving DecidableEq, Repr

def Reason.text : Reason → String
  | .startByte => "invalid start byte"
  | .continuationByte => "invalid continuation byte"
  | .endOfData => "unexpected end of data"

def Fault.message (f : Fault) : String :=
  let place :=
    if f.length = 1 then
      s!"byte 0x{String.ofList (hexDigits 2 f.byte.toNat)} in position {f.position}"
    else s!"bytes in position {f.position}-{f.position + f.length - 1}"
  s!"'utf-8' codec can't decode {place}: {f.reason.text}"

def isContinuation (b : UInt8) : Bool := 0x80 ≤ b && b < 0xC0

/-- Whether `b` may follow the first byte `lead` of a sequence of three or four bytes. Overlong
forms, surrogates and code points above 10FFFF are shut out here. -/
def maySecond (lead b : UInt8) : Bool :=
  isContinuation b &&
    (if lead == 0xE0 then 0xA0 ≤ b
    else if lead == 0xED then b < 0xA0
    else if lead == 0xF0 then 0x90 ≤ b
    else if lead == 0xF4 then b < 0x90
    else true)

/-- The six payload bits of a continuation byte. -/
def payload (b : UInt8) : Nat := b.toNat % 64

/-- Decode the rest of the input, where `position` bytes are done and give `done`, last character
first. -/
def decodeFrom (position : Nat) (done : List Char) : List UInt8 → Except Fault (List Char)
  | [] => .ok done.reverse
  | a :: rest =>
      let fault (length : Nat) (reason : Reason) : Except Fault (List Char) :=
        .error ⟨a, position, length, reason⟩
      if a < 0x80 then decodeFrom (position + 1) (Char.ofNat a.toNat :: done) rest
      else if a < 0xC2 then fault 1 .startByte
      else if a < 0xE0 then
        match rest with
        | [] => fault 1 .endOfData
        | b :: rest =>
            if isContinuation b then
              let n := a.toNat % 32 * 64 + payload b
              decodeFrom (position + 2) (Char.ofNat n :: done) rest
            else fault 1 .continuationByte
      else if a < 0xF0 then
        match rest with
        | [] => fault 1 .endOfData
        | b :: rest =>
            if !maySecond a b then fault 1 .continuationByte
            else
              match rest with
              | [] => fault 2 .endOfData
              | c :: rest =>
                  if isContinuation c then
                    let n := (a.toNat % 16 * 64 + payload b) * 64 + payload c
                    decodeFrom (position + 3) (Char.ofNat n :: done) rest
                  else fault 2 .continuationByte
      else if a < 0xF5 then
        match rest with
        | [] => fault 1 .endOfData
        | b :: rest =>
            if !maySecond a b then fault 1 .continuationByte
            else
              match rest with
              | [] => fault 2 .endOfData
              | c :: rest =>
                  if !isContinuation c then fault 2 .continuationByte
                  else
                    match rest with
                    | [] => fault 3 .endOfData
                    | d :: rest =>
                        if isContinuation d then
                          let high := (a.toNat % 8 * 64 + payload b) * 64 + payload c
                          let n := high * 64 + payload d
                          decodeFrom (position + 4) (Char.ofNat n :: done) rest
                        else fault 3 .continuationByte
      else fault 1 .startByte

def decode (bytes : List UInt8) : Except Fault (List Char) := decodeFrom 0 [] bytes

end Foldline.Text.Utf8
