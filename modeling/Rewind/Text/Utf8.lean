/-!
Reading UTF-8.

`Utf8.decode` accepts exactly the well-formed sequences: no overlong form, no surrogate, nothing
above U+10FFFF. A refusal says where the text stops being well formed: at a sequence that can not be
completed, or at one that the bytes end in the middle of.
-/

namespace Rewind.Utf8

/-- Where and why bytes stop being UTF-8. -/
inductive Fault where
  /-- The `length` bytes at `index` start no character, whatever followed them. -/
  | invalid (length index : Nat)
  /-- The bytes end in the middle of the character that starts at `index`. -/
  | incomplete (index : Nat)
deriving DecidableEq, Repr

def Fault.message : Fault → String
  | .invalid length index => s!"invalid utf-8 sequence of {length} bytes from index {index}"
  | .incomplete index => s!"incomplete utf-8 byte sequence from index {index}"

/-- What the bytes begin with. -/
inductive Front where
  /-- A character and the number of bytes that follow its first one. -/
  | char (c : Char) (more : Nat)
  /-- That many bytes begin no character. -/
  | broken (length : Nat)
  /-- All bytes that are there begin a character. -/
  | cutOff
deriving DecidableEq, Repr

/-- Bytes that continue a character. -/
def isContinuation (b : UInt8) : Bool :=
  0x80 ≤ b && b ≤ 0xBF

/-- The six payload bits of a continuation byte. -/
def payload (b : UInt8) : Nat :=
  b.toNat % 64

/-- The bytes that may follow `first` in a sequence of three. -/
def mayFollowOfThree (first b : UInt8) : Bool :=
  isContinuation b && (first != 0xE0 || 0xA0 ≤ b) && (first != 0xED || b ≤ 0x9F)

/-- The bytes that may follow `first` in a sequence of four. -/
def mayFollowOfFour (first b : UInt8) : Bool :=
  isContinuation b && (first != 0xF0 || 0x90 ≤ b) && (first != 0xF4 || b ≤ 0x8F)

def frontOfTwo (first : UInt8) : List UInt8 → Front
  | [] => .cutOff
  | b :: _ =>
      if isContinuation b then .char (Char.ofNat (first.toNat % 32 * 64 + payload b)) 1
      else .broken 1

def frontOfThree (first : UInt8) : List UInt8 → Front
  | [] => .cutOff
  | b :: rest =>
      if mayFollowOfThree first b then
        match rest with
        | [] => .cutOff
        | c :: _ =>
            if isContinuation c then
              .char (Char.ofNat ((first.toNat % 16 * 64 + payload b) * 64 + payload c)) 2
            else .broken 2
      else .broken 1

def frontOfFour (first : UInt8) : List UInt8 → Front
  | [] => .cutOff
  | b :: rest =>
      if mayFollowOfFour first b then
        match rest with
        | [] => .cutOff
        | c :: rest =>
            if isContinuation c then
              match rest with
              | [] => .cutOff
              | d :: _ =>
                  if isContinuation d then
                    .char (Char.ofNat (((first.toNat % 8 * 64 + payload b) * 64 + payload c) * 64
                      + payload d)) 3
                  else .broken 3
            else .broken 2
      else .broken 1

/-- The first character of the bytes `first :: rest`. -/
def front (first : UInt8) (rest : List UInt8) : Front :=
  if first < 0x80 then .char (Char.ofNat first.toNat) 0
  else if first < 0xC2 then .broken 1
  else if first < 0xE0 then frontOfTwo first rest
  else if first < 0xF0 then frontOfThree first rest
  else if first < 0xF5 then frontOfFour first rest
  else .broken 1

/-- Decodes bytes that stand at `index` of a longer text. -/
def decodeFrom (index : Nat) : List UInt8 → Except Fault (List Char)
  | [] => .ok []
  | first :: rest =>
      match front first rest with
      | .char c more => (decodeFrom (index + 1 + more) (rest.drop more)).map (c :: ·)
      | .broken length => .error (.invalid length index)
      | .cutOff => .error (.incomplete index)
termination_by bytes => bytes.length
decreasing_by simp only [List.length_drop, List.length_cons]; omega

/-- The text that the bytes spell. -/
def decode (bytes : List UInt8) : Except Fault String :=
  (decodeFrom 0 bytes).map String.ofList

/-- The bytes of a text. -/
def encode (text : String) : List UInt8 :=
  text.toUTF8.toList

end Rewind.Utf8
