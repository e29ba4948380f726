/-!
# UTF-8

Decoding of octets as UTF-8, with the place and the reason of the first octets that cannot be
decoded, both for a whole text and for a file that is read in blocks.

## Main definitions

* `Utf8.scan` — the characters that octets spell, and how the octets end.
* `Utf8.decode` — the text that octets spell, if they spell one.
* `Utf8.decodeBlocks` — the text of a file read block by block, up to the first problem.
-/

namespace SessionRecorder.Utf8

/-- Why octets spell no character. -/
inductive Reason where
  /-- The octet begins no character. -/
  | badLead
  /-- The octets begin a character that the next octet does not continue. -/
  | badTail
  /-- The octets begin a character, and nothing follows. -/
  | cutShort
  deriving DecidableEq, Repr

/-- Octets that spell no character: the reason, the first of them, its position and their
count. -/
structure Problem where
  reason : Reason
  octet : UInt8
  position : Nat
  count : Nat
  deriving DecidableEq, Repr

/-- How a scan over octets ended. -/
inductive Ending where
  | complete
  /-- The octets that remain begin a character. -/
  | cut (remaining : List UInt8) (position : Nat)
  | bad (problem : Problem)
  deriving Repr

/-- Whether an octet continues a character. -/
def isTail (b : UInt8) : Bool :=
  0x80 ≤ b && b ≤ 0xbf

/-- The least and greatest second octet after a lead octet of three or four. -/
def secondBounds (lead : UInt8) : UInt8 × UInt8 :=
  if lead == 0xe0 then (0xa0, 0xbf)
  else if lead == 0xed then (0x80, 0x9f)
  else if lead == 0xf0 then (0x90, 0xbf)
  else if lead == 0xf4 then (0x80, 0x8f)
  else (0x80, 0xbf)

/-- Whether an octet may stand second after a lead octet. -/
def isSecond (lead b : UInt8) : Bool :=
  (secondBounds lead).1 ≤ b && b ≤ (secondBounds lead).2

/-- The six low bits that a tail octet contributes. -/
def tailBits (b : UInt8) : Nat :=
  b.toNat % 64

/-- A character put in front of what a scan found. -/
def foundAfter (c : Char) (found : List Char × Ending) : List Char × Ending :=
  (c :: found.1, found.2)

/-- The characters that octets spell up to the first problem; `position` is the position of the
first octet. -/
def scan (position : Nat) : List UInt8 → List Char × Ending
  | [] => ([], .complete)
  | a :: r =>
    if a < 0x80 then foundAfter (Char.ofNat a.toNat) (scan (position + 1) r)
    else if a < 0xc2 then ([], .bad ⟨.badLead, a, position, 1⟩)
    else if a < 0xe0 then
      match r with
      | [] => ([], .cut [a] position)
      | b :: r =>
        if isTail b then
          foundAfter (Char.ofNat ((a.toNat - 0xc0) * 64 + tailBits b)) (scan (position + 2) r)
        else ([], .bad ⟨.badTail, a, position, 1⟩)
    else if a < 0xf0 then
      match r with
      | [] => ([], .cut [a] position)
      | b :: r =>
        if isSecond a b then
          match r with
          | [] => ([], .cut [a, b] position)
          | c :: r =>
            if isTail c then
              foundAfter (Char.ofNat (((a.toNat - 0xe0) * 64 + tailBits b) * 64 + tailBits c))
                (scan (position + 3) r)
            else ([], .bad ⟨.badTail, a, position, 2⟩)
        else ([], .bad ⟨.badTail, a, position, 1⟩)
    else if a < 0xf5 then
      match r with
      | [] => ([], .cut [a] position)
      | b :: r =>
        if isSecond a b then
          match r with
          | [] => ([], .cut [a, b] position)
          | c :: r =>
            if isTail c then
              match r with
              | [] => ([], .cut [a, b, c] position)
              | d :: r =>
                if isTail d then
                  foundAfter
                    (Char.ofNat ((((a.toNat - 0xf0) * 64 + tailBits b) * 64 + tailBits c) * 64 +
                      tailBits d))
                    (scan (position + 4) r)
                else ([], .bad ⟨.badTail, a, position, 3⟩)
            else ([], .bad ⟨.badTail, a, position, 2⟩)
        else ([], .bad ⟨.badTail, a, position, 1⟩)
    else ([], .bad ⟨.badLead, a, position, 1⟩)

/-- The problem of octets that end inside a character. -/
def cutProblem (remaining : List UInt8) (position : Nat) : Problem :=
  ⟨.cutShort, remaining.headD 0, position, remaining.length⟩

/-- The text that octets spell, if they spell one. -/
def decode (octets : List UInt8) : Except Problem String :=
  match scan 0 octets with
  | (cs, .complete) => .ok (String.ofList cs)
  | (_, .cut remaining position) => .error (cutProblem remaining position)
  | (_, .bad problem) => .error problem

/-- The octets of a text. -/
def encode (s : String) : List UInt8 :=
  s.toUTF8.toList

/-- Whether octets begin a character out of the surrogate range and end before its third octet. At
the end of a block they count as cut short. -/
def isHalfSurrogate : List UInt8 → Bool
  | [a, b] => a == 0xed && isTail b
  | _ => false

/-- What the octets at the end of a file stand for. -/
def finish (pending : List UInt8) : List Char × Option Problem :=
  match scan 0 pending with
  | (cs, .complete) => (cs, none)
  | (_, .cut remaining position) => ([], some (cutProblem remaining position))
  | (_, .bad problem) => ([], some problem)

/-- The characters of a file that is read in blocks, and the problem that ended the reading, if
one did. The octets that begin a character at the end of one block are read again with the next
one; positions count from there. Of the block in which a problem stands nothing is delivered. -/
def decodeBlocksFrom (pending : List UInt8) :
    List (List UInt8) → List Char × Option Problem
  | [] => finish pending
  | block :: blocks =>
    let octets := pending ++ block
    match scan 0 octets with
    | (cs, .complete) =>
      let (rest, problem) := decodeBlocksFrom [] blocks
      (cs ++ rest, problem)
    | (cs, .cut remaining _) =>
      let (rest, problem) := decodeBlocksFrom remaining blocks
      (cs ++ rest, problem)
    | (cs, .bad problem) =>
      let remaining := octets.drop problem.position
      if isHalfSurrogate remaining then
        let (rest, problem) := decodeBlocksFrom remaining blocks
        (cs ++ rest, problem)
      else ([], some problem)

/-- A list in pieces of `size` elements (the last may be shorter); `fuel` bounds their number. -/
def blocksOf (size : Nat) : (fuel : Nat) → List UInt8 → List (List UInt8)
  | 0, _ => []
  | fuel + 1, octets =>
    if octets.isEmpty then [] else octets.take size :: blocksOf size fuel (octets.drop size)

/-- How many octets of a text file are decoded at a time. -/
def blockSize : Nat := 8192

/-- The characters of a file that is read in blocks, up to the first problem. -/
def decodeBlocks (octets : List UInt8) : List Char × Option Problem :=
  decodeBlocksFrom [] (blocksOf blockSize (octets.length + 1) octets)

end SessionRecorder.Utf8
