/-!
# LineCensus.Text.Utf8 — bytes read as characters

1. `Decoder`: what is still owed after the bytes so far, and the characters read. A broken sequence is
   reported once for its longest part that could have begun a character, and reading goes on with the
   byte that broke it.
2. `decode?`: the text of well-formed bytes, and nothing otherwise.
3. `decodeLossy`: the text of any bytes, with a replacement character for each broken sequence.
4. `encode`: the bytes of a text.
-/

namespace LineCensus

/-- Raw bytes: the content of a file, a file name, a path. -/
abbrev Bytes := List UInt8

namespace Text

/-! ## The decoder -/

/-- What the bytes read last leave open. -/
inductive Owed where
  /-- They end a character. -/
  | nothing
  /-- So many more bytes, the next of them from `lo` to `hi`, and the bits gathered. -/
  | tails (more : Nat) (lo hi : UInt8) (bits : Nat)
deriving DecidableEq, Repr

/-- The decoder between two bytes: what is owed, and what was read, last first. A broken sequence is
read as none. -/
structure Decoder where
  owed : Owed
  read : List (Option Char)
deriving Repr

namespace Decoder

/-- Before the first byte. -/
def start : Decoder := ⟨.nothing, []⟩

/-- Takes a byte that begins a sequence. -/
def lead (read : List (Option Char)) (b : UInt8) : Decoder :=
  if b < 0x80 then ⟨.nothing, some (Char.ofNat b.toNat) :: read⟩
  else if b < 0xc2 then ⟨.nothing, none :: read⟩
  else if b < 0xe0 then ⟨.tails 1 0x80 0xbf (b.toNat - 0xc0), read⟩
  else if b = 0xe0 then ⟨.tails 2 0xa0 0xbf 0, read⟩
  else if b = 0xed then ⟨.tails 2 0x80 0x9f 0xd, read⟩
  else if b < 0xf0 then ⟨.tails 2 0x80 0xbf (b.toNat - 0xe0), read⟩
  else if b = 0xf0 then ⟨.tails 3 0x90 0xbf 0, read⟩
  else if b < 0xf4 then ⟨.tails 3 0x80 0xbf (b.toNat - 0xf0), read⟩
  else if b = 0xf4 then ⟨.tails 3 0x80 0x8f 4, read⟩
  else ⟨.nothing, none :: read⟩

/-- Takes one byte. -/
def feed (d : Decoder) (b : UInt8) : Decoder :=
  match d.owed with
  | .nothing => lead d.read b
  | .tails more lo hi bits =>
    if lo ≤ b ∧ b ≤ hi then
      let bits := bits * 64 + (b.toNat - 0x80)
      if more ≤ 1 then ⟨.nothing, some (Char.ofNat bits) :: d.read⟩
      else ⟨.tails (more - 1) 0x80 0xbf bits, d.read⟩
    else lead (none :: d.read) b

/-- What was read, first first; a sequence that the end cuts short is broken too. -/
def finish (d : Decoder) : List (Option Char) :=
  match d.owed with
  | .nothing => d.read.reverse
  | .tails .. => (none :: d.read).reverse

end Decoder

/-! ## Texts and bytes -/

/-- The characters of the bytes, none for each broken sequence. -/
def decodeEach (bytes : Bytes) : List (Option Char) :=
  (bytes.foldl Decoder.feed Decoder.start).finish

/-- The text of well-formed bytes. -/
def decode? (bytes : Bytes) : Option (List Char) := (decodeEach bytes).mapM id

/-- The text of any bytes, with U+FFFD for each broken sequence. -/
def decodeLossy (bytes : Bytes) : List Char := (decodeEach bytes).map (·.getD '\ufffd')

/-- The bytes of a text. -/
def encode (text : String) : Bytes := text.toUTF8.toList

end Text

end LineCensus
