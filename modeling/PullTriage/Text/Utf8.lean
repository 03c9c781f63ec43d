/-!
# Bytes and Characters

What a program prints is bytes, and what is read from it is characters. The
two agree when the bytes are well-formed UTF-8; otherwise some bytes stand
for no character. `decode` keeps both kinds in order: a character where the
bytes spell one, and `none` for each stretch of bytes that could have begun a
character but does not, taken as long as possible.

Three readings follow from it. A program's error output is read with `lossy`,
which shows a replacement character for every such stretch. A file is read
with `text?`, which refuses them. JSON is read from `decode` itself, because
a damaged character in a member that nobody looks at does no harm.

A decoder's state is what it still expects: how many bytes, and the range of
the next one. The range of the second byte is narrower after four of the lead
bytes, which rules out overlong forms, surrogates and code points past the
last plane.

## Main definitions

* `Expected`: What the rest of a character has to look like.
* `Opening`: What a byte means where a character may begin.
* `decode`: The characters of the bytes, with `none` for what is none.
* `lossy`: The characters, with replacements.
* `text?`: The characters, if the bytes are well-formed.
* `encode`: The bytes of a text.
-/

namespace PullTriage

namespace Utf8

/-- What is still expected of a character whose first bytes were read. -/
structure Expected where
  /-- How many bytes are missing, at least one. -/
  missing : Nat
  /-- The least value the next byte may have. -/
  low : Nat
  /-- The greatest value the next byte may have. -/
  high : Nat
  /-- The bits read so far. -/
  bits : Nat

/-- What a byte means where a character may begin. -/
inductive Opening where
  /-- The byte is a character. -/
  | whole (c : Char)
  /-- The byte begins a character of several bytes. -/
  | lead (e : Expected)
  /-- The byte begins no character. -/
  | stray

/-- The meaning of a byte where a character may begin. -/
def opening (b : UInt8) : Opening :=
  let n := b.toNat
  if n < 0x80 then .whole (Char.ofNat n)
  else if n < 0xC2 then .stray
  else if n < 0xE0 then .lead ⟨1, 0x80, 0xBF, n - 0xC0⟩
  else if n = 0xE0 then .lead ⟨2, 0xA0, 0xBF, 0⟩
  else if n = 0xED then .lead ⟨2, 0x80, 0x9F, 0xD⟩
  else if n < 0xF0 then .lead ⟨2, 0x80, 0xBF, n - 0xE0⟩
  else if n = 0xF0 then .lead ⟨3, 0x90, 0xBF, 0⟩
  else if n < 0xF4 then .lead ⟨3, 0x80, 0xBF, n - 0xF0⟩
  else if n = 0xF4 then .lead ⟨3, 0x80, 0x8F, 4⟩
  else .stray

/-- The characters of the bytes that follow a state of the decoder. -/
def decodeAfter : Option Expected → List UInt8 → List (Option Char)
  | none, [] => []
  | some _, [] => [none]
  | none, b :: rest =>
    match opening b with
    | .whole c => some c :: decodeAfter none rest
    | .lead e => decodeAfter (some e) rest
    | .stray => none :: decodeAfter none rest
  | some e, b :: rest =>
    if e.low ≤ b.toNat ∧ b.toNat ≤ e.high then
      let bits := e.bits * 64 + b.toNat % 64
      if e.missing = 1 then some (Char.ofNat bits) :: decodeAfter none rest
      else decodeAfter (some ⟨e.missing - 1, 0x80, 0xBF, bits⟩) rest
    else
      -- The byte does not go on with the character, so it may begin another.
      match opening b with
      | .whole c => none :: some c :: decodeAfter none rest
      | .lead e' => none :: decodeAfter (some e') rest
      | .stray => none :: none :: decodeAfter none rest

/-- The characters of the bytes, with `none` for each maximal stretch that is
    no character. -/
def decode (bytes : List UInt8) : List (Option Char) :=
  decodeAfter none bytes

/-- The characters of the bytes, with the replacement character for each
    stretch that is none. -/
def lossy (bytes : List UInt8) : List Char :=
  (decode bytes).map fun c => c.getD (Char.ofNat 0xFFFD)

/-- The characters of the bytes, if every byte belongs to one. -/
def text? (bytes : List UInt8) : Option (List Char) :=
  (decode bytes).mapM id

/-- The bytes of a text. -/
def encode (l : List Char) : List UInt8 :=
  l.flatMap String.utf8EncodeChar

end Utf8

end PullTriage
