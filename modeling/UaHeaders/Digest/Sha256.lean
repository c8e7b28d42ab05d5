/-!
# SHA-256

The digest by which a header is known in reports.

## Main definitions

* `UaHeaders.Digest.sha256` — the eight words of the digest.
* `UaHeaders.Digest.sha256Hex` — the digest of a text in lower-case hexadecimal.
-/

set_option autoImplicit false

namespace UaHeaders.Digest

/-- The first 32 bits of the fractional parts of the cube roots of the first 64 primes. -/
def roundConstants : Array UInt32 :=
  #[1116352408, 1899447441, 3049323471, 3921009573, 961987163, 1508970993, 2453635748, 2870763221,
    3624381080, 310598401, 607225278, 1426881987, 1925078388, 2162078206, 2614888103, 3248222580,
    3835390401, 4022224774, 264347078, 604807628, 770255983, 1249150122, 1555081692, 1996064986,
    2554220882, 2821834349, 2952996808, 3210313671, 3336571891, 3584528711, 113926993, 338241895,
    666307205, 773529912, 1294757372, 1396182291, 1695183700, 1986661051, 2177026350, 2456956037,
    2730485921, 2820302411, 3259730800, 3345764771, 3516065817, 3600352804, 4094571909, 275423344,
    430227734, 506948616, 659060556, 883997877, 958139571, 1322822218, 1537002063, 1747873779,
    1955562222, 2024104815, 2227730452, 2361852424, 2428436474, 2756734187, 3204031479, 3329325298]

/-- The eight working words. -/
structure Words where
  a : UInt32
  b : UInt32
  c : UInt32
  d : UInt32
  e : UInt32
  f : UInt32
  g : UInt32
  h : UInt32

/-- The words before the first block. -/
def Words.start : Words :=
  ⟨1779033703, 3144134277, 1013904242, 2773480762, 1359893119, 2600822924, 528734635, 1541459225⟩

/-- Word by word sum. -/
def Words.add (x y : Words) : Words :=
  ⟨x.a + y.a, x.b + y.b, x.c + y.c, x.d + y.d, x.e + y.e, x.f + y.f, x.g + y.g, x.h + y.h⟩

/-- The words in order. -/
def Words.toList (x : Words) : List UInt32 := [x.a, x.b, x.c, x.d, x.e, x.f, x.g, x.h]

/-- Rotation to the right by `n` places, `0 < n < 32`. -/
def rotateRight (x : UInt32) (n : UInt32) : UInt32 := (x >>> n) ||| (x <<< (32 - n))

/-- One round with the message word `w` and the constant `k`. -/
def Words.round (x : Words) (w k : UInt32) : Words :=
  let s1 := rotateRight x.e 6 ^^^ rotateRight x.e 11 ^^^ rotateRight x.e 25
  let choice := (x.e &&& x.f) ^^^ ((~~~x.e) &&& x.g)
  let t1 := x.h + s1 + choice + k + w
  let s0 := rotateRight x.a 2 ^^^ rotateRight x.a 13 ^^^ rotateRight x.a 22
  let majority := (x.a &&& x.b) ^^^ (x.a &&& x.c) ^^^ (x.b &&& x.c)
  ⟨t1 + (s0 + majority), x.a, x.b, x.c, x.d + t1, x.e, x.f, x.g⟩

/-- The octet at `i`, zero behind the end. -/
def octetAt (octets : ByteArray) (i : Nat) : UInt8 :=
  if h : i < octets.size then octets[i] else 0

/-- The 16 words of the block that starts at `offset`, highest octet first. -/
def blockWords (octets : ByteArray) (offset : Nat) : Array UInt32 :=
  (Array.range 16).map fun i =>
    let at_ := offset + 4 * i
    ((octetAt octets at_).toUInt32 <<< 24) ||| ((octetAt octets (at_ + 1)).toUInt32 <<< 16) |||
      ((octetAt octets (at_ + 2)).toUInt32 <<< 8) ||| (octetAt octets (at_ + 3)).toUInt32

/-- The 64 message words of a block. -/
def schedule (block : Array UInt32) : Array UInt32 :=
  (List.range 48).foldl
    (fun ws i =>
      let w15 := ws.getD (i + 1) 0
      let w2 := ws.getD (i + 14) 0
      let s0 := rotateRight w15 7 ^^^ rotateRight w15 18 ^^^ (w15 >>> 3)
      let s1 := rotateRight w2 17 ^^^ rotateRight w2 19 ^^^ (w2 >>> 10)
      ws.push (ws.getD i 0 + s0 + ws.getD (i + 9) 0 + s1))
    block

/-- The words after one more block. -/
def compress (x : Words) (block : Array UInt32) : Words :=
  let ws := schedule block
  x.add ((List.range 64).foldl (fun y i => y.round (ws.getD i 0) (roundConstants.getD i 0)) x)

/-- The message with its padding: one bit, zeros up to a multiple of 64 octets less eight, and the
number of message bits in eight octets. -/
def padded (octets : ByteArray) : ByteArray :=
  -- 119 is 64 + 55, and 55 octets fill a block together with the mark and the length
  let zeros := (119 - octets.size % 64) % 64
  let bits := octets.size * 8
  let withZeros := (List.replicate zeros (0 : UInt8)).foldl ByteArray.push (octets.push 0x80)
  (List.range 8).foldl (fun acc i => acc.push (bits >>> (56 - 8 * i)).toUInt8) withZeros

/-- **The digest of a sequence of octets.** -/
def sha256 (octets : ByteArray) : Words :=
  let message := padded octets
  (List.range (message.size / 64)).foldl (fun x i => compress x (blockWords message (64 * i)))
    Words.start

/-- The two hexadecimal digits of an octet. -/
def octetHex (b : UInt8) : List Char :=
  [Nat.digitChar (b.toNat / 16), Nat.digitChar (b.toNat % 16)]

/-- The eight hexadecimal digits of a word. -/
def wordHex (w : UInt32) : List Char :=
  ([24, 16, 8, 0] : List UInt32).flatMap fun shift => octetHex (w >>> shift).toUInt8

/-- The digest of octets in lower-case hexadecimal. -/
def sha256HexOf (octets : ByteArray) : String :=
  String.ofList ((sha256 octets).toList.flatMap wordHex)

/-- **The digest of a text**, taken over its UTF-8 form, in lower-case hexadecimal. -/
def sha256Hex (s : String) : String := sha256HexOf s.toUTF8

end UaHeaders.Digest
