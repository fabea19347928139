import PyIota.Library.Positional

set_option autoImplicit false

namespace Blake2b

open Positional

def iv : List UInt64 := [
  0x6A09E667F3BCC908, 0xBB67AE8584CAA73B, 0x3C6EF372FE94F82B, 0xA54FF53A5F1D36F1,
  0x510E527FADE682D1, 0x9B05688C2B3E6C1F, 0x1F83D9ABFB41BD6B, 0x5BE0CD19137E2179]

def sigma : List (List Nat) := [
  [0, 1, 2, 3, 4, 5, 6, 7, 8, 9, 10, 11, 12, 13, 14, 15],
  [14, 10, 4, 8, 9, 15, 13, 6, 1, 12, 0, 2, 11, 7, 5, 3],
  [11, 8, 12, 0, 5, 2, 15, 13, 10, 14, 3, 6, 7, 1, 9, 4],
  [7, 9, 3, 1, 13, 12, 11, 14, 2, 6, 5, 10, 4, 0, 15, 8],
  [9, 0, 5, 7, 2, 4, 10, 15, 14, 1, 11, 12, 6, 8, 3, 13],
  [2, 12, 6, 10, 0, 11, 8, 3, 4, 13, 7, 5, 15, 14, 1, 9],
  [12, 5, 1, 15, 14, 13, 4, 10, 0, 7, 6, 3, 9, 2, 8, 11],
  [13, 11, 7, 14, 12, 1, 3, 9, 5, 0, 15, 4, 8, 6, 2, 10],
  [6, 15, 14, 9, 11, 3, 0, 8, 12, 2, 13, 7, 1, 4, 10, 5],
  [10, 2, 8, 4, 7, 6, 1, 5, 15, 11, 9, 14, 3, 12, 13, 0]]

def rotateRight (word : UInt64) (count : UInt64) : UInt64 := (word >>> count) ||| (word <<< (64 - count))

def word (words : List UInt64) (index : Nat) : UInt64 := words.getD index 0

def mix (v : List UInt64) (a b c d : Nat) (x y : UInt64) : List UInt64 :=
  let va := word v a + word v b + x
  let vd := rotateRight (word v d ^^^ va) 32
  let vc := word v c + vd
  let vb := rotateRight (word v b ^^^ vc) 24
  let va := va + vb + y
  let vd := rotateRight (vd ^^^ va) 16
  let vc := vc + vd
  let vb := rotateRight (vb ^^^ vc) 63
  (((v.set a va).set b vb).set c vc).set d vd

def columnsAndDiagonals : List (Nat × Nat × Nat × Nat) := [
  (0, 4, 8, 12), (1, 5, 9, 13), (2, 6, 10, 14), (3, 7, 11, 15),
  (0, 5, 10, 15), (1, 6, 11, 12), (2, 7, 8, 13), (3, 4, 9, 14)]

def round (message : List UInt64) (v : List UInt64) (number : Nat) : List UInt64 :=
  let schedule := sigma.getD (number % 10) []
  (columnsAndDiagonals.zipIdx).foldl (fun v item =>
    mix v item.1.1 item.1.2.1 item.1.2.2.1 item.1.2.2.2
      (word message (schedule.getD (2 * item.2) 0)) (word message (schedule.getD (2 * item.2 + 1) 0))) v

-- `counter` is the number of bytes hashed once this block is.
def compress (h message : List UInt64) (counter : Nat) (last : Bool) : List UInt64 :=
  let v := h ++ iv
  let v := v.set 12 (word v 12 ^^^ UInt64.ofNat counter)
  let v := v.set 13 (word v 13 ^^^ UInt64.ofNat (counter / 2 ^ 64))
  let v := if last then v.set 14 (~~~ word v 14) else v
  let v := (List.range 12).foldl (round message) v
  (List.range 8).map fun index => word h index ^^^ word v index ^^^ word v (index + 8)

def messageWords (block : List UInt8) : List UInt64 :=
  (List.range 16).map fun index => UInt64.ofNat (ofLittleEndian ((block.drop (8 * index)).take 8))

def blockCount (data : List UInt8) : Nat := max 1 ((data.length + 127) / 128)

def absorb (data : List UInt8) (h : List UInt64) (index : Nat) : List UInt64 :=
  let last := index + 1 = blockCount data
  compress h (messageWords ((data.drop (128 * index)).take 128))
    (if last then data.length else 128 * (index + 1)) (decide last)

-- Without a key: the parameter block holds the digest size and the values 1 for
-- fanout and depth.
def initial (size : Nat) : List UInt64 := iv.set 0 (word iv 0 ^^^ UInt64.ofNat (0x01010000 + size))

def digest (size : Nat) (data : List UInt8) : List UInt8 :=
  let h := (List.range (blockCount data)).foldl (absorb data) (initial size)
  (((List.range 8).flatMap fun index => littleEndian 8 (word h index).toNat)).take size

theorem length_digest (size : Nat) (data : List UInt8) (short : size ≤ 64) : (digest size data).length = size := by
  have words (h : List UInt64) :
      ((List.range 8).flatMap fun index => littleEndian 8 (word h index).toNat).length = 64 := by
    simp [List.length_flatMap]
  rw [digest, List.length_take, words]
  exact min_eq_left short

end Blake2b
