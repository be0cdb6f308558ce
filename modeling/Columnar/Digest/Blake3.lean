import Columnar.Digest.Basic
import Columnar.Groups

/-!
# The BLAKE3 hash

A message is cut into chunks of 1024 bytes and each chunk into blocks of 64.
The blocks of a chunk are compressed one after the other; the chunks are the
leaves of a binary tree whose inner nodes compress the outputs of their two
children.  The last compression of all carries the root mark and gives the
digest.
-/

namespace Columnar
namespace Blake3

/-- The eight words a compression starts from and leaves behind. -/
abbrev Chain := Vector UInt32 8

abbrev Block := Vector UInt32 16

def initial : Chain :=
  #v[0x6A09E667, 0xBB67AE85, 0x3C6EF372, 0xA54FF53A,
    0x510E527F, 0x9B05688C, 0x1F83D9AB, 0x5BE0CD19]

def chunkStart : UInt32 := 1
def chunkEnd : UInt32 := 2
def parent : UInt32 := 4
def root : UInt32 := 8

/-- Where each word of a block moves to between two rounds. -/
def permutation : Vector (Fin 16) 16 :=
  #v[2, 6, 3, 10, 7, 0, 4, 13, 1, 11, 12, 5, 9, 14, 15, 8]

def permute (block : Block) : Block :=
  permutation.map fun i => block[i]

def rotateRight (x : UInt32) (n : UInt32) : UInt32 :=
  (x >>> n) ||| (x <<< (32 - n))

def quarter (s : Block) (a b c d : Fin 16) (x y : UInt32) : Block :=
  let va := s[a] + s[b] + x
  let vd := rotateRight (s[d] ^^^ va) 16
  let vc := s[c] + vd
  let vb := rotateRight (s[b] ^^^ vc) 12
  let va := va + vb + y
  let vd := rotateRight (vd ^^^ va) 8
  let vc := vc + vd
  let vb := rotateRight (vb ^^^ vc) 7
  (((s.set a va).set b vb).set c vc).set d vd

/-- One round: the four columns, then the four diagonals. -/
def mix (s m : Block) : Block :=
  let s := quarter s 0 4 8 12 m[0] m[1]
  let s := quarter s 1 5 9 13 m[2] m[3]
  let s := quarter s 2 6 10 14 m[4] m[5]
  let s := quarter s 3 7 11 15 m[6] m[7]
  let s := quarter s 0 5 10 15 m[8] m[9]
  let s := quarter s 1 6 11 12 m[10] m[11]
  let s := quarter s 2 7 8 13 m[12] m[13]
  quarter s 3 4 9 14 m[14] m[15]

def rounds : Nat -> Block -> Block -> Block
  | 0, s, _ => s
  | n + 1, s, m => rounds n (mix s m) (permute m)

/--
A compression that has still to be run, so that the root mark can be added.
-/
structure Node where
  chain : Chain
  block : Block
  counter : UInt64
  length : UInt32
  flags : UInt32

namespace Node

def compress (n : Node) (flags : UInt32) : Chain :=
  let s : Block :=
    n.chain ++ #v[initial[0], initial[1], initial[2], initial[3],
      n.counter.toUInt32, (n.counter >>> 32).toUInt32, n.length, flags]
  let s := rounds 7 s n.block
  Vector.ofFn fun (i : Fin 8) => s[i.val] ^^^ s[i.val + 8]

def output (n : Node) : Chain := n.compress n.flags

def join (left right : Node) : Node where
  chain := initial
  block := left.output ++ right.output
  counter := 0
  length := 64
  flags := parent

end Node

/-- Four bytes, lowest first; missing bytes are zero. -/
def word (bytes : List UInt8) : UInt32 :=
  bytes.foldr (fun byte acc => acc <<< 8 ||| byte.toUInt32) 0

def blockOf (bytes : List UInt8) : Block :=
  Vector.ofFn fun (i : Fin 16) => word (group 4 bytes i.val)

/-- The blocks of a message; the empty message is one empty block. -/
def pieces (size : Nat) (bytes : List UInt8) : List (List UInt8) :=
  if bytes.isEmpty then [[]] else groups size bytes

/-- Compresses all blocks of a chunk but the last, which stays to be run. -/
def chunkFrom (counter : UInt64) (chain : Chain) (flags : UInt32) :
    List (List UInt8) -> Node
  | [] => ⟨chain, blockOf [], counter, 0, flags ||| chunkEnd⟩
  | [last] =>
      ⟨chain, blockOf last, counter, last.length.toUInt32, flags ||| chunkEnd⟩
  | next :: rest =>
      chunkFrom counter (Node.output
        ⟨chain, blockOf next, counter, 64, flags⟩) 0 rest

def chunk (bytes : List UInt8) (counter : Nat) : Node :=
  chunkFrom counter.toUInt64 initial chunkStart (pieces 64 bytes)

/-- Joins neighbours; a last one without a partner moves up as it is. -/
def joinPairs : List Node -> List Node
  | left :: right :: rest => Node.join left right :: joinPairs rest
  | nodes => nodes

def rootFrom : Nat -> Node -> List Node -> Node
  | 0, first, _ => first
  | _, first, [] => first
  | levels + 1, first, second :: rest =>
      match joinPairs (first :: second :: rest) with
      | [] => first
      | next :: others => rootFrom levels next others

def wordBytes (w : UInt32) : List UInt8 :=
  [w.toUInt8, (w >>> 8).toUInt8, (w >>> 16).toUInt8, (w >>> 24).toUInt8]

def hash (bytes : List UInt8) : Digest :=
  match (pieces 1024 bytes).zipIdx.map
      (fun (chunkBytes, index) => chunk chunkBytes index) with
  | [] => ⟨[]⟩
  | first :: rest =>
      let top := rootFrom (rest.length + 1) first rest
      ⟨(top.compress (top.flags ||| root)).toList.flatMap wordBytes⟩

end Blake3
end Columnar
