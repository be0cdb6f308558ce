/-!
# Digests

Thirty-two bytes, written in lowercase hexadecimal.
-/

namespace Columnar

structure Digest where
  bytes : List UInt8
deriving DecidableEq, Repr

namespace Digest

def hexBytes (bytes : List UInt8) : String :=
  String.ofList (bytes.flatMap fun byte =>
    [Nat.digitChar (byte.toNat / 16), Nat.digitChar (byte.toNat % 16)])

def hex (d : Digest) : String := hexBytes d.bytes

def abbreviated (d : Digest) : String := hexBytes (d.bytes.take 8)

end Digest
end Columnar
