/-!
# Fingerprints

FNV-1a hashes in two widths. Whole code points are mixed in, not bytes, so a text of `n`
characters takes `n` steps.
-/

namespace Lineation.Fingerprint

def basis64 : UInt64 := 0xcbf29ce484222325

def prime64 : UInt64 := 0x100000001b3

def basis32 : UInt32 := 0x811c9dc5

def prime32 : UInt32 := 0x1000193

/-- One step: exclusive or with the code point, then the product with the prime. -/
def mix64 (hash : UInt64) (c : Char) : UInt64 :=
  (hash ^^^ c.val.toUInt64) * prime64

def mix32 (hash : UInt32) (c : Char) : UInt32 :=
  (hash ^^^ c.val) * prime32

/-- The 64 bit fingerprint of a text. -/
def wide (text : String) : UInt64 :=
  text.toList.foldl mix64 basis64

/-- The 32 bit fingerprint of a text. -/
def narrow (text : String) : UInt32 :=
  text.toList.foldl mix32 basis32

end Lineation.Fingerprint
