/-!
# Rotations of words

Digests and random streams mix words of 32 bits by rotating them.
-/

set_option autoImplicit false

namespace Recollection.Word

/-- A word rotated to the right; the count matters up to multiples of 32. -/
def rotateRight (word count : UInt32) : UInt32 :=
  (word >>> count) ||| (word <<< (32 - count))

/-- A word rotated to the left; the count matters up to multiples of 32. -/
def rotateLeft (word count : UInt32) : UInt32 :=
  (word <<< count) ||| (word >>> (32 - count))

end Recollection.Word
