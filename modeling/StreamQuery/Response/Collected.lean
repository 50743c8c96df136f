/-!
# Bodies read whole

The parts of a body are put together as long as they stay within a limit.
-/

namespace StreamQuery.Response

/-- The longest body that is read whole, in bytes. -/
def maximalBodySize : Nat := 64 * 1024 * 1024

/-- The parts read so far, the last one first, and their size. -/
structure Collected where
  parts : List ByteArray
  size : Nat

namespace Collected

def empty : Collected :=
  ⟨[], 0⟩

/-- Adds a part unless the whole would grow past the limit. -/
def add? (limit : Nat) (part : ByteArray) (collected : Collected) : Option Collected :=
  if limit < collected.size + part.size then none
  else some ⟨part :: collected.parts, collected.size + part.size⟩

def bytes (collected : Collected) : ByteArray :=
  collected.parts.reverse.foldl (· ++ ·) ByteArray.empty

end Collected

end StreamQuery.Response
