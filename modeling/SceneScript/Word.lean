/-!
# Words of 64 bits

Indices, sizes and counts are held in signed words. An integer that is none (`isWord`) is refused
where it is used as one.
-/

namespace SceneScript

/-- The least word. -/
def leastWord : Int := -9223372036854775808

/-- The greatest word. -/
def greatestWord : Int := 9223372036854775807

/-- Whether an integer is a word. -/
def isWord (n : Int) : Bool := decide (leastWord ≤ n) && decide (n ≤ greatestWord)

end SceneScript
