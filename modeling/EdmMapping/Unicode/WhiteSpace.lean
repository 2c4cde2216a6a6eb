import EdmMapping.Unicode.CodeRange

/-!
# White space

The property `White_Space` of Unicode.
-/

set_option autoImplicit false

namespace EdmMapping.Unicode

/-- The code points with the property `White_Space`, in increasing order. -/
def whiteSpaceRanges : List CodeRange :=
  [
    ⟨0x0009, 0x000D⟩, ⟨0x0020, 0x0020⟩, ⟨0x0085, 0x0085⟩, ⟨0x00A0, 0x00A0⟩, ⟨0x1680, 0x1680⟩,
    ⟨0x2000, 0x200A⟩, ⟨0x2028, 0x2029⟩, ⟨0x202F, 0x202F⟩, ⟨0x205F, 0x205F⟩, ⟨0x3000, 0x3000⟩
  ]

def isWhiteSpace (c : Char) : Bool :=
  whiteSpaceRanges.any (·.contains c)

end EdmMapping.Unicode
