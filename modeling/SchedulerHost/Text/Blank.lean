import SchedulerHost.Text.CodeRange

/-!
# White space

The characters with the Unicode property `White_Space`, and trimming by them. Core's
`Char.isWhitespace` knows only five of the twenty-five.
-/

namespace SchedulerHost.Text

/-- The code points with the Unicode property `White_Space`. -/
def blankTable : List CodeRange :=
  [⟨0x09, 0x0D⟩, ⟨0x20, 0x20⟩, ⟨0x85, 0x85⟩, ⟨0xA0, 0xA0⟩, ⟨0x1680, 0x1680⟩, ⟨0x2000, 0x200A⟩,
    ⟨0x2028, 0x2029⟩, ⟨0x202F, 0x202F⟩, ⟨0x205F, 0x205F⟩, ⟨0x3000, 0x3000⟩]

def isBlank (c : Char) : Bool := inRanges blankTable c

def trimStart (cs : List Char) : List Char := cs.dropWhile isBlank

def trimEnd (cs : List Char) : List Char := (cs.reverse.dropWhile isBlank).reverse

def trim (cs : List Char) : List Char := trimEnd (trimStart cs)

end SchedulerHost.Text
