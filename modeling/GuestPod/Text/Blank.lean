/-
This file holds the white space that surrounds a text.
-/

namespace GuestPod.Text

/-- White space is the Unicode property of that name. -/
def isBlank (c : Char) : Bool :=
  let code := c.toNat
  (9 ≤ code && code ≤ 13) || code == 0x20 || code == 0x85 || code == 0xA0 || code == 0x1680 ||
    (0x2000 ≤ code && code ≤ 0x200A) || code == 0x2028 || code == 0x2029 || code == 0x202F ||
    code == 0x205F || code == 0x3000

/-- A blank text holds white space only. -/
def allBlank (text : List Char) : Bool :=
  text.all isBlank

def trimLeft (text : List Char) : List Char :=
  text.dropWhile isBlank

@[simp] theorem allBlank_nil : allBlank [] = true := rfl

@[simp] theorem allBlank_cons (c : Char) (rest : List Char) :
    allBlank (c :: rest) = (isBlank c && allBlank rest) := rfl

end GuestPod.Text
