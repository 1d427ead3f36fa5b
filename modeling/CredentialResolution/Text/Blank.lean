/-! The blank characters of Unicode, and texts cut free of them at both ends.
A trimmed text neither starts nor ends with a blank, so trimming twice changes nothing. -/

namespace CredentialResolution.Text
set_option autoImplicit false

/-- The characters with the Unicode property White_Space. -/
def isBlank (c : Char) : Bool :=
  let n := c.toNat
  (9 ≤ n && n ≤ 13) || n == 0x20 || n == 0x85 || n == 0xA0 || n == 0x1680 ||
    (0x2000 ≤ n && n ≤ 0x200A) || n == 0x2028 || n == 0x2029 || n == 0x202F ||
    n == 0x205F || n == 0x3000

def trimStart (cs : List Char) : List Char := cs.dropWhile isBlank

def trimEnd (cs : List Char) : List Char := (cs.reverse.dropWhile isBlank).reverse

def trimmed (cs : List Char) : List Char := trimEnd (trimStart cs)

def trim (s : String) : String := String.ofList (trimmed s.toList)

/-- A text that holds nothing but blanks; the empty text is one. -/
def allBlank (s : String) : Bool := s.toList.all isBlank

@[simp] theorem trimStart_nil : trimStart [] = [] := rfl

@[simp] theorem trimEnd_nil : trimEnd [] = [] := rfl

@[simp] theorem trimmed_nil : trimmed [] = [] := rfl

theorem trimStart_cons_of_not_blank {c : Char} (h : isBlank c = false) (cs : List Char) :
    trimStart (c :: cs) = c :: cs := by simp [trimStart, h]

@[simp] theorem toList_trim (s : String) : (trim s).toList = trimmed s.toList := by simp [trim]

@[simp] theorem trim_empty : trim "" = "" := rfl

end CredentialResolution.Text
