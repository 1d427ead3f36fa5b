/-! Texts cut into lines at line feeds. A carriage return before the line feed belongs to the line
end, and a final line feed opens no further line. -/

namespace CredentialResolution.Text
set_option autoImplicit false

def lines : List Char → List (List Char)
  | [] => []
  | '\r' :: '\n' :: cs => [] :: lines cs
  | '\n' :: cs => [] :: lines cs
  | c :: cs =>
    match lines cs with
    | [] => [[c]]
    | l :: ls => (c :: l) :: ls

@[simp] theorem lines_nil : lines [] = [] := rfl

/-- A character that neither is nor begins a line end stands in front of the first line. -/
theorem lines_cons {c : Char} {cs l : List Char} {ls : List (List Char)} (hc : c ≠ '\n')
    (hreturn : c = '\r' → cs.head? ≠ some '\n') (h : lines cs = l :: ls) :
    lines (c :: cs) = (c :: l) :: ls := by
  rw [lines, h]
  · intro tail hr hcs
    exact hreturn hr (by rw [hcs, List.head?_cons])
  · exact hc

end CredentialResolution.Text
