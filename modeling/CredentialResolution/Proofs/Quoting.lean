import CredentialResolution.Proofs.Spelling
import CredentialResolution.Text.Cut
import CredentialResolution.Text.Quoted

/-! Quoted texts are read back, whatever stands behind them. So what is put together of quoted texts tells
which texts they are. -/

namespace CredentialResolution.Text
set_option autoImplicit false

/-- The number that hexadecimal digits write. -/
def hexNumber (digits : List Char) : Nat :=
  digits.foldl (fun n d => n * 16 + (Json.hexDigit? d).getD 0) 0

/-- The character with a short escape. -/
def shortEscape? : Char → Option Char
  | '0' => some (Char.ofNat 0)
  | 't' => some '\t'
  | 'r' => some '\r'
  | 'n' => some '\n'
  | '"' => some '"'
  | '\\' => some '\\'
  | _ => none

/-- The character that an escaped text begins with, and what follows it. A quote is none, since it ends
the text. -/
def unescape? : List Char → Option (Char × List Char)
  | '\\' :: 'u' :: '{' :: cs =>
    (cutAt (· == '}') cs).map fun r => (Char.ofNat (hexNumber r.1), r.2)
  | '\\' :: e :: cs => (shortEscape? e).map fun c => (c, cs)
  | '"' :: _ => none
  | c :: cs => some (c, cs)
  | [] => none

variable {n : Nat} {s t : String} {c d : Char} {cs ds rest rest' : List Char}

theorem hexNumber_concat (ds : List Char) (d : Char) :
    hexNumber (ds ++ [d]) = hexNumber ds * 16 + (Json.hexDigit? d).getD 0 := by
  simp [hexNumber]

theorem hexNumber_toDigits (n : Nat) : hexNumber (Nat.toDigits 16 n) = n := by
  induction n using Nat.strongRecOn with
  | ind n ih =>
    rw [Nat.toDigits_eq_if (by decide)]
    split
    · rename_i hlt
      simp [hexNumber, Json.hexDigit?_digitChar hlt]
    · have hmod : n % 16 < 16 := Nat.mod_lt n (by decide)
      rw [hexNumber_concat, ih (n / 16) (by omega), Json.hexDigit?_digitChar hmod, Option.getD_some]
      omega

theorem not_closing_of_mem_toDigits (h : d ∈ Nat.toDigits 16 n) : (d == '}') = false := by
  induction n using Nat.strongRecOn with
  | ind n ih =>
    rw [Nat.toDigits_eq_if (by decide)] at h
    split at h
    · obtain rfl := List.mem_singleton.mp h
      exact beq_false_of_ne (Nat.digitChar_ne '}' (by decide))
    · rcases List.mem_append.mp h with hmem | hmem
      · exact ih (n / 16) (by omega) hmem
      · obtain rfl := List.mem_singleton.mp hmem
        exact beq_false_of_ne (Nat.digitChar_ne '}' (by decide))

theorem unescape?_number (n : Nat) (rest : List Char) :
    unescape? ('\\' :: 'u' :: '{' :: (Nat.toDigits 16 n ++ '}' :: rest)) =
      some (Char.ofNat n, rest) := by
  have hcut : cutAt (· == '}') (Nat.toDigits 16 n ++ '}' :: rest) =
      some (Nat.toDigits 16 n, rest) :=
    cutAt_append rfl fun _ => not_closing_of_mem_toDigits
  rw [unescape?, hcut, Option.map_some, hexNumber_toDigits]

theorem unescape?_of_plain (hquote : c ≠ '"') (hslash : c ≠ '\\') (rest : List Char) :
    unescape? (c :: rest) = some (c, rest) := by
  unfold unescape?
  split
  all_goals simp_all

theorem unescape?_escapeChar (c : Char) (rest : List Char) :
    unescape? (escapeChar c ++ rest) = some (c, rest) := by
  unfold escapeChar
  -- The six short escapes.
  iterate 6
    split
    · rename_i h
      rw [h]
      rfl
  rename_i hquote hslash
  split
  · simp only [List.append_assoc, List.cons_append, List.nil_append, unescape?_number,
      Char.ofNat_toNat]
  · exact unescape?_of_plain hquote hslash rest

theorem escapeChar_append_inj (h : escapeChar c ++ rest = escapeChar d ++ rest') :
    c = d ∧ rest = rest' := by
  have hread := congrArg unescape? h
  simpa [unescape?_escapeChar] using hread

theorem escapeChar_append_ne_quote (c : Char) (rest rest' : List Char) :
    escapeChar c ++ rest ≠ '"' :: rest' := by
  intro h
  have hread := congrArg unescape? h
  rw [unescape?_escapeChar] at hread
  cases hread

theorem escape_quote_inj (h : escape cs ++ '"' :: rest = escape ds ++ '"' :: rest') :
    cs = ds ∧ rest = rest' := by
  induction cs generalizing ds with
  | nil =>
    cases ds with
    | nil => exact ⟨rfl, List.tail_eq_of_cons_eq h⟩
    | cons d ds =>
      rw [escape, escape, List.flatMap_cons, List.append_assoc] at h
      exact absurd h.symm (escapeChar_append_ne_quote d _ rest)
  | cons c cs ih =>
    rw [escape, List.flatMap_cons, List.append_assoc] at h
    cases ds with
    | nil => exact absurd h (escapeChar_append_ne_quote c _ rest')
    | cons d ds =>
      rw [escape, List.flatMap_cons, List.append_assoc] at h
      obtain ⟨rfl, htail⟩ := escapeChar_append_inj h
      obtain ⟨rfl, hrest⟩ := ih htail
      exact ⟨rfl, hrest⟩

theorem toList_quoted (s : String) : (quoted s).toList = '"' :: (escape s.toList ++ ['"']) := by
  rw [quoted, String.toList_ofList, List.cons_append]

/-! ### Texts put together -/

-- Both are stated for any texts, since literals are slow to take apart.
theorem toList_between (before s after : String) :
    (before ++ s ++ after).toList = before.toList ++ s.toList ++ after.toList := by
  rw [String.toList_append, String.toList_append]

theorem intercalate_eq_iff (separator : String) (ss ts : List String) :
    separator.intercalate ss = separator.intercalate ts ↔
      separator.toList.intercalate (ss.map String.toList) =
        separator.toList.intercalate (ts.map String.toList) := by
  rw [← String.toList_inj, String.toList_intercalate, String.toList_intercalate]

section
variable {α : Type} {write : α → List Char} {before after separator stop : List Char} {as bs : List α}

/-- What is written of one is told from what is written of another, whatever stands behind them. -/
def Delimited (write : α → List Char) : Prop :=
  ∀ a b rest rest', write a ++ rest = write b ++ rest' → a = b ∧ rest = rest'

theorem delimited_quoted : Delimited fun s => (quoted s).toList := by
  intro s t rest rest' h
  simp only [toList_quoted, List.cons_append, List.append_assoc, List.nil_append] at h
  obtain ⟨hlist, hrest⟩ := escape_quote_inj (List.tail_eq_of_cons_eq h)
  exact ⟨String.toList_inj.mp hlist, hrest⟩

theorem Delimited.between (h : Delimited write) (before after : List Char) :
    Delimited fun a => before ++ write a ++ after := by
  intro a b rest rest' heq
  simp only [List.append_assoc] at heq
  obtain ⟨hab, hrest⟩ := h a b _ _ (List.append_cancel_left heq)
  exact ⟨hab, List.append_cancel_left hrest⟩

theorem Delimited.flatMap_inj (h : Delimited write) (hstop : ∀ a rest, write a ++ rest ≠ stop)
    (heq : as.flatMap write ++ stop = bs.flatMap write ++ stop) : as = bs := by
  induction as generalizing bs with
  | nil =>
    cases bs with
    | nil => rfl
    | cons b bs =>
      rw [List.flatMap_cons, List.append_assoc] at heq
      exact absurd heq.symm (hstop b _)
  | cons a as ih =>
    rw [List.flatMap_cons, List.append_assoc] at heq
    cases bs with
    | nil => exact absurd heq (hstop a _)
    | cons b bs =>
      rw [List.flatMap_cons, List.append_assoc] at heq
      obtain ⟨rfl, hrest⟩ := h a b _ _ heq
      rw [ih hrest]

theorem intercalate_cons_map (write : α → List Char) (separator : List Char) (a : α) (as : List α) :
    separator.intercalate ((a :: as).map write) =
      write a ++ as.flatMap fun b => separator ++ write b := by
  induction as generalizing a with
  | nil => simp
  | cons b as ih =>
    rw [List.map_cons, List.map_cons, List.intercalate_cons_cons, ← List.map_cons, ih b,
      List.flatMap_cons, List.append_assoc, List.append_assoc]

theorem Delimited.intercalate_inj (h : Delimited write) (hstop : ∀ a rest, write a ++ rest ≠ stop)
    (hseparator : ∀ rest, separator ++ rest ≠ stop)
    (heq : separator.intercalate (as.map write) ++ stop = separator.intercalate (bs.map write) ++ stop) :
    as = bs := by
  cases as with
  | nil =>
    cases bs with
    | nil => rfl
    | cons b bs =>
      rw [intercalate_cons_map, List.append_assoc] at heq
      exact absurd heq.symm (hstop b _)
  | cons a as =>
    rw [intercalate_cons_map, List.append_assoc] at heq
    cases bs with
    | nil => exact absurd heq (hstop a _)
    | cons b bs =>
      rw [intercalate_cons_map, List.append_assoc] at heq
      obtain ⟨rfl, hrest⟩ := h a b _ _ heq
      have hpieces : Delimited fun b => separator ++ write b := by
        simpa using h.between separator []
      have hends : ∀ b rest, separator ++ write b ++ rest ≠ stop := by
        intro b rest
        rw [List.append_assoc]
        exact hseparator _
      rw [hpieces.flatMap_inj hends hrest]

/-- A list in brackets, with a line for each member where it has any. -/
def inLines (write : α → List Char) (opening closing : Char) (indent : List Char) :
    List α → List Char
  | [] => [opening, closing]
  | a :: as => opening :: '\n' :: ((a :: as).flatMap write ++ (indent ++ [closing]))

theorem Delimited.inLines_inj {opening closing : Char} {indent : List Char} (h : Delimited write)
    (hclosing : closing ≠ '\n') (hstop : ∀ a rest, write a ++ rest ≠ indent ++ [closing])
    (heq : inLines write opening closing indent as = inLines write opening closing indent bs) :
    as = bs := by
  cases as with
  | nil =>
    cases bs with
    | nil => rfl
    | cons b bs => exact absurd (List.cons.inj (List.tail_eq_of_cons_eq heq)).1 hclosing
  | cons a as =>
    cases bs with
    | nil => exact absurd (List.cons.inj (List.tail_eq_of_cons_eq heq)).1.symm hclosing
    | cons b bs => exact h.flatMap_inj hstop (List.tail_eq_of_cons_eq (List.tail_eq_of_cons_eq heq))

end

end CredentialResolution.Text
