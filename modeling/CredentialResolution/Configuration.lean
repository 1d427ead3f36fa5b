import CredentialResolution.Property
import CredentialResolution.Text.Blank

/-! Configurations: at most one text for each property. Two of them are equal exactly when every
property holds the same, however they came about. -/

namespace CredentialResolution
set_option autoImplicit false

@[ext] structure Configuration where
  /-- What a property holds, possibly the empty text. -/
  value? : Property → Option String

namespace Configuration

def empty : Configuration := ⟨fun _ => none⟩

def set (c : Configuration) (p : Property) (v : String) : Configuration :=
  ⟨fun q => if q = p then some v else c.value? q⟩

def remove (c : Configuration) (p : Property) : Configuration :=
  ⟨fun q => if q = p then none else c.value? q⟩

/-- Sets entries one after the other, so that the last one for a property stays. -/
def ofList (entries : List (Property × String)) : Configuration :=
  entries.foldl (fun c e => c.set e.1 e.2) empty

def toList (c : Configuration) : List (Property × String) :=
  Property.all.filterMap fun p => (c.value? p).map fun v => (p, v)

def isEmpty (c : Configuration) : Bool := Property.all.all fun p => (c.value? p).isNone

/-- The same configuration, looked up in the list of its entries. After many changes it is found there
without going through them. -/
def settled (c : Configuration) : Configuration :=
  let entries := c.toList
  ⟨fun p => (entries.find? fun e => e.1 = p).map Prod.snd⟩

def valueOrDefault? (c : Configuration) (p : Property) : Option String :=
  c.value? p <|> p.default?

def filled? (c : Configuration) (p : Property) : Option String :=
  (c.value? p).filter fun v => v ≠ ""

/-- A property is set when it holds a text that is not empty. -/
def isSet (c : Configuration) (p : Property) : Bool := (c.filled? p).isSome

/-- Whether two texts agree up to the case of ASCII letters. -/
def sameFolded (s t : String) : Bool := s.toList.map Char.toLower == t.toList.map Char.toLower

/-- A flag is raised when its trimmed value reads `true` in any case. -/
def flag (c : Configuration) (p : Property) : Bool :=
  ((c.value? p).map fun v => sameFolded (Text.trim v) "true").getD false

def restrict (c : Configuration) (keep : Property → Bool) : Configuration :=
  ⟨fun p => if keep p then c.value? p else none⟩

def agree (c d : Configuration) : Bool := Property.all.all fun p => c.value? p == d.value? p

@[simp] theorem value?_empty (p : Property) : empty.value? p = none := rfl

theorem value?_set (c : Configuration) (p q : Property) (v : String) :
    (c.set p v).value? q = if q = p then some v else c.value? q := rfl

theorem value?_restrict (c : Configuration) (keep : Property → Bool) (p : Property) :
    (c.restrict keep).value? p = if keep p then c.value? p else none := rfl

theorem agree_iff (c d : Configuration) : c.agree d = true ↔ c = d := by
  simp only [agree, List.all_eq_true, beq_iff_eq]
  constructor
  · intro h
    ext1
    funext p
    exact h p (Property.mem_all p)
  · rintro rfl p _
    rfl

instance : DecidableEq Configuration := fun c d =>
  decidable_of_iff _ (agree_iff c d)

theorem mem_toList {c : Configuration} {p : Property} {v : String} :
    (p, v) ∈ c.toList ↔ c.value? p = some v := by
  simp [toList, Property.mem_all]

theorem settled_eq (c : Configuration) : c.settled = c := by
  ext1
  funext p
  simp only [settled]
  cases h : c.toList.find? fun e => e.1 = p with
  | none =>
    cases hv : c.value? p with
    | none => rfl
    | some v => simpa using List.find?_eq_none.1 h (p, v) (mem_toList.2 hv)
  | some e =>
    obtain ⟨q, v⟩ := e
    have hq : q = p := by simpa using List.find?_some h
    have hm := mem_toList.1 (List.mem_of_find?_eq_some h)
    simpa [hq] using hm.symm

theorem isSet_iff (c : Configuration) (p : Property) :
    c.isSet p = true ↔ ∃ v, c.value? p = some v ∧ v ≠ "" := by
  cases h : c.value? p <;> simp [isSet, filled?, h, Option.filter]

end Configuration
end CredentialResolution
