import Mathlib.Algebra.Group.Nat.Defs
import Mathlib.Data.List.Basic

/-!
# Object ids

A MongoDB `primitive.ObjectID` is twelve bytes, kept here as its 24 hexadecimal digits. `Hex` prints
lower-case digits; `ObjectIDFromHex` reads both cases, so an id has several spellings.
-/

namespace GbcVenue

/-- `primitive.ObjectID`. -/
structure ObjectID where
  digits : List (Fin 16)
  length_eq : digits.length = 24
  deriving DecidableEq

def hexDigit (n : Fin 16) : Char :=
  if n < 10 then Char.ofNat (48 + n) else Char.ofNat (87 + n)

def hexVal (c : Char) : Option (Fin 16) :=
  if '0' ≤ c ∧ c ≤ '9' then some (Fin.ofNat 16 (c.toNat - 48))
  else if 'a' ≤ c ∧ c ≤ 'f' then some (Fin.ofNat 16 (c.toNat - 87))
  else if 'A' ≤ c ∧ c ≤ 'F' then some (Fin.ofNat 16 (c.toNat - 55))
  else none

theorem hexVal_hexDigit : ∀ n, hexVal (hexDigit n) = some n := by decide

/-- The values of a string of hexadecimal digits. -/
def hexVals : List Char → Option (List (Fin 16))
  | [] => some []
  | c :: cs => match hexVal c, hexVals cs with
    | some n, some ns => some (n :: ns)
    | _, _ => none

theorem hexVals_map_hexDigit (ns : List (Fin 16)) : hexVals (ns.map hexDigit) = some ns := by
  induction ns with
  | nil => rfl
  | cons n ns ih => simp only [List.map_cons, hexVals, hexVal_hexDigit, ih]

/-- `primitive.ObjectIDFromHex`; `none` stands for the error. -/
def objectIDFromHex (s : String) : Option ObjectID :=
  match hexVals s.toList with
  | none => none
  | some ns => if h : ns.length = 24 then some ⟨ns, h⟩ else none

namespace ObjectID

/-- `Hex`. -/
def hex (o : ObjectID) : String := String.ofList (o.digits.map hexDigit)

/-- The object id with the given number as its last digits. -/
def ofNat (n : Nat) : ObjectID :=
  ⟨(List.range 24).map fun i => Fin.ofNat 16 (n / 16 ^ (23 - i)), by simp⟩

/-- `primitive.NilObjectID`, the zero value. -/
def zero : ObjectID := ⟨List.replicate 24 0, rfl⟩

@[simp] theorem objectIDFromHex_hex (o : ObjectID) : objectIDFromHex o.hex = some o := by
  simp [objectIDFromHex, hex, hexVals_map_hexDigit, o.length_eq]

theorem hex_inj {o o' : ObjectID} (h : o.hex = o'.hex) : o = o' := by
  have := congrArg objectIDFromHex h
  simpa using this

@[simp] theorem hex_inj_iff {o o' : ObjectID} : o.hex = o'.hex ↔ o = o' :=
  ⟨hex_inj, congrArg hex⟩

theorem hex_ne_empty (o : ObjectID) : o.hex ≠ "" := by
  intro h
  have hempty : objectIDFromHex "" = none := by decide
  have := congrArg objectIDFromHex h
  rw [objectIDFromHex_hex, hempty] at this
  cases this

end ObjectID

end GbcVenue
