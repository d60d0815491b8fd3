import Mathlib.Data.Rat.Defs

/-!
# Decoded JSON

What `json.Unmarshal` makes of a text in a variable of type `any` or `map[string]any`. A number is a
`float64`, a rational here. Of several fields with one name the last counts.
-/

namespace GbcVenue

/-- A value of type `any` after decoding. -/
inductive Json
  | null
  | bool (b : Bool)
  | number (x : ℚ)
  | string (s : String)
  | array (items : List Json)
  | object (fields : List (String × Json))

/-- A `map[string]any`, as the fields of the text in their order. -/
abbrev JsonMap := List (String × Json)

namespace JsonMap

/-- `m[key]`; `none` is the `nil` of a missing key. -/
def get (m : JsonMap) (key : String) : Option Json := m.reverse.lookup key

/-- Go `jsonFloat` (`mqtt_client.go:284-287`): 0 for anything that is no number. -/
def jsonFloat (m : JsonMap) (key : String) : ℚ :=
  match m.get key with
  | some (.number x) => x
  | _ => 0

/-- Go `jsonString` (`mqtt_client.go:289-292`): empty for anything that is no string. -/
def jsonString (m : JsonMap) (key : String) : String :=
  match m.get key with
  | some (.string s) => s
  | _ => ""

end JsonMap

/-- `json.Unmarshal(payload, &data)` into a `map[string]any`, where `none` is an error: a text that is
no JSON (`none` on the left as well) or a value other than an object or `null`, which is the nil map. -/
def unmarshalMap : Option Json → Option JsonMap
  | some (.object fields) => some fields
  | some .null => some []
  | _ => none

/-- `int(x)` of a `float64` on amd64: cut off towards zero, and the least `int` for what is too large. -/
def intOfFloat (x : ℚ) : Int :=
  let n := x.num.tdiv x.den
  if -9223372036854775808 ≤ n ∧ n ≤ 9223372036854775807 then n else -9223372036854775808

theorem intOfFloat_intCast {n : Int} (h : -9223372036854775808 ≤ n) (h' : n ≤ 9223372036854775807) :
    intOfFloat n = n := by
  simp [intOfFloat, h, h']

end GbcVenue
