import TextAdventure.Reading.Source
import TextAdventure.Toml.Document

/-!
# Records in TOML files

How the values of TOML files are seen as texts, numbers and records. The fields of
a record can also be written in their order, without names. A date or a time is a
record too, but with no field that is ever asked for. Nothing is written for a
value that is left out.
-/

namespace TextAdventure.Toml

/-- The fields of a record, by their names or in their order. -/
def Value.record? (known : List String) : Value → Option (List (String × Value))
  | .table _ entries => some (entries.filter fun (name, _) => known.contains name)
  | .array items => some (known.zip items)
  | .tables all => some (known.zip (all.map (.table .header)))
  | .scalar .moment => some []
  | _ => none

instance : Source Value where
  text?
    | .text t => some t
    | _ => none
  bool?
    | .scalar (.bool b) => some b
    | _ => none
  natural?
    | .scalar (.integer n) => n.toNat?
    | _ => none
  integer?
    | .scalar (.integer n) => some n
    | _ => none
  single?
    | .scalar (.float x) => some x
    | .scalar (.integer n) => some (.ofDecimal ⟨n < 0, n.natAbs, 0⟩)
    | _ => none
  list?
    | .array items => some items
    | .tables tables => some (tables.map (.table .header))
    | _ => none
  entries?
    | .table _ entries => some entries
    | _ => none
  optional? v := some (some v)
  case?
    | .text name => some (name, none)
    | .table _ [(name, v)] => some (name, some v)
    | _ => none
  record? _ := Value.record?

end TextAdventure.Toml
