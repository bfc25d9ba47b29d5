import Excerpt.Settings.Search
import Mathlib

/-!
Which settings are in force. The sites at which a table of settings may stand are looked at one after
the other, the nearest first; the first one at which something stands decides alone.
-/

namespace Excerpt

theorem Field.named?_eq_some {t : Text} {f : Field} : named? t = some f ↔ t = f.name.toList := by
  constructor
  · intro h
    have hname := List.find?_some h
    exact (beq_iff_eq.mp hname).symm
  · rintro rfl
    exact named?_name f

namespace Settings

variable {d : Disk} {current start : Place} {r : Route} {l : Settings}

section Table

variable {entries : Table}

/-- The value of a setting that entries give, else its default. -/
def valueIn (entries : Table) (f : Field) : Value :=
  (entries.get? f.name.toList).getD (({} : Settings).get f)

end Table

section Overlay

variable {s : Settings} {changes : Overrides} {entries : List (Text × Value)} {f : Field} {v : Value}

/-- A change as an entry: the field by its name. -/
def entryOf (c : Field × Value) : Text × Value := (c.1.name.toList, c.2)

end Overlay

section Search

/-- A place for settings: a configuration file, and the path of keys that leads to them in it. -/
structure Site where
  file : Place
  path : Toml.Path

/-- What stands at a site. Nothing does if its file is missing or invalid. -/
def Site.content (d : Disk) (s : Site) : Except SearchFault (Option Value) :=
  (fileTable d s.file).map fun t => t.bind (Table.find? s.path)

end Search

section Build

variable {changes : Overrides} {entries : List (Text × Value)}

end Build

end Settings

end Excerpt
