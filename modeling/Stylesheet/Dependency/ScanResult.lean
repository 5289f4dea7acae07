import Stylesheet.Dependency.Walk

set_option autoImplicit false

/-! # What a dependency scan finds

A scan has one record for each entry of a project that could be read. The counts that a
report shows are read off these records: imports that lead nowhere, and the entry that needs
the most files.
-/

namespace Stylesheet.Dependency

structure ScanResult where
  root : Path
  entries : List EntryDeps
  /-- How many different files were scanned for imports. -/
  filesAnalyzed : Nat
deriving DecidableEq, Repr

namespace ScanResult

def hasUnresolved (r : ScanResult) : Bool := r.entries.any fun e => !e.unresolved.isEmpty

def countUnresolved (r : ScanResult) : Nat := (r.entries.flatMap EntryDeps.unresolved).length

/-- The entry with the most files, the last one of several. -/
def largest? (r : ScanResult) : Option EntryDeps :=
  r.entries.foldl (fun best e =>
    match best with
    | some b => if b.files.length ≤ e.files.length then some e else some b
    | none => some e) none

theorem hasUnresolved_eq_false_iff (r : ScanResult) :
    r.hasUnresolved = false ↔ ∀ e ∈ r.entries, e.unresolved = [] := by
  simp [hasUnresolved]

/-- Imports that lead nowhere are there exactly if their number is not zero. -/
theorem hasUnresolved_iff_countUnresolved (r : ScanResult) :
    r.hasUnresolved = true ↔ 0 < r.countUnresolved := by
  rw [countUnresolved, Nat.pos_iff_ne_zero, Ne, List.length_eq_zero_iff,
    List.flatMap_eq_nil_iff, ← hasUnresolved_eq_false_iff, Bool.not_eq_false]

end ScanResult

end Stylesheet.Dependency
