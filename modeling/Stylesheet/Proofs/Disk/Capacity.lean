import Stylesheet.FileSystem.Disk
import Stylesheet.Proofs.Dependency.Reachability

set_option autoImplicit false

/-! # How many paths a disk has

A path that leads anywhere has at most `Disk.maxPath` bytes. There are fewer texts of that length
than the capacity of the disk as a file system, so a search never visits too many files for its
budget (`Disk.withinCapacity`).
-/

namespace Stylesheet.Disk

def allBytes : List UInt8 := (List.finRange UInt8.size).map UInt8.ofFin

/-- Every text of at most `n` bytes. -/
def texts : Nat → List (List UInt8)
  | 0 => [[]]
  | n + 1 => [] :: allBytes.flatMap fun b => (texts n).map (b :: ·)

theorem mem_allBytes (b : UInt8) : b ∈ allBytes :=
  List.mem_map.2 ⟨b.toFin, List.mem_finRange _, rfl⟩

theorem mem_texts {n : Nat} {bs : List UInt8} (h : bs.length ≤ n) : bs ∈ texts n := by
  induction n generalizing bs with
  | zero => simp [texts, List.length_eq_zero_iff.1 (Nat.le_zero.1 h)]
  | succ n ih =>
      cases bs with
      | nil => exact List.mem_cons_self
      | cons b bs =>
          have hbs := ih (Nat.le_of_succ_le_succ h)
          refine List.mem_cons_of_mem _ (List.mem_flatMap.2 ⟨b, mem_allBytes b, ?_⟩)
          exact List.mem_map_of_mem hbs

theorem length_texts_lt (n : Nat) : (texts n).length < Nat.pow UInt8.size (n + 1) := by
  induction n with
  | zero => decide
  | succ n ih =>
      have hbytes : allBytes.length = UInt8.size := by simp [allBytes]
      have hlength : (texts (n + 1)).length = UInt8.size * (texts n).length + 1 := by
        simp [texts, List.length_flatMap, hbytes]
      have hsize : 1 < UInt8.size := by decide
      calc (texts (n + 1)).length
          = UInt8.size * (texts n).length + 1 := hlength
        _ < UInt8.size * (texts n).length + UInt8.size := by omega
        _ = UInt8.size * ((texts n).length + 1) := by rw [Nat.mul_succ]
        _ ≤ UInt8.size * Nat.pow UInt8.size (n + 1) := Nat.mul_le_mul_left _ ih
        _ = Nat.pow UInt8.size (n + 1) * UInt8.size := Nat.mul_comm _ _

/-- What exists has a path that is short enough. -/
theorem length_le_of_found {d : Disk} {p : Path} (h : d.toFileSystem.found p = true) :
    p.bytes.length ≤ maxPath := by
  have hprobe : d.probe p = .found := of_decide_eq_true h
  rw [← Nat.not_lt]
  intro hlong
  have hlocate : ∀ place, d.locate p ≠ .ok place := by
    intro place
    unfold locate
    rw [if_pos hlong]
    split
    · simp
    · split <;> simp
  unfold probe nodeAt at hprobe
  cases hp : d.locate p with
  | ok place => exact hlocate place hp
  | error why =>
      rw [hp] at hprobe
      cases why <;> cases hprobe

/-- **The budget of a search covers a disk.** -/
theorem withinCapacity (d : Disk) : d.toFileSystem.WithinCapacity := by
  refine ⟨((texts maxPath).map Path.mk).map fun p => Path.ofComponents p.components, ?_, ?_, ?_⟩
  · rw [List.length_map, List.length_map]
    unfold toFileSystem
    have h := length_texts_lt maxPath
    revert h
    -- The number itself is too large to be worked out.
    generalize Nat.pow UInt8.size (maxPath + 1) = capacity
    exact Nat.le_of_lt
  · intro p hp
    obtain ⟨q, -, rfl⟩ := List.mem_map.1 hp
    exact q.ofComponents_tidy
  · intro p hp hfound
    have hmem : p ∈ (texts maxPath).map Path.mk :=
      List.mem_map.2 ⟨p.bytes, mem_texts (length_le_of_found hfound), rfl⟩
    exact List.mem_map.2 ⟨p, hmem, hp.ofComponents⟩

end Stylesheet.Disk
