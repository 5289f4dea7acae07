import Stylesheet.Package.Specifier
import Stylesheet.Proofs.Text.Pieces
import Stylesheet.Proofs.Text.Slice

set_option autoImplicit false

/-! # The grammar of package specifiers

A specifier is read segment by segment at byte offsets, and each offset is the length of the
segments that were read with their separators, so that the text is never sliced elsewhere than in
front of a separator, behind one or at its ends (`nameEnd_eq`). What is read is a package of one or
two segments that are not empty, and what stands behind it (`split_grammar`).
-/

namespace Stylesheet.Package.Specifier

open Text

theorem byteLength_separator : byteLength ['/'] = 1 := rfl

/-- A segment ends where the next separator stands, or at the end. -/
theorem segmentEnd_eq (pre : List Char) {p : List Char} {ps : List (List Char)}
    (hp : '/' ∉ p) :
    segmentEnd (pre ++ (p ++ ps.flatMap ('/' :: ·))) (byteLength pre)
      = .ok (if p = [] then none else some (byteLength (pre ++ p))) := by
  have hlength : (byteIndexOf? '/' (p ++ ps.flatMap ('/' :: ·))).getD
      (byteLength (pre ++ (p ++ ps.flatMap ('/' :: ·))) - byteLength pre) = byteLength p := by
    cases ps with
    | nil =>
        have hall : byteLength (pre ++ p) - byteLength pre = byteLength p := by
          rw [byteLength_append, Nat.add_sub_cancel_left]
        rw [List.flatMap_nil, List.append_nil, byteIndexOf?_of_not_mem hp, Option.getD_none, hall]
    | cons q qs =>
        rw [List.flatMap_cons, List.cons_append, byteIndexOf?_append hp, Option.getD_some]
  rw [segmentEnd, sliceFrom_append]
  show Except.ok (if (byteIndexOf? '/' _).getD _ = 0 then none else some (_ + _)) = _
  rw [hlength, byteLength_append]
  simp only [byteLength_eq_zero_iff]

/-- **The segments behind the first** are read one after the other, each from the separator in front
of it on, until one is empty or missing. -/
theorem nameEnd_later (pre : List Char) {ps : List (List Char)} (hps : ∀ p ∈ ps, '/' ∉ p)
    {numbers : List Nat} (hnumbers : ∀ i ∈ numbers, 0 < i) :
    nameEnd (pre ++ ps.flatMap ('/' :: ·)) numbers (byteLength pre)
      = .ok (if numbers.length ≤ ps.length ∧ [] ∉ ps.take numbers.length then
          some (byteLength (pre ++ (ps.take numbers.length).flatMap ('/' :: ·))) else none) := by
  -- a segment that was read, with its separator, goes over to what stands before the others
  induction numbers generalizing pre ps with
  | nil =>
      rw [nameEnd, List.length_nil, List.take_zero, List.flatMap_nil, List.append_nil]
      rfl
  | cons i numbers ih =>
      have hi := hnumbers i (by simp)
      rw [nameEnd, if_pos hi]
      cases ps with
      | nil =>
          rw [List.flatMap_nil, List.append_nil, if_pos ⟨hi, Nat.le_succ _⟩, if_neg (by simp)]
          rfl
      | cons p qs =>
          have hbehind : pre ++ (p :: qs).flatMap ('/' :: ·)
              = (pre ++ ['/']) ++ (p ++ qs.flatMap ('/' :: ·)) := by simp
          have hstart : byteLength pre + 1 = byteLength (pre ++ ['/']) := by
            rw [byteLength_append, byteLength_separator]
          rw [hbehind, hstart]
          by_cases hshort : byteLength ((pre ++ ['/']) ++ (p ++ qs.flatMap ('/' :: ·)))
              ≤ byteLength (pre ++ ['/'])
          · -- nothing stands behind the separator, so that its segment is empty
            have hempty : p = [] := by
              rw [byteLength_append _ (p ++ _), byteLength_append p] at hshort
              exact byteLength_eq_zero_iff.1 (by omega)
            rw [if_pos ⟨hi, hshort⟩, if_neg (by simp [hempty])]
            rfl
          · rw [if_neg fun h => hshort h.2, segmentEnd_eq _ (hps p (by simp))]
            by_cases hempty : p = []
            · rw [if_pos hempty, if_neg (by simp [hempty])]
              rfl
            · have hrest := ih ((pre ++ ['/']) ++ p) (fun q hq => hps q (List.mem_cons_of_mem p hq))
                fun j hj => hnumbers j (List.mem_cons_of_mem i hj)
              rw [if_neg hempty]
              show nameEnd _ numbers (byteLength ((pre ++ ['/']) ++ p)) = _
              rw [← List.append_assoc, hrest]
              simp [Ne.symm hempty]

/-- The name ends behind as many segments as it has, if none of them is empty. -/
theorem nameEnd_eq (cs : List Char) {k : Nat} (hk : 0 < k) :
    nameEnd cs (List.range k) 0
      = .ok (if k ≤ (pieces (· == '/') cs).length ∧ [] ∉ (pieces (· == '/') cs).take k then
          some (byteLength (join '/' ((pieces (· == '/') cs).take k))) else none) := by
  have hcs := join_pieces '/' cs
  have hsep : ∀ p ∈ pieces (· == '/') cs, '/' ∉ p := fun p hp hin => by
    simpa using not_sep_of_mem_pieces hp hin
  -- the first segment has no separator in front of it and is read apart from the others
  cases hpieces : pieces (· == '/') cs with
  | nil => exact absurd hpieces (pieces_ne_nil _ _)
  | cons p ps =>
      rw [hpieces, join_cons] at hcs
      rw [hpieces, List.forall_mem_cons] at hsep
      obtain ⟨n, rfl⟩ := Nat.exists_eq_add_one.2 hk
      have hfirst := @segmentEnd_eq [] p ps hsep.1
      rw [List.nil_append, hcs, byteLength_nil, List.nil_append] at hfirst
      have hnumbers : ∀ i ∈ (List.range n).map Nat.succ, 0 < i := by simp
      rw [List.range_succ_eq_map, nameEnd, if_neg (by omega), if_neg (by omega), hfirst]
      by_cases hempty : p = []
      · rw [if_pos hempty, if_neg (by simp [hempty])]
        rfl
      · have hlater := nameEnd_later p hsep.2 hnumbers
        rw [hcs, List.length_map, List.length_range] at hlater
        rw [if_neg hempty]
        show nameEnd cs _ (byteLength p) = _
        rw [hlater, List.take_succ_cons, join_cons]
        simp [Ne.symm hempty]

theorem nameLength_pos (cs : List Char) : 0 < nameLength cs := by
  unfold nameLength
  split <;> decide

/-- What stands behind the name, if it is long enough: nothing, or a separator and the rest. -/
theorem eq_of_long {cs : List Char} {k : Nat} (hk : 0 < k)
    (hlong : k ≤ (pieces (· == '/') cs).length) :
    cs = join '/' ((pieces (· == '/') cs).take k)
      ++ ((pieces (· == '/') cs).drop k).flatMap ('/' :: ·) := by
  have hcs := join_pieces '/' cs
  cases hpieces : pieces (· == '/') cs with
  | nil => exact absurd hpieces (pieces_ne_nil _ _)
  | cons p ps =>
      obtain ⟨n, rfl⟩ := Nat.exists_eq_add_one.2 hk
      rw [hpieces, join_cons] at hcs
      calc cs = p ++ ps.flatMap ('/' :: ·) := hcs.symm
        _ = p ++ (ps.take n ++ ps.drop n).flatMap ('/' :: ·) := by rw [List.take_append_drop]
        _ = join '/' ((p :: ps).take (n + 1)) ++ ((p :: ps).drop (n + 1)).flatMap ('/' :: ·) := by
            rw [List.take_succ_cons, List.drop_succ_cons, join_cons, List.append_assoc,
              List.flatMap_append]

/-- The text behind the name and a separator is there if a separator is. -/
theorem splitAtByte?_name {cs : List Char} {k : Nat} (hk : 0 < k)
    (hlong : k ≤ (pieces (· == '/') cs).length) :
    splitAtByte? (byteLength (join '/' ((pieces (· == '/') cs).take k)) + 1) cs
      = if (pieces (· == '/') cs).drop k = [] then none
        else some (join '/' ((pieces (· == '/') cs).take k) ++ ['/'],
          join '/' ((pieces (· == '/') cs).drop k)) := by
  have htext := eq_of_long hk hlong
  generalize join '/' ((pieces (· == '/') cs).take k) = name at htext ⊢
  by_cases hdrop : (pieces (· == '/') cs).drop k = []
  · rw [hdrop, List.flatMap_nil, List.append_nil] at htext
    rw [if_pos hdrop, htext, splitAtByte?_eq_none (Nat.lt_succ_self _)]
  · have hbehind : cs = (name ++ ['/']) ++ join '/' ((pieces (· == '/') cs).drop k) := by
      rwa [flatMap_eq_join '/' hdrop, ← List.singleton_append, ← List.append_assoc] at htext
    have hlength : byteLength name + 1 = byteLength (name ++ ['/']) := by
      rw [byteLength_append, byteLength_separator]
    rw [if_neg hdrop, hlength]
    conv_lhs => rw [hbehind]
    exact splitAtByte?_append _ _

/-- **A specifier is cut** at its first separators, and never elsewhere. -/
theorem split_eq (s : String) :
    let segments := pieces (· == '/') s.toList
    let k := nameLength s.toList
    let rest := join '/' (segments.drop k)
    split s = .ok (if k ≤ segments.length ∧ [] ∉ segments.take k then
        some
          { package := String.ofList (join '/' (segments.take k))
            subpath := if rest = [] then none else some (String.ofList rest) }
      else none) := by
  intro segments k rest
  have hend := nameEnd_eq s.toList (nameLength_pos s.toList)
  rw [split]
  dsimp only
  rw [hend]
  by_cases hname : k ≤ segments.length ∧ [] ∉ segments.take k
  · have htext := eq_of_long (nameLength_pos s.toList) hname.1
    have hpackage : sliceTo s.toList (byteLength (join '/' (segments.take k)))
        = .ok (join '/' (segments.take k)) := by
      conv_lhs => rw [htext]
      exact sliceTo_append _ _
    have hsubpath : ((splitAtByte? (byteLength (join '/' (segments.take k)) + 1) s.toList).map
        Prod.snd).filter (· ≠ []) = if rest = [] then none else some rest := by
      rw [splitAtByte?_name (nameLength_pos s.toList) hname.1]
      by_cases hdrop : segments.drop k = []
      · have hrest : rest = [] := congrArg (join '/') hdrop
        rw [if_pos hdrop, if_pos hrest]
        rfl
      · rw [if_neg hdrop]
        show Option.filter _ (some rest) = _
        by_cases hrest : rest = [] <;> simp [hrest]
    rw [if_pos hname, if_pos hname]
    show (sliceTo s.toList (byteLength (join '/' (segments.take k)))).bind _ = _
    rw [hpackage]
    show Except.ok (some (Specifier.mk _ (Option.map String.ofList (Option.filter _ _)))) = _
    rw [hsubpath]
    split <;> rfl
  · rw [if_neg hname, if_neg hname]
    rfl

theorem parse?_of_split {s : String} {answer : Option Specifier} (h : split s = .ok answer) :
    parse? s = answer := by
  rw [parse?, h]
  rfl

/-- **The grammar of specifiers.** A specifier is cut without a slice that is out of range or inside
a character. It is read exactly if it has as many segments as name a package, none of these empty;
the package is these segments, and the specifier is the package alone, with a separator behind it,
or with a separator and the subpath behind it. -/
theorem split_grammar (s : String) :
    split s = .ok (parse? s) ∧
      let k := if s.toList.head? = some '@' then 2 else 1
      let segments := pieces (· == '/') s.toList
      ((parse? s).isSome ↔ k ≤ segments.length ∧ ∀ segment ∈ segments.take k, segment ≠ []) ∧
        ∀ p, parse? s = some p →
          p.package = String.ofList (join '/' (segments.take k)) ∧
            ((s = p.package ∧ p.subpath = none) ∨ (s = p.package ++ "/" ∧ p.subpath = none) ∨
              ∃ rest ≠ "", s = p.package ++ "/" ++ rest ∧ p.subpath = some rest) := by
  have hsplit := split_eq s
  have hparse := parse?_of_split hsplit
  refine ⟨by rw [hparse]; exact hsplit, ?_⟩
  intro k segments
  have hempty : [] ∉ segments.take k ↔ ∀ segment ∈ segments.take k, segment ≠ [] :=
    ⟨fun h segment hin heq => h (heq ▸ hin), fun h hin => h [] hin rfl⟩
  refine ⟨?_, ?_⟩
  · rw [← hempty, hparse, Option.isSome_ite]
    rfl
  · intro p hp
    rw [hparse] at hp
    split at hp
    · next hname =>
        obtain rfl := Option.some.inj hp
        refine ⟨rfl, ?_⟩
        have htext := congrArg String.ofList (eq_of_long (nameLength_pos s.toList) hname.1)
        rw [String.ofList_toList, String.ofList_append] at htext
        -- behind the name stands nothing, a separator alone, or a separator and the subpath
        by_cases hdrop : (pieces (· == '/') s.toList).drop (nameLength s.toList) = []
        · rw [hdrop, List.flatMap_nil, String.ofList_nil, String.append_empty] at htext
          exact .inl ⟨htext, by rw [hdrop, join, if_pos rfl]⟩
        · rw [flatMap_eq_join '/' hdrop, ← List.singleton_append, String.ofList_append,
            ← String.append_assoc] at htext
          by_cases hrest : join '/' ((pieces (· == '/') s.toList).drop (nameLength s.toList)) = []
          · rw [hrest, String.ofList_nil, String.append_empty] at htext
            exact .inr (.inl ⟨htext, if_pos hrest⟩)
          · exact .inr (.inr ⟨_, fun h => hrest (String.ofList_eq_empty_iff.1 h), htext,
              if_neg hrest⟩)
    · cases hp

/-- A scope without a name behind it. -/
example : split "@ä/" = .ok none := by decide +kernel

example : split "@ä/ö/ü" = .ok (some ⟨"@ä/ö", some "ü"⟩) := by decide +kernel

end Stylesheet.Package.Specifier
