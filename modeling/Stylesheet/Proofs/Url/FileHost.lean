import Stylesheet.Proofs.Url.Dotted
import Stylesheet.Proofs.Url.Foreign

set_option autoImplicit false

/-! # File URLs without a host

A URL of the scheme `file` always has a path of segments, at least one (`segments_of_file`), so what
can keep it off the disk is a host alone. Without one it leads to a path
(`exists_toFilePath?_of_file`).
-/

namespace Stylesheet.Url

variable {u : Url} {breaks : List Nat} {scheme : List Char}

/-! ## Segments -/

/-- The last segment leaves one at least. -/
theorem segments_push_last (kind : SchemeKind) (p : OpenPath) (s : List Char) :
    (p.push kind s true).segments ≠ [] := by
  unfold OpenPath.push
  simp only [if_true]
  repeat' split
  all_goals simp

theorem segments_read_ne_nil (kind : SchemeKind) (left : Nat) (p : OpenPath)
    {ss : List (List Char)} (h : ss ≠ []) :
    (OpenPath.read kind breaks left p ss).segments ≠ [] := by
  induction ss generalizing left p with
  | nil => exact absurd rfl h
  | cons s ss ih =>
      rw [OpenPath.read]
      cases ss with
      | nil =>
          rw [OpenPath.read]
          split
          · simp
          · exact segments_push_last kind p _
      | cons t ss => exact ih _ _ (List.cons_ne_nil t ss)

/-- The path of a file URL has a segment at least. -/
theorem segments_withRest_file (a : Option Authority) (rest : List Char) :
    ∃ s ss, (withRest .file breaks scheme a rest).path = .segments (s :: ss) := by
  have hread : (openPathOf .file breaks (dropSlash .file (rest.takeWhile (!endsPath ·)))
      (rest.dropWhile (!endsPath ·)).length).segments ≠ [] :=
    segments_read_ne_nil .file _ {} (Text.pieces_ne_nil _ _)
  obtain ⟨-, -, -, hne⟩ := exists_dropLeadingEmpty
    (openPathOf .file breaks (dropSlash .file (rest.takeWhile (!endsPath ·)))
      (rest.dropWhile (!endsPath ·)).length).segments.reverse
  obtain ⟨s, ss, hs⟩ := List.exists_cons_of_ne_nil (hne (List.reverse_ne_nil_iff.2 hread))
  refine ⟨s, ss, ?_⟩
  rw [← hs]
  simp [withRest, SchemeKind.isKnown, OpenPath.close]

/-! ## File URLs -/

theorem eq_withRest_of_parseFile {cs : List Char} (h : parseFile breaks scheme cs = .ok u) :
    ∃ a rest, u = withRest .file breaks scheme a rest := by
  unfold parseFile at h
  dsimp only [bind, Except.bind] at h
  repeat' split at h
  all_goals cases h
  all_goals exact ⟨_, _, rfl⟩

/-- **A file URL has a path of segments.** -/
theorem segments_of_file {text : String} (h : Url.parse text = .ok u)
    (hu : u.scheme = "file".toList) : ∃ s ss, u.path = .segments (s :: ss) := by
  have hkind : schemeKind u.scheme = .file := by rw [hu]; rfl
  unfold Url.parse parseChars at h
  dsimp only at h
  split at h
  · cases h
  · split at h
    · obtain ⟨a, rest, rfl⟩ := eq_withRest_of_parseFile h
      exact segments_withRest_file a rest
    · next scheme _ _ _ port hweb =>
        obtain ⟨a, text, isLast, after, path, -, rfl⟩ := parseAfterSlashes_eq_ok h
        have hscheme : (withRest (.web port) [] scheme (some a) path).scheme = scheme := rfl
        rw [hscheme, hweb] at hkind
        cases hkind
    · next hother =>
        rw [scheme_of_parseOther h, hother] at hkind
        cases hkind

/-- **A file URL without a host leads to a path.** -/
theorem exists_toFilePath?_of_file {text : String} (h : Url.parse text = .ok u)
    (hu : u.scheme = "file".toList) (hhost : ∀ a, u.authority = some a → a.host = .domain []) :
    ∃ p, u.toFilePath? = some p := by
  obtain ⟨s, ss, hpath⟩ := segments_of_file h hu
  have hlocal : u.isLocal = true := by
    unfold isLocal
    cases ha : u.authority with
    | none => rfl
    | some a => simp [hhost a ha]
  cases hp : u.toFilePath? with
  | some p => exact ⟨p, rfl⟩
  | none =>
      rcases toFilePath?_eq_none_iff.1 hp with hforeign | hnone
      · rw [hlocal] at hforeign
        cases hforeign
      · exact absurd hpath (hnone s ss)

end Stylesheet.Url
