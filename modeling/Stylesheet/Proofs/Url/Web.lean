import Stylesheet.Proofs.Text.Pieces
import Stylesheet.Url.Parser

set_option autoImplicit false

/-! # URLs of the web

What reading a URL with a scheme of the web makes of it. Such a URL always has an authority with a
host that is not empty (`eq_withRest_of_web`), and a path with a segment at least
(`withRest_web`). Drives are names of the scheme `file` alone.
-/

namespace Stylesheet

/-! ## Hosts -/

/-- A name has a label at least. -/
theorem DomainName.ne_nil_of_ascii? {name : List Char} {labels : List (List Char)}
    (h : ascii? name = some labels) : labels ≠ [] := by
  obtain ⟨given, hgiven, rfl⟩ := Option.map_eq_some_iff.1 h
  simp only [labels?, Option.bind_eq_bind, Option.bind_eq_some_iff] at hgiven
  obtain ⟨meaning, -, read, hread, hways⟩ := hgiven
  obtain rfl : read = given := by
    split at hways
    · exact Option.some.inj hways
    · cases hways
  cases hpieces : Text.pieces (· == '.') meaning with
  | nil => exact absurd hpieces (Text.pieces_ne_nil _ _)
  | cons piece pieces =>
      simp only [hpieces, List.mapM_cons, Option.bind_eq_bind, Option.bind_eq_some_iff] at hread
      obtain ⟨label, -, rest, -, hlabels⟩ := hread
      cases hlabels
      simp

/-- A host of the web is not empty. -/
theorem Host.ne_empty_of_parse {cs : List Char} {host : Host} (h : Host.parse cs = .ok host) :
    host ≠ .domain [] := by
  unfold Host.parse at h
  split at h
  · -- an address in brackets
    unfold bracketed? at h
    repeat' split at h
    all_goals cases h
    simp
  · cases hd : domain? cs with
    | error e =>
        rw [hd] at h
        cases h
    | ok labels =>
        have hne : labels ≠ [] := by
          unfold domain? at hd
          dsimp only at hd
          repeat' split at hd
          all_goals cases hd
          next hascii => exact DomainName.ne_nil_of_ascii? hascii
        rw [hd] at h
        dsimp only [bind, Except.bind] at h
        repeat' split at h
        all_goals cases h
        · simp
        · next hlabels _ => simpa [Text.join_eq_nil_iff '.' hne] using hlabels

/-! ## Authorities -/

namespace Url

variable {u : Url} {kind : SchemeKind} {scheme : List Char} {breaks : List Nat}

/-- Where a scheme names machines, an authority names one. -/
theorem host_ne_empty_of_parseAuthority (hk : kind.isKnown = true) {cs rest : List Char}
    {isLast : Bool} {a : Authority} (h : parseAuthority kind cs isLast = .ok (a, rest)) :
    a.host ≠ .domain [] := by
  unfold parseAuthority at h
  simp only [hk, true_and, if_true, bind, Except.bind, throw, throwThe, MonadExceptOf.throw] at h
  repeat' split at h
  all_goals cases h
  all_goals exact Host.ne_empty_of_parse ‹_›

theorem parseAfterSlashes_eq_ok {cs : List Char} (h : parseAfterSlashes kind scheme cs = .ok u) :
    ∃ a text isLast rest path, parseAuthority kind text isLast = .ok (a, rest) ∧
      u = withRest kind [] scheme (some a) path := by
  unfold parseAfterSlashes at h
  dsimp only at h
  generalize htext : cs.takeWhile (!endsAuthority kind ·) = text at h
  generalize hlast : decide (cs.dropWhile (!endsAuthority kind ·) = []) = isLast at h
  cases ha : parseAuthority kind text isLast with
  | error e =>
      rw [ha] at h
      cases h
  | ok read =>
      obtain ⟨a, rest⟩ := read
      rw [ha] at h
      cases h
      exact ⟨a, text, isLast, rest, _, ha, rfl⟩

theorem scheme_of_parseFile {cs : List Char} (h : parseFile breaks scheme cs = .ok u) :
    u.scheme = scheme := by
  unfold parseFile at h
  dsimp only [bind, Except.bind] at h
  repeat' split at h
  all_goals cases h
  all_goals rfl

theorem scheme_of_parseOther {cs : List Char} (h : parseOther scheme cs = .ok u) :
    u.scheme = scheme := by
  unfold parseOther at h
  split at h
  · obtain ⟨a, text, isLast, rest, path, -, rfl⟩ := parseAfterSlashes_eq_ok h
    rfl
  · cases h
    rfl
  · cases h
    rfl

/-- A URL of the web is read as an authority and a path. -/
theorem eq_withRest_of_web {text : String} {port : Nat} (h : Url.parse text = .ok u)
    (hk : schemeKind u.scheme = .web port) :
    ∃ a path, a.host ≠ .domain [] ∧ u = withRest (.web port) [] u.scheme (some a) path := by
  unfold Url.parse parseChars at h
  dsimp only at h
  split at h
  · cases h
  · next scheme rest _ =>
      split at h
      · next hfile =>
          rw [scheme_of_parseFile h, hfile] at hk
          cases hk
      · next port' hweb =>
          obtain ⟨a, text, isLast, after, path, ha, rfl⟩ := parseAfterSlashes_eq_ok h
          obtain rfl : port' = port := by
            rw [show (withRest (.web port') [] scheme (some a) path).scheme = scheme from rfl, hweb]
              at hk
            cases hk
            rfl
          exact ⟨a, path, host_ne_empty_of_parseAuthority rfl ha, rfl⟩
      · next hother =>
          rw [scheme_of_parseOther h, hother] at hk
          cases hk

/-! ## Paths -/

/-- Outside `file` one more segment changes nothing but the segments, and the last one always adds
one. -/
theorem push_eq (hk : kind ≠ .file) (path : OpenPath) (s : List Char) (isLast : Bool) :
    ∃ ss, path.push kind s isLast = { path with segments := ss } ∧ (isLast = true → ss ≠ []) := by
  unfold OpenPath.push
  dsimp only
  split
  · exact ⟨_, rfl, fun h => by simp [h]⟩
  · split
    · exact ⟨_, rfl, fun h => by simp [h]⟩
    · rw [if_neg (by simp [hk])]
      exact ⟨_, rfl, fun _ => List.cons_ne_nil _ _⟩

/-- Outside `file` a path that is read names no drive, and has segments if there is anything to
read. -/
theorem read_eq (hk : kind ≠ .file) (left : Nat) (path : OpenPath) (ss : List (List Char)) :
    ∃ read, OpenPath.read kind breaks left path ss = { path with segments := read } ∧
      (ss ≠ [] → read ≠ []) := by
  induction ss generalizing left path with
  | nil => exact ⟨path.segments, rfl, fun h => absurd rfl h⟩
  | cons s ss ih =>
      obtain ⟨pushed, hpush, hlast⟩ := push_eq hk path (encodeText pathSet s) (ss = [])
      have hstep : OpenPath.read kind breaks left path (s :: ss)
          = OpenPath.read kind breaks (left - s.length - 1) { path with segments := pushed } ss := by
        rw [OpenPath.read]
        simp [hk, hpush]
      obtain ⟨read, hread, hne⟩ := ih (left - s.length - 1) { path with segments := pushed }
      refine ⟨read, by rw [hstep, hread], fun _ => ?_⟩
      cases ss with
      | nil =>
          have heq : read = pushed := by
            have := congrArg OpenPath.segments hread
            exact this.symm
          rw [heq]
          exact hlast (by simp)
      | cons t ss => exact hne (List.cons_ne_nil t ss)

/-- A URL of the web keeps its authority and has a segment at least. -/
theorem withRest_web (port : Nat) (scheme : List Char) (a : Authority) (rest : List Char) :
    (withRest (.web port) [] scheme (some a) rest).authority = some a ∧
      ∃ s ss, (withRest (.web port) [] scheme (some a) rest).path = .segments (s :: ss) := by
  have hkind : SchemeKind.web port ≠ .file := by simp
  obtain ⟨read, hread, hne⟩ := @read_eq _ [] hkind
    ((dropSlash (.web port) (rest.takeWhile (!endsPath ·))).length
      + (rest.dropWhile (!endsPath ·)).length) {}
    (Text.pieces (isSlash (.web port)) (dropSlash (.web port) (rest.takeWhile (!endsPath ·))))
  obtain ⟨s, ss, hs⟩ := List.exists_cons_of_ne_nil
    (List.reverse_ne_nil_iff.2 (hne (Text.pieces_ne_nil _ _)))
  constructor
  · simp [withRest, openPathOf, hread]
  · exact ⟨s, ss, by simp [withRest, openPathOf, hread, SchemeKind.isKnown, OpenPath.close, hs]⟩

end Url

end Stylesheet
