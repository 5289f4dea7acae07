import Stylesheet.Proofs.Path.Spelling

set_option autoImplicit false

/-! # Paths read from directories

A `.` at the start of a path is a component of its own and changes nothing once the path is
cleaned. The *route* of a path leaves it out. Routes are added up by `join` (`route_join`) and
decide what `clean` gives (`clean_eq_of_route`), so cleaning a joined path depends on the
components of its parts alone (`clean_join_congr`).
-/

namespace Stylesheet.Path

/-- The components of a path that lead somewhere. -/
def route (p : Path) : List Component := p.components.filter (· ≠ .here)

theorem route_eq_of_same {p q : Path} (h : p.same q = true) : p.route = q.route := by
  rw [route, same_iff.1 h, route]

theorem ofPiece?_ne_here (n : Name) : Component.ofPiece? n ≠ some .here := by
  unfold Component.ofPiece?
  split
  · simp
  · split <;> simp

/-- The steps of pieces all lead somewhere. -/
theorem filter_filterMap_ofPiece? (ns : List Name) :
    (ns.filterMap Component.ofPiece?).filter (· ≠ .here) = ns.filterMap Component.ofPiece? := by
  refine List.filter_eq_self.2 fun c hc => ?_
  obtain ⟨n, -, hn⟩ := List.mem_filterMap.1 hc
  refine decide_eq_true fun e => ?_
  subst e
  exact ofPiece?_ne_here n hn

/-- So do steps. -/
theorem filter_steps (ns : List Name) :
    (ns.map Component.step).filter (· ≠ .here) = ns.map Component.step := by
  refine List.filter_eq_self.2 fun c hc => ?_
  obtain ⟨n, -, rfl⟩ := List.mem_map.1 hc
  exact decide_eq_true (Component.step_ne_here n)

/-- The route read off the text: a root if there is one, then the steps of all pieces. -/
theorem route_eq (p : Path) :
    p.route = (if p.isAbsolute then [.root] else []) ++
      (Text.pieces (· == separator) p.bytes).filterMap Component.ofPiece? := by
  obtain ⟨bs⟩ := p
  rw [route, components, List.filter_append, filter_filterMap_ofPiece?, anchor, pieces]
  cases bs with
  | nil => rfl
  | cons b rest =>
      by_cases hb : b = separator
      · subst hb
        simp [layout, isAbsolute, Anchor.components, Text.pieces, Component.ofPiece?, Name.isNoise]
      · have habs : (⟨b :: rest⟩ : Path).isAbsolute = false := by simpa [isAbsolute] using hb
        rw [habs, layout]
        cases hp : Text.pieces (· == separator) (b :: rest) with
        | nil => exact absurd hp (Text.pieces_ne_nil _ _)
        | cons first others =>
            by_cases hf : first = Name.here
            · subst hf
              simp [hb, hp, Anchor.components, Component.ofPiece?, Name.isNoise]
            · simp [hb, hp, hf, Anchor.components]

/-- A relative path read from a directory goes on where the directory ends. -/
theorem route_join {p q : Path} (hq : q.isAbsolute = false) :
    (p.join q).route = p.route ++ q.route := by
  obtain ⟨bs⟩ := p
  unfold join
  rw [hq, if_neg Bool.false_ne_true]
  rw [route_eq ⟨bs⟩, route_eq q, hq]
  rcases bs.eq_nil_or_concat' with rfl | ⟨before, b, rfl⟩
  · rw [if_pos (Or.inl rfl), List.nil_append, route_eq q, hq]
    simp [isAbsolute, Text.pieces, Component.ofPiece?, Name.isNoise]
  · have habs : ∀ t : List UInt8, (⟨before ++ [b] ++ t⟩ : Path).isAbsolute
        = (⟨before ++ [b]⟩ : Path).isAbsolute := by
      intro t
      cases before <;> rfl
    by_cases hb : b = separator
    · subst hb
      rw [if_pos (Or.inr (by simp)), route_eq, habs]
      simp only [List.append_assoc, List.singleton_append, Text.pieces_append_sep,
        List.filterMap_append]
      simp [Text.pieces, Component.ofPiece?, Name.isNoise]
    · rw [if_neg (by simp [hb]), route_eq, habs]
      simp only [Text.pieces_append_sep, List.filterMap_append]
      simp

/-- What `clean` gives depends on the route alone. -/
theorem cleanComponents_route (p : Path) :
    cleanComponents p.route = cleanComponents p.components := by
  have key : ∀ (cs done : List Component),
      (cs.filter (· ≠ .here)).foldl settle done = cs.foldl settle done := by
    intro cs
    induction cs with
    | nil => intro done; rfl
    | cons c cs ih =>
        intro done
        by_cases hc : c = .here
        · subst hc
          simpa [settle] using ih done
        · simpa [hc] using ih (settle done c)
  exact congrArg List.reverse (key p.components [])

theorem clean_eq_of_route {p q : Path} (h : p.route = q.route) : p.clean = q.clean := by
  unfold clean
  rw [← cleanComponents_route, ← cleanComponents_route, h]

/-- Whether a path is absolute shows in its route. -/
theorem isAbsolute_eq_route (p : Path) : p.isAbsolute = (p.route.head? == some .root) := by
  rw [route_eq]
  by_cases h : p.isAbsolute = true
  · simp [h]
  · have hne : ∀ c ∈ (Text.pieces (· == separator) p.bytes).filterMap Component.ofPiece?,
        c ≠ .root := by
      intro c hc e
      obtain ⟨n, -, hn⟩ := List.mem_filterMap.1 hc
      subst e
      unfold Component.ofPiece? at hn
      split at hn
      · cases hn
      · split at hn <;> cases hn
    rw [Bool.not_eq_true] at h
    simp only [h, if_neg Bool.false_ne_true, List.nil_append]
    cases hp : (Text.pieces (· == separator) p.bytes).filterMap Component.ofPiece? with
    | nil => rfl
    | cons c cs =>
        have hc := hne c (by simp [hp])
        simpa using hc

theorem isAbsolute_eq_of_same {p q : Path} (h : p.same q = true) : p.isAbsolute = q.isAbsolute := by
  rw [isAbsolute_eq_route, isAbsolute_eq_route, route_eq_of_same h]

/-- **Cleaning a joined path goes by components**: how the two parts are spelled makes no
difference to the text that comes out. -/
theorem clean_join_congr {d d' p p' : Path} (hd : d.same d' = true) (hp : p.same p' = true) :
    (d.join p).clean = (d'.join p').clean := by
  refine clean_eq_of_route ?_
  have habs := isAbsolute_eq_of_same hp
  cases h : p.isAbsolute with
  | true => rw [join_absolute h, join_absolute (habs ▸ h), route_eq_of_same hp]
  | false => rw [route_join h, route_join (habs ▸ h), route_eq_of_same hd, route_eq_of_same hp]

end Stylesheet.Path
