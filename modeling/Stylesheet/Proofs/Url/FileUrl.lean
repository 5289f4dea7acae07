import Stylesheet.Proofs.Url.Dotted

set_option autoImplicit false

/-! # URLs of clean absolute paths

The text of the URL of a clean absolute path is read as that URL again (`parse_text_ofNames`), since
no segment of it is taken for dots. And the URL leads back to the path, unless the path ends in what
looks like a drive and gets a separator (`leadsBack_iff`, `readsBack_iff`).
-/

namespace Stylesheet.Url

variable {ns : List Name}

/-! ## Reading the text -/

/-- Segments that are no dots are read as they were written. -/
theorem readPath_names (h : ∀ n ∈ ns, n.IsStep ∧ n ≠ Name.up) :
    readPath ns = (slots ns).map segment := by
  cases ns with
  | nil => rfl
  | cons n ns =>
      have hlast : trail (n :: ns) = [] := if_neg fun hup => (h _ (List.mem_of_getLast? hup)).2 rfl
      have hreached : (n :: ns).foldl Climbed.step {} = ⟨(n :: ns).reverse ++ [], true⟩ :=
        Climbed.foldl_names (fun m hm => (h m hm).2) []
      have hn : segment n ≠ [] := segment_ne_nil (h n (by simp)).1.ne_nil
      rw [readPath_eq (fun m hm => (h m hm).1) (List.cons_ne_nil n ns), hlast, hreached]
      -- the empty segment of the root is the only one that is dropped
      cases ns <;> simp [Climbed.segments, slots, dropLeadingEmpty, hn]

/-- **The URL of a clean absolute path is read from its text as it is.** -/
theorem parse_text_ofNames (h : ∀ n ∈ ns, n.IsStep ∧ n ≠ Name.up) :
    parse (ofNames ns).text = .ok (ofNames ns) := by
  rw [parse_text, readPath_names h]
  rfl

/-! ## Back to the path -/

/-- The path that the URL leads back to is the one it was made of, unless that ends in what looks
like a drive. -/
theorem toFilePath?_ofNames (ns : List Name) :
    (ofNames ns).toFilePath? = some
      (if endsInDrive (Anchor.root.spell ns).bytes then
        ⟨(Anchor.root.spell ns).bytes ++ [Path.separator]⟩ else Anchor.root.spell ns) := by
  have hspell : Anchor.root.path (slots ns) = Anchor.root.spell ns :=
    congrArg (fun bytes => Path.mk (Path.separator :: bytes)) (join_slots ns)
  have hback := toFilePath?_segments (u := ofNames ns) rfl (slots_ne_nil ns) rfl
  rwa [hspell] at hback

/-- The URL of the path, if it has one, leads back to it. -/
def LeadsBack (p : Path) : Prop := ∀ u, ofFilePath? p = some u → u.toFilePath? = some p

/-- The text of the URL of the path, if it has one, is read as a URL that leads back to it. -/
def ReadsBack (p : Path) : Prop :=
  ∀ u, ofFilePath? p = some u → ∃ v, parse u.text = .ok v ∧ v.toFilePath? = some p

variable {p : Path}

/-- The URL of a clean absolute path, which leads back to it or to it with one separator more. -/
theorem exists_ofFilePath? (h : p.Rooted) : ∃ u, ofFilePath? p = some u ∧ parse u.text = .ok u ∧
    u.toFilePath? = some (if endsInDrive p.bytes then ⟨p.bytes ++ [Path.separator]⟩ else p) := by
  obtain ⟨ns, hns, rfl⟩ := h
  exact ⟨ofNames ns, ofFilePath?_spell fun n hn => (hns n hn).1, parse_text_ofNames hns,
    toFilePath?_ofNames ns⟩

theorem append_separator_ne (p : Path) : (⟨p.bytes ++ [Path.separator]⟩ : Path) ≠ p := by
  intro h
  have hlength := congrArg (fun q : Path => q.bytes.length) h
  simp at hlength

/-- **The URL of a clean absolute path leads back to it** if it ends in no drive. -/
theorem leadsBack_iff (h : p.Rooted) : LeadsBack p ↔ endsInDrive p.bytes = false := by
  obtain ⟨u, hu, -, hback⟩ := exists_ofFilePath? h
  cases hdrive : endsInDrive p.bytes with
  | true =>
      rw [hdrive, if_pos rfl] at hback
      refine iff_of_false (fun hleads => ?_) Bool.noConfusion
      have hpath := hleads u hu
      rw [hback] at hpath
      exact append_separator_ne p (Option.some.inj hpath)
  | false =>
      rw [hdrive, if_neg Bool.false_ne_true] at hback
      refine iff_of_true (fun v hv => ?_) rfl
      obtain rfl : u = v := Option.some.inj (hu.symm.trans hv)
      exact hback

/-- **The text of the URL of a clean absolute path leads back to it** exactly if the URL does. -/
theorem readsBack_iff (h : p.Rooted) : ReadsBack p ↔ endsInDrive p.bytes = false := by
  obtain ⟨u, hu, hparse, -⟩ := exists_ofFilePath? h
  rw [← leadsBack_iff h]
  constructor
  · intro hreads v hv
    obtain rfl : u = v := Option.some.inj (hu.symm.trans hv)
    obtain ⟨w, hw, hback⟩ := hreads u hu
    obtain rfl : u = w := Except.ok.inj (hparse.symm.trans hw)
    exact hback
  · intro hleads v hv
    obtain rfl : u = v := Option.some.inj (hu.symm.trans hv)
    exact ⟨u, hparse, hleads u hu⟩

end Stylesheet.Url
