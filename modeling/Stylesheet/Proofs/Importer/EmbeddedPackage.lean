import Stylesheet.FileSystem.Memory
import Stylesheet.Hooks
import Stylesheet.Proofs.Importer.SearchOrder
import Stylesheet.Proofs.Url.FileUrl

set_option autoImplicit false

/-! # Packages joined to a directory

A compiler may take a package specifier for a relative URL and join it to the directory of the
importing stylesheet. The importer finds the mark in the path that comes of this and looks the
package up from the directory that stands in front of it (`means_embed`). That directory is read
off a text. No text is left in front of the mark where the directory is the root, and bytes that
are not UTF-8 are replaced; in every other case the package is looked up as it would be without
the detour (`lookups_embed`).
-/

namespace Stylesheet

namespace Importer

/-- What may stand behind a mark as a package: segments that are neither empty nor dots, none with
a mark of its own, and nothing percent-encoded. -/
structure IsPackageText (t : String) : Prop where
  segment : ∀ s ∈ Text.pieces (· == '/') t.toList,
    s ≠ [] ∧ s ≠ ['.'] ∧ s ≠ ['.', '.'] ∧ s.head? ≠ some '~'
  no_percent : '%' ∉ t.toList

/-- A package specifier joined to a directory. -/
def embed (d : Path) (t : String) : Path := d.join (.ofString ("~" ++ t))

/-- The directory that is read off a package specifier joined to `d`. -/
def shownDir (d : Path) : Path := if d = .ofString "/" then .empty else .ofString d.display

variable {d : Path} {t : String}

/-! ## The last mark -/

/-- No mark stands in the text of a package. -/
theorem IsPackageText.no_mark (ht : IsPackageText t) : ¬ embeddedMark <:+: t.toList := by
  rintro ⟨before, rest, hsplit⟩
  have hpieces : Text.pieces (· == '/') t.toList =
      Text.pieces (· == '/') before ++ Text.pieces (· == '/') ('~' :: rest) := by
    rw [← hsplit, embeddedMark, List.append_assoc]
    exact Text.pieces_append_sep '/' before ('~' :: rest)
  obtain ⟨s, hs, hhead⟩ :
      ∃ s ∈ Text.pieces (· == '/') ('~' :: rest), s.head? = some '~' := by
    cases hp : Text.pieces (· == '/') rest with
    | nil => exact absurd hp (Text.pieces_ne_nil _ _)
    | cons p ps => exact ⟨'~' :: p, by simp [Text.pieces, hp], rfl⟩
  exact (ht.segment s (by rw [hpieces]; exact List.mem_append_right _ hs)).2.2.2 hhead

/-- The text of the path: what is shown of the directory, the mark and the package. -/
theorem display_embed (hd : d.Rooted) (t : String) :
    (embed d t).display.toList =
      Utf8.decodeLossy (if d = .ofString "/" then [] else d.bytes)
        ++ (embeddedMark ++ t.toList) := by
  have hmark : String.utf8EncodeChar '~' = [0x7E] := by decide
  have hslash : String.utf8EncodeChar '/' = [Path.separator] := by decide
  have hpackage : (Path.ofString ("~" ++ t)).bytes = 0x7E :: Utf8.encode t.toList := by
    simp [Path.ofString, Utf8.ofString, hmark]
  have hrelative : (Path.ofString ("~" ++ t)).isAbsolute = false := by
    rw [Path.isAbsolute, hpackage]
    rfl
  have htext : Path.separator :: (Path.ofString ("~" ++ t)).bytes
      = Utf8.encode (embeddedMark ++ t.toList) := by
    rw [hpackage]
    simp [embeddedMark, hmark, hslash]
  have hbytes := hd.bytes_join hrelative
  rw [Path.display, Utf8.toStringLossy, String.toList_ofList, embed, hbytes,
    Utf8.decodeLossy_append_ascii (by decide), htext, Utf8.decodeLossy_encode]

/-- **What a package joined to a directory means**: the package, seen from what is shown of the
directory. -/
theorem means_embed (hd : d.Rooted) (ht : IsPackageText t) (hreads : Url.ReadsBack (embed d t))
    {u : Url} (hu : Url.ofFilePath? (embed d t) = some u) (dir : Path) :
    Means u.text dir (.package t (shownDir d)) := by
  obtain ⟨v, hparse, hback⟩ := hreads u hu
  have hmeans : Means u.text dir _ :=
    .embedded (Url.isPrefix_of_ofFilePath? hu) hparse hback (display_embed hd t) ht.no_mark
  have hshown : Path.ofString (String.ofList
      (Utf8.decodeLossy (if d = .ofString "/" then [] else d.bytes))) = shownDir d := by
    unfold shownDir
    split
    · simp [Utf8.decodeLossy, Path.ofString, Utf8.ofString, Path.empty]
    · rfl
  rwa [String.ofList_toList, hshown] at hmeans

/-- What the package itself means. -/
theorem means_package (ht : IsPackageText t) (dir : Path) :
    Means ("~" ++ t) dir (.package t dir) := by
  have hmark : ("~" ++ t).toList = packageMark ++ t.toList := by
    rw [String.toList_append]
    rfl
  have hmeans : Means ("~" ++ t) dir _ := .tilde hmark
  rwa [String.ofList_toList, Percent.decodeString_of_not_mem ht.no_percent] at hmeans

/-! ## The directory -/

/-- The directory is shown as it is, unless it is the root or not UTF-8. -/
theorem shownDir_eq_iff : shownDir d = d ↔ d ≠ .ofString "/" ∧ Utf8.isValid d.bytes = true := by
  unfold shownDir
  split
  · next hroot =>
      subst hroot
      exact iff_of_false (by decide +kernel) fun h => h.1 rfl
  · next hroot =>
      obtain ⟨bs⟩ := d
      have hbytes : Path.ofString (Path.display ⟨bs⟩) = ⟨bs⟩ ↔ Utf8.isValid bs = true := by
        simp [Path.ofString, Path.display, Utf8.ofString, Utf8.toStringLossy, Utf8.isValid]
      simpa [hroot] using hbytes

/-- **A package is looked up alike with and without the detour over a URL**, unless the directory
is the root or not UTF-8. The lookup gets the same package in any case, but it is told another
directory then: none at the root. -/
theorem lookups_embed (i : Importer) (habs : d.isAbsolute = true) (hclean : d.clean = d)
    (ht : IsPackageText t) (hreads : Url.ReadsBack (embed d t)) :
    ∃ u, Url.ofFilePath? (embed d t) = some u ∧
      let direct := i.specifierPath ("~" ++ t) d
      let embedded := i.specifierPath u.text d
      direct.lookups = [(t, d)] ∧ embedded.lookups = [(t, shownDir d)] ∧
      (embedded.lookups = direct.lookups ↔ d ≠ .ofString "/" ∧ Utf8.isValid d.bytes = true) ∧
      (d ≠ .ofString "/" → Utf8.isValid d.bytes = true →
        embedded = direct ∧ i.canonicalPath u.text d = i.canonicalPath ("~" ++ t) d) := by
  have hd : d.Rooted := Path.rooted_iff.2 ⟨habs, hclean⟩
  have hjoined : (embed d t).isAbsolute = true := by
    rw [embed, Path.isAbsolute_join, habs, Bool.true_or]
  obtain ⟨u, hu⟩ := Url.exists_url_of_isAbsolute hjoined
  have hdirect := i.specifierPath_of_means (means_package ht d)
  have hembedded := i.specifierPath_of_means (means_embed hd ht hreads hu d)
  -- both mean the package, but the URL knows the directory only by what is shown of it
  have hlookups : (i.specifierPath ("~" ++ t) d).lookups = [(t, d)] := by
    rw [hdirect]
    rfl
  have hlookups' : (i.specifierPath u.text d).lookups = [(t, shownDir d)] := by
    rw [hembedded]
    rfl
  refine ⟨u, hu, hlookups, hlookups', ?_, ?_⟩
  · rw [hlookups, hlookups', ← shownDir_eq_iff]
    simp
  · intro hroot hvalid
    have hshown := shownDir_eq_iff.2 ⟨hroot, hvalid⟩
    have hsame : i.specifierPath u.text d = i.specifierPath ("~" ++ t) d := by
      rw [hembedded, hdirect, hshown]
    exact ⟨hsame, by rw [canonicalPath, canonicalPath, hsame]⟩

/-- Packages in a directory of each importing directory, and one of them in a search root. -/
def vendored : Importer where
  config := { packages := PackageResolver.below (.ofString "node_modules"),
              searchRoots := [.ofString "/lib"] }
  fs := (MemoryFs.empty.addFile (.ofString "/lib/node_modules/theme/colors.scss") "").toFileSystem
  entryDir := .ofString "/"

theorem isPackageText_colors : IsPackageText "theme/colors" := by
  constructor <;> decide +kernel

/-- A mark in the directory itself does not matter. -/
theorem lookups_embed_home :
    (Path.ofString "/home/~ci").isAbsolute = true ∧
      (Path.ofString "/home/~ci").clean = .ofString "/home/~ci" ∧
      IsPackageText "theme/colors" ∧ Url.ReadsBack (embed (.ofString "/home/~ci") "theme/colors") ∧
      ∃ u, Url.ofFilePath? (embed (.ofString "/home/~ci") "theme/colors") = some u ∧
        (vendored.specifierPath u.text (.ofString "/home/~ci")).lookups
          = [("theme/colors", .ofString "/home/~ci")] := by
  have habs : (Path.ofString "/home/~ci").isAbsolute = true := by decide +kernel
  have hclean : (Path.ofString "/home/~ci").clean = .ofString "/home/~ci" := by decide +kernel
  have hrooted : (embed (.ofString "/home/~ci") "theme/colors").Rooted :=
    Path.rooted_iff.2 ⟨by decide +kernel, by decide +kernel⟩
  have hreads := (Url.readsBack_iff hrooted).2 (by decide +kernel)
  obtain ⟨u, hu, hdirect, -, hsame, -⟩ :=
    lookups_embed vendored habs hclean isPackageText_colors hreads
  have hlookups := hsame.2 ⟨by decide +kernel, by decide +kernel⟩
  exact ⟨habs, hclean, isPackageText_colors, hreads, u, hu, hlookups.trans hdirect⟩

/-- At the root the directory gets lost: the package is looked up from nowhere, and what is found
then may be found in a search root. -/
theorem lookups_embed_root :
    (Path.ofString "/").isAbsolute = true ∧ (Path.ofString "/").clean = .ofString "/" ∧
      IsPackageText "theme/colors" ∧ Url.ReadsBack (embed (.ofString "/") "theme/colors") ∧
      ∃ u, Url.ofFilePath? (embed (.ofString "/") "theme/colors") = some u ∧
        u.text = "file:///~theme/colors" ∧
        (vendored.specifierPath "~theme/colors" (.ofString "/")).lookups
          = [("theme/colors", .ofString "/")] ∧
        (vendored.specifierPath u.text (.ofString "/")).lookups = [("theme/colors", .ofString "")] ∧
        (vendored.canonicalPath "~theme/colors" (.ofString "/")).value = .ok none ∧
        (vendored.canonicalPath u.text (.ofString "/")).value
          = .ok (some (.ofString "/lib/node_modules/theme/colors.scss")) := by
  have hrooted : (embed (.ofString "/") "theme/colors").Rooted :=
    Path.rooted_iff.2 ⟨by decide +kernel, by decide +kernel⟩
  have hreads := (Url.readsBack_iff hrooted).2 (by decide +kernel)
  refine ⟨by decide +kernel, by decide +kernel, isPackageText_colors, hreads,
    .ofNames [.ofString "~theme", .ofString "colors"], by decide +kernel, ?_, ?_, ?_, ?_, ?_⟩
  all_goals decide +kernel

end Importer

end Stylesheet
