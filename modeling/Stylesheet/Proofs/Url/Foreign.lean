import Stylesheet.FileSystem.Memory
import Stylesheet.Hooks
import Stylesheet.Proofs.Path.Joining
import Stylesheet.Proofs.Path.Rooted
import Stylesheet.Proofs.Url.Web
import Stylesheet.Render.Renderer

set_option autoImplicit false

/-! # URLs that name no file

Reading a path off a URL does not look at the scheme. What keeps a URL off the disk is that it
names another machine or has no segments, and nothing else (`toFilePath?_eq_none_iff`). Loading,
listing files to watch, locating warnings and naming sources all go by that path, so they agree on
which URLs are foreign (`keptOffDisk_iff`). A URL of another scheme than `file` that names no
machine is none of these (`keptOffDisk_webpack`).
-/

namespace Stylesheet

open SourceMap (dataMark sourcePath)

namespace Url

variable {u : Url} {p : Path}

/-! ## Foreign URLs -/

/-- A URL that names a machine other than this one, or whose path has no segments. -/
def IsForeign (u : Url) : Prop := u.isLocal = false ∨ ∀ s ss, u.path ≠ .segments (s :: ss)

/-- A foreign URL has no path on disk, and every other URL has one. -/
theorem toFilePath?_eq_none_iff : u.toFilePath? = none ↔ u.IsForeign := by
  unfold toFilePath? IsForeign
  cases u.path with
  | text t => simp
  | segments ss =>
      cases ss with
      | nil => simp
      | cons s ss => cases u.isLocal <;> simp

/-- The path of a URL begins at the root. -/
theorem isAbsolute_of_toFilePath? (h : u.toFilePath? = some p) : p.isAbsolute = true := by
  unfold toFilePath? at h
  split at h
  · cases h
  · cases h
  · next ss hss _ =>
      split at h
      · obtain rfl := Option.some.inj h
        cases ss with
        | nil => exact absurd rfl hss
        | cons s ss => split <;> rfl
      · cases h

/-- A text that begins with a separator is no URL, so the path that a URL's text spells is
relative. -/
theorem isAbsolute_ofString_of_parse {text : String} (h : Url.parse text = .ok u) :
    (Path.ofString text).isAbsolute = false := by
  by_contra habs
  rw [Bool.not_eq_false, Path.isAbsolute, beq_iff_eq] at habs
  -- the first byte is that of a slash, so the first character is one
  obtain ⟨cs, hcs⟩ : ∃ cs, text.toList = '/' :: cs := by
    cases htext : text.toList with
    | nil => simp [Path.ofString, Utf8.ofString, htext] at habs
    | cons c cs =>
        obtain ⟨a, more, hc, hfirst⟩ := Utf8.first_utf8EncodeChar c (Utf8.encode cs)
        have ha : a = Path.separator := by
          simpa [Path.ofString, Utf8.ofString, htext, hc] using habs
        have hslash : c = '/' := by
          have hchar : (Utf8.first a (more ++ Utf8.encode cs)).1 = '/' := by rw [ha]; rfl
          rw [hfirst] at hchar
          exact hchar
        exact ⟨cs, by rw [hslash]⟩
  have hfront : Text.trimWhile isControlOrSpace ['/'] <+:
      Text.trimWhile isControlOrSpace ('/' :: cs) := Text.trimWhile_isPrefix ⟨cs, rfl⟩
  obtain ⟨rest, hrest⟩ : ['/'] <+: Text.trimWhile isControlOrSpace ('/' :: cs) := hfront
  rw [Url.parse, hcs, parseChars, ← hrest] at h
  cases h

/-- A URL of the web is foreign unless it names this machine as `localhost`. -/
theorem isForeign_iff_of_web {text : String} {port : Nat} (h : Url.parse text = .ok u)
    (hk : schemeKind u.scheme = .web port) :
    u.IsForeign ↔ ∃ a, u.authority = some a ∧ a.host ≠ .domain "localhost".toList := by
  obtain ⟨a, rest, hne, hu⟩ := eq_withRest_of_web h hk
  obtain ⟨hauthority, s, ss, hpath⟩ := withRest_web port u.scheme a rest
  rw [← hu] at hauthority hpath
  have hlocal : u.isLocal = false ↔ a.host ≠ .domain "localhost".toList := by
    unfold isLocal
    rw [hauthority]
    show (decide (a.host = .domain []) || decide (a.host = .domain "localhost".toList)) = false ↔ _
    rw [Bool.or_eq_false_iff, decide_eq_false_iff_not, decide_eq_false_iff_not]
    exact and_iff_right hne
  rw [IsForeign, hlocal]
  constructor
  · rintro (hhost | hnone)
    · exact ⟨a, hauthority, hhost⟩
    · exact absurd hpath (hnone s ss)
  · rintro ⟨b, hb, hhost⟩
    rw [hauthority] at hb
    cases hb
    exact Or.inl hhost

end Url

open Url

/-! ## Who goes by the path of a URL -/

variable {u : Url}

/-- Nothing is loaded from a foreign URL, and any other is read or fails. -/
theorem Importer.load_eq_none_iff (i : Importer) : i.load u = pure (.ok none) ↔ u.IsForeign := by
  rw [← toFilePath?_eq_none_iff, Importer.load]
  cases u.toFilePath? with
  | none => simp
  | some p =>
      refine iff_of_false (fun h => ?_) (by simp)
      have hvalue := congrArg Traced.value h
      rw [Traced.value_bind, Traced.value_pure, Traced.value_pure] at hvalue
      cases hload : (i.loadPath p u).value with
      | error e => simp [hload, Except.map] at hvalue
      | ok sheet => simp [hload, Except.map] at hvalue

/-- A URL adds no file to watch, wherever it is listed, exactly if it is foreign. -/
theorem Renderer.watchFiles_ignores_iff :
    (∀ (entry : Path) (before after : List Url),
      watchFiles entry (before ++ u :: after) = watchFiles entry (before ++ after)) ↔
      u.IsForeign := by
  rw [← toFilePath?_eq_none_iff]
  constructor
  · intro h
    cases hp : u.toFilePath? with
    | none => rfl
    | some p =>
        -- beside an empty entry, an absolute path is a file of its own
        have hsame : Path.empty.components = p.components := by
          simpa [watchFiles, distinct, hp] using h Path.empty [] []
        have habs := Path.isAbsolute_eq_of_same (Path.same_iff.2 hsame)
        rw [isAbsolute_of_toFilePath? hp] at habs
        cases habs
  · intro h entry before after
    simp [watchFiles, List.filterMap_append, h]

/-- Warnings are located in the entry, whichever that is, exactly if their URL is foreign. -/
theorem Warning.file_eq_entry_iff :
    (∀ (entry : Path) (text : String) (s : Span) (deprecation : Bool) (stack : Option String),
      s.url = some u → ∃ w : LocatedWarning, w.file = entry ∧
        Warning.ofDiagnostic? entry (.warning text (some s) deprecation stack)
          = some (.located w)) ↔ u.IsForeign := by
  rw [← toFilePath?_eq_none_iff]
  constructor
  · intro h
    cases hp : u.toFilePath? with
    | none => rfl
    | some p =>
        obtain ⟨w, hw, hlocated⟩ := h Path.empty "" ⟨some u, 0, 0, ""⟩ false none rfl
        have hfile : p = Path.empty := by
          cases hlocated
          simpa [Span.file, hp] using hw
        have habs := isAbsolute_of_toFilePath? hp
        rw [hfile] at habs
        cases habs
  · intro h entry text s deprecation stack hs
    exact ⟨_, by simp [Span.file, hs, h], rfl⟩

/-- A source that is spelled out in its URL belongs to the entry. -/
theorem SourceMap.sourcePath_of_dataMark {source : String}
    (h : dataMark.isPrefixOf source.toList = true) (entry : Path) :
    sourcePath source entry = entry := by
  rw [sourcePath, if_pos h]

/-- Any other source that is a URL is a path from the directory of the entry, whichever that is,
exactly if the URL is foreign. -/
theorem SourceMap.sourcePath_eq_join_iff {source : String} (hu : Url.parse source = .ok u)
    (hdata : dataMark.isPrefixOf source.toList = false) :
    (∀ entry, sourcePath source entry = entry.parentOrSelf.join (.ofString source)) ↔
      u.IsForeign := by
  have hpath : ∀ entry, sourcePath source entry
      = u.toFilePath?.getD (entry.parentOrSelf.join (.ofString source)) := by
    intro entry
    have hread : (Url.parse source).toOption >>= Url.toFilePath? = u.toFilePath? := by
      rw [hu]
      rfl
    rw [sourcePath, hdata, if_neg Bool.false_ne_true, hread]
    cases u.toFilePath? <;> rfl
  rw [← toFilePath?_eq_none_iff]
  constructor
  · intro h
    cases hp : u.toFilePath? with
    | none => rfl
    | some p =>
        have hjoin := h Path.empty
        rw [hpath, hp, Option.getD_some] at hjoin
        have habs := isAbsolute_of_toFilePath? hp
        rw [hjoin, Path.isAbsolute_join, isAbsolute_ofString_of_parse hu] at habs
        cases habs
  · intro h entry
    rw [hpath, h, Option.getD_none]

/-- **What keeps a URL off the disk.** Whatever its scheme, nothing is loaded from a URL, it adds
no file to watch, a warning there is located in the entry, and a source of that name is a path from
the directory of the entry (or the entry itself, if it is spelled out in its URL), each exactly if
the URL is foreign. Of the URLs of the web all are but those at `localhost`. -/
theorem Url.keptOffDisk_iff (u : Url) :
    (∀ i : Importer, i.load u = pure (.ok none) ↔ u.IsForeign) ∧
    ((∀ (entry : Path) (before after : List Url),
      Renderer.watchFiles entry (before ++ u :: after)
        = Renderer.watchFiles entry (before ++ after)) ↔ u.IsForeign) ∧
    ((∀ (entry : Path) (text : String) (s : Span) (deprecation : Bool) (stack : Option String),
      s.url = some u → ∃ w : LocatedWarning, w.file = entry ∧
        Warning.ofDiagnostic? entry (.warning text (some s) deprecation stack)
          = some (.located w)) ↔ u.IsForeign) ∧
    ∀ source, Url.parse source = .ok u →
      (Path.ofString source).isAbsolute = false ∧
      (if dataMark.isPrefixOf source.toList then ∀ entry, sourcePath source entry = entry
      else (∀ entry, sourcePath source entry = entry.parentOrSelf.join (.ofString source)) ↔
        u.IsForeign) ∧
      ∀ port, schemeKind u.scheme = .web port →
        (u.IsForeign ↔ ∃ a, u.authority = some a ∧ a.host ≠ .domain "localhost".toList) := by
  refine ⟨fun i => i.load_eq_none_iff, Renderer.watchFiles_ignores_iff, Warning.file_eq_entry_iff,
    fun source hu => ⟨isAbsolute_ofString_of_parse hu, ?_, fun _ => isForeign_iff_of_web hu⟩⟩
  split
  · next hdata => exact SourceMap.sourcePath_of_dataMark hdata
  · next hdata => exact SourceMap.sourcePath_eq_join_iff hu (Bool.eq_false_iff.2 hdata)

def themeFile : MemoryFs := MemoryFs.empty.addFile (.ofString "/app/theme.scss") "a"

def themeFileImporter : Importer where
  config := { packages := PackageResolver.none }
  fs := themeFile.toFileSystem
  entryDir := .ofString "/app"

/-- The stylesheet of that disk by the address of a machine, which is this one. -/
def themeAtAddress : Url where
  scheme := "http".toList
  authority := some { userinfo := [], host := .ipv6 [0, 0, 0, 0, 0, 0, 0, 1], port := none }
  path := .segments ["app".toList, "theme.scss".toList]
  query := none
  fragment := none

theorem Url.keptOffDisk_iff_address :
    Url.parse "http://[::1]/app/theme.scss" = .ok themeAtAddress ∧
    schemeKind themeAtAddress.scheme = .web 80 ∧
    themeAtAddress.IsForeign ∧
    themeFileImporter.load themeAtAddress = pure (.ok none) ∧
    (Path.ofString "http://[::1]/app/theme.scss").isAbsolute = false ∧
    sourcePath "http://[::1]/app/theme.scss" (.ofString "/app/main.scss")
      = .ofString "/app/http://[::1]/app/theme.scss" := by
  have hparse : Url.parse "http://[::1]/app/theme.scss" = .ok themeAtAddress := by decide +kernel
  have hweb : schemeKind themeAtAddress.scheme = .web 80 := by decide +kernel
  obtain ⟨hload, -, -, hsource⟩ := keptOffDisk_iff themeAtAddress
  obtain ⟨hrelative, hjoin, hforeign⟩ := hsource "http://[::1]/app/theme.scss" hparse
  have hforeign : themeAtAddress.IsForeign := (hforeign 80 hweb).2 ⟨_, rfl, by simp⟩
  rw [if_neg (by decide +kernel)] at hjoin
  refine ⟨hparse, hweb, hforeign, (hload _).2 hforeign, hrelative, ?_⟩
  rw [hjoin.2 hforeign]
  decide +kernel

/-- A source of a bundler: a URL of a scheme of its own that names no machine. -/
def webpackTheme : Url where
  scheme := "webpack".toList
  authority := some noHost
  path := .segments ["app".toList, "theme.scss".toList]
  query := none
  fragment := none

/-- The URL of a bundler's source is no `file` URL, and yet a file on disk is loaded from it,
watched for it, blamed for its warnings and named in source maps. -/
theorem Url.keptOffDisk_webpack :
    Url.parse "webpack:///app/theme.scss" = .ok webpackTheme ∧
    webpackTheme.scheme ≠ "file".toList ∧
    (themeFileImporter.load webpackTheme).value
      = .ok (some { contents := "a", dialect := .scss, mapUrl := none }) ∧
    Renderer.watchFiles (.ofString "/app/main.scss") [webpackTheme]
      = [.ofString "/app/main.scss", .ofString "/app/theme.scss"] ∧
    Span.file ⟨some webpackTheme, 0, 0, ""⟩ (.ofString "/app/main.scss")
      = .ofString "/app/theme.scss" ∧
    sourcePath "webpack:///app/theme.scss" (.ofString "/app/main.scss")
      = .ofString "/app/theme.scss" := by
  refine ⟨?_, ?_, ?_, ?_, ?_, ?_⟩ <;> decide +kernel

end Stylesheet
