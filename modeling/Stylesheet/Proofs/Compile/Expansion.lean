import Stylesheet.Compile.InlineCompiler
import Stylesheet.Proofs.Dependency.Exploration
import Stylesheet.Proofs.Dependency.Unfolding
import Stylesheet.Proofs.Scan.ImportLines

set_option autoImplicit false

/-! # What a compiler that inlines imports loads

An attempt succeeds if all its parts do. So a stylesheet can be expanded only if every import in
it, and in what it imports, leads to a stylesheet that can be read; and the URLs loaded on the way
are those of the files that its imports unfold to (`expand_inlines`).
-/

namespace Stylesheet

/-! ## Attempts -/

namespace LineCompiler

/-- How an attempt ends: with its value or its failure, and without what happened on the way. -/
def outcome {α : Type} (x : Attempt α) : Except Failure α := x.run.value

variable {α β : Type}

/-- One attempt after another succeeds if both do. -/
theorem outcome_bind_eq_ok {x : Attempt α} {f : α → Attempt β} {b : β}
    (h : outcome (x >>= f) = .ok b) : ∃ a, outcome x = .ok a ∧ outcome (f a) = .ok b := by
  unfold outcome at h ⊢
  rw [ExceptT.run_bind, Traced.value_bind] at h
  cases hx : x.run.value with
  | error e =>
      rw [hx] at h
      cases h
  | ok a =>
      rw [hx] at h
      exact ⟨a, rfl, h⟩

/-- An import is expanded if it leads to a stylesheet that can be loaded and expanded. -/
theorem expandImport_eq_ok {heading : LoadedSheet → String}
    {child : String → Url → Attempt Expansion} {i : Importer} {specifier : String} {containing : Option Url} {e : Expansion}
    (h : outcome (expandImport heading child i specifier containing) = .ok e) :
    ∃ url sheet inner, (i.canonicalize specifier containing).value = .ok (some url) ∧
      (i.load url).value = .ok (some sheet) ∧ outcome (child sheet.contents url) = .ok inner ∧
      e.loaded = url :: inner.loaded := by
  unfold expandImport at h
  obtain ⟨target, htarget, h⟩ := outcome_bind_eq_ok h
  cases target with
  | none => cases h
  | some url =>
      obtain ⟨loaded, hloaded, h⟩ := outcome_bind_eq_ok h
      cases loaded with
      | none => cases h
      | some sheet =>
          obtain ⟨inner, hinner, h⟩ := outcome_bind_eq_ok h
          cases h
          exact ⟨url, sheet, inner, htarget, hloaded, hinner, rfl⟩

end LineCompiler

namespace InlineCompiler

open LineCompiler (Attempt outcome)

theorem ofText_of_import {text s : List Char} (h : Scan.lineImport? text = some s) :
    Line.ofText directives text = .importHere (String.ofList s) := by
  have ha : Line.argument? "@import".toList (Text.trim text) = some s := h
  simp only [Line.ofText, directives, List.findSome?_cons, ha, Option.map_some]

theorem ofText_ne_import {text : List Char} (h : Scan.lineImport? text = none) (s : String) :
    Line.ofText directives text ≠ .importHere s := by
  have ha : Line.argument? "@import".toList (Text.trim text) = none := h
  simp only [Line.ofText, directives, List.findSome?_cons, ha, Option.map_none]
  cases Line.argument? "@warn".toList (Text.trim text) with
  | some m => simp
  | none =>
      cases Line.argument? "@error".toList (Text.trim text) with
      | some m => simp
      | none =>
          simp only [Option.map_none, List.findSome?_nil]
          split <;> simp

/-- A line that is no import loads nothing. -/
theorem loaded_of_not_import {child : String → Url → Attempt Expansion} {i : Importer} {url : Url}
    {k : Nat} {text : List Char} {e : Expansion} (h : Scan.lineImport? text = none)
    (he : outcome (expandLine child i url k text) = .ok e) : e.loaded = [] := by
  cases hl : Line.ofText directives text with
  | importHere s => exact absurd hl (ofText_ne_import h s)
  | fail message =>
      rw [expandLine, hl] at he
      cases he
  | _ =>
      rw [expandLine, hl] at he
      cases he
      rfl

end InlineCompiler

/-! ## Files that are inlined -/

namespace Dependency

open LineCompiler (Attempt outcome)

variable (i : Importer)

/-- The stylesheets that the lines of a file lead to when it is read as an import. -/
def inlined (file : Path) : List Path :=
  match (i.readSource file false).value with
  | .ok text => (Scan.importSpecs text).filterMap (child? i file)
  | .error _ => []

def AllLead (file : Path) (specs : List String) : Prop :=
  ∀ s ∈ specs, ∃ q, lookUp i file s = .ok (some q)

/-- Files that have URLs of their own and a directory that they lie in, and whose lines lead to
more such files. -/
structure Inlinable (S : Path → Prop) : Prop where
  closed : ∀ file, S file → ∀ q ∈ inlined i file, S q
  url : ∀ file, S file → ∀ url, Url.ofFilePath? file = some url → url.toFilePath? = some file
  parent : ∀ file, S file → file.parent? = some file.parentOrSelf

/-- An expansion of the imports `specs` in a file: all lead to stylesheets, and what is loaded are
the files `met` that these unfold to. -/
structure Inlines (S : Path → Prop) (file : Path) (specs : List String) (e : Expansion)
    (met : List Path) : Prop where
  allLead : AllLead i file specs
  unfolds : Unfolds (inlined i) (specs.filterMap (child? i file)) met
  loaded : e.loaded.map Url.toFilePath? = met.map some
  inlinable : ∀ v ∈ met, S v
  readable : ∀ v ∈ met, ∃ text, (i.readSource v false).value = .ok text ∧
    AllLead i v (Scan.importSpecs text)

variable {i} {S : Path → Prop}

theorem child?_of_lookUp {file q : Path} {specifier : String}
    (h : lookUp i file specifier = .ok (some q)) : child? i file specifier = some q := by
  rw [child?, h]

/-- An import after which the others are expanded. -/
theorem Inlines.cons {file v : Path} {spec text : String} {specs : List String} {url : Url}
    {inner outer : Expansion} {below more : List Path} (hlead : lookUp i file spec = .ok (some v))
    (hv : S v) (hurl : url.toFilePath? = some v) (htext : (i.readSource v false).value = .ok text)
    (hinner : Inlines i S v (Scan.importSpecs text) inner below)
    (houter : Inlines i S file specs outer more) {e : Expansion}
    (he : e.loaded = url :: inner.loaded ++ outer.loaded) :
    Inlines i S file (spec :: specs) e (v :: (below ++ more)) where
  allLead s hs := by
    rcases List.mem_cons.1 hs with rfl | hs
    · exact ⟨v, hlead⟩
    · exact houter.allLead s hs
  unfolds := by
    rw [List.filterMap_cons, child?_of_lookUp hlead]
    refine .meet ?_ houter.unfolds
    rw [inlined, htext]
    exact hinner.unfolds
  loaded := by
    rw [he, List.map_append, List.map_cons, hurl, hinner.loaded, houter.loaded]
    simp
  inlinable w hw := by
    rcases List.mem_cons.1 hw with rfl | hw
    · exact hv
    · exact (List.mem_append.1 hw).elim (hinner.inlinable w) (houter.inlinable w)
  readable w hw := by
    rcases List.mem_cons.1 hw with rfl | hw
    · exact ⟨text, htext, hinner.allLead⟩
    · exact (List.mem_append.1 hw).elim (hinner.readable w) (houter.readable w)

/-- How a compiler of lines is to expand the stylesheets of `S`. -/
def Expands (i : Importer) (S : Path → Prop) (entryDir : Path)
    (child : String → Url → Attempt Expansion) : Prop :=
  ∀ (contents : String) (url : Url) (file : Path) (e : Expansion),
    ({ i with entryDir } : Importer).importingDir (some url) = file.parentOrSelf →
    (∀ q ∈ (Scan.importSpecs contents).filterMap (child? i file), S q) →
    outcome (child contents url) = .ok e →
      ∃ met, Inlines i S file (Scan.importSpecs contents) e met

/-- The file that an import leads to when it is expanded. -/
theorem lookUp_of_canonicalize {entryDir file : Path} {url target : Url} {specifier : String}
    (hdir : ({ i with entryDir } : Importer).importingDir (some url) = file.parentOrSelf)
    (h : (({ i with entryDir } : Importer).canonicalize specifier (some url)).value
      = .ok (some target)) :
    ∃ v, lookUp i file specifier = .ok (some v) ∧ Url.ofFilePath? v = some target := by
  rw [Importer.canonicalize, Importer.canonicalUrl, Traced.value_bind, hdir,
    Importer.canonicalPath_entryDir] at h
  show ∃ v, (i.canonicalPath specifier file.parentOrSelf).value = .ok (some v) ∧ _
  cases hc : (i.canonicalPath specifier file.parentOrSelf).value with
  | error e =>
      rw [hc] at h
      cases h
  | ok answer =>
      rw [hc] at h
      cases answer with
      | none => cases h
      | some v => exact ⟨v, rfl, by simpa [Except.map] using h⟩

/-- What is loaded from the URL of a file. -/
theorem readSource_of_load {entryDir v : Path} {url : Url} {sheet : LoadedSheet}
    (hurl : url.toFilePath? = some v)
    (h : (({ i with entryDir } : Importer).load url).value = .ok (some sheet)) :
    (i.readSource v false).value = .ok sheet.contents := by
  simp only [Importer.load, hurl, Importer.loadPath, Traced.value_bind, Traced.value_pure] at h
  have hread : ({ i with entryDir } : Importer).readSource v false = i.readSource v false := rfl
  rw [hread] at h
  cases hr : (i.readSource v false).value with
  | error e =>
      rw [hr] at h
      cases h
  | ok text =>
      rw [hr] at h
      cases h
      rfl

/-- A line that is an import is expanded to what the stylesheet that it leads to is. -/
theorem exists_of_expandLine (hS : Inlinable i S) {entryDir : Path}
    {child : String → Url → Attempt Expansion} (hchild : Expands i S entryDir child) {url : Url}
    {file : Path}
    (hdir : ({ i with entryDir } : Importer).importingDir (some url) = file.parentOrSelf) {k : Nat}
    {line spec : List Char} (hline : Scan.lineImport? line = some spec)
    (hkid : ∀ q, child? i file (String.ofList spec) = some q → S q) {e : Expansion}
    (h : outcome (InlineCompiler.expandLine child { i with entryDir } url k line) = .ok e) :
    ∃ v text target inner below, lookUp i file (String.ofList spec) = .ok (some v) ∧ S v ∧
      target.toFilePath? = some v ∧ (i.readSource v false).value = .ok text ∧
      Inlines i S v (Scan.importSpecs text) inner below ∧ e.loaded = target :: inner.loaded := by
  rw [InlineCompiler.expandLine, InlineCompiler.ofText_of_import hline] at h
  obtain ⟨target, sheet, inner, hcanonical, hload, hinner, hloaded⟩ :=
    LineCompiler.expandImport_eq_ok h
  obtain ⟨v, hlead, hurl⟩ := lookUp_of_canonicalize hdir hcanonical
  have hv : S v := hkid v (child?_of_lookUp hlead)
  have htarget : target.toFilePath? = some v := hS.url v hv target hurl
  have htext := readSource_of_load htarget hload
  -- the imported stylesheet imports from the directory that it lies in
  have hbelow : ({ i with entryDir } : Importer).importingDir (some target) = v.parentOrSelf := by
    simp [Importer.importingDir, htarget, hS.parent v hv]
  have hclosed : ∀ q ∈ (Scan.importSpecs sheet.contents).filterMap (child? i v), S q := by
    intro q hq
    refine hS.closed v hv q ?_
    rw [inlined, htext]
    exact hq
  obtain ⟨below, hbelow⟩ := hchild sheet.contents target v inner hbelow hclosed hinner
  exact ⟨v, sheet.contents, target, inner, below, hlead, hv, htarget, htext, hbelow, hloaded⟩

/-- Lines are expanded one by one, and those that import nothing do not count. -/
theorem expandLines_inlines (hS : Inlinable i S) {entryDir : Path}
    {child : String → Url → Attempt Expansion} (hchild : Expands i S entryDir child) {url : Url}
    {file : Path}
    (hdir : ({ i with entryDir } : Importer).importingDir (some url) = file.parentOrSelf) {k : Nat}
    {lines : List (List Char)} {e : Expansion}
    (hkids : ∀ q ∈ ((lines.filterMap Scan.lineImport?).map String.ofList).filterMap (child? i file),
      S q)
    (h : outcome (LineCompiler.expandLines
      (InlineCompiler.expandLine child { i with entryDir } url) k lines) = .ok e) :
    ∃ met, Inlines i S file ((lines.filterMap Scan.lineImport?).map String.ofList) e met := by
  induction lines generalizing k e with
  | nil =>
      cases h
      exact ⟨[], by simp [AllLead], .done, rfl, by simp, by simp⟩
  | cons line lines ih =>
      rw [LineCompiler.expandLines] at h
      obtain ⟨first, hfirst, h⟩ := LineCompiler.outcome_bind_eq_ok h
      obtain ⟨outer, houter, h⟩ := LineCompiler.outcome_bind_eq_ok h
      have he : e = first.append outer := by
        cases h
        rfl
      cases hline : Scan.lineImport? line with
      | none =>
          rw [List.filterMap_cons, hline] at hkids ⊢
          obtain ⟨more, hmore⟩ := ih hkids houter
          have hloaded : e.loaded = outer.loaded := by
            rw [he, Expansion.append, InlineCompiler.loaded_of_not_import hline hfirst]
            rfl
          exact ⟨more, { hmore with loaded := by rw [hloaded, hmore.loaded] }⟩
      | some spec =>
          rw [List.filterMap_cons, hline] at hkids ⊢
          have hkid : ∀ q, child? i file (String.ofList spec) = some q → S q := by
            intro q hq
            exact hkids q (List.mem_filterMap.2 ⟨_, by simp, hq⟩)
          have hmoreKids : ∀ q ∈ ((lines.filterMap Scan.lineImport?).map
              String.ofList).filterMap (child? i file), S q := by
            intro q hq
            obtain ⟨specifier, hspecifier, hq⟩ := List.mem_filterMap.1 hq
            exact hkids q (List.mem_filterMap.2 ⟨specifier, List.mem_cons_of_mem _ hspecifier, hq⟩)
          obtain ⟨v, text, target, inner, below, hlead, hv, htarget, htext, hbelow, hloaded⟩ :=
            exists_of_expandLine hS hchild hdir hline hkid hfirst
          obtain ⟨more, hmore⟩ := ih hmoreKids houter
          refine ⟨v :: (below ++ more), Inlines.cons hlead hv htarget htext hbelow hmore ?_⟩
          rw [he, Expansion.append, hloaded]

theorem expand_inlines (hS : Inlinable i S) (entryDir : Path) (depth : Nat) :
    Expands i S entryDir (InlineCompiler.expand { i with entryDir } depth) := by
  induction depth with
  | zero =>
      intro contents url file e _ _ h
      cases h
  | succ depth ih =>
      intro contents url file e hdir hkids h
      exact expandLines_inlines hS ih hdir hkids h

end Dependency

end Stylesheet
