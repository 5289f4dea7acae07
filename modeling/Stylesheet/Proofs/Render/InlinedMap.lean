import Stylesheet.FileSystem.Memory
import Stylesheet.Hooks
import Stylesheet.Proofs.SourceMap.ReadBack
import Stylesheet.Proofs.Url.FileUrl
import Stylesheet.Render.Renderer

set_option autoImplicit false

/-! # The map at the end of a stylesheet

The comment at the end of rendered CSS carries the very map that the render gives: it stands on one
line, ends only at its end, and what is encoded in it is read back as that map
(`carries_inlineComment`). Before the comment stands what the compiler made, with a line feed if
its last line has none; without a map nothing is added (`render_carries_map`).
-/

namespace Stylesheet

namespace Base64

/-- Base64 text is made of digits and what fills it up. -/
theorem exists_digit_of_mem_encode {bs : List UInt8} {c : Char} (h : c ∈ encode bs) :
    (∃ n < 64, c = digit n) ∨ c = '=' := by
  fun_induction encode bs with
  | case1 => cases h
  | case2 a =>
      have ha := a.toNat_lt
      simp only [List.mem_cons, List.not_mem_nil, or_false] at h
      rcases h with rfl | rfl | rfl | rfl
      · exact .inl ⟨_, by omega, rfl⟩
      · exact .inl ⟨_, by omega, rfl⟩
      · exact .inr rfl
      · exact .inr rfl
  | case3 a b =>
      have ha := a.toNat_lt
      have hb := b.toNat_lt
      simp only [List.mem_cons, List.not_mem_nil, or_false] at h
      rcases h with rfl | rfl | rfl | rfl
      · exact .inl ⟨_, by omega, rfl⟩
      · exact .inl ⟨_, by omega, rfl⟩
      · exact .inl ⟨_, by omega, rfl⟩
      · exact .inr rfl
  | case4 a b d rest ih =>
      have ha := a.toNat_lt
      have hb := b.toNat_lt
      have hd := d.toNat_lt
      simp only [List.mem_cons] at h
      rcases h with rfl | rfl | rfl | rfl | h
      · exact .inl ⟨_, by omega, rfl⟩
      · exact .inl ⟨_, by omega, rfl⟩
      · exact .inl ⟨_, by omega, rfl⟩
      · exact .inl ⟨_, by omega, rfl⟩
      · exact ih h

theorem digit_plain : ∀ n < 64, digit n ≠ '*' ∧ digit n ≠ '\n' := by decide

/-- Base64 text neither ends a comment nor a line. -/
theorem plain_of_mem_encode {bs : List UInt8} {c : Char} (h : c ∈ encode bs) :
    c ≠ '*' ∧ c ≠ '\n' := by
  rcases exists_digit_of_mem_encode h with ⟨n, hn, rfl⟩ | rfl
  · exact digit_plain n hn
  · decide

end Base64

namespace SourceMap

/-! ## The comment -/

/-- The source map that bytes spell; none if they are not UTF-8. -/
def ofBytes? (bytes : List UInt8) : Option SourceMap :=
  if Utf8.isValid bytes then parse? (Utf8.decodeLossy bytes) else none

/-- A comment of one line that ends nowhere but at its end, and what is encoded in it is the
map. -/
structure Carries (comment : List Char) (m : SourceMap) : Prop where
  encoded : ∃ text, comment = commentStart ++ text ++ commentEnd ∧
    (Base64.decode? text >>= ofBytes?) = some m
  oneLine : '\n' ∉ comment
  endsOnce : ∀ before after, comment = before ++ '*' :: '/' :: after → after = []

theorem ofBytes?_encode (m : SourceMap) :
    ofBytes? (Utf8.encode m.toJson.render) = some m := by
  have hvalid : Utf8.isValid (Utf8.encode m.toJson.render) = true := by simp [Utf8.isValid]
  rw [ofBytes?, if_pos hvalid, Utf8.decodeLossy_encode]
  exact parse?_render m

/-- What follows the one place of an element. -/
theorem eq_nil_of_append_eq {c d : Char} {body before after : List Char} (hc : c ∉ body)
    (h : body ++ [c, d] = before ++ c :: d :: after) : after = [] := by
  rcases List.append_eq_append_iff.1 h with ⟨gap, -, hgap⟩ | ⟨gap, hgap, hrest⟩
  · have hlen := congrArg List.length hgap
    simp only [List.length_append, List.length_cons, List.length_nil] at hlen
    exact List.length_eq_zero_iff.1 (by omega)
  · cases gap with
    | nil => simpa using hrest
    | cons g gap =>
        obtain ⟨rfl, -⟩ := List.cons.inj hrest
        exact absurd (hgap ▸ List.mem_append_right before List.mem_cons_self) hc

/-- A comment without a star inside ends only at its end. -/
theorem endsOnce_of_no_star {body : List Char} (h : '*' ∉ body) (before after : List Char)
    (heq : '/' :: '*' :: (body ++ ['*', '/']) = before ++ '*' :: '/' :: after)
    (hhead : body.head? ≠ some '/') (hne : body ≠ []) : after = [] := by
  cases before with
  | nil => exact absurd (List.cons.inj heq).1 (by decide)
  | cons b before =>
      have htail := (List.cons.inj heq).2
      cases before with
      | nil =>
          -- the star of the opening is followed by the body, which starts with no slash
          obtain ⟨c, body, rfl⟩ := List.exists_cons_of_ne_nil hne
          obtain ⟨rfl, -⟩ := List.cons.inj (List.cons.inj htail).2
          exact absurd rfl hhead
      | cons b' before => exact eq_nil_of_append_eq h (List.cons.inj htail).2

/-- **The comment that is written for a map carries that map.** -/
theorem carries_inlineComment (m : SourceMap) : Carries m.inlineComment.toList m := by
  have htext : m.inlineComment.toList =
      commentStart ++ Base64.encode (Utf8.encode m.toJson.render) ++ commentEnd := by
    rw [inlineComment, String.toList_ofList]
  rw [htext]
  have hplain := @Base64.plain_of_mem_encode (Utf8.encode m.toJson.render)
  refine ⟨⟨_, rfl, ?_⟩, ?_, fun before after heq => ?_⟩
  · rw [Base64.decode?_encode]
    exact ofBytes?_encode m
  · intro hmem
    rcases List.mem_append.1 hmem with hmem | hmem
    · rcases List.mem_append.1 hmem with hmem | hmem
      · exact absurd hmem (by decide)
      · exact (hplain hmem).2 rfl
    · exact absurd hmem (by decide)
  · obtain ⟨inside, hstart, hstar, hhead⟩ : ∃ inside, commentStart = '/' :: '*' :: inside ∧
        '*' ∉ inside ∧ inside.head? = some '#' := ⟨_, rfl, by decide, rfl⟩
    have hend : commentEnd = ' ' :: ['*', '/'] := rfl
    rw [hstart, hend] at heq
    refine @endsOnce_of_no_star (inside ++ Base64.encode _ ++ [' ']) ?_ before after
      (by simpa using heq) ?_ (by simp)
    · intro hmem
      rcases List.mem_append.1 hmem with hmem | hmem
      · rcases List.mem_append.1 hmem with hmem | hmem
        · exact hstar hmem
        · exact (hplain hmem).1 rfl
      · exact absurd hmem (by decide)
    · simp [List.head?_append, hhead]

end SourceMap

namespace Renderer

/-! ## The render -/

def request (r : Renderer) (entry : Path) (source : String) (url : Url) : CompileRequest :=
  { source, dialect := Dialect.ofPath entry, url, wantsMap := r.config.sourceMap,
    options := r.config.options }

/-- What the compiler makes of an entry. -/
def Makes (r : Renderer) (entry : Path) (output : CompileOutput) : Prop :=
  ∃ source url, ((r.importer entry).readSource entry true).value = .ok source ∧
    Url.ofFilePath? entry = some url ∧
    (r.compiler (r.request entry source url) (r.importer entry)).value = .ok output

/-- What a render does with the stylesheet that the compiler made: without a map it is left as it
is, else a comment that carries the map goes behind it, on a line of its own. -/
structure Inlines (output : CompileOutput) (result : RenderResult) : Prop where
  without : result.sourceMap = none → result.css = output.css
  carried : ∀ m, result.sourceMap = some m → ∃ comment : String,
    result.css = output.css ++
      (if output.css ≠ "" ∧ output.css.toList.getLast? ≠ some '\n' then "\n" else "") ++ comment ∧
    SourceMap.Carries comment.toList m

theorem withMap_some (css : String) (m : SourceMap) : withMap css (some m) =
    css ++ (if css ≠ "" ∧ css.toList.getLast? ≠ some '\n' then "\n" else "") ++ m.inlineComment := by
  rw [withMap, endLine]
  by_cases h : css = "" ∨ css.toList.getLast? = some '\n'
  · rw [if_pos h, if_neg (by tauto), String.append_empty]
  · rw [if_neg h, if_pos (not_or.1 h)]

theorem inlines_finish (c : Config) (entry : Path) (output : CompileOutput) (events : List Event) :
    Inlines output (finish c entry output events) := by
  rw [finish]
  generalize (if c.sourceMap then output.sourceMap.map (·.forEntry entry) else none) = sourceMap
  constructor
  · rintro rfl
    rfl
  · rintro m rfl
    exact ⟨_, withMap_some output.css m, SourceMap.carries_inlineComment m⟩

variable {r : Renderer} {entry : Path}

/-- A render of what is no plain CSS passes on what the compiler answers. -/
theorem value_render (hcss : Dialect.ofPath entry ≠ .css) {url : Url}
    (hurl : Url.ofFilePath? entry = some url) :
    ∃ events : String → List Event, (r.render entry).value =
      ((r.importer entry).readSource entry true).value.bind fun source =>
        (r.compiler (r.request entry source url) (r.importer entry)).value.map fun output =>
          finish r.config entry output (events source) := by
  refine ⟨fun source => passOn r.config.listener
    (r.compiler (r.request entry source url) (r.importer entry)).events, ?_⟩
  rw [render]
  simp only [hcss, if_false, hurl, Traced.value_bind]
  cases ((r.importer entry).readSource entry true).value with
  | error e => rfl
  | ok source => rfl

/-- **A render inlines the map that it gives.** It gives a result whenever the compiler makes
something of an entry, and only then. With the result comes a comment that carries its map, or
nothing if it has none. And whatever map a comment is written for, that comment carries it. -/
theorem render_carries_map (r : Renderer) (entry : Path) (habs : entry.isAbsolute = true)
    (hcss : Dialect.ofPath entry ≠ .css) :
    (∀ output, r.Makes entry output →
      ∃ result, (r.render entry).value = .ok result ∧ Inlines output result) ∧
    (∀ result, (r.render entry).value = .ok result →
      ∃ output, r.Makes entry output ∧ Inlines output result) ∧
    ∀ m : SourceMap, SourceMap.Carries m.inlineComment.toList m := by
  obtain ⟨url, hurl⟩ := Url.exists_url_of_isAbsolute habs
  obtain ⟨events, hrender⟩ := @value_render r entry hcss url hurl
  refine ⟨?_, ?_, SourceMap.carries_inlineComment⟩
  · rintro output ⟨source, url', hsource, hurl', houtput⟩
    obtain rfl : url = url' := Option.some.inj (hurl.symm.trans hurl')
    refine ⟨finish r.config entry output (events source), ?_, inlines_finish _ _ _ _⟩
    rw [hrender, hsource]
    show Except.map _ (r.compiler _ _).value = _
    rw [houtput]
    rfl
  · intro result hresult
    -- a render that succeeds has read the entry and got an output from the compiler
    rw [hrender] at hresult
    cases hsource : ((r.importer entry).readSource entry true).value with
    | error e =>
        rw [hsource] at hresult
        cases hresult
    | ok source =>
        rw [hsource] at hresult
        change Except.map _ (r.compiler _ _).value = _ at hresult
        cases houtput : (r.compiler (r.request entry source url) (r.importer entry)).value with
        | error e =>
            rw [houtput] at hresult
            cases hresult
        | ok output =>
            rw [houtput] at hresult
            cases hresult
            exact ⟨output, ⟨source, url, hsource, hurl, houtput⟩, inlines_finish _ _ _ _⟩

/-- A map with all kinds of characters, and a source whose text is not known. -/
def printMap : SourceMap where
  version := 3
  sources := ["file:///app/print.scss", "data:,x"]
  sourcesContent := some [some "a \x7b content: \"\\2014\" \x7d\n/* \u0001 é */", none]
  mappings := "AAAA"

/-- What a compiler makes that knows one stylesheet only. -/
def printOutput : CompileOutput where
  css := "a \x7b\x7d"
  loaded := []
  sourceMap := some printMap

def printRenderer : Renderer where
  config := { packages := PackageResolver.none, sourceMap := true }
  compiler := fun _ _ => return .ok printOutput
  fs := (MemoryFs.empty.addFile (.ofString "/app/print.scss") "a \x7b\x7d").toFileSystem

theorem render_carries_map_print :
    (Path.ofString "/app/print.scss").isAbsolute = true ∧
      Dialect.ofPath (.ofString "/app/print.scss") ≠ .css ∧
      ∃ result m, (printRenderer.render (.ofString "/app/print.scss")).value = .ok result ∧
        result.sourceMap = some m ∧ Inlines printOutput result := by
  have habs : (Path.ofString "/app/print.scss").isAbsolute = true := by decide +kernel
  have hcss : Dialect.ofPath (.ofString "/app/print.scss") ≠ .css := by decide +kernel
  have hmakes : printRenderer.Makes (.ofString "/app/print.scss") printOutput := by
    obtain ⟨url, hurl⟩ := Url.exists_url_of_isAbsolute habs
    exact ⟨"a \x7b\x7d", url, by decide +kernel, hurl, rfl⟩
  obtain ⟨result, hresult, hinlines⟩ :=
    (render_carries_map printRenderer (.ofString "/app/print.scss") habs hcss).1 _ hmakes
  have hmap : ((printRenderer.render (.ofString "/app/print.scss")).value.toOption.bind
      (·.sourceMap)).isSome = true := by decide +kernel
  rw [hresult] at hmap
  obtain ⟨m, hm⟩ := Option.isSome_iff_exists.1 hmap
  exact ⟨habs, hcss, result, m, hresult, hm, hinlines⟩

end Renderer

end Stylesheet
