import Stylesheet.Proofs.Path.Rooted
import Stylesheet.Url.FilePath

set_option autoImplicit false

/-! # URLs of absolute paths

The URL of an absolute path has a segment for each of its steps, in which every character that means
something in a URL is encoded (`isInert_of_mem_segment`). A name that is no `..` is never taken for
dots (`segment_not_dots`). So the text of the URL is read as that URL again, but for what becomes of
the segments that are dots (`parse_text`), and segments lead back to the names that they were made of
(`toFilePath?_segments`).
-/

namespace Stylesheet.Url

/-! ## The text of a name -/

def segment (n : Name) : List Char := Percent.encode nameSet n

/-- A character that is written in paths as it stands and ends neither segment nor path. -/
def isInert (c : Char) : Bool :=
  c.toNat < 0x80 && !pathSet (UInt8.ofNat c.toNat) && !isSlash .file c

theorem isInert_encodeByte :
    ∀ n < 256, (Percent.encodeByte nameSet (UInt8.ofNat n)).all isInert = true := by
  decide +kernel

theorem inert_ofNat : ∀ n < 0x80, isInert (Char.ofNat n) = true →
    isControlOrSpace (Char.ofNat n) = false ∧ endsPath (Char.ofNat n) = false ∧
      Percent.encodeByte pathSet (UInt8.ofNat n) = [Char.ofNat n] := by
  decide +kernel

/-- A name is written in inert characters. -/
theorem isInert_of_mem_segment {n : Name} {c : Char} (h : c ∈ segment n) : isInert c = true := by
  obtain ⟨b, -, hc⟩ := List.mem_flatMap.1 h
  have hall := isInert_encodeByte b.toNat b.toNat_lt
  rw [UInt8.ofNat_toNat, List.all_eq_true] at hall
  exact hall c hc

/-- What the parser does with inert characters: none is dropped at the ends, none ends anything
and none is encoded again. -/
theorem inert_char {c : Char} (h : isInert c = true) :
    isControlOrSpace c = false ∧ isSlash .file c = false ∧ endsPath c = false ∧
      encodeText pathSet [c] = [c] := by
  have hparts := h
  simp only [isInert, Bool.and_eq_true, Bool.not_eq_true', decide_eq_true_eq] at hparts
  obtain ⟨⟨hlt, -⟩, hslash⟩ := hparts
  have hc : Char.ofNat c.toNat = c := Char.ofNat_toNat c
  obtain ⟨hblank, hends, hbyte⟩ := inert_ofNat c.toNat hlt (by rwa [hc])
  have hutf8 := Percent.utf8EncodeChar_ofNat c.toNat hlt
  rw [hc] at hblank hends hbyte hutf8
  refine ⟨hblank, hslash, hends, ?_⟩
  rw [encodeText, Utf8.encode_cons, hutf8]
  simpa [Percent.encode] using hbyte

/-- Inert text is written in a path as it stands. -/
theorem encodeText_inert {cs : List Char} (h : ∀ c ∈ cs, isInert c = true) :
    encodeText pathSet cs = cs := by
  induction cs with
  | nil => rfl
  | cons c cs ih =>
      obtain ⟨-, -, -, hc⟩ := inert_char (h c (by simp))
      have hcs := ih fun d hd => h d (by simp [hd])
      have hsplit : encodeText pathSet (c :: cs)
          = encodeText pathSet [c] ++ encodeText pathSet cs := by
        simp [encodeText, Percent.encode, Utf8.encode_cons]
      rw [hsplit, hc, hcs]
      rfl

theorem segment_cons (b : UInt8) (n : Name) :
    segment (b :: n) = Percent.encodeByte nameSet b ++ segment n := rfl

theorem segment_ne_nil {n : Name} (h : n ≠ []) : segment n ≠ [] := by
  obtain ⟨b, bs, rfl⟩ := List.exists_cons_of_ne_nil h
  rw [segment_cons, Percent.encodeByte]
  split <;> simp

def dotTexts : List (List Char) := [['.'], ['%', '2', 'e']]

/-- A byte that is written like a dot is one. -/
theorem encodeByte_dot : ∀ n < 256, ∀ d ∈ dotTexts,
    let written := (Percent.encodeByte nameSet (UInt8.ofNat n)).map Char.toLower
    (d.isPrefixOf written || written.isPrefixOf d) = true → n = 0x2E ∧ written = d := by
  decide +kernel

theorem segment_dot {n : Name} {d rest : List Char} (hd : d ∈ dotTexts)
    (h : (segment n).map Char.toLower = d ++ rest) :
    ∃ n', n = Name.dot :: n' ∧ (segment n').map Char.toLower = rest := by
  cases n with
  | nil =>
      rcases List.mem_pair.1 hd with rfl | rfl <;> cases h
  | cons b n =>
      rw [segment_cons, List.map_append] at h
      have hd' : d <+: d ++ rest := List.prefix_append _ _
      have hb' : (Percent.encodeByte nameSet b).map Char.toLower <+: d ++ rest :=
        h ▸ List.prefix_append _ _
      have hor := List.prefix_or_prefix_of_prefix hd' hb'
      have hdot := encodeByte_dot b.toNat b.toNat_lt d hd
      simp only [UInt8.ofNat_toNat, Bool.or_eq_true, List.isPrefixOf_iff_prefix] at hdot
      obtain ⟨hb, hwritten⟩ := hdot hor
      rw [hwritten] at h
      exact ⟨n, congrArg (· :: n) (UInt8.toNat_inj.1 hb), List.append_cancel_left h⟩

theorem eq_nil_of_segment {n : Name} (h : (segment n).map Char.toLower = []) : n = [] := by
  by_contra hne
  exact segment_ne_nil hne (List.map_eq_nil_iff.1 h)

/-- **No name that is a step is taken for dots.** -/
theorem segment_not_dots {n : Name} (hn : n.IsStep) (hup : n ≠ Name.up) :
    isSingleDot (segment n) = false ∧ isDoubleDot (segment n) = false := by
  have hone : ∀ d ∈ dotTexts, (segment n).map Char.toLower ≠ d := by
    intro d hd h
    rw [← List.append_nil d] at h
    obtain ⟨n', rfl, h'⟩ := segment_dot hd h
    exact hn.ne_here (congrArg (Name.dot :: ·) (eq_nil_of_segment h'))
  have htwo : ∀ d ∈ dotTexts, ∀ d' ∈ dotTexts, (segment n).map Char.toLower ≠ d ++ d' := by
    intro d hd d' hd' h
    obtain ⟨n', rfl, h'⟩ := segment_dot hd h
    rw [← List.append_nil d'] at h'
    obtain ⟨n'', rfl, h''⟩ := segment_dot hd' h'
    exact hup (congrArg (Name.dot :: Name.dot :: ·) (eq_nil_of_segment h''))
  constructor
  · refine Bool.eq_false_iff.2 fun h => ?_
    rw [isSingleDot, List.contains_iff_mem] at h
    rcases List.mem_pair.1 h with h | h
    · exact hone _ (by simp [dotTexts]) h
    · exact hone _ (by simp [dotTexts]) h
  · refine Bool.eq_false_iff.2 fun h => ?_
    rw [isDoubleDot, List.contains_iff_mem] at h
    simp only [List.mem_cons, List.not_mem_nil, or_false] at h
    rcases h with h | h | h | h
    · exact htwo ['.'] (by simp [dotTexts]) ['.'] (by simp [dotTexts]) h
    · exact htwo ['.'] (by simp [dotTexts]) ['%', '2', 'e'] (by simp [dotTexts]) h
    · exact htwo ['%', '2', 'e'] (by simp [dotTexts]) ['.'] (by simp [dotTexts]) h
    · exact htwo ['%', '2', 'e'] (by simp [dotTexts]) ['%', '2', 'e'] (by simp [dotTexts]) h

/-! ## The URL of a path -/

/-- The names that the segments spell: the root alone has one segment, which is empty. -/
def slots (ns : List Name) : List Name := if ns = [] then [[]] else ns

/-- The `file` URL with a segment for each name. -/
def ofNames (ns : List Name) : Url where
  scheme := "file".toList
  authority := some noHost
  path := .segments ((slots ns).map segment)
  query := none
  fragment := none

theorem slots_ne_nil (ns : List Name) : slots ns ≠ [] := by
  unfold slots
  split <;> simp_all

theorem join_slots (ns : List Name) :
    Text.join Path.separator (slots ns) = Text.join Path.separator ns := by
  unfold slots
  split
  · next h => rw [h]; rfl
  · rfl

/-- An absolute path has a URL, with a segment for each of its steps. -/
theorem ofFilePath?_of_components {p : Path} {ns : List Name} (habs : p.isAbsolute = true)
    (hcomponents : p.components = .root :: ns.map Component.step) :
    ofFilePath? p = some (ofNames ns) := by
  have hsegments : (ns.map Component.step).map segmentOf = ns.map segment := by
    rw [List.map_map]
    refine List.map_congr_left fun n _ => ?_
    show Percent.encode nameSet (Component.step n).path.bytes = segment n
    rw [Component.path_step]
    rfl
  rw [ofFilePath?, if_pos habs, hcomponents]
  simp only [List.drop_succ_cons, List.drop_zero, hsegments, List.map_eq_nil_iff]
  unfold ofNames slots
  split <;> rfl

theorem ofFilePath?_spell {ns : List Name} (h : ∀ n ∈ ns, n.IsStep) :
    ofFilePath? (Anchor.root.spell ns) = some (ofNames ns) :=
  ofFilePath?_of_components (Path.isAbsolute_spell ns) (Path.components_spell h)

/-- The text of its path: a slash and a segment for each name. -/
def pathChars (ns : List Name) : List Char := ((slots ns).map segment).flatMap ('/' :: ·)

theorem chars_ofNames (ns : List Name) :
    (ofNames ns).chars = "file://".toList ++ pathChars ns := by
  simp [chars, ofNames, authorityText, noHost, Host.text, pathText, pathChars]

/-! ## Reading the text -/

theorem isTabOrLineEnd_eq_false {c : Char} (h : isControlOrSpace c = false) :
    isTabOrLineEnd c = false := by
  refine Bool.eq_false_iff.2 fun htab => ?_
  simp only [isTabOrLineEnd, Bool.or_eq_true, beq_iff_eq] at htab
  rcases htab with (rfl | rfl) | rfl <;> revert h <;> decide

/-- A place is noted only where a character is dropped. -/
theorem breaksOf_cons {c : Char} (h : isTabOrLineEnd c = false) (cs : List Char) :
    breaksOf (c :: cs) = breaksOf cs := by
  unfold breaksOf
  rw [List.foldr_cons, h]
  rfl

theorem breaksOf_of_forall {cs : List Char} (h : ∀ c ∈ cs, isTabOrLineEnd c = false) :
    breaksOf cs = [] := by
  induction cs with
  | nil => rfl
  | cons c cs ih =>
      have hc := h c (by simp)
      have hcs : ∀ d ∈ cs, isTabOrLineEnd d = false := fun d hd => h d (by simp [hd])
      rw [breaksOf_cons hc, ih hcs]

/-- Text without blanks and control characters is read as it stands. -/
theorem parseChars_of_forall {cs : List Char} (h : ∀ c ∈ cs, isControlOrSpace c = false)
    {rest : List Char} (hcs : cs = "file:".toList ++ rest) :
    parseChars cs = parseFile [] "file".toList rest := by
  have htab : ∀ c ∈ cs, isTabOrLineEnd c = false := fun c hc => isTabOrLineEnd_eq_false (h c hc)
  have hsignificant : significant cs = cs := by
    refine List.filter_eq_self.2 fun c hc => ?_
    rw [htab c hc]
    rfl
  have hscheme : cutScheme? cs = some ("file".toList, rest) := by
    rw [hcs]
    rfl
  rw [parseChars, Text.trimWhile_of_forall h]
  simp only [hsignificant, hscheme, breaksOf_of_forall htab]
  rfl

variable {ns : List Name}

theorem isInert_of_mem_slots {s : List Char} (hs : s ∈ (slots ns).map segment) {c : Char}
    (hc : c ∈ s) : isInert c = true := by
  obtain ⟨n, -, rfl⟩ := List.mem_map.1 hs
  exact isInert_of_mem_segment hc

theorem pathChars_eq_cons (ns : List Name) : ∃ cs, pathChars ns = '/' :: cs := by
  obtain ⟨n, ms, hslots⟩ := List.exists_cons_of_ne_nil (slots_ne_nil ns)
  rw [pathChars, hslots]
  exact ⟨_, rfl⟩

/-- Nothing in the text of the path is dropped or ends it. -/
theorem kept_of_mem_pathChars {c : Char} (h : c ∈ pathChars ns) :
    isControlOrSpace c = false ∧ endsPath c = false := by
  obtain ⟨s, hs, hc⟩ := List.mem_flatMap.1 h
  rcases List.mem_cons.1 hc with rfl | hc
  · decide
  · obtain ⟨hblank, -, hends, -⟩ := inert_char (isInert_of_mem_slots hs hc)
    exact ⟨hblank, hends⟩

theorem isControlOrSpace_of_mem_chars {c : Char} (h : c ∈ (ofNames ns).chars) :
    isControlOrSpace c = false := by
  have hmark : "file://".toList.all (!isControlOrSpace ·) = true := by decide
  rw [chars_ofNames] at h
  rcases List.mem_append.1 h with hc | hc
  · simpa using List.all_eq_true.1 hmark c hc
  · exact (kept_of_mem_pathChars hc).1

/-- The path that is read off the text of the URL. -/
def readPath (ns : List Name) : List (List Char) :=
  OpenPath.close .file
    (OpenPath.read .file [] (pathChars ns).length {} ([] :: (slots ns).map segment))

theorem withRest_pathChars (ns : List Name) :
    withRest .file [] "file".toList (some noHost) ('/' :: pathChars ns)
      = { ofNames ns with path := .segments (readPath ns) } := by
  have hkept : ∀ c ∈ '/' :: pathChars ns, (!endsPath c) = true := by
    intro c hc
    rcases List.mem_cons.1 hc with rfl | hc
    · rfl
    · rw [(kept_of_mem_pathChars hc).2]
      rfl
  have hpath : ('/' :: pathChars ns).takeWhile (!endsPath ·) = '/' :: pathChars ns :=
    List.takeWhile_eq_self_iff.2 hkept
  have hrest : ('/' :: pathChars ns).dropWhile (!endsPath ·) = [] :=
    List.dropWhile_eq_nil_iff.2 hkept
  have hpieces : Text.pieces (isSlash .file) (pathChars ns) = [] :: (slots ns).map segment :=
    Text.pieces_flatMap rfl fun s hs c hc => (inert_char (isInert_of_mem_slots hs hc)).2.1
  have hread : openPathOf .file [] (pathChars ns) 0
      = OpenPath.read .file [] (pathChars ns).length {} ([] :: (slots ns).map segment) := by
    rw [openPathOf, hpieces]
    rfl
  have hdrop : dropSlash .file ('/' :: pathChars ns) = pathChars ns := rfl
  rw [withRest, hpath, hrest]
  simp only [hdrop, List.length_nil, hread, ite_self]
  rfl

/-- Behind its two slashes the URL names no host. -/
theorem parseFile_pathChars (ns : List Name) :
    parseFile [] "file".toList ('/' :: '/' :: pathChars ns)
      = .ok { ofNames ns with path := .segments (readPath ns) } := by
  obtain ⟨cs, hcs⟩ := pathChars_eq_cons ns
  have hhost : (pathChars ns).takeWhile (!endsAuthority .file ·) = [] := by
    rw [hcs]
    rfl
  have hpath : (pathChars ns).dropWhile (!endsAuthority .file ·) = pathChars ns := by
    rw [hcs]
    rfl
  simp only [parseFile]
  rw [hhost, hpath, ← withRest_pathChars]
  rfl

/-- The text of the URL of a path is read as that URL, but for what becomes of its segments. -/
theorem parse_text (ns : List Name) :
    parse (ofNames ns).text = .ok { ofNames ns with path := .segments (readPath ns) } := by
  have hblank : ∀ c ∈ (ofNames ns).chars, isControlOrSpace c = false :=
    fun c hc => isControlOrSpace_of_mem_chars hc
  have hchars : (ofNames ns).chars = "file:".toList ++ '/' :: '/' :: pathChars ns :=
    chars_ofNames ns
  rw [parse, text, String.toList_ofList, parseChars_of_forall hblank hchars, parseFile_pathChars]

/-! ## Back to the path -/

/-- The path that segments lead to: their names, and a separator more if it ends in what looks like
a drive. -/
theorem toFilePath?_segments {u : Url} (hlocal : u.isLocal = true) {ms : List Name} (hms : ms ≠ [])
    (hpath : u.path = .segments (ms.map segment)) :
    u.toFilePath? = some
      (if endsInDrive (Anchor.root.path ms).bytes then
        ⟨(Anchor.root.path ms).bytes ++ [Path.separator]⟩ else Anchor.root.path ms) := by
  have hbytes : (ms.map segment).flatMap (fun s => Path.separator :: Percent.decodeChars s)
      = (Anchor.root.path ms).bytes := by
    have hdecode : ∀ n, Percent.decodeChars (segment n) = n := Percent.decodeChars_encode rfl
    rw [List.flatMap_map]
    simp only [hdecode]
    rw [Text.flatMap_eq_join _ hms]
    rfl
  have hsegments : ms.map segment ≠ [] := by simpa using hms
  obtain ⟨s, ss, hss⟩ := List.exists_cons_of_ne_nil hsegments
  rw [hss] at hpath
  rw [toFilePath?, hpath]
  simp only [hlocal, if_true, ← hss, hbytes]
  split <;> rfl

variable {p : Path}

theorem isAbsolute_of_ofFilePath? {u : Url} (hu : ofFilePath? p = some u) :
    p.isAbsolute = true := by
  by_contra hrel
  rw [ofFilePath?, if_neg hrel] at hu
  cases hu

/-- Every absolute path has a URL. -/
theorem exists_url_of_isAbsolute (h : p.isAbsolute = true) : ∃ u, ofFilePath? p = some u :=
  ⟨_, if_pos h⟩

/-- The URL of a path starts like every URL of a file. -/
theorem isPrefix_of_ofFilePath? {u : Url} (hu : ofFilePath? p = some u) :
    "file://".toList <+: u.text.toList := by
  rw [ofFilePath?, if_pos (isAbsolute_of_ofFilePath? hu)] at hu
  obtain rfl := Option.some.inj hu
  rw [text, String.toList_ofList]
  simp [chars, authorityText, noHost, Host.text]

end Stylesheet.Url
