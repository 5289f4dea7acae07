import Stylesheet.Proofs.Json.ReadBack
import Stylesheet.SourceMap.Basic

set_option autoImplicit false

/-! # Source maps are read back

What is written for a source map is read back as that map, whichever of its optional members it
has (`parse?_render`). Each member is written as a document of one kind and read as that kind.
The order of the members does not matter for reading; that no key is written twice does.
-/

namespace Stylesheet

namespace Json

/-! ## Reading one kind of document -/

@[simp] theorem string?_ofString (s : String) : (ofString s).string? = some s := by
  simp [ofString, string?, unescape?_escape]

theorem natOfDigits_toDigits (n : Nat) : natOfDigits (Nat.toDigits 10 n) = n := by
  have h := @Nat.ofDigitChars_ten_toDigits n
  rw [Nat.ofDigitChars_eq_foldl] at h
  rw [natOfDigits]
  convert h using 2
  funext m c
  rw [Nat.mul_comm]
  rfl

theorem natBelow?_ofNat {n bound : Nat} (h : n < bound) : (ofNat n).natBelow? bound = some n := by
  have hdigits : (Nat.toDigits 10 n).all Char.isDigit = true :=
    List.all_eq_true.2 fun c => isDigit_of_mem_toDigits
  rw [ofNat, natBelow?, natOfDigits_toDigits, if_pos ⟨hdigits, h⟩]

/-- A list of documents of one kind is read as it was written. -/
theorem listOf?_map {α : Type} {read : Json → Option α} {write : α → Json}
    (h : ∀ a, read (write a) = some a) (as : List α) :
    listOf? read (.array (as.map write)) = some as := by
  rw [listOf?]
  induction as with
  | nil => rfl
  | cons a as ih =>
      rw [List.map_cons, List.mapM_cons, h, ih]
      rfl

/-- A document that is not `null` is read for itself. -/
theorem nullOr?_of_some {α : Type} {read : Json → Option α} (hnull : read .null = none) {j : Json}
    {a : α} (h : read j = some a) : nullOr? read j = some (some a) := by
  unfold nullOr?
  split
  · rw [hnull] at h
    cases h
  · rw [h]
    rfl

/-- The members of an object with the keys that they were given. -/
theorem members?_object (ms : List (String × Json)) :
    members? (.object (ms.map fun m => member m.1 m.2)) = some ms := by
  rw [members?]
  induction ms with
  | nil => rfl
  | cons m ms ih =>
      rw [List.map_cons, List.mapM_cons, ih]
      simp [member, unescape?_escape]

end Json

namespace SourceMap

open Json (Made)

/-! ## The members of a map -/

theorem optionalText?_ofString (s : String) : optionalText? (.ofString s) = some (some s) :=
  Json.nullOr?_of_some rfl (Json.string?_ofString s)

theorem optionalText?_textOrNull (text : Option String) :
    optionalText? (textOrNull text) = some text := by
  cases text with
  | none => rfl
  | some s => exact optionalText?_ofString s

theorem texts?_textsToJson (texts : List String) : texts? (textsToJson texts) = some texts :=
  Json.listOf?_map Json.string?_ofString texts

theorem contents?_array (texts : List (Option String)) :
    contents? (.array (texts.map textOrNull)) = some (some texts) :=
  Json.nullOr?_of_some rfl (Json.listOf?_map optionalText?_textOrNull texts)

theorem version?_ofNat (version : UInt32) : version? (.ofNat version.toNat) = some version := by
  rw [version?, Json.natBelow?_ofNat version.toNat_lt]
  simp

def presentEntry {α : Type} (key : String) (write : α → Json) : Option α → List (String × Json)
  | some a => [(key, write a)]
  | none => []

def entries (m : SourceMap) : List (String × Json) :=
  [("version", .ofNat m.version.toNat)]
  ++ presentEntry "file" Json.ofString m.file
  ++ presentEntry "sourceRoot" Json.ofString m.sourceRoot
  ++ [("sources", textsToJson m.sources)]
  ++ presentEntry "sourcesContent" (fun texts => .array (texts.map textOrNull)) m.sourcesContent
  ++ [("names", textsToJson m.names), ("mappings", .ofString m.mappings)]

theorem toJson_eq (m : SourceMap) :
    m.toJson = .object (m.entries.map fun e => Json.member e.1 e.2) := by
  obtain ⟨version, file, sourceRoot, sources, sourcesContent, names, mappings⟩ := m
  cases file <;> cases sourceRoot <;> cases sourcesContent <;> rfl

/-- Members are read whichever of the optional ones are there. -/
theorem ofMembers?_entries (m : SourceMap) : ofMembers? m.entries = some m := by
  obtain ⟨version, file, sourceRoot, sources, sourcesContent, names, mappings⟩ := m
  cases file <;> cases sourceRoot <;> cases sourcesContent <;>
    simp [ofMembers?, entries, presentEntry, Json.required?, Json.optional?, Json.valuesOf,
      version?_ofNat, texts?_textsToJson, optionalText?_ofString, contents?_array]

theorem ofJson?_toJson (m : SourceMap) : ofJson? m.toJson = some m := by
  rw [toJson_eq, ofJson?, Json.members?_object]
  · exact ofMembers?_entries m
  · simp
  · simp

theorem made_textsToJson (texts : List String) : Made (textsToJson texts) := by
  refine .array fun j hj => ?_
  obtain ⟨s, -, rfl⟩ := List.mem_map.1 hj
  exact .ofString s

theorem made_textOrNull (text : Option String) : Made (textOrNull text) := by
  cases text with
  | none => exact .null
  | some s => exact .ofString s

theorem made_contents (texts : List (Option String)) : Made (.array (texts.map textOrNull)) := by
  refine .array fun j hj => ?_
  obtain ⟨text, -, rfl⟩ := List.mem_map.1 hj
  exact made_textOrNull text

theorem made_of_mem_presentEntry {α : Type} {key : String} {write : α → Json}
    (h : ∀ a, Made (write a)) {value : Option α} :
    ∀ e ∈ presentEntry key write value, Made e.2 := by
  intro e he
  cases value with
  | none => cases he
  | some a => exact List.mem_singleton.1 he ▸ h a

theorem made_toJson (m : SourceMap) : Made m.toJson := by
  rw [toJson_eq]
  refine .object fun e he => ?_
  simp only [entries, List.mem_append, List.mem_cons, List.not_mem_nil, or_false] at he
  rcases he with ((((rfl | he) | he) | rfl) | he) | rfl | rfl
  · exact .ofNat _
  · exact made_of_mem_presentEntry .ofString e he
  · exact made_of_mem_presentEntry .ofString e he
  · exact made_textsToJson _
  · exact made_of_mem_presentEntry made_contents e he
  · exact made_textsToJson _
  · exact .ofString _

/-- **What is written for a source map is read back as that map.** -/
theorem parse?_render (m : SourceMap) : parse? m.toJson.render = some m := by
  rw [parse?, (made_toJson m).parse?_render]
  exact ofJson?_toJson m

end SourceMap

end Stylesheet
