import Stylesheet.Importer.Basic
import Stylesheet.Proofs.Path.Joining
import Stylesheet.Proofs.Path.Naming

set_option autoImplicit false

/-! # What an import leads to

A lookup is a search for the first existing path of a list: the places that are tried for a
path (`Lookup.places`), and over all directories those that an importer tries
(`Importer.placesTried`, `value_canonicalPath`). Every place is a tidy path that ends in a name
with a dot (`SheetName`), so answers are found, tidy and told apart by their components. Which
text spells the importing directory makes no difference to the places.
-/

namespace Stylesheet

/-! ## The places of a lookup -/

namespace Lookup

variable (fs : FileSystem)

def stagePlaces : List Stage → List Path
  | [] => []
  | s :: rest => if fs.found s.guard then s.candidates ++ stagePlaces rest else []

/-- The places tried for a clean path, in order. -/
def places (p : Path) : List Path :=
  match p.extension? with
  | some e =>
    let plain := p.withoutExtension.appendExtension e
    plain :: plain.asPartial?.toList
  | none => stagePlaces fs (probePlan p)

theorem mem_of_mem_stagePlaces {ss : List Stage} {q : Path} (h : q ∈ stagePlaces fs ss) :
    ∃ s ∈ ss, q ∈ s.candidates := by
  induction ss with
  | nil => simp [stagePlaces] at h
  | cons s ss ih =>
      rw [stagePlaces] at h
      split at h
      · rcases List.mem_append.1 h with h | h
        · exact ⟨s, by simp, h⟩
        · obtain ⟨t, ht, hq⟩ := ih h
          exact ⟨t, by simp [ht], hq⟩
      · simp at h

theorem value_runStages (ss : List Stage) :
    (runStages fs ss).value = (stagePlaces fs ss).find? fs.found := by
  induction ss with
  | nil => rfl
  | cons s ss ih =>
      rw [runStages, Traced.value_bind, FileSystem.value_check, stagePlaces]
      cases fs.found s.guard with
      | false => rfl
      | true =>
          simp only [if_true, Traced.value_bind, value_firstFound, List.find?_append]
          cases s.candidates.find? fs.found with
          | some p => rfl
          | none => exact ih

/-- A lookup finds the first place that exists. -/
theorem value_fromDirectory (dir importPath : Path) :
    (fromDirectory fs dir importPath).value =
      (places fs (dir.join importPath).clean).find? fs.found := by
  rw [fromDirectory, places]
  dsimp only
  cases (dir.join importPath).clean.extension? with
  | some e => exact value_firstFound fs _
  | none => exact value_runStages fs _

/-- A tidy path that ends in a name with a dot, as every place does. -/
def SheetName (q : Path) : Prop :=
  ∃ stem e : Name, q.EndsIn (stem ++ Name.dot :: e) ∧ Name.dot ∉ e

theorem SheetName.tidy {q : Path} (h : SheetName q) : q.Tidy := by
  obtain ⟨stem, e, hend, -⟩ := h
  exact hend.tidy

/-- The partial beside a place has the same extension. -/
theorem SheetName.asPartial? {p q : Path} (h : SheetName p) (hq : q ∈ p.asPartial?) :
    SheetName q := by
  obtain ⟨stem, e, hp, he⟩ := h
  obtain ⟨r, hr, hend⟩ := hp.asPartial?
  obtain rfl : r = q := Option.some.inj (hr.symm.trans hq)
  exact ⟨partialMark :: stem, e, hend, he⟩

theorem mem_plain_or_partial {p q : Path} (hp : SheetName p)
    (hq : q ∈ p :: p.asPartial?.toList) : SheetName q := by
  rcases List.mem_cons.1 hq with rfl | hq
  · exact hp
  · exact hp.asPartial? (Option.mem_toList.1 hq)

theorem extensions_fit : ∀ e ∈ extensions, e ≠ [] ∧ Path.separator ∉ e ∧ Name.dot ∉ e := by
  decide +kernel

theorem sheetName_of_mem_candidates {base q : Path} (hb : base.Tidy) (hq : q ∈ candidates base) :
    SheetName q := by
  obtain ⟨e, he, hq⟩ := List.mem_flatMap.1 hq
  obtain ⟨hne, hsep, hdot⟩ := extensions_fit e he
  obtain ⟨stem, hend⟩ := hb.appendExtension hne hsep hdot
  exact mem_plain_or_partial ⟨stem, e, hend, hdot⟩ hq

theorem isStep_indexName : indexName.IsStep := by
  refine ⟨?_, ?_, ?_⟩ <;> decide +kernel

/-- The index of a tidy directory is tidy. -/
theorem tidy_index {base : Path} (hb : base.Tidy) : (base.join ⟨indexName⟩).Tidy := by
  obtain ⟨a, ns, hns, rfl⟩ := hb
  rw [Path.join_spell hns isStep_indexName]
  exact Path.tidy_spell (Path.steps_concat hns isStep_indexName)

/-- Every place tried for a tidy path has the name of a stylesheet. -/
theorem sheetName_of_mem_places {p q : Path} (hp : p.Tidy) (hq : q ∈ places fs p) :
    SheetName q := by
  unfold places at hq
  cases he : p.extension? with
  | some e =>
      obtain ⟨n, stem, hend, hsplit⟩ := hp.endsIn_of_extension? he
      rw [he] at hq
      exact mem_plain_or_partial ⟨_, e, (hend.appendExtension_withoutExtension hsplit).1,
        (Name.eq_of_splitExtension hsplit).2.2⟩ hq
  | none =>
      rw [he] at hq
      obtain ⟨s, hs, hq⟩ := mem_of_mem_stagePlaces fs hq
      rcases List.mem_pair.1 hs with rfl | rfl
      · exact sheetName_of_mem_candidates hp hq
      · exact sheetName_of_mem_candidates (tidy_index hp) hq

end Lookup

/-! ## The places of an importer -/

/-- Whether two outcomes have answers that `r` relates, or both none. -/
def Agree {α : Type} (r : α → α → Prop) : Except Failure α → Except Failure α → Prop
  | .ok a, .ok b => r a b
  | .error _, .error _ => True
  | _, _ => False

theorem Agree.of_forall {α : Type} {r : α → α → Prop} (hr : ∀ a, r a a) (x : Except Failure α) :
    Agree r x x := by
  cases x with
  | error e => trivial
  | ok a => exact hr a

@[simp] theorem Agree.refl {α : Type} (x : Except Failure α) : Agree Eq x x :=
  Agree.of_forall (fun _ => rfl) x

theorem Agree.ok {α : Type} {x y : Except Failure α} {a : α} (h : Agree Eq x y) (hx : x = .ok a) :
    y = .ok a := by
  subst hx
  cases y with
  | error e => exact h.elim
  | ok b => exact congrArg Except.ok (Eq.symm h)

theorem Agree.map {α β : Type} {r : α → α → Prop} {s : β → β → Prop} {f g : α → β}
    {x y : Except Failure α} (h : Agree r x y) (hfg : ∀ a b, r a b → s (f a) (g b)) :
    Agree s (x.map f) (y.map g) := by
  cases x with
  | error e =>
      cases y with
      | error e' => trivial
      | ok b => exact h.elim
  | ok a =>
      cases y with
      | error e' => exact h.elim
      | ok b => exact hfg a b h

/-- Hooks and package resolver that take no notice of how a path is spelled. The texts of
failures may tell. -/
structure Config.IgnoresSpelling (c : Config) : Prop where
  packages : ∀ (specifier : String) (d d' : Path), d.same d' = true →
    Agree (fun p q => p.same q = true) (c.packages specifier d) (c.packages specifier d')
  redirect : ∀ hook, c.redirect = some hook → ∀ p q : Path, p.same q = true →
    (hook p).same (hook q) = true
  preprocess : ∀ hook, c.preprocess = some hook →
    ∀ (content : String) (p q : Path) (isEntry : Bool), p.same q = true → Agree Eq (hook content p isEntry) (hook content q isEntry)

namespace Importer

variable (i : Importer)

/-- The places tried for a path from a directory, in order. -/
def placesTried (dir p : Path) : List Path :=
  (dir :: if p.isAbsolute then [] else i.config.searchRoots).flatMap fun d =>
    Lookup.places i.fs (d.join p).clean

theorem value_searchIn (p : Path) (dirs : List Path) :
    (i.searchIn p dirs).value =
      (dirs.flatMap fun d => Lookup.places i.fs (d.join p).clean).find? i.fs.found := by
  induction dirs with
  | nil => rfl
  | cons d dirs ih =>
      rw [searchIn, Traced.value_bind, Lookup.value_fromDirectory, List.flatMap_cons,
        List.find?_append]
      cases (Lookup.places i.fs (d.join p).clean).find? i.fs.found with
      | some q => rfl
      | none => exact ih

/-- An importer finds the first place that exists. -/
theorem value_canonicalPath (specifier : String) (dir : Path) :
    (i.canonicalPath specifier dir).value =
      (i.specifierPath specifier dir).value.map fun target =>
        target.bind fun p =>
          (i.placesTried dir (i.config.redirected p).value).find? i.fs.found := by
  rw [canonicalPath, Traced.value_bind]
  cases (i.specifierPath specifier dir).value with
  | error e => rfl
  | ok target =>
      cases target with
      | none => rfl
      | some p =>
          simp only [Traced.value_bind, Lookup.value_fromDirectory, Except.map, Option.bind_some,
            placesTried]
          generalize (i.config.redirected p).value = target
          rw [List.flatMap_cons, List.find?_append]
          cases (Lookup.places i.fs (dir.join target).clean).find? i.fs.found with
          | some q => rfl
          | none =>
              by_cases habs : target.isAbsolute = true
              · simp [habs]
              · rw [if_neg habs, if_neg habs]
                exact congrArg Except.ok (i.value_searchIn target i.config.searchRoots)

theorem sheetName_of_mem_placesTried {dir p q : Path} (h : q ∈ i.placesTried dir p) :
    Lookup.SheetName q := by
  obtain ⟨d, -, hq⟩ := List.mem_flatMap.1 h
  exact Lookup.sheetName_of_mem_places i.fs (Path.clean_tidy _) hq

/-- What an import leads to is one of the places tried, and exists. -/
theorem mem_placesTried_of_canonicalPath {specifier : String} {dir q : Path}
    (h : (i.canonicalPath specifier dir).value = .ok (some q)) :
    ∃ p, (i.specifierPath specifier dir).value = .ok (some p) ∧
      q ∈ i.placesTried dir (i.config.redirected p).value ∧ i.fs.found q = true := by
  rw [value_canonicalPath] at h
  cases hs : (i.specifierPath specifier dir).value with
  | error e => simp [hs, Except.map] at h
  | ok target =>
      cases target with
      | none => simp [hs, Except.map] at h
      | some p =>
          have hf : (i.placesTried dir (i.config.redirected p).value).find? i.fs.found
              = some q := by
            simpa [hs, Except.map] using h
          exact ⟨p, rfl, List.mem_of_find?_eq_some hf, List.find?_some hf⟩

/-- **What an import leads to exists and has the name of a stylesheet.** -/
theorem sheetName_of_canonicalPath {specifier : String} {dir q : Path}
    (h : (i.canonicalPath specifier dir).value = .ok (some q)) :
    i.fs.found q = true ∧ Lookup.SheetName q := by
  obtain ⟨p, -, hq, hfound⟩ := i.mem_placesTried_of_canonicalPath h
  exact ⟨hfound, i.sheetName_of_mem_placesTried hq⟩

/-! ## The directory of the entry -/

/-- Only where no stylesheet imports does the directory of the entry matter. -/
theorem searchIn_entryDir (entryDir p : Path) (dirs : List Path) :
    ({ i with entryDir } : Importer).searchIn p dirs = i.searchIn p dirs := by
  induction dirs with
  | nil => rfl
  | cons d dirs ih => rw [searchIn, searchIn, ih]

theorem canonicalPath_entryDir (entryDir dir : Path) (specifier : String) :
    ({ i with entryDir } : Importer).canonicalPath specifier dir =
      i.canonicalPath specifier dir := by
  unfold canonicalPath
  simp only [searchIn_entryDir]
  rfl

/-! ## The spelling of the importing directory -/

theorem placesTried_congr {d d' p p' : Path} (hd : d.same d' = true) (hp : p.same p' = true) :
    i.placesTried d p = i.placesTried d' p' := by
  unfold placesTried
  rw [Path.isAbsolute_eq_of_same hp, List.flatMap_cons, List.flatMap_cons,
    Path.clean_join_congr hd hp]
  congr 2
  funext r
  rw [Path.clean_join_congr (Path.same_refl r) hp]

/-- How the importing directory is spelled makes no difference to what is looked for. Only a
package depends on that directory at all. -/
theorem specifierPath_agree (hc : i.config.IgnoresSpelling) {d d' : Path} (hd : d.same d' = true)
    (specifier : String) :
    Agree (Option.Rel fun p q : Path => p.same q = true) (i.specifierPath specifier d).value
      (i.specifierPath specifier d').value := by
  unfold specifierPath
  cases Text.after? packageMark specifier.toList with
  | some package => exact (hc.packages _ d d' hd).map fun p q hpq => .some hpq
  | none =>
      refine Agree.of_forall (fun target => ?_) _
      cases target with
      | none => exact .none
      | some p => exact .some p.same_refl

theorem redirected_same (hc : i.config.IgnoresSpelling) {p q : Path} (h : p.same q = true) :
    (i.config.redirected p).value.same (i.config.redirected q).value = true := by
  unfold Config.redirected
  cases hr : i.config.redirect with
  | none => exact h
  | some hook => exact hc.redirect hook hr p q h

/-- How the importing directory is spelled makes no difference to the answer. -/
theorem canonicalPath_agree (hc : i.config.IgnoresSpelling) {d d' : Path} (hd : d.same d' = true)
    (specifier : String) :
    Agree Eq (i.canonicalPath specifier d).value (i.canonicalPath specifier d').value := by
  rw [value_canonicalPath, value_canonicalPath]
  refine (i.specifierPath_agree hc hd specifier).map fun target target' htarget => ?_
  cases htarget with
  | none => rfl
  | some hpq =>
      rw [Option.bind_some, Option.bind_some,
        i.placesTried_congr hd (i.redirected_same hc hpq)]

/-! ## The spelling of a source -/

theorem preprocessed_agree (hc : i.config.IgnoresSpelling) {p q : Path} (h : p.same q = true)
    (content : String) (isEntry : Bool) :
    Agree Eq (i.config.preprocessed content p isEntry).value
      (i.config.preprocessed content q isEntry).value := by
  unfold Config.preprocessed
  cases hp : i.config.preprocess with
  | none => exact Agree.refl _
  | some hook => exact hc.preprocess hook hp content p q isEntry h

/-- How a file is spelled makes no difference to its source, if it makes none to reading it. -/
theorem readSource_agree (hc : i.config.IgnoresSpelling) {p q : Path} (h : p.same q = true)
    (hread : (i.fs.read p).toOption = (i.fs.read q).toOption) (isEntry : Bool) :
    Agree Eq (i.readSource p isEntry).value (i.readSource q isEntry).value := by
  unfold readSource
  cases hp : i.fs.read p with
  | error e =>
      cases hq : i.fs.read q with
      | error e' => trivial
      | ok content => simp [hp, hq, Except.toOption] at hread
  | ok content =>
      cases hq : i.fs.read q with
      | error e' => simp [hp, hq, Except.toOption] at hread
      | ok content' =>
          obtain rfl : content = content' := by simpa [hp, hq, Except.toOption] using hread
          exact i.preprocessed_agree hc h content isEntry

end Importer

end Stylesheet
