import Stylesheet.Proofs.Dependency.Session
import Stylesheet.Proofs.Dependency.Termination

set_option autoImplicit false

/-! # Searches go depth first

`descend` visits a file by recursion: it looks into the file and then visits, one after another,
what the file leads to. The loop with a stack does the same (`continues_foldlM_descend`). Its
stack holds the files that the unfinished visits have yet to come to, those of the innermost visit
in front; where the loop leaves files off the stack or passes them over, the recursion finds them
visited. So a search gathers the files in depth-first preorder (`reachable_preorder`).

The depth of the recursion is a bound for how far visits may nest. Every visit below another has
one file less left to visit, so what exists in the file system bounds it.
-/

namespace Stylesheet.Dependency

variable {σ : Type} {look : Path → σ → Except Failure Followed × σ} {g g' out : Gathered σ}
  {failure : Option Failure}

/-- Visits a file and, in order, what it leads to, unless it was visited before. The first argument
bounds how deep visits are nested, not how many there are. -/
def descend (look : Path → σ → Except Failure Followed × σ) :
    Nat → Gathered σ → Path → Except Failure (Gathered σ)
  | depth, g, file =>
    if g.visited file then .ok g
    else
      match depth with
      -- Never reached with a depth that covers every existing path.
      | 0 => .error .endless
      | depth + 1 =>
        match look file g.kept with
        | (.error e, _) => .error e
        | (.ok found, s) => found.children.foldlM (descend look depth) (g.add file found s)

/-! ## The recursion -/

theorem descend_of_visited {file : Path} (seen : g.visited file = true) (depth : Nat) :
    descend look depth g file = .ok g := by
  cases depth with
  | zero => rw [descend, if_pos seen]
  | succ depth => rw [descend, if_pos seen]

theorem descend_of_new {file : Path} (new : g.visited file = false) (depth : Nat) :
    descend look (depth + 1) g file =
      match look file g.kept with
      | (.error e, _) => .error e
      | (.ok found, s) => found.children.foldlM (descend look depth) (g.add file found s) := by
  rw [descend, if_neg (Bool.eq_false_iff.1 new)]

/-- How a visit succeeds. -/
theorem descend_eq_ok_iff {depth : Nat} {file : Path} :
    descend look depth g file = .ok g' ↔
      (g.visited file = true ∧ g' = g) ∨
      (g.visited file = false ∧ ∃ d found s, depth = d + 1 ∧ look file g.kept = (.ok found, s) ∧
        found.children.foldlM (descend look d) (g.add file found s) = .ok g') := by
  cases seen : g.visited file with
  | true => simp [descend_of_visited seen, eq_comm]
  | false =>
      cases depth with
      | zero =>
          rw [descend, seen]
          simp
      | succ depth =>
          rw [descend_of_new seen]
          cases look file g.kept with
          | mk answer s => cases answer <;> simp

section Folds

variable {α β ε : Type} {f f' : β → α → Except ε β} {l : List α} {b b' : β}

theorem foldlM_cons_eq_ok_iff {a : α} :
    (a :: l).foldlM f b = .ok b' ↔ ∃ mid, f b a = .ok mid ∧ l.foldlM f mid = .ok b' := by
  rw [List.foldlM_cons]
  cases f b a with
  | error e => simp [bind, Except.bind]
  | ok mid => simp [bind, Except.bind]

theorem foldlM_ok_mono (h : ∀ b a b', f b a = .ok b' → f' b a = .ok b')
    (hl : l.foldlM f b = .ok b') : l.foldlM f' b = .ok b' := by
  induction l generalizing b with
  | nil => exact hl
  | cons a l ih =>
      obtain ⟨mid, hfirst, hrest⟩ := foldlM_cons_eq_ok_iff.1 hl
      exact foldlM_cons_eq_ok_iff.2 ⟨mid, h b a mid hfirst, ih hrest⟩

theorem foldlM_ok_invariant (inv : β → Prop) (h : ∀ b a b', inv b → f b a = .ok b' → inv b')
    (hb : inv b) (hl : l.foldlM f b = .ok b') : inv b' := by
  induction l generalizing b with
  | nil =>
      cases hl
      exact hb
  | cons a l ih =>
      obtain ⟨mid, hfirst, hrest⟩ := foldlM_cons_eq_ok_iff.1 hl
      exact ih (h b a mid hb hfirst) hrest

end Folds

/-- Visited once, visited ever after. -/
theorem visited_of_descend {depth : Nat} {file p : Path} (hp : g.visited p = true)
    (h : descend look depth g file = .ok g') : g'.visited p = true := by
  -- by the depth; the files that the visit leads to have less of it
  induction depth generalizing g g' file with
  | zero =>
      obtain ⟨-, rfl⟩ | ⟨-, d, found, s, hd, -⟩ := descend_eq_ok_iff.1 h
      · exact hp
      · cases hd
  | succ depth ih =>
      obtain ⟨-, rfl⟩ | ⟨-, d, found, s, hd, -, hchildren⟩ := descend_eq_ok_iff.1 h
      · exact hp
      · cases hd
        have hadd : (g.add file found s).visited p = true := by simp [hp]
        exact foldlM_ok_invariant (fun g => g.visited p = true) (fun _ _ _ hg h => ih hg h) hadd
          hchildren

/-- A visit that succeeds does so with more depth as well. -/
theorem descend_succ {depth : Nat} {file : Path} (h : descend look depth g file = .ok g') :
    descend look (depth + 1) g file = .ok g' := by
  induction depth generalizing g g' file with
  | zero =>
      obtain hseen | ⟨-, d, found, s, hd, -⟩ := descend_eq_ok_iff.1 h
      · exact descend_eq_ok_iff.2 (Or.inl hseen)
      · cases hd
  | succ depth ih =>
      obtain hseen | ⟨new, d, found, s, hd, looked, hchildren⟩ := descend_eq_ok_iff.1 h
      · exact descend_eq_ok_iff.2 (Or.inl hseen)
      · cases hd
        have hdeeper := foldlM_ok_mono (fun b a b' ha => ih ha) hchildren
        exact descend_eq_ok_iff.2 (Or.inr ⟨new, depth + 1, found, s, rfl, looked, hdeeper⟩)

/-- What was visited may be left out of what is to be visited. -/
theorem foldlM_descend_filter {depth : Nat} (files : List Path)
    (hg : ∀ p, g.visited p = true → g'.visited p = true) :
    (files.filter fun p => !g.visited p).foldlM (descend look depth) g' =
      files.foldlM (descend look depth) g' := by
  -- by the files; what was visited at first stays visited while the others are
  induction files generalizing g' with
  | nil => rfl
  | cons file files ih =>
      rw [List.foldlM_cons]
      cases seen : g.visited file with
      | true =>
          rw [List.filter_cons_of_neg (by simp [seen]), descend_of_visited (hg file seen)]
          exact ih hg
      | false =>
          rw [List.filter_cons_of_pos (by simp [seen]), List.foldlM_cons]
          cases hfile : descend look depth g' file with
          | error e => rfl
          | ok next => exact ih fun p hp => visited_of_descend (hg p hp) hfile

/-! ## The loop is the recursion -/

/-- From an outcome of visits, the rounds on what is left of the stack lead to `out`. A failure
of the visits is the failure of the rounds. -/
def Continues (look : Path → σ → Except Failure Followed × σ) (rest : List Path)
    (out : Gathered σ) (failure : Option Failure) :
    Except Failure (Gathered σ) → Prop
  | .ok mid => Rounds look rest mid out failure
  | .error e => failure = some e

/-- **The loop is the recursion.** Whatever part of the stack is visited by recursion, the rounds
go on with the rest of it. -/
theorem continues_foldlM_descend {files rest : List Path} {depth : Nat}
    (h : Rounds look (files ++ rest) g out failure)
    (hdepth : out.files.length ≤ g.files.length + depth) :
    Continues look rest out failure (files.foldlM (descend look depth) g) := by
  -- by the rounds, for every part of the stack
  generalize hs : files ++ rest = stack at h
  induction h generalizing files rest depth with
  | done g =>
      obtain ⟨rfl, rfl⟩ := List.append_eq_nil_iff.1 hs
      exact .done g
  | @again u others g out failure seen more ih =>
      cases files with
      | nil =>
          rw [List.nil_append] at hs
          exact hs ▸ .again seen more
      | cons file files =>
          obtain ⟨rfl, rfl⟩ := List.cons.inj hs
          rw [List.foldlM_cons, descend_of_visited seen]
          exact ih hdepth rfl
  | @fail u others g e s new looked =>
      cases files with
      | nil =>
          rw [List.nil_append] at hs
          exact hs ▸ .fail new looked
      | cons file files =>
          obtain ⟨rfl, rfl⟩ := List.cons.inj hs
          rw [Gathered.length_add] at hdepth
          obtain ⟨depth, rfl⟩ : ∃ d, depth = d + 1 := ⟨depth - 1, by omega⟩
          rw [List.foldlM_cons, descend_of_new new, looked]
          rfl
  | @look u others g out failure found s new looked more ih =>
      cases files with
      | nil =>
          rw [List.nil_append] at hs
          exact hs ▸ .look new looked more
      | cons file files =>
          obtain ⟨rfl, rfl⟩ := List.cons.inj hs
          have hgrows := more.length_le
          rw [Gathered.length_add] at hgrows
          obtain ⟨depth, rfl⟩ : ∃ d, depth = d + 1 := ⟨depth - 1, by omega⟩
          have hbelow : out.files.length ≤ (g.add file found s).files.length + depth := by
            rw [Gathered.length_add]
            omega
          -- the visit of the file itself, and all visits of this part of the stack
          have hfile := @ih (found.children.filter _) (files ++ rest) depth hbelow rfl
          have hall := @ih (found.children.filter _ ++ files) rest (depth + 1)
            (hbelow.trans (by omega)) (List.append_assoc _ _ _)
          rw [foldlM_descend_filter _ fun p hp => hp] at hfile
          rw [List.foldlM_append, foldlM_descend_filter _ fun p hp => hp] at hall
          rw [List.foldlM_cons, descend_of_new new, looked]
          dsimp only
          cases hvisit : found.children.foldlM (descend look depth) (g.add file found s) with
          | error e =>
              rw [hvisit] at hfile
              exact hfile
          | ok mid =>
              rw [foldlM_ok_mono (fun _ _ _ => descend_succ) hvisit] at hall
              exact hall

/-- From one file on, the loop and the recursion have the same answer. -/
theorem answer_eq_descend {entry : Path} {s : σ} {depth : Nat}
    (h : Rounds look [entry] (.start s) out failure) (hdepth : out.files.length ≤ depth) :
    out.answer entry failure =
      (descend look depth (.start s) entry).map fun g => g.deps entry := by
  have hstart : out.files.length ≤ (Gathered.start s).files.length + depth :=
    hdepth.trans (Nat.le_add_left _ _)
  have hcontinues : Continues look [] out failure
      ([entry].foldlM (descend look depth) (.start s)) := continues_foldlM_descend h hstart
  rw [List.foldlM_cons] at hcontinues
  cases hentry : descend look depth (.start s) entry with
  | error e =>
      rw [hentry] at hcontinues
      obtain rfl : failure = some e := hcontinues
      rfl
  | ok mid =>
      rw [hentry] at hcontinues
      have hdone : Rounds look [] mid out failure := hcontinues
      cases hdone
      rfl

/-! ## Without caches -/

variable (i : Importer)

/-- The look of a search without caches, which keeps nothing for later. -/
def freshLook (entry : Path) : Path → Unit → Except Failure Followed × Unit :=
  fun file _ => (Dependency.look i entry file, ())

/-- What is gathered, without what is kept for later. -/
def Gathered.forget (g : Gathered σ) : Gathered Unit := ⟨g.files, g.unresolved, ()⟩

variable {i} {S : Path → Prop} {entry : Path}

/-- The rounds with sound caches are those without caches. -/
theorem rounds_forget (hS : Uniform i S) {stack : List Path} {g out : Gathered Caches}
    (h : Rounds (cachedLook i entry) stack g out failure) (hc : g.kept.Sound i S)
    (hstack : ∀ p ∈ stack, S p) :
    Rounds (freshLook i entry) stack g.forget out.forget failure := by
  -- by the rounds; each look leaves sound caches for the next
  induction h with
  | done g => exact .done g.forget
  | again seen more ih => exact .again seen (ih hc (List.forall_mem_cons.1 hstack).2)
  | @fail file rest g e s new looked =>
      have hvisit := visit_answers hS hc (hstack file (by simp)) entry
      have hlook : freshLook i entry file () = (.error e, ()) := by
        rw [freshLook, ← hvisit.answer, show (visit i entry file g.kept).value = _ from looked]
      exact .fail (g := g.forget) new hlook
  | @look file rest g out failure found s new looked more ih =>
      obtain ⟨hfile, hrest⟩ := List.forall_mem_cons.1 hstack
      have hvisit := visit_answers hS hc hfile entry
      rw [show (visit i entry file g.kept).value = _ from looked] at hvisit
      have hlook : Dependency.look i entry file = .ok found := hvisit.answer.symm
      have hchildren := look_children hS hfile hlook
      have hmore := ih hvisit.sound fun p hp => by
        rcases List.mem_append.1 hp with hp | hp
        · exact hchildren p (List.mem_filter.1 hp).1
        · exact hrest p hp
      refine .look (g := g.forget) new ?_ hmore
      rw [freshLook, hlook]

/-- **A search gathers in depth-first preorder.** Through a file system in memory, with any hooks,
package resolver, entry and earlier searches, the answer is that of the recursion which looks into
a file and then visits, in order, what the file leads to; the depth only has to exceed the number
of files and directories. With empty caches the looks may as well be fresh, unless both the entry
is spelled in an odd way and the hooks or the package resolver mind the spelling. -/
theorem reachable_preorder (m : MemoryFs) (config : Config) (dir entry : Path) {c : Caches}
    (hc : c.Filled m.toFileSystem) {depth : Nat} (hdepth : m.existing.card < depth) :
    let i : Importer := ⟨config, m.toFileSystem, dir⟩
    ((reachable i entry c).value.1 =
      (descend (cachedLook i entry) depth (.start c) entry).map fun g => g.deps entry) ∧
    (config.IgnoresSpelling ∨ entry.clean = entry →
      (reachable i entry .empty).value.1 =
        (descend (freshLook i entry) depth (.start ()) entry).map fun g => g.deps entry) := by
  intro i
  constructor
  · obtain ⟨out, failure, hrounds, hreach, hcount⟩ :=
      reachable_rounds (i := i) rfl entry hc.checked
    rw [hreach]
    exact answer_eq_descend hrounds (by omega)
  · intro hspelling
    -- where spellings make no difference what is kept is what a fresh look gives, so the rounds
    -- may as well forget it
    obtain ⟨S, hS, hentry⟩ : ∃ S : Path → Prop, Uniform i S ∧ S entry := by
      rcases hspelling with hspelling | hclean
      · exact ⟨_, uniform_of_ignoresSpelling i hspelling (m.readsAlike [entry]),
          Or.inl (List.mem_singleton_self entry)⟩
      · exact ⟨_, uniform_tidy i, Path.tidy_of_clean_eq hclean⟩
    obtain ⟨out, failure, hrounds, hreach, hcount⟩ :=
      reachable_rounds (i := i) rfl entry (Caches.checked_empty _)
    have hfresh := rounds_forget hS hrounds (Caches.sound_empty i S)
      (List.forall_mem_singleton.2 hentry)
    rw [hreach]
    exact answer_eq_descend hfresh (by
      show out.files.length ≤ depth
      omega)

/-- A second import that the first one leads to as well, and one that leads back to the start. -/
def braid : MemoryFs :=
  ((MemoryFs.empty.addFile (.ofString "/app/main.scss") "@import \"a\", \"b\";\n").addFile
    (.ofString "/app/a.scss") "@import \"gone\", \"b\";\n").addFile
    (.ofString "/app/b.scss") "@import \"main\";\n"

def braidImporter : Importer where
  config := { packages := PackageResolver.none }
  fs := braid.toFileSystem
  entryDir := .ofString "/app"

theorem reachable_preorder_braid :
    let entry := Path.ofString "/app/main.scss"
    Caches.Filled braid.toFileSystem .empty ∧ braid.existing.card < 6 ∧ entry.clean = entry ∧
      (reachable braidImporter entry .empty).value.1 =
        (descend (cachedLook braidImporter entry) 6 (.start .empty) entry).map
          (fun g => g.deps entry) ∧
      (reachable braidImporter entry .empty).value.1 =
        (descend (freshLook braidImporter entry) 6 (.start ()) entry).map
          fun g => g.deps entry := by
  have hcard : braid.existing.card < 6 := by decide +kernel
  have hclean : (Path.ofString "/app/main.scss").clean = .ofString "/app/main.scss" := by
    decide +kernel
  have h := reachable_preorder braid braidImporter.config (.ofString "/app")
    (.ofString "/app/main.scss") .empty hcard
  exact ⟨.empty, hcard, hclean, h.1, h.2 (Or.inr hclean)⟩

example : (reachable braidImporter (.ofString "/app/main.scss") .empty).value.1 = .ok
    ⟨.ofString "/app/main.scss",
      [.ofString "/app/main.scss", .ofString "/app/a.scss", .ofString "/app/b.scss"],
      [⟨.ofString "/app/a.scss", "gone", none⟩]⟩ := by decide +kernel

/-- Two packages of one name, and a stylesheet next to the first that asks for it. -/
def twins : MemoryFs :=
  (((MemoryFs.empty.addFile (.ofString "/app/main.scss") "@import \"~x\", \"a\";\n").addFile
    (.ofString "/app/a.scss") "@import \"~x\";\n").addFile
    (.ofString "/app/pkg/x.scss") "").addFile (.ofString "/lib/pkg/x.scss") ""

/-- Packages lie below the importing directory, but a directory spelled `//app` stands for
another. -/
def twinsImporter : Importer where
  config :=
    { packages := PackageResolver.below (.ofString "pkg")
      redirect := some (Redirect.replacing "//app" "/lib") }
  fs := twins.toFileSystem
  entryDir := .ofString "/app"

/-- From an entry in an odd spelling a package is found in one place, and what was kept hides
that the same package is in another place for the next file. -/
theorem reachable_ne_preorder_twins :
    let entry := Path.ofString "//app/main.scss"
    let found := [entry, .ofString "/lib/pkg/x.scss", .ofString "/app/a.scss"]
    twins.existing.card < 10 ∧
      (reachable twinsImporter entry .empty).value.1 = .ok ⟨entry, found, []⟩ ∧
      (descend (freshLook twinsImporter entry) 10 (.start ()) entry).map (fun g => g.deps entry) =
        .ok ⟨entry, found ++ [.ofString "/app/pkg/x.scss"], []⟩ := by
  refine ⟨?_, ?_, ?_⟩
  · decide +kernel
  · decide +kernel
  · decide +kernel

end Stylesheet.Dependency
