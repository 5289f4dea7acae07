import Mathlib.Data.Finset.Card
import Mathlib.Data.Finset.Filter
import Stylesheet.Dependency.Walk

set_option autoImplicit false

/-! # Rounds of a search

`Rounds` is the loop of a search: each round takes a file off the stack, passes it over if it was
visited before, and otherwise looks into it and puts what it leads to in its place, as far as that
was not visited. Nothing bounds the rounds. What looking into a file gives, and what it keeps for
later looks, is left open.

There is one way for the rounds to go (`Rounds.unique`). If all looks lead to files out of a finite
set, they come to an end (`exists_rounds`): each of them takes something out of what the set has
left to visit, or leaves that alone and shortens the stack.
-/

namespace Stylesheet.Dependency

/-- What a search has gathered: the files visited, in order, the imports that lead nowhere, and
what it keeps for later. -/
structure Gathered (σ : Type) where
  files : List Path
  unresolved : List Unresolved
  kept : σ

namespace Gathered

variable {σ : Type} (g : Gathered σ)

def start (s : σ) : Gathered σ := ⟨[], [], s⟩

/-- Whether a file was visited, under whatever spelling. -/
def visited (p : Path) : Bool := g.files.any (·.same p)

/-- One more file visited, with what was found in it. -/
def add (file : Path) (found : Followed) (s : σ) : Gathered σ :=
  ⟨g.files ++ [file], g.unresolved ++ found.unresolved, s⟩

def deps (entry : Path) : EntryDeps := ⟨entry, g.files, g.unresolved⟩

/-- What is gathered when a search stops, as its answer. -/
def answer (entry : Path) : Option Failure → Except Failure EntryDeps
  | none => .ok (g.deps entry)
  | some e => .error e

@[simp] theorem visited_start (s : σ) (p : Path) : (start s).visited p = false := rfl

@[simp] theorem visited_add (file : Path) (found : Followed) (s : σ) (p : Path) :
    (g.add file found s).visited p = (g.visited p || file.same p) := by
  simp [visited, add]

@[simp] theorem length_add (file : Path) (found : Followed) (s : σ) :
    (g.add file found s).files.length = g.files.length + 1 := by
  simp [add]

/-- The order of the visits makes no difference. -/
theorem any_reverse_files : (fun p => g.files.reverse.any (·.same p)) = g.visited :=
  funext fun _ => List.any_reverse

theorem visited_congr {p q : Path} (h : p.same q = true) : g.visited p = g.visited q := by
  unfold visited Path.same
  rw [Path.same_iff.1 h]

variable {g} in
theorem once_add (hg : g.files.Pairwise fun p q => p.same q = false) {file : Path}
    (new : g.visited file = false) (found : Followed) (s : σ) :
    (g.add file found s).files.Pairwise fun p q => p.same q = false := by
  refine List.pairwise_append.2 ⟨hg, List.pairwise_singleton _ _, fun p hp q hq => ?_⟩
  rw [List.mem_singleton] at hq
  subst hq
  exact Bool.eq_false_iff.2 (List.any_eq_false.1 new p hp)

end Gathered

variable {σ : Type} {look : Path → σ → Except Failure Followed × σ} {stack : List Path}
  {g out : Gathered σ} {failure : Option Failure}

/-- The rounds that work off the stack lead from `g` to `out`, and maybe stop at a failure. A look
at a file gives what is found in it, and what is kept after it for later looks. -/
inductive Rounds (look : Path → σ → Except Failure Followed × σ) :
    List Path → Gathered σ → Gathered σ → Option Failure → Prop
  | done (g : Gathered σ) : Rounds look [] g g none
  /-- The next file was visited before. -/
  | again {file : Path} {rest : List Path} {g out : Gathered σ} {failure : Option Failure}
      (seen : g.visited file = true) (more : Rounds look rest g out failure) :
      Rounds look (file :: rest) g out failure
  /-- The next file is new and makes the search fail. -/
  | fail {file : Path} {rest : List Path} {g : Gathered σ} {e : Failure} {s : σ}
      (new : g.visited file = false) (looked : look file g.kept = (.error e, s)) :
      Rounds look (file :: rest) g (g.add file ⟨[], []⟩ s) (some e)
  /-- The next file is new; where it leads goes first, as far as that was not visited. -/
  | look {file : Path} {rest : List Path} {g out : Gathered σ} {failure : Option Failure}
      {found : Followed} {s : σ} (new : g.visited file = false)
      (looked : look file g.kept = (.ok found, s))
      (more : Rounds look
        (found.children.filter (fun p => !(g.add file found s).visited p) ++ rest)
        (g.add file found s) out failure) :
      Rounds look (file :: rest) g out failure

namespace Rounds

/-- What every look keeps holds in the end. -/
theorem kept (h : Rounds look stack g out failure) {inv : σ → Prop}
    (hinv : ∀ file s, inv s → inv (look file s).2) (hg : inv g.kept) : inv out.kept := by
  induction h with
  | done g => exact hg
  | again seen more ih => exact ih hg
  | @fail file rest g e s new looked =>
      have hs := hinv file g.kept hg
      rwa [looked] at hs
  | @look file rest g out failure found s new looked more ih =>
      have hs := hinv file g.kept hg
      rw [looked] at hs
      exact ih hs

/-- No file is visited twice. -/
theorem once (h : Rounds look stack g out failure)
    (hg : g.files.Pairwise fun p q => p.same q = false) :
    out.files.Pairwise fun p q => p.same q = false := by
  induction h with
  | done g => exact hg
  | again seen more ih => exact ih hg
  | fail new looked => exact Gathered.once_add hg new _ _
  | look new looked more ih => exact ih (Gathered.once_add hg new _ _)

/-- The files visited only become more. -/
theorem length_le (h : Rounds look stack g out failure) : g.files.length ≤ out.files.length := by
  induction h with
  | done g => exact Nat.le_refl _
  | again seen more ih => exact ih
  | fail new looked => simp
  | look new looked more ih =>
      rw [Gathered.length_add] at ih
      omega

/-- There is one way for the rounds to go. -/
theorem unique (h : Rounds look stack g out failure) {out' : Gathered σ} {failure' : Option Failure}
    (h' : Rounds look stack g out' failure') : out = out' ∧ failure = failure' := by
  induction h with
  | done g =>
      cases h'
      exact ⟨rfl, rfl⟩
  | again seen more ih =>
      cases h' with
      | again seen' more' => exact ih more'
      | fail new' looked' => simp [seen] at new'
      | look new' looked' more' => simp [seen] at new'
  | fail new looked =>
      cases h' with
      | again seen' more' => simp [new] at seen'
      | fail new' looked' =>
          cases looked.symm.trans looked'
          exact ⟨rfl, rfl⟩
      | look new' looked' more' => cases looked.symm.trans looked'
  | look new looked more ih =>
      cases h' with
      | again seen' more' => simp [new] at seen'
      | fail new' looked' => cases looked.symm.trans looked'
      | look new' looked' more' =>
          cases looked.symm.trans looked'
          exact ih more'

end Rounds

/-! ## Why the rounds end -/

/-- A file goes by one of the given paths, in whatever spelling. -/
def GoesBy (paths : Finset Path) (file : Path) : Prop := ∃ p ∈ paths, p.same file = true

/-- As long as `inv` holds of what is kept, looks preserve it and lead only to files that go by
the given paths. -/
structure Confined (look : Path → σ → Except Failure Followed × σ) (inv : σ → Prop)
    (paths : Finset Path) : Prop where
  keeps : ∀ file s, inv s → inv (look file s).2
  leads : ∀ file s found, inv s → (look file s).1 = .ok found →
    ∀ q ∈ found.children, GoesBy paths q

def Gathered.left (g : Gathered σ) (paths : Finset Path) : Finset Path :=
  paths.filter fun p => g.visited p = false

theorem left_subset {paths : Finset Path} {file : Path} (found : Followed) (s : σ) :
    (g.add file found s).left paths ⊆ g.left paths := by
  intro p hp
  simp only [Gathered.left, Finset.mem_filter, Gathered.visited_add, Bool.or_eq_false_iff] at hp ⊢
  exact ⟨hp.1, hp.2.1⟩

/-- A visit takes the file's path out of what is left. -/
theorem card_left_lt {paths : Finset Path} {file : Path} (hfile : GoesBy paths file)
    (new : g.visited file = false) (found : Followed) (s : σ) :
    ((g.add file found s).left paths).card < (g.left paths).card := by
  obtain ⟨p, hp, hsame⟩ := hfile
  have hbefore : p ∈ g.left paths := by
    simp [Gathered.left, hp, g.visited_congr hsame, new]
  have hafter : p ∉ (g.add file found s).left paths := by
    have hfp : file.same p = true := Path.same_iff.2 (Path.same_iff.1 hsame).symm
    simp [Gathered.left, hfp]
  refine Finset.card_lt_card ((Finset.ssubset_iff_of_subset (left_subset found s)).2 ?_)
  exact ⟨p, hbefore, hafter⟩

/-- **The rounds end**, and they visit no more files than there are paths left to visit. -/
theorem exists_rounds {inv : σ → Prop} {paths : Finset Path} (h : Confined look inv paths)
    (g : Gathered σ) (hg : inv g.kept) (stack : List Path) (hstack : ∀ p ∈ stack, GoesBy paths p) :
    ∃ out failure, Rounds look stack g out failure ∧
      out.files.length ≤ g.files.length + (g.left paths).card := by
  -- by the number of paths left, and for as many of them by the stack
  induction hn : (g.left paths).card using Nat.strong_induction_on generalizing g stack with
  | _ n ihLeft =>
      induction stack with
      | nil => exact ⟨g, none, .done g, Nat.le_add_right _ _⟩
      | cons file rest ihStack =>
          obtain ⟨hfile, hrest⟩ := List.forall_mem_cons.1 hstack
          by_cases seen : g.visited file = true
          · obtain ⟨out, failure, hrounds, hcount⟩ := ihStack hrest
            exact ⟨out, failure, .again seen hrounds, hcount⟩
          · have new : g.visited file = false := Bool.eq_false_iff.2 seen
            have hkeeps := h.keeps file g.kept hg
            have hleads := h.leads file g.kept
            generalize hl : look file g.kept = looked at hkeeps hleads
            obtain ⟨answer, s⟩ := looked
            cases answer with
            | error e =>
                have hlt := card_left_lt hfile new ⟨[], []⟩ s
                refine ⟨_, _, .fail new hl, ?_⟩
                rw [Gathered.length_add]
                omega
            | ok found =>
                have hlt := card_left_lt hfile new found s
                have hmore : ∀ p ∈ found.children.filter (fun p => !(g.add file found s).visited p)
                    ++ rest, GoesBy paths p := by
                  intro p hp
                  rcases List.mem_append.1 hp with hp | hp
                  · exact hleads found hg rfl p (List.mem_filter.1 hp).1
                  · exact hrest p hp
                obtain ⟨out, failure, hrounds, hcount⟩ :=
                  ihLeft _ (hn ▸ hlt) (g.add file found s) hkeeps _ hmore rfl
                refine ⟨out, failure, .look new hl hrounds, ?_⟩
                rw [Gathered.length_add] at hcount
                omega

end Stylesheet.Dependency
