import Stylesheet.Text.Split
import Stylesheet.Text.Utf8

set_option autoImplicit false

/-! # Paths

A path is the text that was written for it, as bytes: any byte but the separator may stand in
a name. What a path means is its list of components. Repeated separators, separators at the
end and `.` inside a path are noise: they are kept in the text and left out of the
components. Two paths are the *same* if their components are equal (`Path.same`); tables and
visited sets go by that, while answers show the text.

The operations here never touch a disk. `parents` lists the directories above a path,
nearest first, and `parent?` is the first of them; `join` writes one path below another;
`fileName?` is the last component if it is a name.
-/

namespace Stylesheet

/-- The name of a file or directory. -/
abbrev Name := List UInt8

namespace Name

def dot : UInt8 := 0x2E

/-- The name of a directory itself. -/
def here : Name := [dot]

/-- The name of the directory above. -/
def up : Name := [dot, dot]

def ofString (s : String) : Name := Utf8.ofString s

/-- A piece of a path that means nothing: an empty one, or `.`. -/
def isNoise (n : Name) : Bool := n == [] || n == here

/-- A file name cut at its last dot into stem and extension. A dot at the very beginning does
not count, so a hidden file has no extension. -/
def splitExtension (n : Name) : Name × Option Name :=
  match Text.cutAtLast? [dot] n with
  | some ([], _) => (n, none)
  | some (stem, extension) => (stem, some extension)
  | none => (n, none)

end Name

/-- One step of a path. A path means its steps, so noise between separators tells no paths apart. -/
inductive Component
  | root
  /-- The current directory, at the start of a relative path. -/
  | here
  | up
  /-- The entry of that name. -/
  | name (n : Name)
deriving DecidableEq, Ord, Repr

/-- The text of a path, as bytes. It is kept as it was written, and so it can be shown as it was,
though paths are mostly told apart by their components. -/
structure Path where
  /-- The bytes as they were written. -/
  bytes : List UInt8
deriving DecidableEq, Repr

inductive Anchor
  | root
  | here
  | none
deriving DecidableEq, Repr

namespace Path

/-- The byte between the pieces of a path. -/
def separator : UInt8 := 0x2F

def ofString (s : String) : Path := ⟨Utf8.ofString s⟩

/-- The path of no text at all. -/
def empty : Path := ⟨[]⟩

instance : Inhabited Path := ⟨empty⟩

/-- The path as text; bytes that are not UTF-8 are replaced. -/
def display (p : Path) : String := Utf8.toStringLossy p.bytes

/-- Whether the path starts at the root directory. -/
def isAbsolute (p : Path) : Bool := p.bytes.head? == some separator

end Path

/-- A name that is a step of its own: neither noise nor broken by a separator. -/
structure Name.IsStep (n : Name) : Prop where
  ne_nil : n ≠ []
  ne_here : n ≠ Name.here
  no_separator : Path.separator ∉ n

instance (n : Name) : Decidable n.IsStep :=
  decidable_of_iff (n ≠ [] ∧ n ≠ Name.here ∧ Path.separator ∉ n)
    ⟨fun h => ⟨h.1, h.2.1, h.2.2⟩, fun h => ⟨h.ne_nil, h.ne_here, h.no_separator⟩⟩

namespace Anchor

def bytes : Anchor → List UInt8
  | root => [Path.separator]
  | here => Name.here
  | none => []

def components : Anchor → List Component
  | root => [.root]
  | here => [.here]
  | none => []

def path (a : Anchor) (pieces : List Name) : Path :=
  ⟨a.bytes ++ Text.join Path.separator pieces⟩

end Anchor

/-- What a piece of a path after its start means. -/
def Component.ofPiece? (n : Name) : Option Component :=
  if n.isNoise then none else if n = Name.up then some .up else some (.name n)

def Component.path : Component → Path
  | .root => ⟨[Path.separator]⟩
  | .here => ⟨Name.here⟩
  | .up => ⟨Name.up⟩
  | .name n => ⟨n⟩

namespace Path

/-- A path as its start and the pieces between separators that follow it. -/
def layout (p : Path) : Anchor × List Name :=
  match p.bytes with
  | [] => (.none, [])
  | b :: rest =>
    if b = separator then (.root, Text.pieces (· == separator) rest)
    else match Text.pieces (· == separator) (b :: rest) with
      | first :: others =>
        if first = Name.here then (.here, [] :: others) else (.none, first :: others)
      | [] => (.none, [])

def anchor (p : Path) : Anchor := p.layout.1

/-- The pieces after the start, noise included. -/
def pieces (p : Path) : List Name := p.layout.2

/-- What the path means, step by step: its start, and then every piece that is not noise. -/
def components (p : Path) : List Component :=
  p.anchor.components ++ p.pieces.filterMap Component.ofPiece?

/-- Whether two paths mean the same steps, whatever noise their texts hold. File systems in memory
and caches tell paths apart in this way. -/
def same (p q : Path) : Bool := p.components == q.components

/-- The order of paths goes by their components. -/
instance : Ord Path := ⟨fun p q => compare p.components q.components⟩

/-- The directories above what `pieces`, the last piece first, spell after the start `a`. -/
def parentsFrom (a : Anchor) : List Name → List Path
  | [] => if a = .here then [empty] else []
  | n :: before =>
    if n.isNoise then parentsFrom a before
    else a.path (before.dropWhile Name.isNoise).reverse :: parentsFrom a before

/-- The directories above a path, nearest first. -/
def parents (p : Path) : List Path := parentsFrom p.anchor p.pieces.reverse

/-- The directory that the path lies in. -/
def parent? (p : Path) : Option Path := p.parents.head?

/-- The directory that the path lies in; a path without one stands for its own. -/
def parentOrSelf (p : Path) : Path := p.parent?.getD p

/-- The path and the directories above it, nearest first. -/
def ancestors (p : Path) : List Path := p :: p.parents

/-- The last piece that is not noise, and the pieces before it, the last one first. -/
def lastPiece? (p : Path) : Option (Name × List Name) :=
  match p.pieces.reverse.dropWhile Name.isNoise with
  | n :: before => some (n, before)
  | [] => none

/-- The name that the path ends in. -/
def fileName? (p : Path) : Option Name :=
  match p.lastPiece? with
  | some (n, _) => if n = Name.up then none else some n
  | none => none

/-- The extension of the file name: what follows its last dot. -/
def extension? (p : Path) : Option Name := p.fileName?.bind fun n => n.splitExtension.2

/-- `q` read from the directory `p`: an absolute path stays what it is. -/
def join (p q : Path) : Path :=
  if q.isAbsolute then q
  else if p.bytes = [] ∨ p.bytes.getLast? = some separator then ⟨p.bytes ++ q.bytes⟩
  else ⟨p.bytes ++ separator :: q.bytes⟩

/-- The path with its file name replaced, or with a file name added if it has none. -/
def withFileName (p : Path) (n : Name) : Path :=
  if p.fileName?.isSome then (p.parent?.getD empty).join ⟨n⟩ else p.join ⟨n⟩

/-- The path up to the stem of its file name; all of it if it ends in no name. -/
def upToStem (p : Path) : Path :=
  match p.lastPiece? with
  | some (n, before) =>
    if n = Name.up then p else p.anchor.path ((n.splitExtension.1 :: before).reverse)
  | none => p

/-- The path without the extension of its file name. The extension goes first and the dot
with the stem's end after it, so a name such as `..css` leaves `..`, which is no name and
keeps both dots. -/
def withoutExtension (p : Path) : Path :=
  match p.extension? with
  | some e => upToStem ⟨p.bytes.take (p.bytes.length - e.length)⟩
  | none => p.upToStem

/-- The path with a dot and `extension` written after it, whatever it ends in. -/
def appendExtension (p : Path) (extension : Name) : Path := ⟨p.bytes ++ Name.dot :: extension⟩

/-- The path that components spell, each read from the ones before. -/
def ofComponents (cs : List Component) : Path := cs.foldl (fun p c => p.join c.path) empty

/-! ## Laws -/

/-- A path is its start followed by its pieces. -/
theorem path_layout (p : Path) : p.anchor.path p.pieces = p := by
  obtain ⟨bs⟩ := p
  cases bs with
  | nil => rfl
  | cons b rest =>
    by_cases hb : b = separator
    · simp [anchor, pieces, layout, hb, Anchor.path, Anchor.bytes, Text.join_pieces]
    · have hj := Text.join_pieces separator (b :: rest)
      cases hp : Text.pieces (· == separator) (b :: rest) with
      | nil => exact absurd hp (Text.pieces_ne_nil _ _)
      | cons first others =>
        rw [hp] at hj
        by_cases hf : first = Name.here
        · cases others <;>
            simp_all [anchor, pieces, layout, Anchor.path, Anchor.bytes, Text.join]
        · simp_all [anchor, pieces, layout, Anchor.path, Anchor.bytes]

@[simp] theorem same_iff {p q : Path} : p.same q = true ↔ p.components = q.components := by
  simp [same]

theorem same_refl (p : Path) : p.same p = true := by simp

@[simp] theorem join_absolute {p q : Path} (h : q.isAbsolute = true) : p.join q = q := by
  simp [join, h]

end Path

end Stylesheet
