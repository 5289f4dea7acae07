import Stylesheet.Path.Basic

set_option autoImplicit false

/-! # Paths seen from a directory

`relativeTo?` leads from a directory to a path by going up and then down again; `within?` is
what remains of a path below a directory that its components start with.
-/

namespace Stylesheet.Path

/-- The number of leading components on which two lists agree. -/
def commonLength : List Component → List Component → Nat
  | a :: as, b :: bs => if a = b then commonLength as bs + 1 else 0
  | _, _ => 0

/-- The way from the directory `base` to `target`: up as often as needed, then down. There is
none if the two start at different places; the way from a directory to itself is `.`. -/
def relativeTo? (target base : Path) : Option Path :=
  let ts := target.components
  let bs := base.components
  if ts.head? = bs.head? then
    let common := commonLength ts bs
    let way := ofComponents ((bs.drop common).map (fun _ => .up) ++ ts.drop common)
    if way = empty then some ⟨Name.here⟩ else some way
  else none

/-- Pieces without the first `k` that are not noise. -/
def dropSteps : Nat → List Name → List Name
  | 0, ns => ns
  | _ + 1, [] => []
  | k + 1, n :: ns => if n.isNoise then dropSteps (k + 1) ns else dropSteps k ns

/-- The text of `p` below the directory `base`, if the components of `p` start with those of
`base`. -/
def within? (p base : Path) : Option Path :=
  if base.components.isPrefixOf p.components then
    let k := base.components.length
    if k = 0 then some (p.anchor.path (Text.dropEndWhile Name.isNoise p.pieces))
    else
      let rest := dropSteps (k - p.anchor.components.length) p.pieces
      some ⟨Text.join separator (Text.trimWhile Name.isNoise rest)⟩
  else none

/-- The path as shown to a reader who knows the directory `base`: below it if it lies there. -/
def displayFrom (base p : Path) : String := ((p.within? base).getD p).display

end Stylesheet.Path
