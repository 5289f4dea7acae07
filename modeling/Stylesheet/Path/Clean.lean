import Stylesheet.Path.Basic

set_option autoImplicit false

/-! # Clean paths

`clean` writes a path with the fewest components by its text alone: noise and `.` go, and
`..` takes back the name before it. At the root `..` stays at the root; at the start of a
relative path it is kept. The clean path of no components is `.`.
-/

namespace Stylesheet.Path

/-- The components read so far, the last one first, after one more. -/
def settle (done : List Component) : Component → List Component
  | .here => done
  | .up =>
    match done with
    -- There is nothing above the root.
    | .root :: _ => done
    | .name _ :: before => before
    | _ => .up :: done
  | c => c :: done

def cleanComponents (cs : List Component) : List Component := (cs.foldl settle []).reverse

/-- The path with the same meaning, as far as its text tells, and the fewest components. A `..`
takes back the name in front of it, and at the root it is dropped. -/
def clean (p : Path) : Path :=
  match cleanComponents p.components with
  | [] => ⟨Name.here⟩
  | cs => ofComponents cs

end Stylesheet.Path
