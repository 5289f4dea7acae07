import Stylesheet.Trace
import Stylesheet.Config
import Stylesheet.Url.FilePath

set_option autoImplicit false

/-! # Warnings of a render

Every diagnostic that a compiler reports is passed on at once to the listener that is
configured, if that takes it. Warnings are kept besides, listener or not; debug messages are
not.
-/

namespace Stylesheet

/-- The file that a span lies in; the entry if its URL names no file. -/
def Span.file (s : Span) (entry : Path) : Path := (s.url >>= Url.toFilePath?).getD entry

/-- What is told afterwards about a diagnostic in the render of `entry`. -/
def Warning.ofDiagnostic? (entry : Path) : Diagnostic → Option Warning
  | .warning text none _ _ => some (.message text)
  | .warning text (some s) deprecation stack =>
    some (.located
      { text, file := s.file entry, line := s.line + 1, column := s.column,
        lineText := s.context, deprecation, stack })
  | .debug .. => none

def Event.diagnostic? : Event → Option Diagnostic
  | reported d => some d
  | _ => none

/-- The warnings reported in the render of `entry`, in order. -/
def collectWarnings (entry : Path) (events : List Event) : List Warning :=
  (events.filterMap Event.diagnostic?).filterMap (Warning.ofDiagnostic? entry)

def isHeard (listener : Option Listener) (d : Diagnostic) : Bool :=
  listener.any (·.takes d)

/-- Events in which each reported diagnostic is passed on to the listener. -/
def passOn (listener : Option Listener) (events : List Event) : List Event :=
  events.flatMap fun e =>
    match e.diagnostic? with
    | some d => if isHeard listener d then [e, .forwarded d] else [e]
    | none => [e]

/-- The same value, its diagnostics passed on to a listener. -/
def Traced.heardBy {α : Type} (x : Traced α) (listener : Option Listener) : Traced α :=
  ⟨x.value, passOn listener x.events⟩

theorem collectWarnings_append (entry : Path) (es fs : List Event) :
    collectWarnings entry (es ++ fs) = collectWarnings entry es ++ collectWarnings entry fs := by
  simp [collectWarnings]

theorem passOn_append (listener : Option Listener) (es fs : List Event) :
    passOn listener (es ++ fs) = passOn listener es ++ passOn listener fs := by
  simp [passOn]

@[simp] theorem diagnostic?_forwarded (d : Diagnostic) :
    (Event.forwarded d).diagnostic? = none := rfl

@[simp] theorem diagnostic?_reported (d : Diagnostic) :
    (Event.reported d).diagnostic? = some d := rfl

/-- Passing diagnostics on loses no warning and adds none. -/
theorem collectWarnings_passOn (entry : Path) (listener : Option Listener) (es : List Event) :
    collectWarnings entry (passOn listener es) = collectWarnings entry es := by
  induction es with
  | nil => rfl
  | cons e es ih =>
    rw [show passOn listener (e :: es) = passOn listener [e] ++ passOn listener es from
      passOn_append listener [e] es, collectWarnings_append, ih,
      show collectWarnings entry (e :: es) = collectWarnings entry [e] ++ collectWarnings entry es
        from collectWarnings_append entry [e] es]
    congr 1
    cases e with
    | reported d =>
      by_cases hd : isHeard listener d = true <;>
        simp [passOn, hd, collectWarnings, List.filterMap_cons]
    | _ => rfl

end Stylesheet
