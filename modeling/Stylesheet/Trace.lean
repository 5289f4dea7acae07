import Stylesheet.Compile.Request
import Stylesheet.Diagnostic

set_option autoImplicit false

/-! # Traces

Operations on stylesheets are functions, but what they look at and whom they ask can be
observed: which paths were probed, which package was looked up, which hook was called. A
`Traced` value comes with the events that led to it, in order. Reading the value alone
(`Traced.value`) forgets the events, and both projections pass through `pure` and `>>=`.
-/

namespace Stylesheet

/-- Something that can be observed from outside. Reading a file is none: it changes nothing and is
seen in what comes of it. -/
inductive Event
  | probed (path : Path)
  | packageLookup (specifier : String) (dir : Path)
  /-- The contents of a stylesheet went through the preprocess hook. -/
  | preprocessed (path : Path) (isEntry : Bool)
  | redirected (path : Path)
  /-- A compiler took up a request. -/
  | compiled (request : CompileRequest)
  | reported (d : Diagnostic)
  /-- A diagnostic was passed on to a listener. -/
  | forwarded (d : Diagnostic)

def Event.probe? : Event → Option Path
  | probed path => some path
  | _ => none

/-- A value with the events that led to it, in order. Functions that are asked along the way, such
as hooks, stay functions, and the events tell that they were asked. -/
structure Traced (α : Type) where
  value : α
  events : List Event

namespace Traced

variable {α β : Type}

def done (a : α) : Traced α := ⟨a, []⟩

def andThen (x : Traced α) (f : α → Traced β) : Traced β :=
  let y := f x.value
  ⟨y.value, x.events ++ y.events⟩

instance : Monad Traced where
  pure := done
  bind := andThen

def emit (e : Event) : Traced Unit := ⟨(), [e]⟩

def probes (x : Traced α) : List Path := x.events.filterMap Event.probe?

@[simp] theorem value_pure (a : α) : (pure a : Traced α).value = a := rfl

@[simp] theorem events_pure (a : α) : (pure a : Traced α).events = [] := rfl

@[simp] theorem value_bind (x : Traced α) (f : α → Traced β) :
    (x >>= f).value = (f x.value).value := rfl

@[simp] theorem events_bind (x : Traced α) (f : α → Traced β) :
    (x >>= f).events = x.events ++ (f x.value).events := rfl

@[simp] theorem value_emit (e : Event) : (emit e).value = () := rfl

@[simp] theorem events_emit (e : Event) : (emit e).events = [e] := rfl

@[simp] theorem probes_pure (a : α) : (pure a : Traced α).probes = [] := rfl

@[simp] theorem probes_bind (x : Traced α) (f : α → Traced β) :
    (x >>= f).probes = x.probes ++ (f x.value).probes := by
  simp [probes]

@[simp] theorem value_map (f : α → β) (x : Traced α) : (f <$> x).value = f x.value := rfl

@[simp] theorem events_map (f : α → β) (x : Traced α) : (f <$> x).events = x.events :=
  List.append_nil _

@[simp] theorem probes_map (f : α → β) (x : Traced α) : (f <$> x).probes = x.probes := by
  rw [probes, events_map, probes]

theorem ext {x y : Traced α} (hv : x.value = y.value) (he : x.events = y.events) : x = y := by
  cases x; cases y; simp_all

instance : LawfulMonad Traced := LawfulMonad.mk' Traced
  (fun x => ext rfl (by simp [Functor.map, andThen, done]))
  (fun _ _ => rfl)
  (fun x f g => ext rfl (by simp))

end Traced

end Stylesheet
